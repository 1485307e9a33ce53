import Switchboard.Proofs.Utf8
import Switchboard.Protocol

/-!
# Texts that read back

A string that is written as JSON is read back as it was, whatever characters it holds, and so is an
object whose members are strings. This is proved of the readers one by one, in the order in which
they are built from each other.

`Reads r bs rest a` says what it is for a reader to do its part: before the bytes `bs`, followed by
`rest`, it passes over `bs` and returns `a`. Readers look ahead by one byte, which is why `rest` is
told.
-/

namespace Switchboard

/-- The bytes of some characters. -/
def Utf8.spelling (cs : List Char) : Bytes := cs.flatMap String.utf8EncodeChar

theorem Utf8.spelling_cons (c : Char) (cs : List Char) :
    spelling (c :: cs) = String.utf8EncodeChar c ++ spelling cs := List.flatMap_cons

theorem Utf8.spelling_append (cs cs' : List Char) :
    spelling (cs ++ cs') = spelling cs ++ spelling cs' := List.flatMap_append

namespace Json.Reader

/-- Before the bytes `bs` and then `rest`, a reader passes over `bs` and returns `a`. -/
def Reads (r : Reader α) (bs rest : Bytes) (a : α) : Prop :=
  ∀ index size, size = index + (bs ++ rest).length →
    r.run ⟨bs ++ rest, index, size⟩ = .ok (a, ⟨rest, index + bs.length, size⟩)

section Reading

variable {α β : Type} {r : Reader α} {f : α → Reader β} {bs bs' rest : Bytes} {a : α} {b : β}

theorem Reads.bind (first : Reads r bs (bs' ++ rest) a) (second : Reads (f a) bs' rest b) :
    Reads (r >>= f) (bs ++ bs') rest b := by
  intro index size hsize
  rw [List.append_assoc] at hsize ⊢
  rw [StateT.run_bind, first index size hsize]
  refine (second (index + bs.length) size ?_).trans ?_
  · rw [hsize, Nat.add_assoc, ← List.length_append]
  · rw [List.length_append, Nat.add_assoc]

/-- What a reader goes by that passes over nothing. -/
theorem Reads.look (first : Reads r [] (bs ++ rest) a) (second : Reads (f a) bs rest b) :
    Reads (r >>= f) bs rest b := first.bind second

/-- What follows a reader and passes over nothing. -/
theorem Reads.last (first : Reads r bs rest a) (second : Reads (f a) [] rest b) :
    Reads (r >>= f) bs rest b := by
  have hbind := first.bind second
  rwa [List.append_nil] at hbind

theorem reads_pure (a : α) (rest : Bytes) : Reads (pure a) [] rest a := fun _ _ _ => rfl

theorem reads_next (x : UInt8) (rest : Bytes) : Reads next [x] rest (some x) := fun _ _ _ => rfl

theorem reads_advance (x : UInt8) (rest : Bytes) : Reads advance [x] rest () := fun _ _ _ => rfl

theorem reads_left (rest : Bytes) : Reads left [] rest rest.length := by
  intro index size hsize
  have hleft : size - index = rest.length := by
    rw [hsize, List.nil_append]
    omega
  change Except.ok (size - index, _) = _
  rw [hleft]
  rfl

theorem reads_token {x : UInt8} (hspace : isSpace x = false) (rest : Bytes) :
    Reads token [] (x :: rest) (some x) := by
  intro index size _
  have hdrop : dropCounted isSpace (x :: rest) index = (x :: rest, index) := by
    rw [dropCounted, if_neg (by simp [hspace])]
  change Except.ok ((dropCounted isSpace (x :: rest) index).1.head?, _) = _
  simp only [List.nil_append, hdrop]
  rfl

theorem reads_token_end : Reads token [] [] none := fun _ _ _ => rfl

end Reading

/-! ## Strings -/

section Strings

variable {path : List PathStep} {control : Reader Bytes} {done bs rest a : Bytes} {n : Nat}
  {c : Char}

/-- Whether a byte stands for itself in a string. -/
def IsPlain (x : UInt8) : Prop := 32 ≤ x.toNat ∧ x ≠ 34 ∧ x ≠ 92

/-- What is read of a string after the bytes `done`, given enough fuel. -/
def ReadsOn (path : List PathStep) (control : Reader Bytes) (n : Nat) (done bs rest a : Bytes) :
    Prop :=
  ∀ fuel, n ≤ fuel → Reads (stringBytes path (escape path) control fuel done) bs rest a

theorem readsOn_quote (done rest : Bytes) : ReadsOn path control 1 done [34] rest done.reverse := by
  intro fuel hfuel
  obtain ⟨fuel, rfl⟩ := Nat.exists_eq_add_of_le' hfuel
  exact Reads.last (reads_next 34 rest) (reads_pure done.reverse rest)

theorem ReadsOn.byte {x : UInt8} (hx : IsPlain x)
    (tail : ReadsOn path control n (x :: done) bs rest a) :
    ReadsOn path control (n + 1) done (x :: bs) rest a := by
  intro fuel hfuel
  obtain ⟨fuel, rfl⟩ := Nat.exists_eq_add_of_le' (Nat.le_trans (Nat.le_add_left 1 n) hfuel)
  refine Reads.bind (reads_next x (bs ++ rest)) ?_
  -- the end of the text, a quote and a backslash are told apart from all other bytes
  split
  · rename_i heq
    cases heq
  · rename_i heq
    exact absurd (Option.some.inj heq) hx.2.1
  · rename_i heq
    exact absurd (Option.some.inj heq) hx.2.2
  · rename_i heq
    obtain rfl := Option.some.inj heq
    have hcontrol : ¬ x < 32 := fun hlt =>
      absurd (UInt8.lt_iff_toNat_lt.mp hlt) (Nat.not_lt.mpr hx.1)
    rw [if_neg hcontrol]
    exact tail fuel (Nat.le_of_succ_le_succ hfuel)

theorem ReadsOn.bytes {xs : Bytes} (hxs : ∀ x ∈ xs, IsPlain x)
    (tail : ReadsOn path control n (xs.reverse ++ done) bs rest a) :
    ReadsOn path control (n + xs.length) done (xs ++ bs) rest a := by
  induction xs generalizing done with
  | nil => exact tail
  | cons x xs ih =>
    rw [List.reverse_cons, List.append_assoc] at tail
    exact (ih (fun y hy => hxs y (List.mem_cons_of_mem _ hy)) tail).byte
      (hxs x List.mem_cons_self)

theorem ReadsOn.escape {es xs : Bytes} (escaped : Reads (Reader.escape path) es (bs ++ rest) xs)
    (tail : ReadsOn path control n (xs.reverse ++ done) bs rest a) :
    ReadsOn path control (n + 1) done (92 :: (es ++ bs)) rest a := by
  intro fuel hfuel
  obtain ⟨fuel, rfl⟩ := Nat.exists_eq_add_of_le' (Nat.le_trans (Nat.le_add_left 1 n) hfuel)
  exact Reads.bind (reads_next 92 (es ++ bs ++ rest))
    (escaped.bind (tail fuel (Nat.le_of_succ_le_succ hfuel)))

theorem reads_letterEscape {x y : UInt8} (hx : x ≠ 117) (hletter : letterEscape? x = some y)
    (rest : Bytes) : Reads (escape path) [x] rest [y] := by
  refine Reads.last (reads_next x rest) ?_
  split
  · rename_i heq
    cases heq
  · rename_i heq
    exact absurd (Option.some.inj heq) hx
  · rename_i heq
    obtain rfl := Option.some.inj heq
    rw [hletter]
    exact reads_pure [y] rest

theorem run_hexEscape (path : List PathStep) (w x y z : UInt8) (rest : Bytes) (index size : Nat) :
    (hexEscape path).run ⟨w :: x :: y :: z :: rest, index, size⟩ =
      StateT.run (match hexDigit? w, hexDigit? x, hexDigit? y, hexDigit? z with
        | some a, some b, some c, some d => pure (((a * 16 + b) * 16 + c) * 16 + d)
        | _, _, _, _ => fail path .invalidEscape) ⟨rest, index + 4, size⟩ := rfl

theorem reads_hexEscape {w x y z : UInt8} {k l m o : Nat} (hw : hexDigit? w = some k)
    (hx : hexDigit? x = some l) (hy : hexDigit? y = some m) (hz : hexDigit? z = some o)
    (rest : Bytes) :
    Reads (hexEscape path) [w, x, y, z] rest (((k * 16 + l) * 16 + m) * 16 + o) := by
  intro index size _
  refine (run_hexEscape path w x y z rest index size).trans ?_
  rw [hw, hx, hy, hz]
  rfl

theorem hexDigit?_code :
    ∀ k < 16, String.utf8EncodeChar (hexDigit k) = [code (hexDigit k)] ∧
      hexDigit? (code (hexDigit k)) = some k := by
  decide

/-- A code point escape stands for its character. -/
theorem reads_unicodeEscape (hc : c.toNat < 32) (rest : Bytes) :
    Reads (escape path) (117 :: Utf8.spelling
      ['0', '0', hexDigit (c.toNat / 16), hexDigit (c.toNat % 16)]) rest
      (String.utf8EncodeChar c) := by
  obtain ⟨hhigh, hdigit⟩ := hexDigit?_code (c.toNat / 16) (by omega)
  obtain ⟨hlow, hdigit'⟩ := hexDigit?_code (c.toNat % 16) (by omega)
  have hbytes : Utf8.spelling ['0', '0', hexDigit (c.toNat / 16), hexDigit (c.toNat % 16)] =
      [48, 48, code (hexDigit (c.toNat / 16)), code (hexDigit (c.toNat % 16))] := by
    simp only [Utf8.spelling, List.flatMap_cons, hhigh, hlow]
    rfl
  have hnumber : ((0 * 16 + 0) * 16 + c.toNat / 16) * 16 + c.toNat % 16 = c.toNat := by omega
  have hhex : Reads (hexEscape path) _ rest _ :=
    reads_hexEscape (w := 48) (x := 48) (k := 0) (l := 0) rfl rfl hdigit hdigit' rest
  rw [hnumber] at hhex
  rw [hbytes]
  refine Reads.bind (reads_next 117 _) (Reads.last hhex ?_)
  rw [if_neg (by omega), if_neg (by omega), Char.ofNat_toNat]
  exact reads_pure _ rest

/-- A character beyond the controls that is neither a quote nor a backslash is written as it is. -/
theorem isPlain_of_mem_encodeChar (hc : 32 ≤ c.toNat) (hquote : c ≠ '"') (hslash : c ≠ '\\')
    {x : UInt8} (hx : x ∈ String.utf8EncodeChar c) : IsPlain x := by
  rcases Nat.lt_or_ge c.toNat 128 with hascii | hbeyond
  · rw [Utf8.encodeChar_of_ascii hascii, List.mem_singleton] at hx
    have hnat : x.toNat = c.toNat := by
      rw [hx, UInt8.toNat_ofNat']
      omega
    refine ⟨hnat ▸ hc, ?_, ?_⟩
    · rintro rfl
      exact hquote (Char.toNat_inj.mp hnat.symm)
    · rintro rfl
      exact hslash (Char.toNat_inj.mp hnat.symm)
  · have hx := Utf8.le_of_mem_encodeChar hbeyond hx
    refine ⟨by omega, ?_, ?_⟩
    · rintro rfl
      exact absurd hx (by decide)
    · rintro rfl
      exact absurd hx (by decide)

theorem ReadsOn.mono {m : Nat} (readsOn : ReadsOn path control n done bs rest a) (hm : n ≤ m) :
    ReadsOn path control m done bs rest a := fun fuel hfuel => readsOn fuel (Nat.le_trans hm hfuel)

/-- A character that is escaped by a letter. -/
theorem ReadsOn.letter {x y : UInt8} (hspelling : Utf8.spelling (escapeChar c) = [92, x])
    (hx : x ≠ 117) (hletter : letterEscape? x = some y) (hy : String.utf8EncodeChar c = [y])
    (tail : ReadsOn path control n ((String.utf8EncodeChar c).reverse ++ done) bs rest a) :
    ReadsOn path control (n + (Utf8.spelling (escapeChar c)).length) done
      (Utf8.spelling (escapeChar c) ++ bs) rest a := by
  rw [hy] at tail
  rw [hspelling]
  exact (tail.escape (reads_letterEscape hx hletter _)).mono (by simp)

/-- **A character is read as it was written**, escaped or not. -/
theorem ReadsOn.char (c : Char)
    (tail : ReadsOn path control n ((String.utf8EncodeChar c).reverse ++ done) bs rest a) :
    ReadsOn path control (n + (Utf8.spelling (escapeChar c)).length) done
      (Utf8.spelling (escapeChar c) ++ bs) rest a := by
  -- in the order in which `escapeChar` asks
  by_cases hquote : c = '"'
  · subst hquote
    exact tail.letter (x := 34) rfl (by decide) rfl rfl
  by_cases hslash : c = '\\'
  · subst hslash
    exact tail.letter (x := 92) rfl (by decide) rfl rfl
  by_cases hplain : 32 ≤ c.toNat
  · have hself : Utf8.spelling (escapeChar c) = String.utf8EncodeChar c := by
      rw [escapeChar, if_neg hquote, if_neg hslash, if_pos hplain, Utf8.spelling]
      simp
    rw [hself]
    exact tail.bytes fun x hx => isPlain_of_mem_encodeChar hplain hquote hslash hx
  by_cases hback : c = '\x08'
  · subst hback
    exact tail.letter (x := 98) rfl (by decide) rfl rfl
  by_cases hfeed : c = '\x0c'
  · subst hfeed
    exact tail.letter (x := 102) rfl (by decide) rfl rfl
  by_cases hline : c = '\n'
  · subst hline
    exact tail.letter (x := 110) rfl (by decide) rfl rfl
  by_cases hreturn : c = '\r'
  · subst hreturn
    exact tail.letter (x := 114) rfl (by decide) rfl rfl
  by_cases htab : c = '\t'
  · subst htab
    exact tail.letter (x := 116) rfl (by decide) rfl rfl
  have hescape : Utf8.spelling (escapeChar c) = 92 :: (117 :: Utf8.spelling
      ['0', '0', hexDigit (c.toNat / 16), hexDigit (c.toNat % 16)]) := by
    rw [escapeChar, if_neg hquote, if_neg hslash, if_neg hplain, if_neg hback, if_neg hfeed,
      if_neg hline, if_neg hreturn, if_neg htab]
    rfl
  rw [hescape]
  exact (tail.escape (reads_unicodeEscape (Nat.lt_of_not_le hplain) _)).mono (by simp)

theorem readsOn_characters (cs : List Char) (done rest : Bytes) :
    ReadsOn path control (1 + (Utf8.spelling (cs.flatMap escapeChar)).length) done
      (Utf8.spelling (cs.flatMap escapeChar) ++ [34]) rest
      (done.reverse ++ Utf8.spelling cs) := by
  -- what was read is kept the last byte first, and every byte costs one of the fuel
  induction cs generalizing done with
  | nil =>
    rw [show Utf8.spelling [] = [] from rfl, List.append_nil]
    exact readsOn_quote done rest
  | cons c cs ih =>
    have hchar := (ih ((String.utf8EncodeChar c).reverse ++ done)).char c
    rw [List.reverse_append, List.reverse_reverse, List.append_assoc] at hchar
    rw [List.flatMap_cons, Utf8.spelling_append, List.append_assoc, List.length_append]
    exact hchar.mono (by omega)

/-- **A string is read back** after its opening quote, whatever characters it holds. -/
theorem reads_string (s : String) (rest : Bytes) :
    Reads (string path) (Utf8.spelling (s.toList.flatMap escapeChar ++ ['"'])) rest s := by
  have hbytes : ReadsOn path (fail path .controlCharacter) _ _ _ rest _ :=
    readsOn_characters s.toList [] rest
  have hdecode : Utf8.decode? (Utf8.spelling s.toList) = some s := Utf8.decode?_encode s
  rw [Utf8.spelling_append]
  refine Reads.look (reads_left _) (Reads.last (hbytes _ ?_) ?_)
  · rw [List.append_assoc, List.length_append]
    omega
  · rw [List.reverse_nil, List.nil_append, hdecode]
    exact reads_pure s rest

end Strings

/-! ## Objects whose members are strings -/

section Objects

variable {path : List PathStep} {rest : Bytes} {first : Bool} {key s : String} {fuel : Nat}

theorem reads_hasMember_first (rest : Bytes) :
    Reads (hasMember path true) [] (34 :: rest) true :=
  Reads.look (reads_token rfl rest) (reads_pure true _)

theorem reads_hasMember_later (rest : Bytes) :
    Reads (hasMember path false) [44] (34 :: rest) true :=
  Reads.look (reads_token rfl _) (Reads.bind (reads_advance 44 _)
    (Reads.look (reads_token rfl rest) (reads_pure true _)))

theorem reads_hasMember_end (first : Bool) (rest : Bytes) :
    Reads (hasMember path first) [] (125 :: rest) false :=
  Reads.look (reads_token rfl rest) (reads_pure false _)

theorem reads_key?_first (key : String) (rest : Bytes) :
    Reads (key? path true) (Utf8.spelling (stringText key)) rest (some key) :=
  Reads.look (reads_hasMember_first _)
    (Reads.bind (reads_advance 34 _) (Reads.last (reads_string key rest) (reads_pure _ rest)))

theorem reads_key?_later (key : String) (rest : Bytes) :
    Reads (key? path false) (44 :: Utf8.spelling (stringText key)) rest (some key) := by
  have hcomma : Reads (hasMember (path ++ [.unknown]) false) [44]
    (Utf8.spelling (stringText key) ++ rest) true := reads_hasMember_later _
  exact hcomma.bind (Reads.bind (reads_advance 34 _)
    (Reads.last (reads_string key rest) (reads_pure _ rest)))

theorem reads_key?_end (first : Bool) (rest : Bytes) :
    Reads (key? path first) [] (125 :: rest) none :=
  Reads.look (reads_hasMember_end first rest) (reads_pure none _)

theorem reads_colon (rest : Bytes) : Reads (colon path) [58] rest () :=
  Reads.look (reads_token rfl rest) (reads_advance 58 rest)

theorem reads_valueAt (fuel depth : Nat) (s : String) (rest : Bytes) :
    Reads (valueAt (fuel + 1) depth path) (Utf8.spelling (stringText s)) rest (.string s) :=
  Reads.look (reads_token rfl _)
    (Reads.bind (reads_advance 34 _) (Reads.last (reads_string s rest) (reads_pure _ rest)))

/-- The bytes of a member after the one before it, its key after the comma. -/
theorem spelling_memberText (key value : String) :
    Utf8.spelling (ServerMessage.memberText key value) =
      (44 :: Utf8.spelling (stringText key)) ++ ([58] ++ Utf8.spelling (stringText value)) := by
  simp only [ServerMessage.memberText, Utf8.spelling_cons, Utf8.spelling_append]
  rfl

/-- Members whose values are strings, each after the one before it, and the closing brace. -/
def memberTexts (ms : List (String × String)) : List Char :=
  ms.flatMap (fun m => ServerMessage.memberText m.1 m.2) ++ ['\x7d']

/-- Members whose values are strings, as JSON values. -/
def stringMembers (ms : List (String × String)) : List (String × Json) :=
  ms.map fun m => (m.1, .string m.2)

theorem spelling_memberTexts_cons (m : String × String) (ms : List (String × String)) :
    Utf8.spelling (memberTexts (m :: ms)) = (44 :: Utf8.spelling (stringText m.1)) ++
      ([58] ++ (Utf8.spelling (stringText m.2) ++ Utf8.spelling (memberTexts ms))) := by
  rw [memberTexts, List.flatMap_cons, List.append_assoc, Utf8.spelling_append,
    spelling_memberText, List.append_assoc, List.append_assoc, ← memberTexts]

/-- The members of a tagged object after its tag are read back, if none of them is another tag. -/
theorem reads_tagged_membersWith (variants : List String) (tag : String)
    {ms : List (String × String)} (hkeys : ∀ m ∈ ms, m.1 ≠ Tagged.tagKey)
    (done : List (String × Json)) {fuel : Nat} (hfuel : ms.length < fuel) (rest : Bytes) :
    Reads (Tagged.membersWith variants fuel false (some tag) done)
      (Utf8.spelling (memberTexts ms)) rest (tag, .members (done.reverse ++ stringMembers ms)) := by
  induction ms generalizing done fuel with
  | nil =>
    obtain ⟨fuel, rfl⟩ := Nat.exists_eq_add_of_lt hfuel
    rw [show stringMembers [] = [] from rfl, List.append_nil, Tagged.membersWith]
    exact Reads.look (reads_key?_end _ rest)
      (Reads.last (reads_advance 125 rest) (reads_pure _ rest))
  | cons m ms ih =>
    obtain ⟨fuel, rfl⟩ := Nat.exists_eq_add_of_lt (Nat.zero_lt_of_lt hfuel)
    rw [Nat.zero_add] at hfuel ⊢
    have hrest := ih (fun m hm => hkeys m (List.mem_cons_of_mem _ hm)) ((m.1, .string m.2) :: done)
      (Nat.lt_of_succ_lt_succ hfuel)
    rw [List.reverse_cons, List.append_assoc] at hrest
    rw [spelling_memberTexts_cons, Tagged.membersWith]
    refine Reads.bind (reads_key?_later m.1 _) ?_
    dsimp only
    rw [if_neg (hkeys m List.mem_cons_self)]
    exact Reads.bind (reads_colon _) (Reads.bind (reads_valueAt 127 1 m.2 _) hrest)

end Objects

end Json.Reader

namespace Json

/-- The text of an object with a tag, whose members are strings. -/
def taggedText (tag : String) (ms : List (String × String)) : List Char :=
  '\x7b' :: (stringText Tagged.tagKey ++ ':' :: (stringText tag ++ Reader.memberTexts ms))

section Texts

variable {tag : String} {ms : List (String × String)} {rest : Bytes}

theorem spelling_taggedText (tag : String) (ms : List (String × String)) :
    Utf8.spelling (taggedText tag ms) = [123] ++ (Utf8.spelling (stringText Tagged.tagKey) ++
      ([58] ++ (Utf8.spelling (stringText tag) ++ Utf8.spelling (Reader.memberTexts ms)))) := by
  simp only [taggedText, Utf8.spelling_cons, Utf8.spelling_append]
  rfl

theorem length_memberTexts (ms : List (String × String)) :
    ms.length < (Utf8.spelling (Reader.memberTexts ms)).length := by
  induction ms with
  | nil => decide
  | cons m ms ih =>
    rw [Reader.spelling_memberTexts_cons]
    simp only [List.length_append, List.length_cons, List.length_nil]
    omega

open Reader in
theorem reads_variant {variants : List String} {path : List PathStep} (htag : tag ∈ variants)
    (rest : Bytes) :
    Reads (Tagged.variant variants path) (Utf8.spelling (stringText tag)) rest tag := by
  refine Reads.look (reads_token rfl _) (Reads.bind (reads_advance 34 _)
    (Reads.last (reads_string tag rest) ?_))
  rw [if_pos htag]
  exact reads_pure tag rest

open Reader in
/-- **A tagged object is read back.** -/
theorem reads_content (name : String) {variants : List String} (htag : tag ∈ variants)
    (hkeys : ∀ m ∈ ms, m.1 ≠ Tagged.tagKey) (rest : Bytes) :
    Reads (Tagged.content name variants) (Utf8.spelling (taggedText tag ms)) rest
      (tag, .members (stringMembers ms)) := by
  have hlength := length_memberTexts ms
  rw [spelling_taggedText]
  refine Reads.look (reads_left _) (Reads.look (reads_token rfl _)
    (Reads.bind (reads_advance 123 _) ?_))
  rw [Tagged.membersWith]
  refine Reads.bind (reads_key?_first Tagged.tagKey _) ?_
  refine Reads.bind (reads_colon _) (Reads.bind (reads_variant htag _) ?_)
  refine reads_tagged_membersWith variants tag hkeys [] ?_ rest
  simp only [List.length_append, List.length_cons]
  omega

/-- What a reader reads of a whole text. -/
theorem Reader.Reads.run_start {r : Reader α} {a : α} {text : Bytes} (reads : Reads r text [] a) :
    r.run (start text) = .ok (a, ⟨[], text.length, text.length⟩) := by
  have hrun := reads 0 text.length (by simp)
  rwa [List.append_nil, Nat.zero_add] at hrun

theorem Reader.reads_finish : Reads finish [] [] () :=
  Reads.look reads_token_end (reads_pure () [])

/-- What is parsed is what the reader of values reads, if nothing follows it. -/
theorem Reader.Reads.parse_eq {text : Bytes} {v : Json} (reads : Reads (value 0 []) text [] v) :
    parse text = .ok v := by
  have hwhole : Reads (do let v ← value 0 []; finish; return v) text [] v :=
    reads.last (reads_finish.look (reads_pure v []))
  change Prod.fst <$> (do let v ← value 0 []; finish; return v : Reader Json).run (start text) = _
  rw [hwhole.run_start]
  rfl

/-- A tagged object is read back and decoded. -/
theorem read_taggedText {α : Type} (name : String) {variants : List String} (htag : tag ∈ variants)
    (hkeys : ∀ m ∈ ms, m.1 ≠ Tagged.tagKey) (decode : String → Tagged.Content → Except Error α) :
    Tagged.read name variants decode (Utf8.spelling (taggedText tag ms)) =
      decode tag (.members (Reader.stringMembers ms)) := by
  rw [Tagged.read, (reads_content name htag hkeys []).run_start]
  change (do
    let a ← decode tag (.members (Reader.stringMembers ms))
    let _ ← Reader.finish.run ⟨[], _, _⟩
    return a) = _
  cases decode tag (.members (Reader.stringMembers ms)) <;> rfl

end Texts

end Json

end Switchboard
