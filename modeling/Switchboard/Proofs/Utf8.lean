import Mathlib.Data.List.Basic
import Switchboard.Text.Utf8

/-!
# What is text, and how the rest is repaired

`Utf8.head` works its way through a table of lead bytes. This module says what it finds in terms of
characters alone: the bytes of a character, or a faulty sequence.

* `Repairs bs cs` says that `cs` are the characters of `bs`, with U+FFFD in the place of each
  maximal faulty sequence. A sequence is faulty where no character begins; it is as long as the
  longest beginning of a character there, or one byte long if there is none (`Faulty`).
* `decode_eq_ok_iff`: a byte list is decoded if and only if it is the bytes of a text.
* `repairs_iff`: lossy decoding is the repair, and there is no other.
* `decode_of_prefix`: the beginning of a text is text, or ends within a character.

## Shape of the proof

`Sequence` lists the shapes of the characters beyond ASCII. The table of lead bytes describes
exactly these (`sequence_iff`), every such character has one of them (`exists_sequence`), and each
of them is the bytes of a character (`Sequence.encodeChar`). What `head` answers follows from how
far the continuation bytes reach (`continues_cases`).
-/

namespace Switchboard.Utf8

/-! ## Characters beyond ASCII -/

/-- Whether a byte is a continuation byte. -/
def IsTail (b : UInt8) : Prop := 0x80 ≤ b.toNat ∧ b.toNat ≤ 0xBF

/-- A lead byte and the continuation bytes after it, of two, three or four bytes together. -/
inductive Sequence : UInt8 → Bytes → Prop
  | two {b x : UInt8} (range : 0xC2 ≤ b.toNat ∧ b.toNat < 0xE0) (first : IsTail x) : Sequence b [x]
  | three {b x y : UInt8} (range : 0xE0 ≤ b.toNat ∧ b.toNat < 0xF0) (first : IsTail x)
      (notOverlong : b.toNat = 0xE0 → 0xA0 ≤ x.toNat)
      (notSurrogate : b.toNat = 0xED → x.toNat ≤ 0x9F) (second : IsTail y) : Sequence b [x, y]
  | four {b x y z : UInt8} (range : 0xF0 ≤ b.toNat ∧ b.toNat < 0xF5) (first : IsTail x)
      (notOverlong : b.toNat = 0xF0 → 0x90 ≤ x.toNat)
      (notBeyond : b.toNat = 0xF4 → x.toNat ≤ 0x8F) (second : IsTail y) (third : IsTail z) :
      Sequence b [x, y, z]

/-- The code point that continuation bytes make of the bits before them. -/
def spell (code : Nat) (bs : Bytes) : Nat := bs.foldl (fun n b => n * 64 + (b.toNat - 0x80)) code

/-- The bits of a lead byte that `need` continuation bytes follow. -/
def leadBits (b : UInt8) (need : Nat) : Nat :=
  b.toNat - if need = 1 then 0xC0 else if need = 2 then 0xE0 else 0xF0

/-- Continuation bytes, the first of them between `lo` and `hi`. -/
def Continues : (lo hi : UInt8) → Bytes → Prop
  | _, _, [] => True
  | lo, hi, b :: rest => (lo ≤ b ∧ b ≤ hi) ∧ Continues 0x80 0xBF rest

section Sequences

variable {b x lo hi : UInt8} {bs rest : Bytes} {c : Char} {need : Nat}

theorem continues_cons : Continues lo hi (x :: bs) ↔
    (lo.toNat ≤ x.toNat ∧ x.toNat ≤ hi.toNat) ∧ Continues 0x80 0xBF bs := by
  rw [Continues, UInt8.le_iff_toNat_le, UInt8.le_iff_toNat_le]

theorem lead_two (hb : 0xC2 ≤ b.toNat ∧ b.toNat < 0xE0) : lead b = some (1, 0x80, 0xBF) := by
  simp only [lead, UInt8.lt_iff_toNat_lt, ← UInt8.toNat_inj, UInt8.reduceToNat]
  grind

theorem lead_three (hb : 0xE0 ≤ b.toNat ∧ b.toNat < 0xF0) :
    lead b = some (2, if b.toNat = 0xE0 then 0xA0 else 0x80,
      if b.toNat = 0xED then 0x9F else 0xBF) := by
  simp only [lead, UInt8.lt_iff_toNat_lt, ← UInt8.toNat_inj, UInt8.reduceToNat]
  grind

theorem lead_four (hb : 0xF0 ≤ b.toNat ∧ b.toNat < 0xF5) :
    lead b = some (3, if b.toNat = 0xF0 then 0x90 else 0x80,
      if b.toNat = 0xF4 then 0x8F else 0xBF) := by
  simp only [lead, UInt8.lt_iff_toNat_lt, ← UInt8.toNat_inj, UInt8.reduceToNat]
  grind

theorem lead_eq_none (hb : b.toNat < 0xC2 ∨ 0xF5 ≤ b.toNat) : lead b = none := by
  simp only [lead, UInt8.lt_iff_toNat_lt, ← UInt8.toNat_inj, UInt8.reduceToNat]
  grind

/-- The ranges of lead bytes. -/
theorem lead_ranges (b : UInt8) :
    (0xC2 ≤ b.toNat ∧ b.toNat < 0xE0) ∨ (0xE0 ≤ b.toNat ∧ b.toNat < 0xF0) ∨
      (0xF0 ≤ b.toNat ∧ b.toNat < 0xF5) ∨ lead b = none := by
  by_cases hnone : b.toNat < 0xC2 ∨ 0xF5 ≤ b.toNat
  · exact .inr (.inr (.inr (lead_eq_none hnone)))
  · omega

/-- The bounds of the second byte, of which one may be closer than those of continuation bytes. -/
theorem between_iff {p q : Prop} [Decidable p] [Decidable q] (lo hi : UInt8)
    (hlo : 0x80 ≤ lo.toNat) (hhi : hi.toNat ≤ 0xBF) :
    ((if p then lo else 0x80).toNat ≤ x.toNat ∧ x.toNat ≤ (if q then hi else 0xBF).toNat) ↔
      IsTail x ∧ (p → lo.toNat ≤ x.toNat) ∧ (q → x.toNat ≤ hi.toNat) := by
  have hleast : (0x80 : UInt8).toNat = 0x80 := rfl
  have hgreatest : (0xBF : UInt8).toNat = 0xBF := rfl
  unfold IsTail
  split <;> split <;> grind

/-- The table of lead bytes describes the sequences. -/
theorem sequence_iff :
    Sequence b bs ↔ ∃ lo hi, lead b = some (bs.length, lo, hi) ∧ Continues lo hi bs := by
  constructor
  -- the table allows what the shape says of the second byte
  · intro h
    cases h with
    | two range first => exact ⟨_, _, lead_two range, continues_cons.mpr ⟨first, trivial⟩⟩
    | three range first notOverlong notSurrogate second =>
      have hfirst := (between_iff 0xA0 0x9F (by decide) (by decide)).mpr
        ⟨first, notOverlong, notSurrogate⟩
      exact ⟨_, _, lead_three range,
        continues_cons.mpr ⟨hfirst, continues_cons.mpr ⟨second, trivial⟩⟩⟩
    | four range first notOverlong notBeyond second third =>
      have hfirst := (between_iff 0x90 0x8F (by decide) (by decide)).mpr
        ⟨first, notOverlong, notBeyond⟩
      exact ⟨_, _, lead_four range, continues_cons.mpr
        ⟨hfirst, continues_cons.mpr ⟨second, continues_cons.mpr ⟨third, trivial⟩⟩⟩⟩
  -- and nothing else: one range of lead bytes for each shape
  · rintro ⟨lo, hi, hlead, hbs⟩
    rcases lead_ranges b with h | h | h | h
    · rw [lead_two h] at hlead
      simp only [Option.some.injEq, Prod.mk.injEq] at hlead
      obtain ⟨hlength, rfl, rfl⟩ := hlead
      obtain ⟨x, rfl⟩ := List.length_eq_one_iff.mp hlength.symm
      exact .two h (continues_cons.mp hbs).1
    · rw [lead_three h] at hlead
      simp only [Option.some.injEq, Prod.mk.injEq] at hlead
      obtain ⟨hlength, rfl, rfl⟩ := hlead
      obtain ⟨x, y, rfl⟩ := List.length_eq_two.mp hlength.symm
      obtain ⟨hx, hy⟩ := continues_cons.mp hbs
      obtain ⟨first, notOverlong, notSurrogate⟩ :=
        (between_iff 0xA0 0x9F (by decide) (by decide)).mp hx
      exact .three h first notOverlong notSurrogate (continues_cons.mp hy).1
    · rw [lead_four h] at hlead
      simp only [Option.some.injEq, Prod.mk.injEq] at hlead
      obtain ⟨hlength, rfl, rfl⟩ := hlead
      obtain ⟨x, y, z, rfl⟩ := List.length_eq_three.mp hlength.symm
      obtain ⟨hx, hy⟩ := continues_cons.mp hbs
      obtain ⟨hy, hz⟩ := continues_cons.mp hy
      obtain ⟨first, notOverlong, notBeyond⟩ :=
        (between_iff 0x90 0x8F (by decide) (by decide)).mp hx
      exact .four h first notOverlong notBeyond hy (continues_cons.mp hz).1
    · rw [h] at hlead
      cases hlead

theorem toNat_ofNat {n : Nat} (hn : n.isValidChar) : (Char.ofNat n).val.toNat = n := by
  rw [Char.ofNat, dif_pos hn]
  rfl

/-- A sequence is the bytes of the character that it spells. -/
theorem Sequence.encodeChar (h : Sequence b bs) :
    String.utf8EncodeChar (Char.ofNat (spell (leadBits b bs.length) bs)) = b :: bs := by
  cases h with
  | @two x range first =>
    unfold IsTail at first
    have hspell : spell (leadBits b 1) [x] = (b.toNat - 0xC0) * 64 + (x.toNat - 0x80) := rfl
    have hvalid : (spell (leadBits b 1) [x]).isValidChar := .inl (by omega)
    have hc := toNat_ofNat hvalid
    generalize Char.ofNat (spell (leadBits b 1) [x]) = c at hc
    change String.utf8EncodeChar c = _
    rw [String.utf8EncodeChar, if_neg (by omega), if_pos (by omega)]
    simp only [← UInt8.toNat_inj, UInt8.toNat_ofNat', List.cons.injEq, and_true]
    omega
  | @three x y range first notOverlong notSurrogate second =>
    unfold IsTail at first second
    have hspell : spell (leadBits b 2) [x, y] =
        ((b.toNat - 0xE0) * 64 + (x.toNat - 0x80)) * 64 + (y.toNat - 0x80) := rfl
    have hvalid : (spell (leadBits b 2) [x, y]).isValidChar := by
      unfold Nat.isValidChar
      omega
    have hc := toNat_ofNat hvalid
    generalize Char.ofNat (spell (leadBits b 2) [x, y]) = c at hc
    change String.utf8EncodeChar c = _
    rw [String.utf8EncodeChar, if_neg (by omega), if_neg (by omega), if_pos (by omega)]
    simp only [← UInt8.toNat_inj, UInt8.toNat_ofNat', List.cons.injEq, and_true]
    omega
  | @four x y z range first notOverlong notBeyond second third =>
    unfold IsTail at first second third
    have hspell : spell (leadBits b 3) [x, y, z] =
        (((b.toNat - 0xF0) * 64 + (x.toNat - 0x80)) * 64 + (y.toNat - 0x80)) * 64 +
          (z.toNat - 0x80) := rfl
    have hvalid : (spell (leadBits b 3) [x, y, z]).isValidChar := by
      unfold Nat.isValidChar
      omega
    have hc := toNat_ofNat hvalid
    generalize Char.ofNat (spell (leadBits b 3) [x, y, z]) = c at hc
    change String.utf8EncodeChar c = _
    rw [String.utf8EncodeChar, if_neg (by omega), if_neg (by omega), if_neg (by omega)]
    simp only [← UInt8.toNat_inj, UInt8.toNat_ofNat', List.cons.injEq, and_true]
    omega

/-- The bytes of a character beyond ASCII are a sequence. -/
theorem exists_sequence (hc : 128 ≤ c.toNat) :
    ∃ b bs, String.utf8EncodeChar c = b :: bs ∧ Sequence b bs := by
  have hbeyond : 128 ≤ c.val.toNat := hc
  have hvalid : c.val.toNat < 0xD800 ∨ (0xDFFF < c.val.toNat ∧ c.val.toNat < 0x110000) := c.valid
  rw [String.utf8EncodeChar, if_neg (by omega)]
  split
  · refine ⟨_, _, rfl, .two ?_ ?_⟩ <;> simp only [IsTail, UInt8.toNat_ofNat'] <;> omega
  · split
    · refine ⟨_, _, rfl, .three ?_ ?_ ?_ ?_ ?_⟩ <;>
        simp only [IsTail, UInt8.toNat_ofNat'] <;> omega
    · refine ⟨_, _, rfl, .four ?_ ?_ ?_ ?_ ?_ ?_⟩ <;>
        simp only [IsTail, UInt8.toNat_ofNat'] <;> omega

theorem encodeChar_injective {c d : Char} (h : String.utf8EncodeChar c = String.utf8EncodeChar d) :
    c = d := by
  have hencode : ∀ c, encode (String.ofList [c]) = String.utf8EncodeChar c := fun c => by
    rw [encode, String.toList_ofList, List.flatMap_singleton]
  have hsame : String.ofList [c] = String.ofList [d] := encode_injective (by simp only [hencode, h])
  simpa using congrArg String.toList hsame

theorem encodeChar_ne_nil (c : Char) : String.utf8EncodeChar c ≠ [] := by
  rw [← List.length_pos_iff, String.length_utf8EncodeChar]
  exact Char.utf8Size_pos c

/-- A byte below 128 is a character. -/
theorem encodeChar_ofNat (hb : b < 0x80) : String.utf8EncodeChar (Char.ofNat b.toNat) = [b] := by
  have hsmall : b.toNat < 128 := UInt8.lt_iff_toNat_lt.mp hb
  have hc : (Char.ofNat b.toNat).toNat = b.toNat := toNat_ofNat (.inl (by omega))
  rw [encodeChar_of_ascii (by omega), hc, UInt8.ofNat_toNat]

/-! ## How far continuation bytes reach -/

theorem spell_cons (code : Nat) (b : UInt8) (bs : Bytes) :
    spell code (b :: bs) = spell (code * 64 + (b.toNat - 0x80)) bs := by
  rw [spell, List.foldl_cons, spell]

theorem tail_of_all (hbs : Continues lo hi bs) (code extra : Nat) (rest : Bytes) :
    tail bs.length lo hi code extra (bs ++ rest) =
      .char (Char.ofNat (spell code bs)) (extra + bs.length) := by
  induction bs generalizing lo hi code extra with
  | nil => rfl
  | cons b bs ih =>
    rw [List.length_cons, List.cons_append, tail, if_pos hbs.1, ih hbs.2, spell_cons, Nat.add_assoc,
      Nat.add_comm 1]

theorem tail_of_some (hbs : Continues lo hi bs) (hlength : bs.length < need) (code extra : Nat) :
    tail need lo hi code extra bs = .truncated (extra + bs.length) := by
  induction bs generalizing lo hi need code extra with
  | nil =>
    obtain ⟨need, rfl⟩ := Nat.exists_eq_add_one.mpr hlength
    rfl
  | cons b bs ih =>
    obtain ⟨need, rfl⟩ := Nat.exists_eq_add_one.mpr (Nat.zero_lt_of_lt hlength)
    rw [tail, if_pos hbs.1, ih hbs.2 (by simpa using hlength), List.length_cons, Nat.add_assoc,
      Nat.add_comm 1]

theorem tail_of_bad (hbs : Continues lo hi bs) (hx : ¬ Continues lo hi (bs ++ [x]))
    (hlength : bs.length < need) (code extra : Nat) (rest : Bytes) :
    tail need lo hi code extra (bs ++ x :: rest) = .invalid (extra + bs.length) := by
  induction bs generalizing lo hi need code extra with
  | nil =>
    obtain ⟨need, rfl⟩ := Nat.exists_eq_add_one.mpr hlength
    rw [List.nil_append, tail, if_neg fun h => hx ⟨h, trivial⟩, List.length_nil, Nat.add_zero]
  | cons b bs ih =>
    obtain ⟨need, rfl⟩ := Nat.exists_eq_add_one.mpr (Nat.zero_lt_of_lt hlength)
    rw [List.cons_append, tail, if_pos hbs.1,
      ih hbs.2 (fun h => hx ⟨hbs.1, h⟩) (by simpa using hlength), List.length_cons, Nat.add_assoc,
      Nat.add_comm 1]

/-- Of `need` continuation bytes all are there, or the input ends before, or one byte is none. -/
theorem continues_cases (need : Nat) (lo hi : UInt8) (rest : Bytes) :
    (∃ bs t, rest = bs ++ t ∧ bs.length = need ∧ Continues lo hi bs) ∨
      (rest.length < need ∧ Continues lo hi rest) ∨
      ∃ bs x t, rest = bs ++ x :: t ∧ bs.length < need ∧ Continues lo hi bs ∧
        ¬ Continues lo hi (bs ++ [x]) := by
  induction need generalizing lo hi rest with
  | zero => exact .inl ⟨[], rest, rfl, rfl, trivial⟩
  | succ need ih =>
    cases rest with
    | nil => exact .inr (.inl ⟨Nat.succ_pos need, trivial⟩)
    | cons b rest =>
      by_cases hb : lo ≤ b ∧ b ≤ hi
      · rcases ih 0x80 0xBF rest with ⟨bs, t, rfl, rfl, hbs⟩ | ⟨hlength, hbs⟩ |
          ⟨bs, x, t, rfl, hlength, hbs, hx⟩
        · exact .inl ⟨b :: bs, t, rfl, rfl, hb, hbs⟩
        · exact .inr (.inl ⟨Nat.succ_lt_succ hlength, hb, hbs⟩)
        · exact .inr (.inr ⟨b :: bs, x, t, rfl, Nat.succ_lt_succ hlength, ⟨hb, hbs⟩,
            fun h => hx h.2⟩)
      · exact .inr (.inr ⟨[], b, rest, rfl, Nat.succ_pos need, trivial, fun h => hb h.1⟩)

/-- Continuation bytes can be added to. -/
theorem exists_continues (hbounds : lo ≤ hi) (hbs : Continues lo hi bs) (n : Nat) :
    ∃ more, more.length = n ∧ Continues lo hi (bs ++ more) := by
  have htail : (0x80 : UInt8) ≤ 0xBF := by decide
  induction bs generalizing lo hi with
  | cons b bs ih =>
    obtain ⟨more, hlength, hmore⟩ := ih htail hbs.2
    exact ⟨more, hlength, hbs.1, hmore⟩
  | nil =>
    induction n generalizing lo hi with
    | zero => exact ⟨[], rfl, trivial⟩
    | succ n ih =>
      obtain ⟨more, rfl, hmore⟩ := ih htail trivial
      exact ⟨lo :: more, rfl, ⟨UInt8.le_refl lo, hbounds⟩, hmore⟩

/-- Every lead byte asks for something that can follow. -/
theorem bounds_of_lead (hlead : lead b = some (need, lo, hi)) : lo ≤ hi := by
  rcases lead_ranges b with h | h | h | h
  · rw [lead_two h] at hlead
    simp only [Option.some.injEq, Prod.mk.injEq] at hlead
    obtain ⟨-, rfl, rfl⟩ := hlead
    decide
  · rw [lead_three h] at hlead
    simp only [Option.some.injEq, Prod.mk.injEq] at hlead
    obtain ⟨-, rfl, rfl⟩ := hlead
    split <;> split <;> first | decide | omega
  · rw [lead_four h] at hlead
    simp only [Option.some.injEq, Prod.mk.injEq] at hlead
    obtain ⟨-, rfl, rfl⟩ := hlead
    split <;> split <;> first | decide | omega
  · rw [h] at hlead
    cases hlead

theorem not_lt_of_lead (hlead : lead b = some (need, lo, hi)) : ¬ b < 0x80 := by
  intro hb
  have hsmall : b.toNat < 128 := UInt8.lt_iff_toNat_lt.mp hb
  rw [lead_eq_none (.inl (by omega))] at hlead
  cases hlead

theorem head_of_lead (hlead : lead b = some (need, lo, hi)) (rest : Bytes) :
    head b rest = tail need lo hi (leadBits b need) 0 rest := by
  rw [head, if_neg (not_lt_of_lead hlead), hlead]
  rfl

/-! ## Characters at the beginning of a byte list -/

/-- The bytes of a character are read as that character. -/
theorem head_encodeChar (hc : String.utf8EncodeChar c = b :: bs) (rest : Bytes) :
    head b (bs ++ rest) = .char c bs.length := by
  rcases Nat.lt_or_ge c.toNat 128 with hsmall | hbeyond
  · rw [encodeChar_of_ascii hsmall] at hc
    obtain ⟨rfl, rfl⟩ := List.cons.inj hc
    have hb : (UInt8.ofNat c.toNat).toNat = c.toNat := by
      rw [UInt8.toNat_ofNat']
      omega
    have hlt : UInt8.ofNat c.toNat < 0x80 := UInt8.lt_iff_toNat_lt.mpr (by rw [hb]; exact hsmall)
    rw [head, if_pos hlt, hb, Char.ofNat_toNat]
    rfl
  · obtain ⟨b', bs', hc', hseq⟩ := exists_sequence hbeyond
    obtain ⟨rfl, rfl⟩ := List.cons.inj (hc.symm.trans hc')
    obtain ⟨lo, hi, hlead, hbs⟩ := sequence_iff.mp hseq
    have hself : Char.ofNat (spell (leadBits b bs.length) bs) = c :=
      encodeChar_injective (hseq.encodeChar.trans hc.symm)
    rw [head_of_lead hlead, tail_of_all hbs, hself, Nat.zero_add]

end Sequences

/-! ## Faulty sequences -/

/-- Bytes with which the bytes of a character begin, but which are not all of them. -/
def Begins (p : Bytes) : Prop := ∃ c q, q ≠ [] ∧ String.utf8EncodeChar c = p ++ q

/-- The bytes `bad` are the maximal faulty sequence at the beginning of `bad ++ rest`: no character
begins there, and they are the longest beginning of one, or a single byte. -/
structure Faulty (bad rest : Bytes) : Prop where
  nonempty : bad ≠ []
  noCharacter : ∀ c, ¬ String.utf8EncodeChar c <+: bad ++ rest
  beginning : Begins bad ∨ bad.length = 1
  maximal : ∀ p, p <+: bad ++ rest → Begins p → p.length ≤ bad.length

/-- The characters of a byte list, with U+FFFD in the place of each maximal faulty sequence. -/
inductive Repairs : Bytes → List Char → Prop
  | nil : Repairs [] []
  | char (c : Char) {rest : Bytes} {cs : List Char} (later : Repairs rest cs) :
      Repairs (String.utf8EncodeChar c ++ rest) (c :: cs)
  | fault {bad rest : Bytes} {cs : List Char} (faulty : Faulty bad rest)
      (later : Repairs rest cs) : Repairs (bad ++ rest) ('\uFFFD' :: cs)

section Faults

variable {b x lo hi : UInt8} {bs rest bad : Bytes} {c : Char} {need : Nat}

/-- Where no character is read, none begins. -/
theorem noCharacter_of_head (hhead : ∀ c n, head b rest ≠ .char c n) (c : Char) :
    ¬ String.utf8EncodeChar c <+: b :: rest := by
  rintro ⟨t, ht⟩
  cases hc : String.utf8EncodeChar c with
  | nil => exact encodeChar_ne_nil c hc
  | cons d bs =>
    rw [hc, List.cons_append] at ht
    obtain ⟨rfl, rfl⟩ := List.cons.inj ht
    exact hhead c _ (head_encodeChar hc t)

/-- A beginning of a character can be completed so that the character is read. -/
theorem head_of_begins (hbegins : Begins (b :: bs)) :
    ∃ q c n, head b (bs ++ q) = .char c n := by
  obtain ⟨c, q, -, hc⟩ := hbegins
  have hhead := head_encodeChar hc []
  rw [List.append_nil] at hhead
  exact ⟨q, c, _, hhead⟩

/-- A byte that leads no character is faulty. -/
theorem faulty_of_lead (hlead : lead b = none) (hb : ¬ b < 0x80) (rest : Bytes) :
    Faulty [b] rest := by
  have hhead : ∀ rest, head b rest = .invalid 0 := fun rest => by
    rw [head, if_neg hb, hlead]
  refine ⟨List.cons_ne_nil b [],
    noCharacter_of_head fun c n h => Head.noConfusion ((hhead rest).symm.trans h), .inr rfl, ?_⟩
  rintro p ⟨t, ht⟩ hp
  cases p with
  | nil => exact Nat.zero_le 1
  | cons d p =>
    obtain ⟨rfl, -⟩ := List.cons.inj ht
    obtain ⟨q, c, n, hread⟩ := head_of_begins hp
    exact Head.noConfusion ((hhead _).symm.trans hread)

/-- Fewer continuation bytes than a lead byte asks for are the beginning of a character. -/
theorem begins_of_continues (hlead : lead b = some (need, lo, hi)) (hbs : Continues lo hi bs)
    (hlength : bs.length < need) : Begins (b :: bs) := by
  obtain ⟨more, hmore, hall⟩ := exists_continues (bounds_of_lead hlead) hbs (need - bs.length)
  have hneed : (bs ++ more).length = need := by
    rw [List.length_append]
    omega
  have hseq : Sequence b (bs ++ more) := sequence_iff.mpr ⟨lo, hi, by rw [hneed, hlead], hall⟩
  refine ⟨_, more, fun hnil => ?_, hseq.encodeChar⟩
  rw [hnil, List.length_nil] at hmore
  omega

/-- A lead byte is faulty, with the continuation bytes after it, if the input ends too early. -/
theorem faulty_of_some (hlead : lead b = some (need, lo, hi)) (hbs : Continues lo hi bs)
    (hlength : bs.length < need) : Faulty (b :: bs) [] := by
  have hhead : head b bs = .truncated (0 + bs.length) := by
    rw [head_of_lead hlead, tail_of_some hbs hlength]
  refine ⟨List.cons_ne_nil b bs, ?_, .inl (begins_of_continues hlead hbs hlength),
    fun p hprefix _ => ?_⟩
  · rw [List.append_nil]
    exact noCharacter_of_head fun c n h => Head.noConfusion (hhead.symm.trans h)
  · rw [List.append_nil] at hprefix
    exact hprefix.length_le

/-- A lead byte is faulty, with the continuation bytes after it, if they end too early. -/
theorem faulty_of_bad (hlead : lead b = some (need, lo, hi)) (hbs : Continues lo hi bs)
    (hx : ¬ Continues lo hi (bs ++ [x])) (hlength : bs.length < need) (rest : Bytes) :
    Faulty (b :: bs) (x :: rest) := by
  have hhead : ∀ rest, head b (bs ++ x :: rest) = .invalid (0 + bs.length) := fun rest => by
    rw [head_of_lead hlead, tail_of_bad hbs hx hlength]
  refine ⟨List.cons_ne_nil b bs,
    noCharacter_of_head fun c n h => Head.noConfusion ((hhead rest).symm.trans h),
    .inl (begins_of_continues hlead hbs hlength), ?_⟩
  intro p hprefix hp
  by_contra hlong
  -- a longer beginning would go past the byte that does not fit
  obtain ⟨p', rfl⟩ : ∃ p', p = b :: bs ++ x :: p' := by
    obtain ⟨t, ht⟩ := hprefix
    have htake : (b :: bs ++ [x]) <+: p := by
      refine List.prefix_of_prefix_length_le ⟨rest, ?_⟩ ⟨t, ht⟩ ?_
      · rw [List.append_assoc, List.singleton_append]
      · rw [List.length_append, List.length_singleton]
        omega
    obtain ⟨p', rfl⟩ := htake
    exact ⟨p', by rw [List.append_assoc, List.singleton_append]⟩
  obtain ⟨q, c, n, hread⟩ := head_of_begins hp
  change head b ((bs ++ x :: p') ++ q) = .char c n at hread
  rw [List.append_assoc, List.cons_append] at hread
  exact Head.noConfusion ((hhead _).symm.trans hread)

/-- **A byte list begins with a character or with a faulty sequence**, and `head` tells which. -/
theorem head_cases (b : UInt8) (rest : Bytes) :
    (∃ c bs t, rest = bs ++ t ∧ String.utf8EncodeChar c = b :: bs ∧
        head b rest = .char c bs.length) ∨
      ∃ bs t, rest = bs ++ t ∧ Faulty (b :: bs) t ∧
        (head b rest = .invalid bs.length ∨ t = [] ∧ head b rest = .truncated bs.length) := by
  by_cases hb : b < 0x80
  · exact .inl ⟨Char.ofNat b.toNat, [], rest, rfl, encodeChar_ofNat hb, by
      rw [head, if_pos hb]
      rfl⟩
  cases hlead : lead b with
  | none =>
    refine .inr ⟨[], rest, rfl, faulty_of_lead hlead hb rest, .inl ?_⟩
    rw [head, if_neg hb, hlead]
    rfl
  | some asked =>
    obtain ⟨need, lo, hi⟩ := asked
    rcases continues_cases need lo hi rest with ⟨bs, t, rfl, rfl, hbs⟩ | ⟨hlength, hbs⟩ |
      ⟨bs, x, t, rfl, hlength, hbs, hx⟩
    · refine .inl ⟨_, bs, t, rfl, (sequence_iff.mpr ⟨lo, hi, hlead, hbs⟩).encodeChar, ?_⟩
      rw [head_of_lead hlead, tail_of_all hbs, Nat.zero_add]
    · refine .inr ⟨rest, [], (List.append_nil rest).symm, faulty_of_some hlead hbs hlength,
        .inr ⟨rfl, ?_⟩⟩
      rw [head_of_lead hlead, tail_of_some hbs hlength, Nat.zero_add]
    · refine .inr ⟨bs, x :: t, rfl, faulty_of_bad hlead hbs hx hlength t, .inl ?_⟩
      rw [head_of_lead hlead, tail_of_bad hbs hx hlength, Nat.zero_add]

/-- There is only one maximal faulty sequence at the beginning of a byte list. -/
theorem Faulty.length_le {bad' rest' : Bytes} (faulty : Faulty bad rest)
    (faulty' : Faulty bad' rest') (heq : bad ++ rest = bad' ++ rest') :
    bad.length ≤ bad'.length := by
  rcases faulty.beginning with hbegins | hone
  · exact faulty'.maximal bad (heq ▸ List.prefix_append bad rest) hbegins
  · rw [hone]
    exact List.length_pos_iff.mpr faulty'.nonempty

theorem Faulty.unique {bad' rest' : Bytes} (faulty : Faulty bad rest) (faulty' : Faulty bad' rest')
    (heq : bad ++ rest = bad' ++ rest') : bad = bad' ∧ rest = rest' :=
  List.append_inj heq
    (Nat.le_antisymm (faulty.length_le faulty' heq) (faulty'.length_le faulty heq.symm))

end Faults

/-! ## Decoding -/

section Decoding

variable {bs : Bytes} {cs : List Char} {s : String}

theorem Repairs.eq_nil (repairs : Repairs bs cs) (hnil : bs = []) : cs = [] := by
  cases repairs with
  | nil => rfl
  | char c later => exact absurd (List.append_eq_nil_iff.mp hnil).1 (encodeChar_ne_nil c)
  | fault faulty later => exact absurd (List.append_eq_nil_iff.mp hnil).1 faulty.nonempty

/-- What lossy decoding makes of a byte list after the characters `done`. -/
theorem Repairs.charsLossyAfter_eq (repairs : Repairs bs cs) (done : List Char) :
    charsLossyAfter done bs = done.reverse ++ cs := by
  induction repairs generalizing done with
  | nil => rw [charsLossyAfter, List.append_nil]
  | @char c rest cs later ih =>
    cases hc : String.utf8EncodeChar c with
    | nil => exact absurd hc (encodeChar_ne_nil c)
    | cons b bs =>
      rw [List.cons_append, charsLossyAfter, head_encodeChar hc]
      dsimp only
      rw [List.drop_left, ih, List.reverse_cons, List.append_assoc, List.singleton_append]
  | @fault bad rest cs faulty later ih =>
    cases bad with
    | nil => exact absurd rfl faulty.nonempty
    | cons b bad =>
      rw [List.cons_append, charsLossyAfter]
      rcases head_cases b (bad ++ rest) with ⟨c, bs, t, heq, hc, -⟩ | ⟨bs, t, heq, faulty', hhead⟩
      · refine absurd ⟨t, ?_⟩ (faulty.noCharacter c)
        rw [hc, List.cons_append, List.cons_append, heq]
      · obtain ⟨hbad, rfl⟩ := faulty.unique faulty' (congrArg (b :: ·) heq)
        obtain ⟨-, rfl⟩ := List.cons.inj hbad
        rcases hhead with hhead | ⟨rfl, hhead⟩
        · rw [hhead]
          dsimp only
          rw [List.drop_left, ih, List.reverse_cons, List.append_assoc, List.singleton_append]
        · rw [hhead, later.eq_nil rfl]
          exact List.reverse_cons

/-- What is left of a text after its first bytes is shorter. -/
theorem length_lt_of_cons_append {b : UInt8} {bs t : Bytes} {n : Nat}
    (hn : (b :: (bs ++ t)).length = n) : t.length < n := by
  rw [List.length_cons, List.length_append] at hn
  omega

theorem exists_repairs (bs : Bytes) : ∃ cs, Repairs bs cs := by
  induction hn : bs.length using Nat.strongRecOn generalizing bs with
  | ind n ih =>
    cases bs with
    | nil => exact ⟨[], .nil⟩
    | cons b rest =>
      rcases head_cases b rest with ⟨c, bs, t, rfl, hc, -⟩ | ⟨bs, t, rfl, faulty, -⟩
      · obtain ⟨cs, later⟩ := ih t.length (length_lt_of_cons_append hn) t rfl
        refine ⟨c :: cs, ?_⟩
        have repairs := Repairs.char c later
        rwa [hc] at repairs
      · obtain ⟨cs, later⟩ := ih t.length (length_lt_of_cons_append hn) t rfl
        exact ⟨'\uFFFD' :: cs, .fault faulty later⟩

/-- **Lossy decoding repairs**: it puts U+FFFD in the place of each maximal faulty sequence and
changes nothing else, and no other way of doing so exists. -/
theorem repairs_iff : Repairs bs cs ↔ decodeLossy bs = String.ofList cs := by
  constructor
  · intro repairs
    rw [decodeLossy, repairs.charsLossyAfter_eq []]
    rfl
  · intro heq
    obtain ⟨cs', repairs⟩ := exists_repairs bs
    rw [decodeLossy, repairs.charsLossyAfter_eq []] at heq
    obtain rfl : cs' = cs := by simpa using congrArg String.toList heq
    exact repairs

theorem repairs_characters (cs : List Char) : Repairs (cs.flatMap String.utf8EncodeChar) cs := by
  induction cs with
  | nil => exact .nil
  | cons c cs ih => exact .char c ih

theorem decodeLossy_encode (s : String) : decodeLossy (encode s) = s := by
  rw [encode, repairs_iff.mp (repairs_characters s.toList), String.ofList_toList]

theorem charsAfter_characters (done : List Char) (index : Nat) (cs : List Char) :
    charsAfter done index (cs.flatMap String.utf8EncodeChar) = .ok (done.reverse ++ cs) := by
  induction cs generalizing done index with
  | nil => rw [List.flatMap_nil, charsAfter, List.append_nil]
  | cons c cs ih =>
    cases hc : String.utf8EncodeChar c with
    | nil => exact absurd hc (encodeChar_ne_nil c)
    | cons b bs =>
      rw [List.flatMap_cons, hc, List.cons_append, charsAfter, head_encodeChar hc]
      dsimp only
      rw [List.drop_left, ih, List.reverse_cons, List.append_assoc, List.singleton_append]

theorem characters_of_charsAfter {done : List Char} {index : Nat}
    (hok : charsAfter done index bs = .ok cs) :
    ∃ later, cs = done.reverse ++ later ∧ bs = later.flatMap String.utf8EncodeChar := by
  induction hn : bs.length using Nat.strongRecOn generalizing bs done index with
  | ind n ih =>
    cases bs with
    | nil =>
      rw [charsAfter] at hok
      cases hok
      exact ⟨[], (List.append_nil _).symm, rfl⟩
    | cons b rest =>
      rw [charsAfter] at hok
      rcases head_cases b rest with ⟨c, bs, t, rfl, hc, hhead⟩ | ⟨bs, t, rfl, -, hhead | ⟨-, hhead⟩⟩
      · rw [hhead] at hok
        dsimp only at hok
        rw [List.drop_left] at hok
        obtain ⟨later, rfl, rfl⟩ := ih t.length (length_lt_of_cons_append hn) hok rfl
        refine ⟨c :: later, ?_, by rw [List.flatMap_cons, hc, List.cons_append]⟩
        rw [List.reverse_cons, List.append_assoc, List.singleton_append]
      · rw [hhead] at hok
        cases hok
      · rw [hhead] at hok
        cases hok

@[simp] theorem decode_encode (s : String) : decode (encode s) = .ok s := by
  rw [decode, encode, charsAfter_characters]
  exact congrArg Except.ok String.ofList_toList

/-- **What is decoded is text**: the bytes of what they are decoded to. -/
theorem decode_eq_ok_iff : decode bs = .ok s ↔ bs = encode s := by
  refine ⟨fun hok => ?_, fun heq => heq ▸ decode_encode s⟩
  rw [decode] at hok
  cases hchars : charsAfter [] 0 bs with
  | error fault =>
    rw [hchars] at hok
    cases hok
  | ok cs =>
    rw [hchars] at hok
    cases hok
    obtain ⟨later, rfl, rfl⟩ := characters_of_charsAfter hchars
    rw [encode, String.toList_ofList]

theorem isValid_iff : isValid bs = true ↔ ∃ s, bs = encode s := by
  rw [isValid, decode?]
  cases hdecode : decode bs with
  | ok s => exact iff_of_true rfl ⟨s, decode_eq_ok_iff.mp hdecode⟩
  | error fault =>
    refine iff_of_false Bool.false_ne_true ?_
    rintro ⟨s, rfl⟩
    rw [decode_encode] at hdecode
    cases hdecode

theorem isValid_encode (s : String) : isValid (encode s) = true := isValid_iff.mpr ⟨s, rfl⟩

theorem decode?_encode (s : String) : decode? (encode s) = some s := by
  rw [decode?, decode_encode]
  rfl

/-- Bytes are left as they are by lossy decoding exactly if they are text. -/
theorem encode_decodeLossy_eq_iff : encode (decodeLossy bs) = bs ↔ isValid bs = true := by
  refine ⟨fun heq => isValid_iff.mpr ⟨_, heq.symm⟩, fun hvalid => ?_⟩
  obtain ⟨s, rfl⟩ := isValid_iff.mp hvalid
  rw [decodeLossy_encode]

end Decoding

/-! ## Beginnings of texts -/

theorem tail_append_of_invalid {need code extra n : Nat} {lo hi : UInt8} {bs : Bytes}
    (hinvalid : tail need lo hi code extra bs = .invalid n) (more : Bytes) :
    tail need lo hi code extra (bs ++ more) = .invalid n := by
  induction bs generalizing need lo hi code extra with
  | nil =>
    cases need with
    | zero => cases hinvalid
    | succ need => cases hinvalid
  | cons b bs ih =>
    cases need with
    | zero => cases hinvalid
    | succ need =>
      rw [tail] at hinvalid
      rw [List.cons_append, tail]
      split
      · rename_i hb
        rw [if_pos hb] at hinvalid
        exact ih hinvalid
      · rename_i hb
        rw [if_neg hb] at hinvalid
        exact hinvalid

/-- No continuation repairs what is invalid. -/
theorem head_append_of_invalid {b : UInt8} {bs : Bytes} {n : Nat}
    (hinvalid : head b bs = .invalid n) (more : Bytes) : head b (bs ++ more) = .invalid n := by
  rw [head] at hinvalid ⊢
  split
  · rename_i hb
    rw [if_pos hb] at hinvalid
    cases hinvalid
  · rename_i hb
    rw [if_neg hb] at hinvalid
    cases hlead : lead b with
    | none =>
      rw [hlead] at hinvalid
      exact hinvalid
    | some asked =>
      rw [hlead] at hinvalid
      exact tail_append_of_invalid hinvalid more

/-- Less than the bytes of a character is read as truncated. -/
theorem head_of_less {c : Char} {b : UInt8} {bs more : Bytes}
    (hc : String.utf8EncodeChar c = b :: bs ++ more) (hmore : more ≠ []) :
    ∃ n, head b bs = .truncated n := by
  have hwhole : head b (bs ++ more) = .char c (bs ++ more).length := by
    have hread := head_encodeChar hc []
    rwa [List.append_nil] at hread
  rcases head_cases b bs with ⟨d, ds, t, rfl, hd, hread⟩ | ⟨ds, t, rfl, -, hread | ⟨-, hread⟩⟩
  · -- the bytes of one character do not go on as those of another
    have hsame : head b (ds ++ (t ++ more)) = .char d ds.length := head_encodeChar hd _
    rw [← List.append_assoc, hwhole] at hsame
    have hlength := (Head.char.inj hsame).2
    rw [List.length_append, List.length_append] at hlength
    have hpos := List.length_pos_iff.mpr hmore
    omega
  · have hinvalid := head_append_of_invalid hread more
    rw [hwhole] at hinvalid
    cases hinvalid
  · exact ⟨_, hread⟩

theorem charsAfter_of_prefix (done : List Char) (index : Nat) (cs : List Char) {bs more : Bytes}
    (htext : bs ++ more = cs.flatMap String.utf8EncodeChar) :
    (∃ out, charsAfter done index bs = .ok out) ∨
      ∃ i, charsAfter done index bs = .error ⟨i, none⟩ := by
  induction cs generalizing done index bs with
  | nil =>
    obtain ⟨rfl, -⟩ := List.append_eq_nil_iff.mp htext
    exact .inl ⟨_, by rw [charsAfter]⟩
  | cons c cs ih =>
    rw [List.flatMap_cons] at htext
    cases bs with
    | nil => exact .inl ⟨_, by rw [charsAfter]⟩
    | cons b bs =>
      rcases List.append_eq_append_iff.mp htext with ⟨rest, hc, -⟩ | ⟨rest, hc, hrest⟩
      · by_cases hnil : rest = []
        · subst hnil
          rw [List.append_nil] at hc
          have hread := head_encodeChar hc []
          rw [List.append_nil] at hread
          refine .inl ⟨(c :: done).reverse, ?_⟩
          rw [charsAfter, hread]
          dsimp only
          rw [List.drop_length, charsAfter]
        · obtain ⟨n, hread⟩ := head_of_less hc hnil
          exact .inr ⟨index, by rw [charsAfter, hread]⟩
      · cases hchar : String.utf8EncodeChar c with
        | nil => exact absurd hchar (encodeChar_ne_nil c)
        | cons d ds =>
          rw [hchar, List.cons_append] at hc
          obtain ⟨rfl, rfl⟩ := List.cons.inj hc
          rw [charsAfter, head_encodeChar hchar]
          dsimp only
          rw [List.drop_left]
          exact ih _ _ hrest.symm

/-- **Every beginning of a text may become one**: it is text, or ends within a character. -/
theorem decode_of_prefix {bs more : Bytes} (hvalid : isValid (bs ++ more) = true) :
    (∃ s, decode bs = .ok s) ∨ ∃ i, decode bs = .error ⟨i, none⟩ := by
  obtain ⟨s, htext⟩ := isValid_iff.mp hvalid
  rcases charsAfter_of_prefix [] 0 s.toList htext with ⟨out, hout⟩ | ⟨i, hfault⟩
  · exact .inl ⟨_, by rw [decode, hout]; rfl⟩
  · exact .inr ⟨i, by rw [decode, hfault]; rfl⟩

end Switchboard.Utf8
