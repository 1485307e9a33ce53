import Mathlib.Data.List.Forall2
import Switchboard.Proofs.JsonText

/-!
# Values that read back

What is written as JSON is read back. `Json.ReadsBack levels v w` says that the text of a value `v`,
which nests `levels` deep, is read as `w` wherever it stands. There is a lemma for each kind of
value but doubles: strings and names are read as they were, natural numbers too if they fit 64 bits
(`readsBack_natural`), lists item by item (`readsBack_array`), and objects member by member, which
brings the members into the order of their keys (`readsBack_object`).

What follows a value in a text is told because the end of a number is not marked.
-/

namespace Switchboard.Json

namespace Reader

section Numbers

variable {path : List PathStep} {rest : Bytes}

/-- What may follow a value: nothing, a comma, or the end of a list or an object. -/
def Ends (rest : Bytes) : Prop := ∀ x ∈ rest.head?, x = 44 ∨ x = 93 ∨ x = 125

theorem ends_cons {x : UInt8} (hx : x = 44 ∨ x = 93 ∨ x = 125) (rest : Bytes) : Ends (x :: rest) :=
  fun _ hhead => Option.some.inj hhead ▸ hx

theorem reads_peek (rest : Bytes) : Reads peek [] rest rest.head? := fun _ _ _ => rfl

/-! ## Digits -/

/-- The byte of a decimal digit. -/
def digitByte (d : Nat) : UInt8 := code (Nat.digitChar d)

/-- The number that digits spell which follow those of another. -/
def spelled (n : Nat) (ds : List Nat) : Nat := ds.foldl (fun n d => n * 10 + d) n

theorem digitByte_eq : ∀ d < 10, String.utf8EncodeChar (Nat.digitChar d) = [digitByte d] ∧
    (digitByte d).toNat - 48 = d ∧ isDigit (digitByte d) = true ∧ isSpace (digitByte d) = false ∧
    (digitByte d = 48 → d = 0) ∧ ∀ x ∈ [code 'n', code 't', code 'f', code '-', 91, 93, 123],
      digitByte d ≠ x := by
  decide +kernel

theorem le_spelled (n : Nat) (ds : List Nat) : n ≤ spelled n ds := by
  induction ds generalizing n with
  | nil => exact Nat.le_refl n
  | cons d ds ih =>
    have hrest := ih (n * 10 + d)
    rw [spelled, List.foldl_cons, ← spelled]
    omega

theorem spelled_concat (n : Nat) (ds : List Nat) (d : Nat) :
    spelled n (ds ++ [d]) = spelled n ds * 10 + d := List.foldl_append

/-- A number is spelled by its digits, of which the first is no zero if there are others. -/
theorem exists_digits (n : Nat) : ∃ d ds, d < 10 ∧ (∀ d ∈ ds, d < 10) ∧ (d = 0 → ds = []) ∧
    Utf8.spelling (Nat.toDigits 10 n) = (d :: ds).map digitByte ∧ spelled d ds = n := by
  induction n using Nat.strongRecOn with
  | ind n ih =>
    rcases Nat.lt_or_ge n 10 with hsmall | hlarge
    · refine ⟨n, [], hsmall, by simp, fun _ => rfl, ?_, rfl⟩
      rw [Nat.toDigits_of_lt_base hsmall, Utf8.spelling_cons, (digitByte_eq n hsmall).1]
      rfl
    · obtain ⟨d, ds, hd, hds, hzero, hspelling, hspelled⟩ := ih (n / 10) (by omega)
      have hlast : n % 10 < 10 := Nat.mod_lt n (by decide)
      refine ⟨d, ds ++ [n % 10], hd, by simpa [or_imp, forall_and] using ⟨hds, hlast⟩,
        fun hd => ?_, ?_, ?_⟩
      · rw [hd, hzero hd] at hspelled
        have hnone : 0 = n / 10 := hspelled
        omega
      · rw [Nat.toDigits_of_base_le (by decide) hlarge, Utf8.spelling_append, hspelling,
          Utf8.spelling_cons, (digitByte_eq _ hlast).1, ← List.cons_append, List.map_append]
        rfl
      · rw [spelled_concat, hspelled]
        omega

theorem reads_significandDigits {ds : List Nat} (hds : ∀ d ∈ ds, d < 10) {n : Nat}
    (hbound : spelled n ds < significandBound) {fuel : Nat} (hfuel : ds.length ≤ fuel)
    (count : Nat) (ends : Ends rest) :
    Reads (significandDigits fuel n count) (ds.map digitByte) rest
      (spelled n ds, count + ds.length, false) := by
  induction ds generalizing n fuel count with
  | nil =>
    cases fuel with
    | zero => exact reads_pure _ rest
    | succ fuel =>
      refine Reads.look (reads_peek rest) ?_
      cases hhead : rest.head? with
      | none => exact reads_pure _ rest
      | some x =>
        have hdigit : isDigit x = false := by
          rcases ends x hhead with rfl | rfl | rfl <;> rfl
        dsimp only
        rw [hdigit]
        exact reads_pure _ rest
  | cons d ds ih =>
    obtain ⟨fuel, rfl⟩ := Nat.exists_eq_add_of_lt (Nat.lt_of_lt_of_le (Nat.succ_pos _) hfuel)
    obtain ⟨-, hvalue, hdigit, -⟩ := digitByte_eq d (hds d List.mem_cons_self)
    rw [Nat.zero_add] at hfuel ⊢
    have hnext : spelled (n * 10 + d) ds < significandBound := hbound
    refine Reads.look (reads_peek _) ?_
    rw [List.map_cons, List.cons_append, List.head?_cons]
    dsimp only
    rw [if_pos hdigit, hvalue, if_neg (Nat.not_le.mpr (Nat.lt_of_le_of_lt (le_spelled _ ds) hnext))]
    have hrest := ih (fun d hd => hds d (List.mem_cons_of_mem _ hd)) hnext
      (Nat.le_of_succ_le_succ hfuel) (count + 1)
    rw [Nat.add_assoc, Nat.add_comm 1] at hrest
    exact Reads.bind (reads_advance _ _) hrest

theorem reads_afterInteger (n : Nat) (ends : Ends rest) :
    Reads (afterInteger path true n) [] rest (.integer n) := by
  refine Reads.look (reads_peek rest) ?_
  cases hhead : rest.head? with
  | none => exact reads_pure _ rest
  | some x => rcases ends x hhead with rfl | rfl | rfl <;> exact reads_pure _ rest

/-- **A natural number is read back**, if it fits 64 bits. -/
theorem reads_number {n : Nat} (hn : n < significandBound) (ends : Ends rest) :
    Reads (number path true) (Utf8.spelling (Nat.toDigits 10 n)) rest (.integer n) := by
  obtain ⟨d, ds, hd, hds, hzero, hspelling, rfl⟩ := exists_digits n
  obtain ⟨-, hvalue, hdigit, -, hnonzero, -⟩ := digitByte_eq d hd
  rw [hspelling, List.map_cons]
  refine Reads.bind (reads_next (digitByte d) _) ?_
  split
  · rename_i heq
    cases heq
  -- a zero stands alone
  · rename_i heq
    obtain rfl := hnonzero (Option.some.inj heq)
    obtain rfl := hzero rfl
    refine Reads.look (reads_peek rest) ?_
    cases hhead : rest.head? with
    | none => exact reads_afterInteger 0 ends
    | some x => rcases ends x hhead with rfl | rfl | rfl <;> exact reads_afterInteger 0 ends
  · rename_i heq
    obtain rfl := Option.some.inj heq
    rw [hdigit, hvalue]
    refine Reads.look (reads_left _) (Reads.last
      (reads_significandDigits hds hn (by simp) 0 ends) ?_)
    exact reads_afterInteger _ ends

end Numbers

end Reader

/-! ## Kinds of values -/

open Reader

/-- The text of a value, which nests `levels` deep, is read as `w` wherever it stands. -/
structure ReadsBack (levels : Nat) (v w : Json) : Prop where
  begins : ∃ x bs, Utf8.spelling v.chars = x :: bs ∧ isSpace x = false ∧ x ≠ 93
  reads : ∀ {fuel depth : Nat} {path : List PathStep} {rest : Bytes}, levels < fuel →
    depth + levels < depthLimit → Ends rest →
    Reads (valueAt fuel depth path) (Utf8.spelling v.chars) rest w

variable {levels : Nat} {v w : Json}

theorem ReadsBack.mono {levels' : Nat} (readsBack : ReadsBack levels v w) (hle : levels ≤ levels') :
    ReadsBack levels' v w where
  begins := readsBack.begins
  reads hfuel hdepth ends := readsBack.reads (by omega) (by omega) ends

/-- A text that holds a value and nothing else is parsed as the value that is read. -/
theorem ReadsBack.parse_eq (readsBack : ReadsBack levels v w) (hlevels : levels < depthLimit) :
    parse (Utf8.spelling v.chars) = .ok w :=
  (readsBack.reads hlevels (by omega) fun _ hx => by cases hx).parse_eq

theorem encode_print (v : Json) : Utf8.encode v.print = Utf8.spelling v.chars := by
  rw [Utf8.encode, print, String.toList_ofList, Utf8.spelling]

theorem reads_scalar {x : UInt8} {bs rest : Bytes} {path : List PathStep} {fuel depth : Nat}
    (hspace : isSpace x = false) (hlist : x ≠ 91) (hobject : x ≠ 123)
    (hscalar : Reads (scalar path x) (x :: bs) rest w) :
    Reads (valueAt (fuel + 1) depth path) (x :: bs) rest w := by
  refine Reads.look (reads_token hspace _) ?_
  split
  · rename_i heq
    cases heq
  · rename_i heq
    exact absurd (Option.some.inj heq) hlist
  · rename_i heq
    exact absurd (Option.some.inj heq) hobject
  · rename_i heq
    obtain rfl := Option.some.inj heq
    exact hscalar

theorem readsBack_null : ReadsBack 0 .null .null where
  begins := ⟨_, _, rfl, by decide⟩
  reads {fuel depth path rest} hfuel _ _ := by
    obtain ⟨fuel, rfl⟩ := Nat.exists_eq_add_of_le' hfuel
    exact fun _ _ _ => rfl

theorem readsBack_bool (b : Bool) : ReadsBack 0 (.bool b) (.bool b) where
  begins := by cases b <;> exact ⟨_, _, rfl, by decide⟩
  reads {fuel depth path rest} hfuel _ _ := by
    obtain ⟨fuel, rfl⟩ := Nat.exists_eq_add_of_le' hfuel
    cases b <;> exact fun _ _ _ => rfl

theorem readsBack_string (s : String) : ReadsBack 0 (.string s) (.string s) where
  begins := ⟨_, _, rfl, by decide⟩
  reads {fuel depth path rest} hfuel _ _ := by
    obtain ⟨fuel, rfl⟩ := Nat.exists_eq_add_of_le' hfuel
    exact reads_valueAt fuel depth s rest

theorem readsBack_natural {n : Nat} (hn : n < Nat.pow 2 64) :
    ReadsBack 0 (.integer n) (.integer n) := by
  have hchars : (Json.integer n).chars = Nat.toDigits 10 n := by
    rw [chars]
    exact Nat.toList_repr
  obtain ⟨d, ds, hd, -, -, hspelling, -⟩ := exists_digits n
  obtain ⟨-, -, hdigit, hspace, -, hother⟩ := digitByte_eq d hd
  simp only [List.forall_mem_cons] at hother
  obtain ⟨hnull, htrue, hfalse, hminus, hlist, hclose, hobject, -⟩ := hother
  constructor
  · rw [hchars]
    exact ⟨_, _, hspelling, hspace, hclose⟩
  · intro fuel depth path rest hfuel _ ends
    obtain ⟨fuel, rfl⟩ := Nat.exists_eq_add_of_le' hfuel
    have hnumber : Reads (number path true) _ rest _ := reads_number hn ends
    rw [hspelling, List.map_cons] at hnumber
    rw [hchars, hspelling, List.map_cons]
    refine reads_scalar hspace hlist hobject ?_
    rw [scalar, if_neg hnull, if_neg htrue, if_neg hfalse, if_neg hminus, if_pos hdigit]
    exact hnumber

/-! ## Lists -/

section Lists

variable {vs ws : List Json}

theorem reads_enter {path : List PathStep} {depth : Nat} (hdepth : depth + 1 < depthLimit)
    (x : UInt8) (rest : Bytes) : Reads (enter path depth) [x] rest () := by
  rw [enter, if_neg (by omega)]
  exact reads_advance x rest

theorem spelling_itemChars_cons (v : Json) (vs : List Json) : Utf8.spelling (itemChars (v :: vs)) =
    [44] ++ (Utf8.spelling v.chars ++ Utf8.spelling (itemChars vs)) := by
  rw [itemChars, Utf8.spelling_cons, Utf8.spelling_append]
  rfl

theorem length_itemChars (vs : List Json) :
    vs.length < (Utf8.spelling (itemChars vs)).length := by
  induction vs with
  | nil => decide
  | cons v vs ih =>
    rw [spelling_itemChars_cons]
    simp only [List.length_append, List.length_cons, List.length_nil]
    omega

theorem ends_itemChars (vs : List Json) (rest : Bytes) :
    Ends (Utf8.spelling (itemChars vs) ++ rest) := by
  cases vs with
  | nil => exact ends_cons (by decide) rest
  | cons v vs =>
    rw [spelling_itemChars_cons]
    exact ends_cons (by decide) _

theorem reads_hasItem_first {x : UInt8} {path : List PathStep} (hspace : isSpace x = false)
    (hclose : x ≠ 93) (rest : Bytes) : Reads (hasItem path true) [] (x :: rest) true := by
  refine Reads.look (reads_token hspace rest) ?_
  split
  · rename_i heq
    cases heq
  · rename_i heq
    exact absurd (Option.some.inj heq) hclose
  · exact reads_pure true _

theorem reads_hasItem_later {x : UInt8} {path : List PathStep} (hspace : isSpace x = false)
    (hclose : x ≠ 93) (rest : Bytes) : Reads (hasItem path false) [44] (x :: rest) true := by
  refine Reads.look (reads_token rfl _) (Reads.bind (reads_advance 44 _)
    (Reads.look (reads_token hspace rest) ?_))
  split
  · rename_i heq
    exact absurd (Option.some.inj heq) hclose
  · exact reads_pure true _
  · rename_i heq
    cases heq

theorem reads_hasItem_end {path : List PathStep} (first : Bool) (rest : Bytes) :
    Reads (hasItem path first) [] (93 :: rest) false :=
  Reads.look (reads_token rfl rest) (reads_pure false _)

/-- Items, each after the one before it, and the closing bracket. -/
theorem reads_itemsWith (hitems : List.Forall₂ (ReadsBack levels) vs ws) {done : List Json}
    (hdone : done ≠ []) {fuel inner depth : Nat} (hfuel : vs.length < fuel)
    (hinner : levels < inner) (hdepth : depth + levels < depthLimit) (path : List PathStep)
    (count : Nat) (rest : Bytes) :
    Reads (itemsWith (valueAt inner depth) path fuel count done) (Utf8.spelling (itemChars vs)) rest
      (done.reverse ++ ws) := by
  have hfirst : ∀ {done : List Json}, done ≠ [] → done.isEmpty = false := by simp
  induction hitems generalizing done fuel count with
  | nil =>
    obtain ⟨fuel, rfl⟩ := Nat.exists_eq_add_of_lt hfuel
    rw [List.append_nil, itemsWith, hfirst hdone]
    exact Reads.look (reads_hasItem_end false rest)
      (Reads.last (reads_advance 93 rest) (reads_pure _ rest))
  | @cons v w vs ws hitem _ ih =>
    obtain ⟨fuel, rfl⟩ := Nat.exists_eq_add_of_lt (Nat.zero_lt_of_lt hfuel)
    rw [Nat.zero_add] at hfuel ⊢
    obtain ⟨x, bs, hspelling, hspace, hclose⟩ := hitem.begins
    have hrest := ih (List.cons_ne_nil w done) (Nat.lt_of_succ_lt_succ hfuel) (count + 1)
    rw [List.reverse_cons, List.append_assoc] at hrest
    have hvalue : Reads (valueAt inner depth (path ++ [.item count])) _ _ w :=
      hitem.reads hinner hdepth (ends_itemChars vs rest)
    have hcomma : Reads (hasItem path false) [44]
        (Utf8.spelling v.chars ++ Utf8.spelling (itemChars vs) ++ rest) true := by
      rw [hspelling]
      exact reads_hasItem_later hspace hclose _
    rw [spelling_itemChars_cons, itemsWith, hfirst hdone]
    exact hcomma.bind (Reads.bind hvalue hrest)

/-- **A list is read back** item by item. -/
theorem readsBack_array (hitems : List.Forall₂ (ReadsBack levels) vs ws) :
    ReadsBack (levels + 1) (.array vs) (.array ws) where
  begins := by cases vs <;> exact ⟨_, _, rfl, by decide⟩
  reads {fuel depth path rest} hfuel hdepth _ := by
    obtain ⟨fuel, rfl⟩ := Nat.exists_eq_add_of_lt (Nat.zero_lt_of_lt hfuel)
    rw [Nat.zero_add] at hfuel ⊢
    cases hitems with
    | nil =>
      have hclose : Reads (itemsWith (valueAt fuel (depth + 1)) path ((93 :: rest).length + 1) 0 [])
          [93] rest [] :=
        Reads.look (reads_hasItem_end true rest)
          (Reads.last (reads_advance 93 rest) (reads_pure _ rest))
      exact Reads.look (reads_token rfl _) (Reads.bind (reads_enter (by omega) 91 _)
        (Reads.look (reads_left _) (Reads.last hclose (reads_pure _ rest))))
    | @cons v w vs ws hitem hitems =>
      obtain ⟨x, bs, hspelling, hspace, hclose⟩ := hitem.begins
      have hlength := length_itemChars vs
      have hchars : Utf8.spelling (Json.array (v :: vs)).chars =
          [91] ++ (Utf8.spelling v.chars ++ Utf8.spelling (itemChars vs)) := by
        rw [chars, Utf8.spelling_cons, Utf8.spelling_append]
        rfl
      have hvalue : Reads (valueAt fuel (depth + 1) (path ++ [.item 0])) _ _ w :=
        hitem.reads (Nat.lt_of_succ_lt_succ hfuel) (by omega) (ends_itemChars vs rest)
      rw [hchars]
      refine Reads.look (reads_token rfl _) (Reads.bind (reads_enter (by omega) 91 _)
        (Reads.look (reads_left _) (Reads.last ?_ (reads_pure _ rest))))
      have hfirst : Reads (hasItem path true) []
          (Utf8.spelling v.chars ++ Utf8.spelling (itemChars vs) ++ rest) true := by
        rw [hspelling]
        exact reads_hasItem_first hspace hclose _
      rw [itemsWith]
      refine hfirst.look (Reads.bind hvalue (reads_itemsWith hitems (List.cons_ne_nil w [])
        ?_ (Nat.lt_of_succ_lt_succ hfuel) (by omega) path 1 rest))
      simp only [List.length_append]
      omega

end Lists

/-! ## Objects -/

section Objects

variable {ms ms' : List (String × Json)}

/-- A member is read back under its key. -/
def MemberReadsBack (levels : Nat) (m m' : String × Json) : Prop :=
  m'.1 = m.1 ∧ ReadsBack levels m.2 m'.2

theorem spelling_memberChars_cons (m : String × Json) (ms : List (String × Json)) :
    Utf8.spelling (memberChars (m :: ms)) = (44 :: Utf8.spelling (stringText m.1)) ++
      ([58] ++ (Utf8.spelling m.2.chars ++ Utf8.spelling (memberChars ms))) := by
  obtain ⟨key, v⟩ := m
  rw [memberChars, Utf8.spelling_cons, Utf8.spelling_append, Utf8.spelling_cons,
    Utf8.spelling_append]
  rfl

theorem length_memberChars (ms : List (String × Json)) :
    ms.length < (Utf8.spelling (memberChars ms)).length := by
  induction ms with
  | nil => decide
  | cons m ms ih =>
    rw [spelling_memberChars_cons]
    simp only [List.length_append, List.length_cons, List.length_nil]
    omega

theorem ends_memberChars (ms : List (String × Json)) (rest : Bytes) :
    Ends (Utf8.spelling (memberChars ms) ++ rest) := by
  cases ms with
  | nil => exact ends_cons (by decide) rest
  | cons m ms =>
    rw [spelling_memberChars_cons]
    exact ends_cons (by decide) _

/-- Members, each after the one before it, and the closing brace. -/
theorem reads_membersWith (hmembers : List.Forall₂ (MemberReadsBack levels) ms ms')
    {done : List (String × Json)} (hdone : done ≠ []) {fuel inner depth : Nat}
    (hfuel : ms.length < fuel) (hinner : levels < inner) (hdepth : depth + levels < depthLimit)
    (path : List PathStep) (rest : Bytes) :
    Reads (membersWith (valueAt inner depth) path fuel done) (Utf8.spelling (memberChars ms)) rest
      (done.reverse ++ ms') := by
  have hfirst : ∀ {done : List (String × Json)}, done ≠ [] → done.isEmpty = false := by simp
  induction hmembers generalizing done fuel with
  | nil =>
    obtain ⟨fuel, rfl⟩ := Nat.exists_eq_add_of_lt hfuel
    rw [List.append_nil, membersWith, hfirst hdone]
    exact Reads.look (reads_key?_end false rest)
      (Reads.last (reads_advance 125 rest) (reads_pure _ rest))
  | @cons m m' ms ms' hmember _ ih =>
    obtain ⟨fuel, rfl⟩ := Nat.exists_eq_add_of_lt (Nat.zero_lt_of_lt hfuel)
    obtain ⟨key, v⟩ := m
    obtain ⟨key', w⟩ := m'
    obtain ⟨rfl, hvalue⟩ : key' = key ∧ ReadsBack levels v w := hmember
    rw [Nat.zero_add] at hfuel ⊢
    have hrest := ih (List.cons_ne_nil (key', w) done) (Nat.lt_of_succ_lt_succ hfuel)
    rw [List.reverse_cons, List.append_assoc] at hrest
    rw [spelling_memberChars_cons, membersWith, hfirst hdone]
    exact Reads.bind (reads_key?_later key' _) (Reads.bind (reads_colon _)
      (Reads.bind (hvalue.reads hinner hdepth (ends_memberChars ms rest)) hrest))

/-- **An object is read back** member by member. -/
theorem readsBack_object (hmembers : List.Forall₂ (MemberReadsBack levels) ms ms') :
    ReadsBack (levels + 1) (.object ms) (.ofMembers ms') where
  begins := by cases ms <;> exact ⟨_, _, rfl, by decide⟩
  reads {fuel depth path rest} hfuel hdepth _ := by
    obtain ⟨fuel, rfl⟩ := Nat.exists_eq_add_of_lt (Nat.zero_lt_of_lt hfuel)
    rw [Nat.zero_add] at hfuel ⊢
    cases hmembers with
    | nil =>
      have hclose : Reads
          (membersWith (valueAt fuel (depth + 1)) path ((125 :: rest).length + 1) [])
          [125] rest [] :=
        Reads.look (reads_key?_end true rest)
          (Reads.last (reads_advance 125 rest) (reads_pure _ rest))
      exact Reads.look (reads_token rfl _) (Reads.bind (reads_enter (by omega) 123 _)
        (Reads.look (reads_left _) (Reads.last hclose (reads_pure _ rest))))
    | @cons m m' ms ms' hmember hmembers =>
      obtain ⟨key, v⟩ := m
      obtain ⟨key', w⟩ := m'
      obtain ⟨rfl, hvalue⟩ : key' = key ∧ ReadsBack levels v w := hmember
      have hlength := length_memberChars ms
      have hchars : Utf8.spelling (Json.object ((key', v) :: ms)).chars =
          [123] ++ (Utf8.spelling (stringText key') ++
            ([58] ++ (Utf8.spelling v.chars ++ Utf8.spelling (memberChars ms)))) := by
        rw [chars, Utf8.spelling_cons, Utf8.spelling_append, Utf8.spelling_cons,
          Utf8.spelling_append]
        rfl
      rw [hchars]
      refine Reads.look (reads_token rfl _) (Reads.bind (reads_enter (by omega) 123 _)
        (Reads.look (reads_left _) (Reads.last ?_ (reads_pure _ rest))))
      rw [membersWith]
      refine Reads.bind (reads_key?_first key' _) (Reads.bind (reads_colon _) (Reads.bind
        (hvalue.reads (Nat.lt_of_succ_lt_succ hfuel) (by omega) (ends_memberChars ms rest))
        (reads_membersWith hmembers (List.cons_ne_nil (key', w) []) ?_
          (Nat.lt_of_succ_lt_succ hfuel) (by omega) path rest)))
      simp only [List.length_append]
      omega

/-- An object is read back whose members are read as they were. -/
theorem readsBack_object_of_same (hmembers : ∀ m ∈ ms, ReadsBack levels m.2 m.2) :
    ReadsBack (levels + 1) (.object ms) (.ofMembers ms) :=
  readsBack_object (List.forall₂_same.mpr fun m hm => ⟨rfl, hmembers m hm⟩)

/-- Members that are strings are written like any others. -/
theorem memberTexts_eq (ms : List (String × String)) :
    memberTexts ms = memberChars (stringMembers ms) := by
  induction ms with
  | nil => rfl
  | cons m ms ih =>
    have htext : memberTexts (m :: ms) =
        ServerMessage.memberText m.1 m.2 ++ memberTexts ms := List.append_assoc _ _ _
    have hmembers : stringMembers (m :: ms) = (m.1, .string m.2) :: stringMembers ms := rfl
    rw [htext, ih, hmembers, memberChars, ServerMessage.memberText, List.cons_append,
      List.append_assoc]
    rfl

/-- **A tagged object is read back** as a value. -/
theorem parse_taggedText (tag : String) (ms : List (String × String)) :
    parse (Utf8.spelling (taggedText tag ms)) =
      .ok (.ofMembers ((Tagged.tagKey, .string tag) :: stringMembers ms)) := by
  have hstrings : ∀ m ∈ stringMembers ((Tagged.tagKey, tag) :: ms), ReadsBack 0 m.2 m.2 := by
    intro m hm
    obtain ⟨_, -, rfl⟩ := List.mem_map.mp hm
    exact readsBack_string _
  have hchars : taggedText tag ms =
      (Json.object (stringMembers ((Tagged.tagKey, tag) :: ms))).chars := by
    rw [taggedText, memberTexts_eq]
    rfl
  rw [hchars]
  exact (readsBack_object_of_same hstrings).parse_eq (by decide)

end Objects

end Switchboard.Json
