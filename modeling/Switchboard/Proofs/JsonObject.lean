import Mathlib.Data.List.Basic
import Switchboard.Protocol

/-!
# The members of an object, as its text gives them

A value keeps the members of an object in the order of their keys, each key once. `Json.members?`
keeps them as they are written, in their order and with repetitions. `Json.parse_cases` says that a
text is no JSON, or a value that is no object, or an object with such members; of several members
with one key the last one counts (`Json.get?_ofMembers`).
-/

namespace Switchboard.Json

/-! ## The last member of a key -/

theorem lookup_cons_eq (key k : String) (v : Json) (ms : List (String × Json)) :
    ((k, v) :: ms).lookup key = if key = k then some v else ms.lookup key := by
  rw [List.lookup_cons]
  by_cases hkey : key = k
  · simp [hkey]
  · simp [beq_eq_false_iff_ne.mpr hkey, hkey]

theorem lookup_insert (key k : String) (v : Json) (sorted : List (String × Json)) :
    (insert k v sorted).lookup key = if key = k then some v else sorted.lookup key := by
  induction sorted with
  | nil => exact lookup_cons_eq key k v []
  | cons m rest ih =>
    obtain ⟨k', v'⟩ := m
    rw [insert]
    split
    · exact lookup_cons_eq key k v _
    · split
      · rename_i heq
        rw [lookup_cons_eq, lookup_cons_eq, heq]
        split <;> rfl
      · rename_i hne
        rw [lookup_cons_eq, ih, lookup_cons_eq]
        split
        · rename_i hkey
          rw [if_neg fun h => hne (h.symm.trans hkey)]
        · rfl

theorem lookup_foldl_insert (key : String) (ms sorted : List (String × Json)) :
    (ms.foldl (fun sorted (k, v) => insert k v sorted) sorted).lookup key =
      (ms.reverse ++ sorted).lookup key := by
  induction ms generalizing sorted with
  | nil => rfl
  | cons m rest ih =>
    rw [List.foldl_cons, ih, List.reverse_cons, List.append_assoc, List.lookup_append,
      List.lookup_append, lookup_insert, List.singleton_append, lookup_cons_eq]

/-- **Of several members with one key the last one counts.** -/
theorem get?_ofMembers (key : String) (ms : List (String × Json)) :
    (ofMembers ms).get? key = ms.reverse.lookup key := by
  rw [ofMembers, get?, lookup_foldl_insert, List.append_nil]

/-! ## Objects are read as such -/

/-- Whether a value is no object. -/
def NoObject : Json → Prop
  | .object _ => False
  | _ => True

namespace Reader

/-- Whatever a reader returns has a property. -/
def Yields (r : Reader α) (P : α → Prop) : Prop := ∀ c a c', r.run c = .ok (a, c') → P a

section Yielding

variable {α β : Type} {P : β → Prop} {path : List PathStep} {r : Reader α} {f : α → Reader β}

theorem yields_pure {b : β} (h : P b) : Yields (pure b) P := by
  intro c a c' hrun
  cases hrun
  exact h

theorem yields_fail (fault : Fault) : Yields (fail path fault : Reader β) P :=
  fun _ _ _ hrun => by cases hrun

theorem yields_failNext (fault : Fault) : Yields (failNext path fault : Reader β) P :=
  fun _ _ _ hrun => by cases hrun

/-- What a reader returns at the end is up to what it does last. -/
theorem yields_bind (h : ∀ a, Yields (f a) P) : Yields (r >>= f) P := by
  intro c b c' hrun
  rw [StateT.run_bind] at hrun
  cases hfirst : r.run c with
  | error e =>
    rw [hfirst] at hrun
    cases hrun
  | ok read =>
    rw [hfirst] at hrun
    exact h read.1 read.2 b c' hrun

end Yielding

section Numbers

variable {path : List PathStep} {positive : Bool} {significand : Nat}

theorem yields_real (exponent : Int) :
    Yields (real path positive significand exponent) NoObject := by
  rw [real]
  split
  · exact yields_fail _
  · exact yields_pure trivial

/-- An exponent after its sign. -/
theorem yields_exponentDigits (start : Int) (up : Bool) :
    Yields (do
      match ← next with
      | none => fail path .endInValue
      | some b =>
        if !isDigit b then fail path .invalidNumber
        else
          match ← exponentDigits (← left) (b.toNat - 48) with
          | some e =>
            let e : Int :=
              if up then min (start + e) exponentBound else max (start - e) (-exponentBound - 1)
            real path positive significand e
          | none =>
            if significand ≠ 0 ∧ up then fail path .numberOutOfRange
            else
              skipWhile isDigit
              return .real (if positive then .zero else Binary64.zero.neg)) NoObject := by
  refine yields_bind fun x => ?_
  split
  · exact yields_fail _
  · split
    · exact yields_fail _
    · refine yields_bind fun _ => yields_bind fun e => ?_
      split
      · exact yields_real _
      · split
        · exact yields_fail _
        · exact yields_bind fun _ => yields_pure trivial

theorem yields_exponentPart (start : Int) :
    Yields (exponentPart path positive significand start) NoObject := by
  rw [exponentPart]
  refine yields_bind fun _ => yields_bind fun x => ?_
  dsimp only
  split
  · exact yields_bind fun _ => yields_bind (yields_exponentDigits start)
  · exact yields_bind fun _ => yields_bind (yields_exponentDigits start)
  · exact yields_bind (yields_exponentDigits start)

theorem yields_afterFraction (exponent : Int) :
    Yields (afterFraction path positive significand exponent) NoObject := by
  rw [afterFraction]
  refine yields_bind fun x => ?_
  split
  · exact yields_exponentPart exponent
  · exact yields_exponentPart exponent
  · exact yields_real exponent

theorem yields_fraction (start : Int) :
    Yields (fraction path positive significand start) NoObject := by
  rw [fraction]
  refine yields_bind fun _ => yields_bind fun _ => yields_bind fun x => ?_
  obtain ⟨significand, count, more⟩ := x
  dsimp only
  split
  · exact yields_bind fun _ => yields_afterFraction _
  · split
    · refine yields_bind fun y => ?_
      split
      · exact yields_failNext _
      · exact yields_failNext _
    · exact yields_afterFraction _

theorem yields_longInteger : Yields (longInteger path positive significand) NoObject := by
  rw [longInteger]
  refine yields_bind fun _ => yields_bind fun _ => yields_bind fun _ => yields_bind fun x => ?_
  split
  · exact yields_fraction _
  · exact yields_exponentPart _
  · exact yields_exponentPart _
  · exact yields_real _

theorem yields_afterInteger : Yields (afterInteger path positive significand) NoObject := by
  rw [afterInteger]
  refine yields_bind fun x => ?_
  split
  · exact yields_fraction 0
  · exact yields_exponentPart 0
  · exact yields_exponentPart 0
  · split
    · exact yields_pure trivial
    · split
      · exact yields_pure trivial
      · exact yields_pure trivial

theorem yields_number : Yields (number path positive) NoObject := by
  rw [number]
  refine yields_bind fun x => ?_
  split
  · exact yields_fail _
  · refine yields_bind fun y => ?_
    split
    · split
      · exact yields_failNext _
      · exact yields_afterInteger
    · exact yields_afterInteger
  · split
    · exact yields_fail _
    · refine yields_bind fun _ => yields_bind fun y => ?_
      obtain ⟨significand, count, more⟩ := y
      dsimp only
      split
      · exact yields_longInteger
      · exact yields_afterInteger

/-- No object is read where none is opened. -/
theorem yields_scalar (b : UInt8) : Yields (scalar path b) NoObject := by
  rw [scalar]
  repeat' split
  · exact yields_bind fun _ => yields_bind fun _ => yields_pure trivial
  · exact yields_bind fun _ => yields_bind fun _ => yields_pure trivial
  · exact yields_bind fun _ => yields_bind fun _ => yields_pure trivial
  · exact yields_bind fun _ => yields_number
  · exact yields_number
  · exact yields_bind fun _ => yields_bind fun _ => yields_pure trivial
  · exact yields_failNext _

end Numbers

/-- Read the members of an object from its opening brace on, and the end of the text. -/
def objectFrom : Option UInt8 → Reader (List (String × Json))
  | some 123 => do
    enter [] 0
    let ms ← membersWith (valueAt 127 1) [] ((← left) + 1) []
    finish
    return ms
  | _ => failNext [] .expectedValue

/-- Read a text that holds one object. -/
def object : Reader (List (String × Json)) := do objectFrom (← token)

/-- Read a value from its first byte on. -/
def valueFrom : Option UInt8 → Reader Json
  | none => failNext [] .endInValue
  | some 91 => do
    enter [] 0
    return .array (← itemsWith (valueAt 127 1) [] ((← left) + 1) 0 [])
  | some 123 => do
    enter [] 0
    return .ofMembers (← membersWith (valueAt 127 1) [] ((← left) + 1) [])
  | some b => scalar [] b

/-- What follows is read for its own sake. -/
theorem Yields.before {P : α → Prop} {r : Reader α} (yields : Yields r P) (after : Reader Unit) :
    Yields (do let v ← r; after; return v) P := by
  intro c v c' hrun
  rw [StateT.run_bind] at hrun
  cases hfirst : r.run c with
  | error e =>
    rw [hfirst] at hrun
    cases hrun
  | ok read =>
    rw [hfirst] at hrun
    change ((after >>= fun _ => pure read.1) : Reader α).run read.2 = .ok (v, c') at hrun
    refine yields_bind (fun _ => yields_pure ?_) read.2 v c' hrun
    exact yields c read.1 read.2 hfirst

theorem yields_valueFrom {x : Option UInt8} (hx : x ≠ some 123) :
    Yields (do let v ← valueFrom x; finish; return v) NoObject := by
  refine Yields.before ?_ finish
  rw [valueFrom.eq_def]
  split
  · exact yields_failNext _
  · exact yields_bind fun _ => yields_bind fun _ => yields_bind fun _ => yields_pure trivial
  · exact absurd rfl hx
  · exact yields_scalar _

/-- An object is read alike with its members in their order and as a value. -/
theorem run_valueFrom_brace (c : Cursor) :
    (do let v ← valueFrom (some 123); finish; return v : Reader Json).run c =
      (fun read => (Json.ofMembers read.1, read.2)) <$> (objectFrom (some 123)).run c := by
  rw [valueFrom, objectFrom]
  simp only [StateT.run_bind, bind_assoc, map_bind]
  refine bind_congr fun _ => bind_congr fun _ => bind_congr fun _ => ?_
  rfl

end Reader

/-- The members of an object, as they are written in the text that holds it. -/
def members? (text : Bytes) : Option (List (String × Json)) :=
  (Reader.object.run' (Reader.start text)).toOption

theorem value_eq : Reader.value 0 [] = (do Reader.valueFrom (← Reader.token)) := by
  change Reader.valueAt (127 + 1) 0 [] = _
  rw [Reader.valueAt]
  exact bind_congr fun x => (Reader.valueFrom.eq_def x).symm

/-- **A text is no JSON, or a value that is no object, or an object** with members that it gives in
some order. -/
theorem parse_cases (text : Bytes) :
    ((∃ e, parse text = .error e) ∧ members? text = none) ∨
      ((∃ v, parse text = .ok v ∧ v.NoObject) ∧ members? text = none) ∨
      ∃ ms, members? text = some ms ∧ parse text = .ok (.ofMembers ms) := by
  obtain ⟨x, c, htoken⟩ : ∃ x c, Reader.token.run (Reader.start text) = .ok (x, c) := ⟨_, _, rfl⟩
  have hparse : parse text = Prod.fst <$>
      (do let v ← Reader.valueFrom x; Reader.finish; return v : Reader Json).run c := by
    rw [parse, value_eq, bind_assoc, StateT.run'_eq, StateT.run_bind, htoken]
    rfl
  have hmembers : members? text = (Prod.fst <$> (Reader.objectFrom x).run c).toOption := by
    rw [members?, Reader.object, StateT.run'_eq, StateT.run_bind, htoken]
    rfl
  -- the first byte that is no space tells whether there is an object
  by_cases hx : x = some 123
  · subst hx
    rw [Reader.run_valueFrom_brace] at hparse
    rw [hmembers, hparse]
    cases (Reader.objectFrom (some 123)).run c with
    | error e => exact .inl ⟨⟨e, rfl⟩, rfl⟩
    | ok read => exact .inr (.inr ⟨read.1, rfl, rfl⟩)
  · have hnone : members? text = none := by
      rw [hmembers, Reader.objectFrom.eq_def]
      split
      · exact absurd rfl hx
      · rfl
    have hyields := Reader.yields_valueFrom hx c
    rw [hparse]
    cases hrun : (do let v ← Reader.valueFrom x; Reader.finish; return v : Reader Json).run c with
    | error e => exact .inl ⟨⟨e, rfl⟩, hnone⟩
    | ok read => exact .inr (.inl ⟨⟨read.1, rfl, hyields read.1 read.2 hrun⟩, hnone⟩)

theorem parse_of_members? {text : Bytes} {ms : List (String × Json)}
    (hms : members? text = some ms) : parse text = .ok (.ofMembers ms) := by
  rcases parse_cases text with ⟨-, hnone⟩ | ⟨-, hnone⟩ | ⟨ms', hms', hparse⟩
  · cases hms.symm.trans hnone
  · cases hms.symm.trans hnone
  · obtain rfl := Option.some.inj (hms.symm.trans hms')
    exact hparse

end Switchboard.Json
