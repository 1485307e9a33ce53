/-!
# Counts by label

A tally counts how often each label was met, in the order in which the labels were first met.
-/

namespace Switchboard

/-- Counts by label, each label once. -/
structure Tally where
  counts : List (String × Nat) := []
  deriving DecidableEq, Repr, Inhabited

namespace Tally

/-- Count one more in a list of counts. -/
def bumpIn (label : String) : List (String × Nat) → List (String × Nat)
  | [] => [(label, 1)]
  | (l, n) :: rest => if l = label then (l, n + 1) :: rest else (l, n) :: bumpIn label rest

/-- Count one more under a label. -/
def bump (t : Tally) (label : String) : Tally := ⟨bumpIn label t.counts⟩

/-- The count under a label. -/
def get (t : Tally) (label : String) : Nat := (t.counts.lookup label).getD 0

/-- The sum of a list of counts. -/
def sum (counts : List (String × Nat)) : Nat := counts.foldr (fun entry n => entry.2 + n) 0

/-- The sum of all counts. -/
def total (t : Tally) : Nat := sum t.counts

theorem lookup_cons_of_ne {k l : String} (h : k ≠ l) (a : α) (rest : List (String × α)) :
    ((l, a) :: rest).lookup k = rest.lookup k := by
  rw [List.lookup_cons, beq_false_of_ne h]

theorem lookup_bumpIn (label other : String) (counts : List (String × Nat)) :
    ((bumpIn label counts).lookup other).getD 0 =
      (counts.lookup other).getD 0 + if other = label then 1 else 0 := by
  induction counts with
  | nil =>
    by_cases h : other = label
    · simp [bumpIn, h]
    · simp [bumpIn, h, lookup_cons_of_ne h]
  | cons entry rest ih =>
    obtain ⟨l, n⟩ := entry
    rw [bumpIn]
    by_cases hl : l = label
    · subst hl
      by_cases h : other = l
      · simp [h]
      · simp [h, lookup_cons_of_ne h]
    · rw [if_neg hl]
      by_cases h : other = l
      · subst h
        simp [hl]
      · rw [lookup_cons_of_ne h, lookup_cons_of_ne h, ih]

theorem get_bump (t : Tally) (label other : String) :
    (t.bump label).get other = t.get other + if other = label then 1 else 0 :=
  lookup_bumpIn label other t.counts

theorem sum_bumpIn (label : String) (counts : List (String × Nat)) :
    sum (bumpIn label counts) = sum counts + 1 := by
  induction counts with
  | nil => rfl
  | cons entry rest ih =>
    obtain ⟨l, n⟩ := entry
    rw [bumpIn]
    split
    · simp only [sum, List.foldr_cons]
      omega
    · simp only [sum, List.foldr_cons] at ih ⊢
      omega

theorem total_bump (t : Tally) (label : String) : (t.bump label).total = t.total + 1 :=
  sum_bumpIn label t.counts

end Tally

end Switchboard
