/-!
# Cutting a text

A text is cut at places counted in bytes, or at its separators.

A place of a text is the number of bytes before it. A text can be cut between its characters only:
a place within a character has nothing before or after it. What is before a place and what is after
it make up the text (`Cut.before_append_after`).
-/

namespace Switchboard

namespace Cut

/-- The characters after a place, if it is none within a character and none past the end. -/
def after? : Nat → List Char → Option (List Char)
  | 0, cs => some cs
  | _ + 1, [] => none
  | n + 1, c :: cs => if c.utf8Size ≤ n + 1 then after? (n + 1 - c.utf8Size) cs else none

/-- The characters before a place, if it is none within a character and none past the end. -/
def before? : Nat → List Char → Option (List Char)
  | 0, _ => some []
  | _ + 1, [] => none
  | n + 1, c :: cs =>
    if c.utf8Size ≤ n + 1 then (before? (n + 1 - c.utf8Size) cs).map (c :: ·) else none

/-- The characters between two places. -/
def between? (start stop : Nat) (cs : List Char) : Option (List Char) :=
  (after? start cs).bind (before? (stop - start))

/-- The pieces of a text between separators. -/
def pieces (separator : Char) (s : String) : List String :=
  (s.toList.splitOn separator).map String.ofList

/-- The two sides of a place make up the text. -/
theorem before_append_after {n : Nat} {cs a b : List Char} (ha : before? n cs = some a)
    (hb : after? n cs = some b) : a ++ b = cs := by
  induction cs generalizing n a with
  | nil => cases n <;> simp_all [before?, after?]
  | cons c cs ih =>
    cases n with
    | zero => simp_all [before?, after?]
    | succ n =>
      simp only [before?, after?] at ha hb
      split at ha
      · rename_i h
        rw [if_pos h] at hb
        obtain ⟨a', ha', rfl⟩ := Option.map_eq_some_iff.mp ha
        simp [ih ha' hb]
      · simp at ha

end Cut

end Switchboard
