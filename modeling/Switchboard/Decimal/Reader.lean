import Switchboard.Decimal.Shortest

/-!
# Reading numbers

A whole number is decimal digits after an optional sign. A real number may have a point, with digits
before or after it, and an exponent; or it is one of the words for infinity and for what is no
number, in letters of either case.
-/

namespace Switchboard.Decimal

/-- The sign at the beginning of a text, and what follows it. -/
def sign : List Char → Bool × List Char
  | '-' :: rest => (true, rest)
  | '+' :: rest => (false, rest)
  | cs => (false, cs)

/-- The number that decimal digits spell, after those that spell `n`. -/
def spelled (n : Nat) (cs : List Char) : Nat := cs.foldl (fun n c => n * 10 + (c.toNat - 48)) n

/-- The whole number that a text spells. -/
def integer? (cs : List Char) : Option Int :=
  let (negative, cs) := sign cs
  if cs.isEmpty || !cs.all Char.isDigit then none
  else
    let n := spelled 0 cs
    if negative then (if n ≤ Nat.pow 2 63 then some (-(n : Int)) else none)
    else if n < Nat.pow 2 63 then some (n : Int) else none

/-- The exponent that a text spells, if the text is one or is empty. -/
def exponent? : List Char → Option Int
  | [] => some 0
  | c :: rest =>
    let (negative, cs) := sign rest
    if (c = 'e' || c = 'E') && !cs.isEmpty && cs.all Char.isDigit then
      let n : Int := spelled 0 cs
      some (if negative then -n else n)
    else none

/-- The real number that a text spells. -/
def real? (cs : List Char) : Option Binary64 :=
  let (negative, cs) := sign cs
  let word := cs.map Char.toLower
  if word = "inf".toList || word = "infinity".toList then some (.infinite negative)
  else if word = "nan".toList then some .nan
  else
    let whole := cs.takeWhile Char.isDigit
    let rest := cs.dropWhile Char.isDigit
    let (fraction, rest) := match rest with
      | '.' :: rest => (rest.takeWhile Char.isDigit, rest.dropWhile Char.isDigit)
      | _ => ([], rest)
    if whole.isEmpty && fraction.isEmpty then none
    else
      (exponent? rest).map fun e =>
        .ofDecimal negative (spelled (spelled 0 whole) fraction) (e - fraction.length)

/-- The natural number that a text spells, perhaps after a plus sign, if it is at most `limit`. -/
def natural? (limit : Nat) (cs : List Char) : Option Nat :=
  let cs := match cs with
    | '+' :: rest => rest
    | cs => cs
  let n := spelled 0 cs
  if cs.isEmpty || !cs.all Char.isDigit || limit < n then none else some n

end Switchboard.Decimal
