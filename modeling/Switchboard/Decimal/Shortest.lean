import Switchboard.Decimal.Binary64

/-!
# The shortest decimal that reads back

The reals that round to a given double form an interval around it. `Decimal.shortest` walks the
decimal grids from coarse to fine and stops at the first with a point in that interval; of two such
points it takes the nearer. The ends belong to the interval exactly when the significand is even,
for then a tie rounds to it.

Layouts of the digits are functions on `Decimal`: `Decimal.plain` writes every number positionally.
-/

namespace Switchboard

/-- The positive decimal number `digits · 10 ^ exponent`, its last digit not zero. -/
structure Decimal where
  digits : Nat
  exponent : Int
  deriving DecidableEq, Repr

namespace Decimal

/-- The decimal digits of a natural number as text. -/
def digitText (n : Nat) : List Char := Nat.toDigits 10 n

/-- Strip zeros from the end of a digit string, `fuel` at most. -/
def strip : (fuel : Nat) → Nat → Int → Decimal
  | 0, digits, exponent => ⟨digits, exponent⟩
  | fuel + 1, digits, exponent =>
    if digits % 10 = 0 ∧ digits ≠ 0 then strip fuel (digits / 10) (exponent + 1)
    else ⟨digits, exponent⟩

/-- The exponent of the leading decimal digit of the positive number `num / den`, which is above
`10 ^ -330`. -/
def leading (num den : Nat) : Int :=
  (digitText (num * Nat.pow 10 330 / den)).length - 331

/-- An interval of positive numbers around `value`, all three over the denominator `den`; the ends
belong to it if `closed`. -/
structure Interval where
  low : Nat
  value : Nat
  high : Nat
  den : Nat
  closed : Bool

/-- Whether `num / den'` lies in the interval. -/
def Interval.contains (i : Interval) (num den' : Nat) : Bool :=
  if i.closed then decide (i.low * den' ≤ num * i.den ∧ num * i.den ≤ i.high * den')
  else decide (i.low * den' < num * i.den ∧ num * i.den < i.high * den')

/-- The multiple of `10 ^ p` in the interval that is nearest to its value. -/
def Interval.gridPoint (i : Interval) (p : Int) : Option Nat :=
  let up := Nat.pow 10 p.toNat
  let down := Nat.pow 10 (-p).toNat
  let below := i.value * down / (i.den * up)
  let fits (q : Nat) : Bool := decide (0 < q) && i.contains (q * up) down
  match fits below, fits (below + 1) with
  | true, true =>
    let twice := 2 * i.value * down
    let middle := (2 * below + 1) * i.den * up
    some (if twice < middle ∨ (twice = middle ∧ below % 2 = 0) then below else below + 1)
  | true, false => some below
  | false, true => some (below + 1)
  | false, false => none

/-- The reals that round to the double `m · 2 ^ e`, for positive `m`. -/
def Interval.ofDouble (m : Nat) (e : Int) : Interval :=
  let below := if m = Nat.pow 2 52 ∧ e > Binary64.minExponent then 1 else 2
  let scale := Nat.pow 2 (e - 2).toNat
  { low := (4 * m - below) * scale
    value := 4 * m * scale
    high := (4 * m + 2) * scale
    den := Nat.pow 2 (2 - e).toNat
    closed := m % 2 == 0 }

/-- Search the grids with `n`, `n + 1`, … digits, the leading digit at exponent `k`. -/
def search (i : Interval) (k : Int) : (fuel n : Nat) → Decimal
  | 0, n =>
    let digits := i.value * Nat.pow 10 (n - 1 - k).toNat / (i.den * Nat.pow 10 (k + 1 - n).toNat)
    strip 20 digits (k + 1 - n)
  | fuel + 1, n =>
    match i.gridPoint (k + 1 - n) with
    | some q => strip 20 q (k + 1 - n)
    | none => search i k fuel (n + 1)

/-- The shortest decimal that rounds to the double `m · 2 ^ e`, for positive `m`. -/
def shortest (m : Nat) (e : Int) : Decimal :=
  let i := Interval.ofDouble m e
  search i (leading i.value i.den) 17 1

/-- The digits before the point, should the number be written positionally. -/
def pointAt (d : Decimal) : Int := (digitText d.digits).length + d.exponent

/-- All digits written out, with a point only if some follow it. -/
def plain (d : Decimal) : String :=
  let digits := digitText d.digits
  let point := d.pointAt
  String.ofList <|
    if 0 ≤ d.exponent then digits ++ List.replicate d.exponent.toNat '0'
    else if 0 < point then digits.take point.toNat ++ '.' :: digits.drop point.toNat
    else '0' :: '.' :: (List.replicate (-point).toNat '0' ++ digits)

end Decimal

/-- A number written positionally with the fewest digits that read back. -/
def Binary64.plain : Binary64 → String
  | .nan => "NaN"
  | .infinite negative => if negative then "-inf" else "inf"
  | .finite negative m e =>
    let size := if m = 0 then "0" else (Decimal.shortest m e).plain
    if negative then "-" ++ size else size

/-- A number with exactly `places` digits after the point. No module of the library writes numbers
so: it is there for who shows measurements to people. -/
def Binary64.fixed (places : Nat) : Binary64 → String
  | .nan => "NaN"
  | .infinite negative => if negative then "-inf" else "inf"
  | .finite negative m e =>
    let units := Binary64.fixedUnits places m e
    let digits := Decimal.digitText units
    let padded := List.replicate (places + 1 - digits.length) '0' ++ digits
    let whole := padded.take (padded.length - places)
    let part := padded.drop (padded.length - places)
    String.ofList <|
      (if negative then ['-'] else []) ++ whole ++ (if places = 0 then [] else '.' :: part)

end Switchboard
