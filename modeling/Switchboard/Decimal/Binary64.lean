/-!
# Double-precision numbers, exactly

A finite double is a sign and `m · 2 ^ e`. Arithmetic is carried out on exact quotients of natural
numbers and rounded once, to the nearest double, a tie going to the even significand. Every finite
double has one form here: `m < 2 ^ 53`, and `m ≥ 2 ^ 52` unless `e` is the least exponent.
-/

namespace Switchboard

/-- A double-precision number. -/
inductive Binary64 where
  | nan
  | infinite (negative : Bool)
  /-- The number `± m · 2 ^ e`. -/
  | finite (negative : Bool) (m : Nat) (e : Int)
  deriving DecidableEq, Repr, Inhabited

namespace Binary64

/-- The exponent of the smallest positive double. -/
def minExponent : Int := -1074

/-- The largest exponent of a double. -/
def maxExponent : Int := 971

/-- The quotient `m · 2 ^ e` as numerator and denominator. -/
def quotient (m : Nat) (e : Int) : Nat × Nat :=
  (m * Nat.pow 2 e.toNat, Nat.pow 2 (-e).toNat)

/-- The greatest `k` with `2 ^ k ≤ num / den`, for positive `num` and `den`. -/
def floorLog2 (num den : Nat) : Int :=
  let k : Int := (Nat.log2 num : Int) - Nat.log2 den
  if num * Nat.pow 2 (-k).toNat < den * Nat.pow 2 k.toNat then k - 1 else k

/-- The quotient `num / den` to the nearest integer, a half to the even neighbour. -/
def divHalfEven (num den : Nat) : Nat :=
  let q := num / den
  let r := num % den
  if 2 * r > den ∨ (2 * r = den ∧ q % 2 = 1) then q + 1 else q

/-- The double nearest to `± num / den`. -/
def round (negative : Bool) (num den : Nat) : Binary64 :=
  if num = 0 then .finite negative 0 minExponent
  else
    let e := max (floorLog2 num den - 52) minExponent
    let m := divHalfEven (num * Nat.pow 2 (-e).toNat) (den * Nat.pow 2 e.toNat)
    let (m, e) := if m = Nat.pow 2 53 then (Nat.pow 2 52, e + 1) else (m, e)
    if e > maxExponent then .infinite negative else .finite negative m e

/-- The double nearest to a natural number. -/
def ofNat (n : Nat) : Binary64 := round false n 1

/-- Zero. -/
def zero : Binary64 := .finite false 0 minExponent

/-- The double nearest to `± digits · 10 ^ exponent`. -/
def ofDecimal (negative : Bool) (digits : Nat) (exponent : Int) : Binary64 :=
  let size : Int := (Nat.log2 digits : Int) + 1
  if digits = 0 then round negative 0 1
  else if exponent > 400 then .infinite negative
  else if exponent < -(size + 400) then round negative 0 1
  else round negative (digits * Nat.pow 10 exponent.toNat) (Nat.pow 10 (-exponent).toNat)

/-- Whether a number carries the sign. -/
def isNegative : Binary64 → Bool
  | .nan => false
  | .infinite negative => negative
  | .finite negative _ _ => negative

/-- Whether a number is a zero of either sign. -/
def isZero : Binary64 → Bool
  | .finite _ m _ => m == 0
  | _ => false

/-- Change of sign. -/
def neg : Binary64 → Binary64
  | .nan => .nan
  | .infinite negative => .infinite !negative
  | .finite negative m e => .finite (!negative) m e

/-- Product. -/
def mul : Binary64 → Binary64 → Binary64
  | .finite s m e, .finite s' m' e' =>
    let (num, den) := quotient (m * m') (e + e')
    round (s != s') num den
  | .nan, _ | _, .nan => .nan
  | x, y => if x.isZero || y.isZero then .nan else .infinite (x.isNegative != y.isNegative)

/-- Quotient. -/
def div : Binary64 → Binary64 → Binary64
  | .finite s m e, .finite s' m' e' =>
    if m' = 0 then (if m = 0 then .nan else .infinite (s != s'))
    else
      let (num, den) := quotient m (e - e')
      round (s != s') num (den * m')
  | .nan, _ | _, .nan => .nan
  | .infinite s, y => if y matches .infinite _ then .nan else .infinite (s != y.isNegative)
  | x, .infinite s => round (x.isNegative != s) 0 1

/-- The value of a finite number in units of `2 ^ e`, for an `e` not above its exponent. -/
def units (e : Int) (negative : Bool) (m : Nat) (e' : Int) : Int :=
  let size : Int := (m * Nat.pow 2 (e' - e).toNat : Nat)
  if negative then -size else size

/-- Sum. -/
def add : Binary64 → Binary64 → Binary64
  | .finite s m e, .finite s' m' e' =>
    let least := min e e'
    let total := units least s m e + units least s' m' e'
    if total = 0 then round (s && s') 0 1
    else
      let (num, den) := quotient total.natAbs least
      round (decide (total < 0)) num den
  | .nan, _ | _, .nan => .nan
  | .infinite s, .infinite s' => if s = s' then .infinite s else .nan
  | .infinite s, _ | _, .infinite s => .infinite s

/-- Whether one number is at most another; a NaN compares with nothing. -/
def le : Binary64 → Binary64 → Bool
  | .nan, _ | _, .nan => false
  | .infinite s, .infinite s' => s || !s'
  | .infinite s, _ => s
  | _, .infinite s => !s
  | .finite s m e, .finite s' m' e' =>
    let least := min e e'
    decide (units least s m e ≤ units least s' m' e')

/-- The size of a finite number to the nearest natural number, a half away from zero. -/
def natAbsRound (m : Nat) (e : Int) : Nat :=
  let (num, den) := quotient m e
  (2 * num + den) / (2 * den)

/-- The size of a finite number in units of `10 ^ -places`, a half to the even neighbour, for
numbers that are shown with so many places. -/
def fixedUnits (places m : Nat) (e : Int) : Nat :=
  let (num, den) := quotient m e
  divHalfEven (num * Nat.pow 10 places) den

end Binary64

end Switchboard
