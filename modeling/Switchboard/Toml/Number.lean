import Switchboard.Decimal.Reader
import Switchboard.Toml.Text
import Switchboard.Toml.Value

/-!
# Numbers

Digits may be grouped by underscores, each of which stands between two digits. A whole number may be
written to another base; a real number has a fraction, an exponent or both, or is a word.
-/

namespace Switchboard.Toml.Reader

/-- Read a digit. -/
def digit (isDigit : Char → Bool) : Reader Char := do
  match ← peek with
  | some c => if isDigit c then advance; return c else fail {}
  | none => fail {}

/-- Read the digits after the first one, `fuel` at most. -/
def moreDigits (isDigit : Char → Bool) : (fuel : Nat) → Reader (List Char)
  | 0 => return []
  | fuel + 1 => do
    if ← accept ['_'] then
      let c ← expecting ["digit"] (cut (digit isDigit))
      return c :: (← moreDigits isDigit fuel)
    else
      match ← attempt (digit isDigit) with
      | some c => return c :: (← moreDigits isDigit fuel)
      | none => return []

/-- Read digits in groups. -/
def digits (isDigit : Char → Bool) : Reader (List Char) := do
  let first ← digit isDigit
  return first :: (← moreDigits isDigit ((← get).length + 1))

/-- Read a sign, if one is there: whether it is a minus. -/
def sign : Reader Bool := do
  if ← accept ['-'] then return true
  else
    let _ ← accept ['+']
    return false

/-- Read a whole number in decimal digits: whether it is negative, and its digits. One that begins
with a zero has no more digits. -/
def decimal : Reader (Bool × List Char) :=
  named "integer" do
    let negative ← sign
    let first ← digit Char.isDigit
    let more ← if first = '0' then pure [] else moreDigits Char.isDigit ((← get).length + 1)
    return (negative, first :: more)

/-- A whole number of 64 bits, or the fault of one that is none where it began. -/
def integerOf (start : List Char) (i : Int) : Reader Toml :=
  let tooLong (size : String) : Reader Toml :=
    cut (failAt start { reason := some s!"number too {size} to fit in target type" })
  if i < -(Nat.pow 2 63) then tooLong "small" else if Nat.pow 2 63 ≤ i then tooLong "large" else
    return .integer i

/-- The letters that announce a base, with the base and its name. -/
def bases : List (Char × Nat × String) :=
  [('x', 16, "hexadecimal"), ('o', 8, "octal"), ('b', 2, "binary")]

/-- Read a whole number. -/
def integer : Reader Toml := do
  let start ← get
  let base? := match start with
    | '0' :: c :: _ => bases.lookup c
    | _ => none
  match base? with
  | some (base, name) =>
    let isDigit (c : Char) : Bool := (hexValue? c).any fun v => decide (v < base)
    set (start.drop 2)
    let cs ← cut (named s!"{name} integer" (digits isDigit))
    integerOf start (number base cs)
  | none =>
    let (negative, cs) ← decimal
    let n : Int := Decimal.spelled 0 cs
    integerOf start (if negative then -n else n)

/-- Read an exponent. -/
def exponent : Reader Int := do
  let _ ← digit fun c => c = 'e' || c = 'E'
  let negative ← sign
  let n : Int := Decimal.spelled 0 (← cut (digits Char.isDigit))
  return if negative then -n else n

/-- Read a fraction. -/
def fraction : Reader (List Char) := do
  require ['.']
  expecting ["digit"] (cut (digits Char.isDigit))

/-- Read a real number in digits. One that is too large is noticed where it began. -/
def realDigits : Reader Toml := do
  let start ← get
  let (negative, whole) ← decimal
  let (part, e) ← either (do return ([], ← exponent)) do
    let part ← fraction
    return (part, (← attempt exponent).getD 0)
  let n := Decimal.spelled (Decimal.spelled 0 whole) part
  match Binary64.ofDecimal negative n (e - part.length) with
  | .infinite false => cut (failAt start {})
  | x => return .real x

/-- Read a real number that is a word. -/
def realWord : Reader Toml := do
  let negative ← sign
  if ← accept "inf".toList then return .real (.infinite negative)
  else
    require "nan".toList
    return .real .nan

/-- Read a real number. -/
def real : Reader Toml := named "floating-point number" (either realDigits realWord)

end Switchboard.Toml.Reader
