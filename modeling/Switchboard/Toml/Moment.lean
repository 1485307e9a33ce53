import Switchboard.Toml.Number

/-!
# Moments

A moment is a date, a time of day, or both with perhaps the distance from universal time. Fractions
of a second beyond nine digits are left out, and so are zeros at their end.
-/

namespace Switchboard.Toml

/-- A day. -/
structure Date where
  year : Nat
  month : Nat
  day : Nat
  deriving DecidableEq, Repr

/-- A time of day. -/
structure TimeOfDay where
  hour : Nat
  minute : Nat
  second : Nat
  /-- The digits of the fraction of the second. -/
  fraction : List Char
  deriving DecidableEq, Repr

/-- A number in at least `width` digits. -/
def padded (width n : Nat) : List Char :=
  let digits := Nat.toDigits 10 n
  List.replicate (width - digits.length) '0' ++ digits

/-- The number of days of a month. -/
def daysOf (year month : Nat) : Nat :=
  let isLeap := year % 4 = 0 && (year % 100 ≠ 0 || year % 400 = 0)
  if month = 2 then (if isLeap then 29 else 28)
  else if month = 4 || month = 6 || month = 9 || month = 11 then 30
  else 31

/-- A day as text. -/
def Date.chars (d : Date) : List Char :=
  padded 4 d.year ++ '-' :: padded 2 d.month ++ '-' :: padded 2 d.day

/-- A time of day as text. -/
def TimeOfDay.chars (t : TimeOfDay) : List Char :=
  let fraction := ((t.fraction.take 9).reverse.dropWhile (· = '0')).reverse
  padded 2 t.hour ++ ':' :: padded 2 t.minute ++ ':' :: padded 2 t.second ++
    (if fraction.isEmpty then [] else '.' :: fraction)

/-- The distance from universal time, in minutes, as text. None is the letter of universal time. -/
def offsetChars : Option Int → List Char
  | none => ['Z']
  | some minutes =>
    let n := minutes.natAbs
    (if minutes < 0 then '-' else '+') :: padded 2 (n / 60) ++ ':' :: padded 2 (n % 60)

namespace Reader

/-- Read a number of `count` digits within a range. -/
def numberOf (count low high : Nat) : Reader Nat := do
  let cs ← get
  let digits := cs.take count
  if digits.length < count || !digits.all Char.isDigit then fail {}
  let n := Decimal.spelled 0 digits
  if n < low || high < n then fail outOfRange
  set (cs.drop count)
  return n

/-- Read a date. -/
def date : Reader Date := do
  let year ← numberOf 4 0 9999
  require ['-']
  cut do
    let month ← numberOf 2 1 12
    require ['-']
    let start ← get
    let day ← numberOf 2 1 31
    if daysOf year month < day then failAt start outOfRange
    return { year, month, day }

/-- Read the fraction of a second. -/
def secondFraction : Reader (List Char) := do
  require ['.']
  let digits ← takeWhile Char.isDigit
  if digits.isEmpty then fail {}
  return digits

/-- Read a time of day. -/
def timeOfDay : Reader TimeOfDay := do
  let hour ← numberOf 2 0 23
  require [':']
  cut do
    let minute ← numberOf 2 0 59
    require [':']
    let second ← numberOf 2 0 60
    return { hour, minute, second, fraction := (← attempt secondFraction).getD [] }

/-- Read the distance from universal time. -/
def offset : Reader (Option Int) :=
  named "time offset" do
    let c ← digit fun c => c = 'Z' || c = 'z' || c = '+' || c = '-'
    if c = 'Z' || c = 'z' then return none
    else
      cut do
        let hours ← numberOf 2 0 23
        require [':']
        let minutes ← numberOf 2 0 59
        let n : Int := hours * 60 + minutes
        return some (if c = '-' then -n else n)

/-- Read a time of day that follows a date. -/
def timeAfterDate : Reader (List Char) := do
  let _ ← digit fun c => c = 'T' || c = 't' || c = ' '
  let time ← timeOfDay
  let zone := (← attempt offset).map offsetChars
  return 'T' :: time.chars ++ zone.getD []

/-- Read a moment. -/
def moment : Reader Toml :=
  let withDate : Reader (List Char) := named "date-time" do
    let date ← date
    return date.chars ++ (← attempt timeAfterDate).getD []
  let withoutDate : Reader (List Char) := named "time" do
    let time ← timeOfDay
    return time.chars
  do return .moment (.ofList (← either withDate withoutDate))

end Reader

end Switchboard.Toml
