import Switchboard.Decimal.Shortest
import Switchboard.Json.Value

/-!
# Writing JSON

`Json.print` writes a value without white space, members in the order of the object. Only quotes,
backslashes and controls are escaped in strings. A double is written with the fewest digits that
read back: positionally from `0.00001` to below `10 ^ 16`, always with a point, and with an exponent
beyond.
-/

namespace Switchboard.Json

/-- A decimal number as a JSON number that reads back as a double. -/
def decimalText (d : Decimal) : List Char :=
  let digits := Decimal.digitText d.digits
  let point := d.pointAt
  if 0 ≤ d.exponent ∧ point ≤ 16 then
    digits ++ List.replicate d.exponent.toNat '0' ++ ['.', '0']
  else if 0 < point ∧ point ≤ 16 then
    digits.take point.toNat ++ '.' :: digits.drop point.toNat
  else if -5 < point ∧ point ≤ 0 then
    '0' :: '.' :: (List.replicate (-point).toNat '0' ++ digits)
  else
    let whole := digits.take 1
    let part := digits.drop 1
    let power := point - 1
    let sign := if power < 0 then '-' else '+'
    whole ++ (if part.isEmpty then [] else '.' :: part) ++
      'e' :: sign :: Decimal.digitText power.natAbs

/-- A double as a JSON number; a number that JSON cannot write is null. -/
def realText : Binary64 → List Char
  | .finite negative m e =>
    (if negative then ['-'] else []) ++
      (if m = 0 then ['0', '.', '0'] else decimalText (Decimal.shortest m e))
  | _ => ['n', 'u', 'l', 'l']

/-- The hexadecimal digit of a number below sixteen. -/
def hexDigit (n : Nat) : Char := Nat.digitChar n

/-- A character as it is written in a string. -/
def escapeChar (c : Char) : List Char :=
  if c = '"' then ['\\', '"']
  else if c = '\\' then ['\\', '\\']
  else if c.toNat ≥ 32 then [c]
  else if c = '\x08' then ['\\', 'b']
  else if c = '\x0c' then ['\\', 'f']
  else if c = '\n' then ['\\', 'n']
  else if c = '\r' then ['\\', 'r']
  else if c = '\t' then ['\\', 't']
  else ['\\', 'u', '0', '0', hexDigit (c.toNat / 16), hexDigit (c.toNat % 16)]

/-- A string with its quotes. -/
def stringText (s : String) : List Char :=
  '"' :: (s.toList.flatMap escapeChar ++ ['"'])

mutual

/-- The text of a value. -/
def chars : Json → List Char
  | .null => ['n', 'u', 'l', 'l']
  | .bool true => ['t', 'r', 'u', 'e']
  | .bool false => ['f', 'a', 'l', 's', 'e']
  | .integer i => (toString i).toList
  | .real x => realText x
  | .string s => stringText s
  | .array [] => ['[', ']']
  | .array (item :: items) => '[' :: (chars item ++ itemChars items)
  | .object [] => ['\x7b', '\x7d']
  | .object ((key, v) :: members) =>
    '\x7b' :: (stringText key ++ ':' :: (chars v ++ memberChars members))

/-- The items after the first and the closing bracket. -/
def itemChars : List Json → List Char
  | [] => [']']
  | item :: items => ',' :: (chars item ++ itemChars items)

/-- The members after the first and the closing brace. -/
def memberChars : List (String × Json) → List Char
  | [] => ['\x7d']
  | (key, v) :: members => ',' :: (stringText key ++ ':' :: (chars v ++ memberChars members))

end

/-- The text of a value. -/
def print (v : Json) : String := String.ofList v.chars

end Switchboard.Json
