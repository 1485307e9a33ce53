import Switchboard.Text.Unshown

/-!
# Quoted text

`quote` puts a text between double quotes for a reader of logs and error messages: quotes and
backslashes are escaped, the usual controls by letter, and every other character that is not shown
as itself by its code point.
-/

namespace Switchboard.Quoted

/-- The hexadecimal digits of a code point, without leading zeros. -/
def hexText (code : Nat) : List Char := Nat.toDigits 16 code

/-- A character given by its code point. -/
def codePoint (c : Char) : List Char :=
  '\\' :: 'u' :: '\x7b' :: (hexText c.toNat ++ ['\x7d'])

/-- Whether a character is shown as itself. -/
def isShown (c : Char) : Bool :=
  if c.toNat < 0x80 then 0x20 ≤ c.toNat && c.toNat != 0x7F else !Unshown.contains c.toNat

/-- A character as it is written between quotes. -/
def escape (c : Char) : List Char :=
  match c with
  | '\x00' => ['\\', '0']
  | '\t' => ['\\', 't']
  | '\r' => ['\\', 'r']
  | '\n' => ['\\', 'n']
  | '\\' => ['\\', '\\']
  | '"' => ['\\', '"']
  | c => if isShown c then [c] else codePoint c

/-- A text between double quotes. -/
def quote (s : String) : String :=
  String.ofList ('"' :: (s.toList.flatMap escape ++ ['"']))

end Switchboard.Quoted
