import Switchboard.Toml.Fault

/-!
# Texts

Texts stand between quotes, one on each side or three. Within double quotes a backslash escapes.
Between three quotes a text may go on over several lines, and one or two quotes may stand in it.
-/

namespace Switchboard.Toml.Reader

/-- Whether a character may stand as itself in a text with such quotes on one line. -/
def isPlain (quote : Char) (c : Char) : Bool :=
  c ≠ quote && (quote = '\'' || c ≠ '\\') && (c = '\t' || (32 ≤ c.toNat && c.toNat ≠ 127))

/-- What an escape is named for, if it is one of a single letter. -/
def escapes : List (Char × Char) :=
  [('b', '\x08'), ('f', '\x0c'), ('n', '\n'), ('r', '\r'), ('t', '\t'), ('\\', '\\'), ('"', '"')]

/-- The value of a hexadecimal digit. -/
def hexValue? (c : Char) : Option Nat :=
  if c.isDigit then some (c.toNat - 48)
  else if 'a' ≤ c && c ≤ 'f' then some (c.toNat - 87)
  else if 'A' ≤ c && c ≤ 'F' then some (c.toNat - 55)
  else none

/-- The number that digits to a base spell. -/
def number (base : Nat) (cs : List Char) : Nat :=
  cs.foldl (fun n c => n * base + (hexValue? c).getD 0) 0

/-- The reason that a number is not in its range. -/
def outOfRange : Cause := { reason := some "value is out of range" }

/-- Read the code point of an escape, of `count` digits. -/
def codePoint (count : Nat) : Reader Char :=
  cut <| named s!"unicode {count}-digit hex code" do
    let cs ← get
    let digits := cs.take count
    if digits.length < count || !digits.all (fun c => (hexValue? c).isSome) then fail {}
    let n := number 16 digits
    if !n.isValidChar then fail outOfRange
    set (cs.drop count)
    return Char.ofNat n

/-- Read an escape. A wrong one is noticed after its letter. -/
def escape : Reader Char := do
  require ['\\']
  match ← peek with
  | some 'u' => advance; codePoint 4
  | some 'U' => advance; codePoint 8
  | some c =>
    match escapes.lookup c with
    | some x => advance; return x
    | none =>
      let expected := ['b', 'f', 'n', 'r', 't', 'u', 'U', '\\', '"'].map Cause.char
      if c.utf8Size = 1 then advance
      cut (fail { label := some "escape sequence", expected })
  | none => fail {}

/-- Read what stands between quotes on one line, `fuel` pieces at most. -/
def lineBody (quote : Char) : (fuel : Nat) → Reader (List Char)
  | 0 => return []
  | fuel + 1 => do
    let plain ← takeWhile (isPlain quote)
    if quote = '\'' then return plain
    match ← attempt escape with
    | some c => return plain ++ c :: (← lineBody quote fuel)
    | none => return plain

/-- Read a text on one line. -/
def lineText (quote : Char) : Reader String := do
  advance
  let body ← lineBody quote ((← get).length + 1)
  cut (named (if quote = '"' then "basic string" else "literal string") (require [quote]))
  return .ofList body

/-- Pass over an end of a line that is escaped, and over the blanks after it. -/
def escapedLineEnd : Reader Unit := do
  require ['\\']
  blanks
  if !(← lineEnd) then fail {}
  allBlanks (← get).length

/-- Read a piece of a text on several lines that has no quotes. -/
def blockPiece (quote : Char) : Reader (List Char) := do
  let plain ← takeWhile (isPlain quote)
  if !plain.isEmpty then return plain
  else if ← lineEnd then return ['\n']
  else if quote = '\'' then fail {}
  else
    match ← attempt escapedLineEnd with
    | some () => return []
    | none => return [← escape]

/-- Read the quotes, two or one, that stand before `p`. -/
def innerQuotes (quote : Char) (p : Reader α) : Reader (List Char) := do
  let before (quotes : List Char) : Reader (List Char) := do
    require quotes
    let _ ← ahead p
    return quotes
  either (before [quote, quote]) (before [quote])

/-- Read what stands between three quotes, `fuel` pieces at most. -/
def blockBody (quote : Char) : (fuel : Nat) → Reader (List Char)
  | 0 => return []
  | fuel + 1 => do
    match ← attempt (blockPiece quote) with
    | some piece => return piece ++ (← blockBody quote fuel)
    | none =>
      match ← attempt (innerQuotes quote (blockPiece quote)) with
      | some quotes => return quotes ++ (← blockBody quote fuel)
      | none =>
        return (← attempt (innerQuotes quote (require [quote, quote, quote]))).getD []

/-- Read a text on several lines. An end of a line right after its quotes does not belong to it. -/
def blockText (quote : Char) : Reader String :=
  named (if quote = '"' then "multiline basic string" else "multiline literal string") do
    let delimiter := [quote, quote, quote]
    require delimiter
    let _ ← lineEnd
    let body ← cut (blockBody quote ((← get).length + 1))
    cut (require delimiter)
    return .ofList body

/-- Read a text in the given quotes. -/
def text (quote : Char) : Reader String := do
  either (blockText quote) (lineText quote)

end Switchboard.Toml.Reader
