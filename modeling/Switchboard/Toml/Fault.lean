/-!
# What is wrong with a TOML text

A fault says what was being read, what would have been right instead, and where, given by the number
of characters that were left. `Fault.message` shows the line with a mark under the place. A `Reader`
reads characters; while its fault is soft, something else may be tried in its place.
-/

namespace Switchboard.Toml

/-- What went wrong. -/
structure Cause where
  /-- What was being read. -/
  label : Option String := none
  /-- What would have been right. -/
  expected : List String := []
  reason : Option String := none
  deriving DecidableEq, Repr

namespace Cause

/-- The wording of a cause. -/
def message (c : Cause) : String :=
  let label := c.label.toList.map fun l => s!"invalid {l}"
  let expected := if c.expected.isEmpty then [] else ["expected " ++ ", ".intercalate c.expected]
  "\n".intercalate (label ++ expected ++ c.reason.toList)

/-- A character between backticks. -/
def char (c : Char) : String := s!"`{c}`"

end Cause

/-- Why a text cannot be read. -/
structure Fault where
  cause : Cause
  /-- The number of characters that were left. -/
  left : Nat
  /-- Whether something else may be tried in the place of what failed. -/
  soft : Bool := true
  deriving DecidableEq, Repr

namespace Fault

/-- The line and the column of the character at an index, both from zero. The place after the last
character belongs to its line. Before a character outside of ASCII the column counts bytes. -/
def place (text : List Char) (index : Nat) : Nat × Nat :=
  let stop := min index (text.length - 1)
  let before := text.take stop
  let line := before.reverse.takeWhile (· ≠ '\n')
  let wide := (text[index]?).any fun c => 1 < c.utf8Size
  let column := if wide then (String.ofList line).utf8ByteSize else line.length
  (before.count '\n', column + (index - stop))

/-- The lines of a text. -/
def lines : List Char → List (List Char)
  | [] => [[]]
  | c :: rest =>
    if c = '\n' then [] :: lines rest
    else
      match lines rest with
      | line :: more => (c :: line) :: more
      | [] => [[c]]

/-- The number of marks under a faulty place: one for each byte of the character there, and no more
than the line has left. -/
def marks (text line : List Char) (index column : Nat) : Nat :=
  let width := ((text.drop index).head?.map fun c => c.utf8Size).getD 0
  let size := (String.ofList line).utf8ByteSize
  max 1 (min width (size - column))

/-- The wording of a fault in a text. -/
def message (text : List Char) (f : Fault) : String :=
  let index := text.length - f.left
  let (row, column) := place text index
  let line := (lines text).getD row []
  let number := toString (row + 1)
  let gutter := String.ofList (List.replicate (number.length + 1) ' ')
  let indent := String.ofList (List.replicate (column + 1) ' ')
  let mark := String.ofList (List.replicate (marks text line index column) '^')
  s!"TOML parse error at line {number}, column {column + 1}\n" ++ gutter ++ "|\n" ++
    number ++ " | " ++ String.ofList line ++ "\n" ++ gutter ++ "|" ++ indent ++ mark ++ "\n" ++
    f.cause.message ++ "\n"

end Fault

/-- A computation that reads characters. -/
abbrev Reader := StateT (List Char) (Except Fault)

namespace Reader

/-- Fail at the character that comes next. -/
def fail (cause : Cause) : Reader α := fun cs => .error { cause, left := cs.length }

/-- Fail where `start` is what follows. -/
def failAt (start : List Char) (cause : Cause) : Reader α :=
  fun _ => .error { cause, left := start.length }

/-- Try nothing else if a reader fails. -/
def cut (p : Reader α) : Reader α :=
  fun cs => (p cs).mapError fun f => { f with soft := false }

/-- Say what is read, where a fault does not say it yet. -/
def named (label : String) (p : Reader α) : Reader α :=
  fun cs => (p cs).mapError fun f =>
    { f with cause := { f.cause with label := f.cause.label <|> some label } }

/-- Say what would be right where a reader fails. -/
def expecting (expected : List String) (p : Reader α) : Reader α :=
  fun cs => (p cs).mapError fun f =>
    { f with cause := { f.cause with expected := f.cause.expected ++ expected } }

/-- Read something if it is there. -/
def attempt (p : Reader α) : Reader (Option α) :=
  fun cs =>
    match p cs with
    | .ok (a, rest) => .ok (some a, rest)
    | .error f => if f.soft then .ok (none, cs) else .error f

/-- Read one thing, or another in its place. -/
def either (p q : Reader α) : Reader α :=
  fun cs =>
    match p cs with
    | .ok r => .ok r
    | .error f => if f.soft then q cs else .error f

/-- Read something without passing over it. A fault in it is noticed where it begins. -/
def ahead (p : Reader α) : Reader α :=
  fun cs =>
    match p cs with
    | .ok (a, _) => .ok (a, cs)
    | .error f => .error { f with left := cs.length }

/-- The character that comes next. -/
def peek : Reader (Option Char) := return (← get).head?

/-- Pass over a character. -/
def advance : Reader Unit := modify List.tail

/-- Take the characters that are of a kind. -/
def takeWhile (p : Char → Bool) : Reader (List Char) := do
  let cs ← get
  set (cs.dropWhile p)
  return cs.takeWhile p

/-- Pass over a text if it comes next: whether it does. -/
def accept (s : List Char) : Reader Bool := do
  let cs ← get
  if s.isPrefixOf cs then
    set (cs.drop s.length)
    return true
  else return false

/-- Read a text that has to come next. -/
def require (s : List Char) : Reader Unit := do
  if !(← accept s) then fail {}

/-- Whether a character is a space or a tab. -/
def isBlank (c : Char) : Bool := c = ' ' || c = '\t'

/-- Pass over spaces and tabs. -/
def blanks : Reader Unit := do
  let _ ← takeWhile isBlank

/-- Pass over the end of a line, if it comes next: whether it does. -/
def lineEnd : Reader Bool := do
  if ← accept ['\r', '\n'] then return true else accept ['\n']

/-- Pass over spaces, tabs and ends of lines, `fuel` times at most. -/
def allBlanks : (fuel : Nat) → Reader Unit
  | 0 => return ()
  | fuel + 1 => do
    blanks
    if ← lineEnd then allBlanks fuel

end Reader

end Switchboard.Toml
