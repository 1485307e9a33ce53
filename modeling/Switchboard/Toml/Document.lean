import Switchboard.Toml.Moment
import Switchboard.Toml.Tables

/-!
# Reading TOML

A document is made of lines: keys with their values, headers of tables, comments. A key may have
several parts, joined by points, that lead from table to table.
-/

namespace Switchboard.Toml

namespace Reader

/-- Pass over a comment, if one comes next. -/
def comment : Reader Unit := do
  if ← accept ['#'] then
    let _ ← takeWhile fun c => c = '\t' || (32 ≤ c.toNat && c.toNat ≠ 127)

/-- Read the end of a line. Another character in its place is noticed after it. -/
def newline : Reader Unit := do
  match ← peek with
  | none => fail {}
  | some c =>
    advance
    if c = '\r' then require ['\n'] else if c ≠ '\n' then fail {}

/-- Pass over blanks, comments and ends of lines, `fuel` lines at most. A comment has a line after
it. -/
def gap : (fuel : Nat) → Reader Unit
  | 0 => return ()
  | fuel + 1 => do
    blanks
    let next ← peek
    if next = some '#' then
      comment
      newline
      gap fuel
    else if next = some '\n' || next = some '\r' then
      newline
      gap fuel

/-- Read the end of a line or of the text. -/
def lineEnding : Reader Unit := do
  if (← get).isEmpty || (← lineEnd) then return () else fail {}

/-- Read the rest of a line after what it was for. -/
def lineTrailing : Reader Unit :=
  expecting ["newline", Cause.char '#'] do
    blanks
    comment
    lineEnding

/-- The greatest depth of values and keys. -/
def depthLimit : Nat := 80

/-- The fault of what is nested too deep. -/
def tooDeep : Cause := { reason := some "recursion limit exceeded" }

/-- Read one part of a key. -/
def keyPart : Reader String := do
  blanks
  let part ← match ← peek with
    | some '"' => lineText '"'
    | some '\'' => lineText '\''
    | _ => do
      let cs ← takeWhile Node.isKeyChar
      if cs.isEmpty then fail {}
      pure (.ofList cs)
  blanks
  return part

/-- Read the parts of a key after the first, `fuel` at most. A point without a part is left. -/
def keyParts : (fuel : Nat) → Reader (List String)
  | 0 => return []
  | fuel + 1 => do
    let next : Reader String := do
      require ['.']
      keyPart
    match ← attempt next with
    | some part => return part :: (← keyParts fuel)
    | none => return []

/-- Read a key: the parts before the last, and the last. -/
def key : Reader (List String × String) := do
  let start ← get
  let (first, more) ← named "key" do
    let first ← keyPart
    return (first, ← keyParts ((← get).length))
  let parts := first :: more
  if depthLimit ≤ parts.length then failAt start tooDeep
  return (parts.dropLast, parts.getLast?.getD first)

/-- Read the sign between a key and its value. -/
def equals : Reader Unit := expecting [Cause.char '.', Cause.char '='] (require ['='])

/-- Go on with what a computation gives, or fail where the text is as given. -/
def orFailAt (start : List Char) (r : Except Cause α) : Reader α :=
  match r with
  | .ok a => return a
  | .error cause => failAt start cause

/-- Say that a text between quotes could stand here. -/
def orText (p : Reader Toml) : Reader Toml :=
  expecting [Cause.char '"', Cause.char '\''] (named "string" p)

/-- Read a word that stands for a value. -/
def word (w : String) (v : Toml) : Reader Toml := orText do
  require w.toList
  return v

/-- Read items with a comma before each, `fuel` at most. A comma without an item is left. -/
def itemsAfterComma (p : Reader α) : (fuel : Nat) → Reader (List α)
  | 0 => return []
  | fuel + 1 => do
    let next : Reader α := do
      require [',']
      p
    match ← attempt next with
    | some item => return item :: (← itemsAfterComma p fuel)
    | none => return []

/-- Read items with commas between them. -/
def separated (p : Reader α) : Reader (List α) := do
  match ← attempt p with
  | some first => return first :: (← itemsAfterComma p ((← get).length + 1))
  | none => return []

/-- Read an item of an array, with the gaps around it. -/
def item (p : Reader Toml) : Reader Toml := do
  gap ((← get).length + 1)
  let v ← p
  gap ((← get).length + 1)
  return v

/-- Read an array of such values. -/
def array (p : Reader Toml) : Reader Toml := do
  advance
  let items ← cut do
    if (← peek) = some ']' then return []
    let items ← separated (item p)
    if !items.isEmpty then
      let _ ← accept [',']
    gap ((← get).length + 1)
    return items
  cut (named "array" (expecting [Cause.char ']'] (require [']'])))
  return .array items

/-- Read a pair of an inline table with such a value. -/
def inlinePair (p : Reader Toml) : Reader ((List String × String) × Toml) := do
  let key ← key
  cut do
    equals
    blanks
    let v ← p
    blanks
    return (key, v)

/-- Read an inline table of such values. -/
def inlineTable (p : Reader Toml) : Reader Toml := do
  advance
  let entries ← cut do
    let start ← get
    let pairs ← separated (inlinePair p)
    blanks
    let add (entries : Node.Entries) (pair : (List String × String) × Toml) :
        Except Cause Node.Entries :=
      Node.assignInline pair.1.1 pair.1.2 pair.2 entries
    orFailAt start (pairs.foldlM add [])
  cut (named "inline table" (expecting [Cause.char '\x7d'] (require ['\x7d'])))
  return .table (Node.entryValues entries)

/-- Read a value, nested less than `fuel` deep. -/
def value : (fuel : Nat) → Reader Toml
  | 0 => cut (fail tooDeep)
  | fuel + 1 => do
    let nested (p : Reader Toml → Reader Toml) : Reader Toml :=
      if fuel = 0 then cut (fail tooDeep) else p (value fuel)
    match ← peek with
    | none => fail {}
    | some c =>
      if c = '"' || c = '\'' then return .text (← text c)
      else if c = '[' then nested array
      else if c = '\x7b' then nested inlineTable
      else if c.isDigit || c = '+' || c = '-' then either moment (either real integer)
      else if c = '_' then expecting ["leading digit"] integer
      else if c = '.' then expecting ["leading digit"] real
      else if c = 't' then cut (orText do require "true".toList; return .bool true)
      else if c = 'f' then cut (orText do require "false".toList; return .bool false)
      else if c = 'i' then word "inf" (.real (.infinite false))
      else if c = 'n' then word "nan" (.real .nan)
      else orText (fail {})

/-- Read a key with its value into the table at a path. -/
def pair (path : List String) (entries : Node.Entries) : Reader Node.Entries := do
  let start ← get
  let (steps, last) ← key
  cut do
    equals
    blanks
    let v ← value depthLimit
    lineTrailing
    orFailAt start (Node.assign path steps last v entries)

/-- Read a header: the path of its table, and the tables in which it is begun. -/
def header (entries : Node.Entries) : Reader (List String × Node.Entries) :=
  named "table header" do
    let start ← get
    let isItem ← accept ['[', '[']
    if !isItem then
      if start.length < 2 then fail {}
      advance
    let (path, last) ← key
    let close := if isItem then "]]" else "]"
    expecting [Cause.char '.', s!"`{close}`"] (require close.toList)
    lineTrailing
    let begun := (if isItem then Node.beginItem else Node.beginTable) path last entries
    return (path ++ [last], ← orFailAt start begun)

/-- Read the lines of a document, `fuel` at most; the lines belong to the table at `path`. -/
def document : (fuel : Nat) → (path : List String) → Node.Entries → Reader Node.Entries
  | 0, _, entries => return entries
  | fuel + 1, path, entries => do
    blanks
    match ← peek with
    | none => return entries
    | some c =>
      if c = '#' then
        comment
        lineEnding
        document fuel path entries
      else if c = '[' then
        let (path, entries) ← header entries
        document fuel path entries
      else if c = '\n' || c = '\r' then
        if !(← lineEnd) then fail {}
        document fuel path entries
      else document fuel path (← pair path entries)

end Reader

/-- The table that a text holds, or the wording of what is wrong with it. -/
def parse (s : String) : Except String Toml :=
  let cs := match s.toList with
    | '\uFEFF' :: rest => rest
    | cs => cs
  match (Reader.document (cs.length + 1) [] []).run cs with
  | .ok (entries, _) => .ok (.table (Node.entryValues entries))
  | .error fault => .error (fault.message s.toList)

end Switchboard.Toml
