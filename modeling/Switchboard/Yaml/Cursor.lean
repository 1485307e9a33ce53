import Switchboard.Yaml.Token

/-!
# Reading a YAML text

A `Cursor` is what is known at a place of a text: the characters that follow, the tokens that wait
to be handed out, how far the blocks around the place are indented, and where the key of a mapping
may have begun. That something was a key turns out at its colon only; the token of the key is then
put in among those that wait.
-/

namespace Switchboard.Yaml

/-- An indentation: its column, and whether a block began with it. A value is indented by one column
more than its key without a block beginning there. -/
structure Level where
  /-- The column of the indentation around it. -/
  outer : Int
  isBlock : Bool
  deriving DecidableEq, Repr

/-- Where the key of a mapping may have begun. -/
structure Candidate where
  possible : Bool := false
  /-- Whether nothing but a key can be there. -/
  required : Bool := false
  /-- The number of tokens before it. -/
  number : Nat := 0
  place : Place := ⟨0, 0, 0⟩
  deriving DecidableEq, Repr, Inhabited

/-- What is known at a place of a text. -/
structure Cursor where
  rest : List Char
  place : Place := ⟨0, 1, 0⟩
  /-- Whether nothing but blanks is before the place on its line. -/
  fresh : Bool := true
  /-- The tokens that wait to be handed out. -/
  queue : List Placed := []
  /-- The number of tokens that were handed out. -/
  taken : Nat := 0
  indent : Int := -1
  /-- The indentations that are open, the innermost first. -/
  levels : List Level := []
  /-- The number of collections in flow that are open. -/
  flow : Nat := 0
  /-- Whether a key may begin here. -/
  keyAllowed : Bool := true
  /-- Possible keys, one for each open collection in flow and one outside, the innermost first. -/
  keys : List Candidate := []
  /-- Whether a mapping in flow was begun. -/
  mappingBegun : Bool := false
  /-- Whether a pair stands in a sequence in flow without brackets of its own. -/
  barePair : Bool := false
  /-- Where a colon may touch its value: the place after a quoted key or a collection. -/
  touchAt : Nat := 0
  /-- Whether the end of the text was reached. -/
  ended : Bool := false

/-- A computation that reads a text. -/
abbrev Scan := StateT Cursor (Except Fault)

namespace Scan

/-- Fail at a place. -/
def failAt (place : Place) (reason : Reason) : Scan α := throw { reason, place }

/-- Fail here. -/
def fail (reason : Reason) : Scan α := do failAt (← get).place reason

/-- The place that is reached. -/
def here : Scan Place := return (← get).place

/-- The character that is `n` characters ahead. -/
def ahead (n : Nat) : Scan Char := return ((← get).rest.drop n).headD '\x00'

/-- The character that comes next. -/
def look : Scan Char := return (← get).rest.headD '\x00'

/-- Pass over `n` characters of a line that leave it as fresh as it is. -/
def passBlanks (n : Nat) : Scan Unit :=
  modify fun c =>
    { c with
      rest := c.rest.drop n
      place := { c.place with index := c.place.index + n, column := c.place.column + n } }

/-- Pass over `n` characters of a line. -/
def pass (n : Nat) : Scan Unit := do
  passBlanks n
  if n ≠ 0 then modify fun c => { c with fresh := false }

/-- Pass over the end of a line, if it comes next. -/
def passBreak : Scan Unit :=
  modify fun c =>
    let size := match c.rest with
      | '\r' :: '\n' :: _ => 2
      | x :: _ => if isBreak x then 1 else 0
      | [] => 0
    if size = 0 then c
    else
      { c with
        rest := c.rest.drop size
        place := { index := c.place.index + size, line := c.place.line + 1, column := 0 }
        fresh := true }

/-- Take the characters of a line that are of a kind. -/
def takeWhile (p : Char → Bool) : Scan (List Char) := do
  let word := (← get).rest.takeWhile p
  pass word.length
  return word

/-- Pass over spaces and tabs. -/
def passAllBlanks : Scan Unit := do
  passBlanks ((← get).rest.takeWhile isBlank).length

/-- Pass over a comment. -/
def passComment : Scan Unit := do
  let _ ← takeWhile fun c => !isBreakOrEnd c

/-- Pass over the blanks before the next token on a line, and over a comment after them. The blanks
that were there. -/
def passGap (tabs : Bool) : Scan (List Char) := do
  let blanks := (← get).rest.takeWhile fun c => c = ' ' || (tabs && c = '\t')
  passBlanks blanks.length
  if (← look) = '#' then
    if blanks.isEmpty then fail .touchingComment
    passComment
  return blanks

/-- Whether the marker of a document, of three such characters, comes next. -/
def isMarker (c : Char) : Scan Bool := do
  match (← get).rest with
  | x :: y :: z :: rest => return x = c && y = c && z = c && isGap (rest.headD '\x00')
  | _ => return false

/-- Whether a marker that begins or ends a document comes next. -/
def isAnyMarker : Scan Bool := return (← isMarker '-') || (← isMarker '.')

/-- Say whether a key may begin here. -/
def allowKey (allowed : Bool) : Scan Unit := modify fun c => { c with keyAllowed := allowed }

/-- Pass over blanks, comments and ends of lines, `fuel` at most. Outside of flow a line may begin
with a key, and within blocks only spaces indent. -/
def passLines : (fuel : Nat) → Scan Unit
  | 0 => return ()
  | fuel + 1 => do
    let c ← get
    let next ← look
    if next = '\t' && !c.levels.isEmpty && c.fresh && c.place.column < c.indent then
      let _ ← passGap true
      if !isBreakOrEnd (← look) then fail .tabIndent
      passLines fuel
    else if isBlank next then
      passBlanks 1
      passLines fuel
    else if isBreak next then
      passBreak
      if c.flow = 0 then allowKey true
      passLines fuel
    else if next = '#' then
      passComment
      passLines fuel

/-! ## Tokens and indentations -/

/-- Let a token wait after those that wait already. -/
def push (place : Place) (token : Token) : Scan Unit :=
  modify fun c => { c with queue := c.queue ++ [⟨place, token⟩] }

/-- Let a token wait as the one with the given number. -/
def insert (number : Nat) (place : Place) (token : Token) : Scan Unit :=
  modify fun c => { c with queue := c.queue.insertIdx (number - c.taken) ⟨place, token⟩ }

/-- Open a block at a column, unless one is open there. Its token waits after the others, or as the
one with the given number. -/
def openBlock (column : Nat) (number? : Option Nat) (token : Token) (place : Place) :
    Scan Unit := do
  if (← get).flow = 0 then
    modify fun c =>
      match c.levels with
      | level :: levels =>
        if c.indent ≤ column && !level.isBlock then { c with indent := level.outer, levels } else c
      | [] => c
    let c ← get
    if c.indent < column then
      set { c with indent := column, levels := ⟨c.indent, true⟩ :: c.levels }
      match number? with
      | some number => insert number place token
      | none => push place token

/-- Close the innermost of `levels` that are indented more than a column. -/
def closeLevels (column : Int) : List Level → Scan Unit
  | [] => return ()
  | level :: levels => do
    if (← get).indent > column then
      modify fun c => { c with indent := level.outer, levels }
      if level.isBlock then push (← here) .blockEnd
      closeLevels column levels

/-- Close the blocks that are indented more than a column. -/
def closeBlocks (column : Int) : Scan Unit := do
  let c ← get
  if c.flow = 0 then closeLevels column c.levels

/-- Indent by one more column, where a block was opened last. -/
def indentValue : Scan Unit :=
  modify fun c =>
    match c.levels with
    | level :: _ =>
      if c.flow = 0 && level.isBlock then
        { c with indent := c.indent + 1, levels := ⟨c.indent, false⟩ :: c.levels }
      else c
    | [] => c

/-- Take back the indentations that no block began with. -/
def unindentValues : Scan Unit :=
  modify fun c =>
    let (values, blocks) := c.levels.span fun level => !level.isBlock
    { c with indent := (values.getLast?.map Level.outer).getD c.indent, levels := blocks }

/-! ## Keys -/

/-- Note that the next token may begin a key. -/
def beginKey : Scan Unit :=
  modify fun c =>
    if c.keyAllowed then
      let required := c.flow = 0 && c.indent = c.place.column && c.levels.head?.any Level.isBlock
      let key : Candidate :=
        { possible := true, required, number := c.taken + c.queue.length, place := c.place }
      { c with keys := key :: c.keys.tail }
    else c

/-- Note that what may have begun as a key is none. -/
def dropKey : Scan Unit := do
  match (← get).keys with
  | [] => return ()
  | key :: keys =>
    if key.possible && key.required then fail .noKey
    modify fun c => { c with keys := { key with possible := false } :: keys }

/-- Drop the keys that cannot be any: outside of flow a key ends on its line, and within 1024
characters. -/
def dropStaleKeys : Scan Unit := do
  let c ← get
  let isStale (key : Candidate) : Bool :=
    key.possible && c.flow = 0 &&
      (key.place.line < c.place.line || key.place.index + 1024 < c.place.index)
  if c.keys.any fun key => isStale key && key.required then fail .noColon
  set { c with
    keys := c.keys.map fun key => if isStale key then { key with possible := false } else key }

end Scan

end Switchboard.Yaml
