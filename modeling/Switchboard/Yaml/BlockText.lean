import Switchboard.Yaml.Cursor

/-!
# Blocks of text

A block of text is announced by a bar, which keeps its lines, or by an angle bracket, which joins
them. Its lines are indented alike, by as much as the first or as an indicator tells. What ends the
last line is kept, left out, or kept with all that follows it.
-/

namespace Switchboard.Yaml.Scan

/-- What becomes of the end of a block of text. -/
inductive Tail where
  /-- The last end of a line belongs to the text. -/
  | clip
  | strip
  | keep
  deriving DecidableEq, Repr

/-- Read the indicators of a block of text: what becomes of its end and how far it is indented, zero
if that is left to its first line. -/
def blockIndicators (start : Place) : Scan (Tail × Nat) := do
  let tail? (c : Char) : Option Tail :=
    if c = '+' then some .keep else if c = '-' then some .strip else none
  let size : Scan Nat := do
    let c ← look
    if !c.isDigit then return 0
    if c = '0' then failAt start .blockZero
    pass 1
    return c.toNat - 48
  match tail? (← look) with
  | some tail =>
    pass 1
    return (tail, ← size)
  | none =>
    let n ← size
    let c ← look
    match if n = 0 then none else tail? c with
    | some tail =>
      pass 1
      return (tail, n)
    | none => return (.clip, n)

/-- Pass over the spaces that indent a block of text and over its empty lines, `fuel` at most. The
number of lines that ended. -/
def blockIndent (indent : Nat) : (fuel : Nat) → Scan Nat
  | 0 => return 0
  | fuel + 1 => do
    let c ← get
    let spaces := (c.rest.takeWhile (· = ' ')).length
    passBlanks (min spaces (indent - c.place.column))
    if isBreak (← look) then
      passBreak
      return (← blockIndent indent fuel) + 1
    else return 0

/-- Pass over the lines of spaces before a block of text, `fuel` at most. The number of lines that
ended, and the most spaces. -/
def blockFirstIndent : (fuel widest : Nat) → Scan (Nat × Nat)
  | 0, widest => return (0, widest)
  | fuel + 1, widest => do
    passBlanks ((← get).rest.takeWhile (· = ' ')).length
    let widest := max widest (← here).column
    if isBreak (← look) then
      passBreak
      let (count, widest) ← blockFirstIndent fuel widest
      return (count + 1, widest)
    else return (0, widest)

/-- What stands between two lines of a block of text. -/
structure LineGap where
  /-- Whether a line ended. -/
  broken : Bool := false
  /-- Whether the line that ended began with a blank. -/
  afterBlank : Bool := false
  /-- The number of empty lines after it. -/
  more : Nat := 0

/-- The characters that stand for the gap before a line. Lines that begin with a blank are not
joined. -/
def LineGap.chars (g : LineGap) (literal beforeBlank : Bool) : List Char :=
  let empty := List.replicate g.more '\n'
  if !literal && g.broken && !g.afterBlank && !beforeBlank then
    if g.more = 0 then [' '] else empty
  else if g.broken then '\n' :: empty else empty

/-- Read the lines of a block of text, `fuel` at most, and the gap after them. -/
def blockLines (literal : Bool) (indent : Nat) :
    (fuel : Nat) → LineGap → Scan (List Char × LineGap)
  | 0, gap => return ([], gap)
  | fuel + 1, gap => do
    let c ← look
    if (← here).column ≠ indent || isEnd c || (indent = 0 && (← isMarker '.')) then
      return ([], gap)
    else
      let before := gap.chars literal (isBlank c)
      let line := (← get).rest.takeWhile fun x => !isBreakOrEnd x
      passBlanks line.length
      if isEnd (← look) then return (before ++ line, { afterBlank := isBlank c })
      else
        passBreak
        let more ← blockIndent indent ((← get).rest.length + 1)
        let gap : LineGap := { broken := true, afterBlank := isBlank c, more }
        let (text, gap) ← blockLines literal indent fuel gap
        return (before ++ line ++ text, gap)

/-- Read a block of text. -/
def blockText (literal : Bool) : Scan Unit := do
  beginKey
  allowKey true
  let start ← here
  pass 1
  unindentValues
  let (tail, size) ← blockIndicators start
  let _ ← passGap true
  if !isBreakOrEnd (← look) then failAt start .blockHeader
  let headerBroken := isBreak (← look)
  passBreak
  if (← look) = '\t' then failAt start .tabBlock
  let outer := (← get).indent
  let fuel := (← get).rest.length + 1
  let (indent, more) ← if size = 0 then do
      let (more, widest) ← blockFirstIndent fuel 0
      let indent := max widest (outer + 1).toNat
      pure (if 0 < outer then max indent 1 else indent, more)
    else do
      let indent := if 0 ≤ outer then outer.toNat + size else size
      pure (indent, ← blockIndent indent fuel)
  let breaks (n : Nat) : List Char := List.replicate n '\n'
  if isEnd (← look) then
    let text := match tail with
      | .strip => []
      | .clip => if headerBroken then ['\n'] else []
      | .keep => if !headerBroken then [] else if more = 0 then ['\n'] else breaks more
    push start (.scalar false (.ofList text))
  else
    let first ← here
    if first.column < indent && outer < first.column then fail .indentBlock
    let (text, gap) ← blockLines literal indent fuel { more }
    let last := if gap.broken then ['\n'] else []
    let atEnd := if isEnd (← look) && max indent 1 ≤ (← here).column then ['\n'] else []
    let ending := match tail with
      | .strip => []
      | .clip => last ++ atEnd
      | .keep => last ++ atEnd ++ breaks gap.more
    push first (.scalar false (.ofList (text ++ ending)))

end Switchboard.Yaml.Scan
