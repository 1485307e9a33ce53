import Switchboard.Yaml.BlockText
import Switchboard.Yaml.Scalar
import Switchboard.Yaml.Tag

/-!
# From a text to its tokens

Tokens are handed out one after another. More of the text is read as long as the next token could
turn out to stand after a key, since the token of the key comes first. `tokens` gives the tokens
that are handed out, and the fault that ends them, if one does.
-/

namespace Switchboard.Yaml

namespace Scan

/-- Read the beginning of a text. -/
def streamStart : Scan Unit := do
  push (← here) .streamStart
  modify fun c => { c with keys := [{}] }

/-- Read the end of a text, which begins a new line. -/
def streamEnd : Scan Unit := do
  modify fun c =>
    if c.place.column = 0 then c
    else { c with place := { c.place with line := c.place.line + 1, column := 0 } }
  if (← get).keys.any fun key => key.required && key.possible then fail .noKey
  let settle (key : Candidate) : Candidate := { key with possible := false }
  modify fun c => { c with keys := c.keys.map settle }
  closeBlocks (-1)
  dropKey
  allowKey false
  push (← here) .streamEnd
  modify fun c => { c with ended := true }

/-- Read a marker that begins or ends a document. -/
def marker (token : Token) : Scan Unit := do
  closeBlocks (-1)
  dropKey
  allowKey false
  let start ← here
  pass 3
  push start token

/-- End the pair that stands in a sequence without brackets of its own. -/
def endBarePair : Scan Unit := do
  if (← get).barePair then
    modify fun c => { c with barePair := false, mappingBegun := false }
    push (← here) .flowMappingEnd

/-- The greatest number of collections in flow within each other. -/
def flowLimit : Nat := 255

/-- Read the beginning of a collection in flow. -/
def flowStart (token : Token) : Scan Unit := do
  beginKey
  indentValue
  modify fun c => { c with keys := {} :: c.keys }
  if flowLimit ≤ (← get).flow then fail .depth
  modify fun c => { c with flow := c.flow + 1 }
  allowKey true
  let start ← here
  pass 1
  if token = .flowMappingStart then modify fun c => { c with mappingBegun := true }
  let _ ← passGap true
  push start token

/-- Read the end of a collection in flow. What follows it may touch a colon. -/
def flowEnd (token : Token) : Scan Unit := do
  dropKey
  modify fun c => if c.flow = 0 then c else { c with flow := c.flow - 1, keys := c.keys.tail }
  allowKey false
  endBarePair
  let start ← here
  pass 1
  let _ ← passGap true
  modify fun c => if c.flow = 0 then c else { c with touchAt := c.place.index }
  push start token

/-- Read a comma. -/
def flowEntry : Scan Unit := do
  dropKey
  allowKey true
  endBarePair
  let start ← here
  pass 1
  let _ ← passGap true
  push start .flowEntry

/-- Read the dash of an item. -/
def blockEntry : Scan Unit := do
  let c ← get
  if c.flow ≠ 0 then fail .itemInFlow
  if !c.keyAllowed then fail .itemHere
  match c.queue.getLast? with
  | some ⟨place, .anchor _⟩ | some ⟨place, .tag _ _⟩ =>
    if c.place.column = 0 && place.column = 0 && -1 < c.indent then failAt place .indentAnchor
  | _ => pure ()
  pass 1
  openBlock c.place.column none .blockSequenceStart c.place
  let blanks ← passGap true
  if blanks.contains '\t' && (← look) = '-' && isGap (← ahead 1) then fail .tabItem
  let next ← look
  if isBreak next || isFlow next then indentValue
  dropKey
  allowKey true
  push (← here) .blockEntry

/-- Pass over spaces, comments and ends of lines after a question mark, `fuel` at most; `passed`
tells whether spaces or ends of lines were there. -/
def keyGap : (fuel : Nat) → (passed : Bool) → Scan Bool
  | 0, passed => return passed
  | fuel + 1, passed => do
    let c ← look
    if c = ' ' then
      passBlanks 1
      keyGap fuel true
    else if isBreak c then
      passBreak
      if (← get).flow = 0 then allowKey true
      keyGap fuel true
    else if c = '#' then
      passComment
      keyGap fuel passed
    else return passed

/-- Read the question mark of a key. -/
def key : Scan Unit := do
  let c ← get
  if c.flow = 0 then
    if !c.keyAllowed then fail .keyHere
    openBlock c.place.column none .blockMappingStart c.place
  else modify fun c => { c with mappingBegun := true }
  dropKey
  allowKey (c.flow = 0)
  pass 1
  if !(← keyGap (c.rest.length + 1) false) then fail .keyBlank
  if (← look) = '\t' then fail .tabKey
  push c.place .key

/-- Read the colon of a value. What may have begun as a key before it is one. -/
def value : Scan Unit := do
  let c ← get
  let start := c.place
  let bare := c.flow ≠ 0 && !c.mappingBegun
  modify fun c => { c with barePair := bare }
  pass 1
  if (← look) = '\t' then
    let blanks ← passGap true
    let next ← look
    if !blanks.contains ' ' && isNameChar next then fail .tabValue
  let candidate := c.keys.headD {}
  if candidate.possible then
    insert candidate.number candidate.place .key
    if bare then
      if candidate.place.line < start.line then failAt start .valueLine
      insert candidate.number (← here) .flowMappingStart
    openBlock candidate.place.column (some candidate.number) .blockMappingStart start
    indentValue
    modify fun c => { c with keys := { candidate with possible := false } :: c.keys.tail }
    allowKey false
  else
    if bare then push (← here) .flowMappingStart
    if c.flow = 0 then
      if !c.keyAllowed then failAt start .valueHere
      openBlock start.column none .blockMappingStart start
    indentValue
    allowKey (c.flow = 0)
  push start .value

/-- Read what comes next. -/
def more : Scan Unit := do
  passLines ((← get).rest.length + 1)
  dropStaleKeys
  closeBlocks (← here).column
  let c ← look
  let next ← ahead 1
  let cursor ← get
  if isEnd c then streamEnd
  else if cursor.place.column = 0 && c = '%' then directive
  else if cursor.place.column = 0 && (← isMarker '-') then marker .documentStart
  else if cursor.place.column = 0 && (← isMarker '.') then
    marker .documentEnd
    let _ ← passGap true
    if !isBreakOrEnd (← look) then fail .afterDocument
  else if cursor.place.column < cursor.indent then fail .indent
  else if c = '[' then flowStart .flowSequenceStart
  else if c = '\x7b' then flowStart .flowMappingStart
  else if c = ']' then flowEnd .flowSequenceEnd
  else if c = '\x7d' then flowEnd .flowMappingEnd
  else if c = ',' then flowEntry
  else if c = '-' && isGap next then blockEntry
  else if c = '?' && isGap next then key
  else if c = ':' && (isGap next ||
      (cursor.flow ≠ 0 && (isFlow next || cursor.place.index = cursor.touchAt))) then value
  else if c = '*' then anchor true
  else if c = '&' then anchor false
  else if c = '!' then tag
  else if c = '|' && cursor.flow = 0 then blockText true
  else if c = '>' && cursor.flow = 0 then blockText false
  else if c = '\'' || c = '"' then quoted c
  else if c = '%' || c = '@' || c = '`' then fail (.unexpected c)
  else plain

/-- Read on until the token that waits first can be handed out, `fuel` times at most. -/
def ready : (fuel : Nat) → Scan Unit
  | 0 => return ()
  | fuel + 1 => do
    if (← get).queue.isEmpty then
      more
      ready fuel
    else
      dropStaleKeys
      let c ← get
      if c.keys.any fun key => key.possible && key.number = c.taken then
        more
        ready fuel

/-- Hand out a token, unless there is none. -/
def next? : Scan (Option Placed) := do
  let c ← get
  if c.queue.isEmpty && c.ended then return none
  else
    ready (c.rest.length + 2)
    let c ← get
    set { c with queue := c.queue.tail, taken := c.taken + 1 }
    return c.queue.head?

/-- Hand out tokens, `fuel` at most, and the fault that ends them, if one does. -/
def handOut : (fuel : Nat) → Cursor → List Placed × Option Fault
  | 0, _ => ([], none)
  | fuel + 1, c =>
    match next?.run c with
    | .error fault => ([], some fault)
    | .ok (none, _) => ([], none)
    | .ok (some token, c) =>
      let (tokens, fault) := handOut fuel c
      (token :: tokens, fault)

end Scan

/-- The tokens of a text up to the first NUL, and the fault that ends them, if one does. -/
def tokens (text : List Char) : List Placed × Option Fault :=
  let rest := text.takeWhile fun c => !isEnd c
  match Scan.streamStart.run { rest } with
  | .ok (_, c) => Scan.handOut (6 * rest.length + 8) c
  | .error fault => ([], some fault)

end Switchboard.Yaml
