import Switchboard.Yaml.Cursor

/-!
# Directives, tags and anchors

A directive stands before a document; that of a tag gives a handle a meaning. A tag is written with
a handle and a name, or in full between angle brackets. An anchor names a node, and an alias stands
for the node that was named.
-/

namespace Switchboard.Yaml.Scan

/-! ## Tags -/

/-- The number of characters that encode the one which begins with an octet. -/
def octetCount? (octet : Nat) : Option Nat :=
  if octet < 0x80 then some 1
  else if octet &&& 0xE0 = 0xC0 then some 2
  else if octet &&& 0xF0 = 0xE0 then some 3
  else if octet &&& 0xF8 = 0xF0 then some 4
  else none

/-- Read an octet that is written with a percent sign. -/
def octet (start : Place) : Scan Nat := do
  match (← get).rest with
  | '%' :: a :: b :: _ =>
    match hexNumber? [a, b] with
    | some n => pass 3; return n
    | none => failAt start .octet
  | _ => failAt start .octet

/-- Read the octets of a character after the first; their bits are put together as they are. -/
def moreOctets (start : Place) : (count code : Nat) → Scan Nat
  | 0, code => return code
  | count + 1, code => do
    let next ← octet start
    if next &&& 0xC0 ≠ 0x80 then failAt start .octetTrailing
    moreOctets start count ((code <<< 8) + next)

/-- Read a character that is written by its octets. -/
def escapedChar (start : Place) : Scan Char := do
  let first ← octet start
  match octetCount? first with
  | none => failAt start .octetLeading
  | some count =>
    let code ← moreOctets start (count - 1) first
    if code.isValidChar then return Char.ofNat code else failAt start .octetCode

/-- Read characters of a kind, some of which may be written by their octets; `fuel` at most. -/
def addressChars (p : Char → Bool) (start : Place) : (fuel : Nat) → Scan (List Char)
  | 0 => return []
  | fuel + 1 => do
    let c ← look
    if !p c then return []
    else if c = '%' then return (← escapedChar start) :: (← addressChars p start fuel)
    else
      pass 1
      return c :: (← addressChars p start fuel)

/-- Read all characters of a kind, some of which may be written by their octets. -/
def address (p : Char → Bool) (start : Place) : Scan (List Char) := do
  addressChars p start ((← get).rest.length + 1)

/-- Read the handle of a tag; that of a directive has to be closed. -/
def handle (isDirective : Bool) (start : Place) : Scan (List Char) := do
  if (← look) ≠ '!' then failAt start .tagHandle
  pass 1
  let name ← takeWhile isNameChar
  if (← look) = '!' then
    pass 1
    return '!' :: name ++ ['!']
  else
    if isDirective && !name.isEmpty then failAt start .tagDirectiveHandle
    return '!' :: name

/-- Read what a handle stands for. -/
def leading (start : Place) : Scan (List Char) := do
  let c ← look
  if c = '!' then
    pass 1
    return c :: (← address isAddressChar start)
  else
    if !isTagChar c then failAt start .tagPrefix
    address isAddressChar start

/-- Read a tag: its handle and its name. A tag in full has no handle, nor has the lone `!`. -/
def tag : Scan Unit := do
  beginKey
  allowKey false
  let start ← here
  let (handle, name) ← if (← ahead 1) = '<' then do
      pass 2
      let name ← address isAddressChar start
      if (← look) ≠ '>' then failAt start .tagVerbatim
      pass 1
      pure ([], name)
    else do
      let handle ← handle false start
      if 2 ≤ handle.length && handle.getLast? = some '!' then
        let name ← address isTagChar start
        if name.isEmpty then failAt start .tagName
        pure (handle, name)
      else
        let name := handle.tail ++ (← address isTagChar start)
        pure (if name.isEmpty then ([], ['!']) else (['!'], name))
  let next ← look
  if isGap next || ((← get).flow ≠ 0 && isFlow next) then
    push start (.tag (.ofList handle) (.ofList name))
  else failAt start .tagEnd

/-- Read an anchor or an alias. -/
def anchor (isAlias : Bool) : Scan Unit := do
  beginKey
  allowKey false
  let start ← here
  pass 1
  let name ← takeWhile isAnchorChar
  if name.isEmpty then failAt start .anchorName
  push start ((if isAlias then Token.alias else Token.anchor) (.ofList name))

/-! ## Directives -/

/-- Read a number of a version. -/
def versionNumber (start : Place) : Scan Unit := do
  let digits := (← get).rest.takeWhile Char.isDigit
  if 9 < digits.length then failAt start .versionLength
  if digits.isEmpty then failAt start .versionNumber
  pass digits.length

/-- Read a directive. One of an unknown name means nothing. -/
def directive : Scan Unit := do
  closeBlocks (-1)
  dropKey
  allowKey false
  let start ← here
  pass 1
  let nameStart ← here
  let name ← takeWhile isNameChar
  if name.isEmpty then failAt nameStart .directiveName
  if !isGap (← look) then failAt nameStart .directiveLetter
  let token ← match String.ofList name with
    | "YAML" => do
      passAllBlanks
      versionNumber start
      if (← look) ≠ '.' then failAt start .versionPoint
      pass 1
      versionNumber start
      pure Token.versionDirective
    | "TAG" => do
      passAllBlanks
      let handle ← handle true start
      passAllBlanks
      let meaning ← leading start
      if !isGap (← look) then failAt start .tagDirectiveEnd
      pure (Token.tagDirective (.ofList handle) (.ofList meaning))
    | _ => do
      passComment
      pure (Token.tagDirective "" "")
  let _ ← passGap true
  if isBreakOrEnd (← look) then
    passBreak
    push start token
  else failAt start .directiveEnd

end Switchboard.Yaml.Scan
