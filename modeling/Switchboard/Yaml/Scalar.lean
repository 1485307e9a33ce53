import Switchboard.Yaml.Cursor

/-!
# Texts on lines that are joined

A text stands between quotes or alone. Where it goes on over several lines, a single end of line is
a space, and of several ends of lines the first is left out.
-/

namespace Switchboard.Yaml.Scan

/-- What stands between two words of a text. -/
structure Spacing where
  blanks : List Char := []
  /-- Whether a line ended. -/
  broken : Bool := false
  /-- The number of ends of lines after the first. -/
  more : Nat := 0
  /-- Whether the first end of a line was escaped. -/
  escaped : Bool := false

/-- The characters that a spacing stands for. -/
def Spacing.chars (s : Spacing) : List Char :=
  if s.broken then
    if s.more = 0 && !s.escaped then [' '] else List.replicate s.more '\n'
  else s.blanks

/-! ## Texts between quotes -/

/-- The escapes of a single letter between double quotes. -/
def escapes : List (Char × Char) :=
  [('0', '\x00'), ('a', '\x07'), ('b', '\x08'), ('t', '\t'), ('\t', '\t'), ('n', '\n'),
    ('v', '\x0b'), ('f', '\x0c'), ('r', '\r'), ('e', '\x1b'), (' ', ' '), ('"', '"'), ('/', '/'),
    ('\\', '\\'), ('N', '\x85'), ('_', '\xa0'), ('L', '\u2028'), ('P', '\u2029')]

/-- The number of digits of an escape that gives a code point. -/
def codeSize? (c : Char) : Option Nat :=
  if c = 'x' then some 2 else if c = 'u' then some 4 else if c = 'U' then some 8 else none

/-- Read an escape with its backslash. -/
def escape (start : Place) : Scan Char := do
  let letter ← ahead 1
  match escapes.lookup letter, codeSize? letter with
  | some c, _ => pass 2; return c
  | none, some size =>
    pass 2
    let digits := (← get).rest.take size
    match hexNumber? digits with
    | some code =>
      if digits.length < size then failAt start .escapeDigits
      if !code.isValidChar then failAt start .escapeCode
      pass size
      return Char.ofNat code
    | none => failAt start .escapeDigits
  | none, none => failAt start .escapeLetter

/-- Read a word between quotes, `fuel` characters at most, and whether an escaped end of line
follows it. -/
def quotedWord (quote : Char) (start : Place) : (fuel : Nat) → Scan (List Char × Bool)
  | 0 => return ([], false)
  | fuel + 1 => do
    let c ← look
    let next ← ahead 1
    if isGap c then return ([], false)
    else if c = quote && quote = '\'' && next = '\'' then
      pass 2
      let (word, escaped) ← quotedWord quote start fuel
      return ('\'' :: word, escaped)
    else if c = quote then return ([], false)
    else if c = '\\' && quote = '"' && isBreak next then
      pass 1
      passBreak
      return ([], true)
    else
      let c ← if c = '\\' && quote = '"' then escape start else do
        pass 1
        pure c
      let (word, escaped) ← quotedWord quote start fuel
      return (c :: word, escaped)

/-- Pass over the blanks and the ends of lines after a word between quotes, `fuel` at most. -/
def quotedSpacing : (fuel : Nat) → Spacing → Scan Spacing
  | 0, s => return s
  | fuel + 1, s => do
    let c ← look
    if isBlank c then
      let cursor ← get
      if s.broken && c = '\t' && cursor.place.column < cursor.indent then fail .tabQuoted
      passBlanks 1
      quotedSpacing fuel (if s.broken then s else { s with blanks := s.blanks ++ [c] })
    else if isBreak c then
      passBreak
      quotedSpacing fuel
        (if s.broken then { s with more := s.more + 1 } else { broken := true })
    else return s

/-- Read a text between quotes up to the closing one, `fuel` words at most. -/
def quotedWords (quote : Char) (start : Place) : (fuel : Nat) → Scan (List Char)
  | 0 => return []
  | fuel + 1 => do
    let c ← get
    if c.place.column = 0 && (← isAnyMarker) then failAt start .quotedMarker
    if isEnd (← look) then failAt start .quotedEnd
    if c.place.column < c.indent then failAt start .indentQuoted
    let (word, escaped) ← quotedWord quote start (c.rest.length + 1)
    if (← look) = quote then return word
    else
      let spacing ← quotedSpacing (c.rest.length + 1) { broken := escaped, escaped }
      return word ++ spacing.chars ++ (← quotedWords quote start fuel)

/-- Whether a text between quotes may end before a character. Outside of flow one that goes on over
several lines is no key. -/
def mayFollowQuoted (c : Char) (start : Place) (cursor : Cursor) : Bool :=
  isBreakOrEnd c ||
    (if cursor.flow = 0 then c = ':' && start.line = cursor.place.line
      else c = ',' || c = '\x7d' || c = ']' || c = ':')

/-- Read a text between quotes. What follows it in flow may touch a colon. -/
def quoted (quote : Char) : Scan Unit := do
  beginKey
  allowKey false
  let start ← here
  pass 1
  let text ← quotedWords quote start ((← get).rest.length + 1)
  pass 1
  let _ ← passGap true
  if !mayFollowQuoted (← look) start (← get) then fail .quotedTrailing
  passLines ((← get).rest.length + 1)
  modify fun c => { c with touchAt := c.place.index }
  push start (.scalar false (.ofList text))

/-! ## Texts that stand alone -/

/-- Whether a character belongs to a text that stands alone, by the one after it. -/
def continuesPlain (flow : Nat) (c next : Char) : Bool :=
  !(c = ':' && (isGap next || (flow ≠ 0 && isFlow next))) && !(flow ≠ 0 && isFlow c)

/-- The word of a text that stands alone. -/
def plainWord (flow : Nat) : List Char → List Char
  | [] => []
  | c :: rest =>
    if !isGap c && continuesPlain flow c (rest.headD '\x00') then c :: plainWord flow rest else []

/-- Pass over the blanks and the ends of lines after a word that stands alone, `fuel` at most. Tabs
indent only lines without words. -/
def plainSpacing (indent : Int) (start : Place) : (fuel : Nat) → Spacing → Scan Spacing
  | 0, s => return s
  | fuel + 1, s => do
    let c ← look
    if isBlank c then
      if s.broken && (← here).column < indent && c = '\t' then
        let _ ← passGap true
        if !isBreakOrEnd (← look) then failAt start .tabPlain
        plainSpacing indent start fuel s
      else
        passBlanks 1
        plainSpacing indent start fuel
          (if s.broken then s else { s with blanks := s.blanks ++ [c] })
    else if isBreak c then
      passBreak
      plainSpacing indent start fuel
        (if s.broken then { s with more := s.more + 1 } else { broken := true })
    else return s

/-- Read a text that stands alone, `fuel` words at most, and whether a line ended after it.
`spacing` is what stands before the next word. -/
def plainWords (indent : Int) (start : Place) :
    (fuel : Nat) → Spacing → Scan (List Char × Bool)
  | 0, spacing => return ([], spacing.broken)
  | fuel + 1, spacing => do
    let cursor ← get
    let c ← look
    if (cursor.place.column = 0 && (← isAnyMarker)) || c = '#' then return ([], spacing.broken)
    else if cursor.flow ≠ 0 && c = '-' && isFlow (← ahead 1) then fail .plainDash
    else
      let word := plainWord cursor.flow cursor.rest
      pass word.length
      let begun := if word.isEmpty then [] else spacing.chars ++ word
      let spacing := if word.isEmpty then spacing else {}
      let next ← look
      if isBlank next || isBreak next then
        let spacing ← plainSpacing indent start (cursor.rest.length + 1) spacing
        if cursor.flow = 0 && (← here).column < indent then return (begun, spacing.broken)
        else
          let (more, broken) ← plainWords indent start fuel spacing
          return (begun ++ more, broken)
      else return (begun, spacing.broken)

/-- Read a text that stands alone. -/
def plain : Scan Unit := do
  beginKey
  allowKey false
  unindentValues
  let cursor ← get
  let start := cursor.place
  let indent := cursor.indent + 1
  if cursor.flow ≠ 0 && start.column < indent then failAt start .indentFlow
  let (text, broken) ← plainWords indent start (cursor.rest.length + 1) {}
  if broken then allowKey true
  push start (.scalar true (.ofList text))

end Switchboard.Yaml.Scan
