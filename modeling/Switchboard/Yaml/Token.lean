import Switchboard.Yaml.Fault

/-!
# Tokens of a YAML text

Collections are written in blocks, by indentation, or in flow, between brackets; the tokens of both
say where a collection begins and ends. The kinds of characters that tell tokens apart are here too.
-/

namespace Switchboard.Yaml

/-- A token. -/
inductive Token where
  | streamStart
  | streamEnd
  | versionDirective
  | tagDirective (handle leading : String)
  | documentStart
  | documentEnd
  | blockSequenceStart
  | blockMappingStart
  | blockEnd
  | flowSequenceStart
  | flowSequenceEnd
  | flowMappingStart
  | flowMappingEnd
  | blockEntry
  | flowEntry
  | key
  | value
  | alias (name : String)
  | anchor (name : String)
  | tag (handle name : String)
  /-- A text; `plain` tells whether it stands without quotes and outside of a block of text. -/
  | scalar (plain : Bool) (text : String)
  deriving DecidableEq, Repr, Inhabited

/-- A token and where it was found. -/
structure Placed where
  place : Place
  token : Token
  deriving DecidableEq, Repr, Inhabited

/-! ## Kinds of characters

The end of the text counts as the character NUL. -/

/-- Whether a character stands for the end of the text. -/
def isEnd (c : Char) : Bool := c = '\x00'

/-- Whether a character ends a line. -/
def isBreak (c : Char) : Bool := c = '\n' || c = '\r'

/-- Whether a character is a space or a tab. -/
def isBlank (c : Char) : Bool := c = ' ' || c = '\t'

/-- Whether a character ends a line or the text. -/
def isBreakOrEnd (c : Char) : Bool := isBreak c || isEnd c

/-- Whether a character ends a word. -/
def isGap (c : Char) : Bool := isBlank c || isBreakOrEnd c

/-- Whether a character belongs to the notation of collections in flow. -/
def isFlow (c : Char) : Bool :=
  c = ',' || c = '[' || c = ']' || c = '\x7b' || c = '\x7d'

/-- Whether a character may stand in the name of a directive or of a tag's handle. -/
def isNameChar (c : Char) : Bool := c.isAlphanum || c = '_' || c = '-'

/-- Whether a character may stand in the name of an anchor. -/
def isAnchorChar (c : Char) : Bool := !isGap c && !isFlow c && c ≠ '\uFEFF'

/-- Whether a character may stand in the address of a tag. -/
def isAddressChar (c : Char) : Bool :=
  c.isAlphanum || c = '-' || "#;/?:@&=+$,_.!~*'()[]%".toList.contains c

/-- Whether a character may stand in the name of a tag. -/
def isTagChar (c : Char) : Bool := isAddressChar c && !isFlow c && c ≠ '!'

/-- The value of a hexadecimal digit. -/
def hexValue? (c : Char) : Option Nat :=
  if c.isDigit then some (c.toNat - 48)
  else if 'a' ≤ c && c ≤ 'f' then some (c.toNat - 87)
  else if 'A' ≤ c && c ≤ 'F' then some (c.toNat - 55)
  else none

/-- The number that hexadecimal digits spell, if all of them are. -/
def hexNumber? (cs : List Char) : Option Nat :=
  cs.foldl (fun n? c => do return (← n?) * 16 + (← hexValue? c)) (some 0)

end Switchboard.Yaml
