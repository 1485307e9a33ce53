/-!
# What is wrong with a YAML text

A fault is a reason and the place where it was noticed. `Reason.message` and `Fault.message` are the
wording.
-/

namespace Switchboard.Yaml

/-- A place in a text: the number of characters before it, its line from one and its column from
zero. -/
structure Place where
  index : Nat
  line : Nat
  column : Nat
  deriving DecidableEq, Repr, Inhabited

/-- Why a text cannot be read. -/
inductive Reason where
  /-- A comment that touches what is before it. -/
  | touchingComment
  /-- A tab where only spaces indent. -/
  | tabIndent
  /-- A tab after a question mark. -/
  | tabKey
  /-- A tab that indents a line of a quoted text. -/
  | tabQuoted
  /-- A tab that indents a line of a plain text. -/
  | tabPlain
  /-- A tab at the beginning of a block of text. -/
  | tabBlock
  /-- A tab between a dash and the dash of an item within. -/
  | tabItem
  /-- A tab between a colon and a word. -/
  | tabValue
  /-- A line of a mapping without a colon. -/
  | noColon
  /-- A line of a mapping that ends before its colon. -/
  | noKey
  | afterDocument
  | indent
  | indentAnchor
  | indentFlow
  | indentQuoted
  | indentBlock
  | unexpected (c : Char)
  | directiveEnd
  | directiveName
  | directiveLetter
  | versionPoint
  | versionLength
  | versionNumber
  | tagDirectiveEnd
  | tagDirectiveHandle
  | tagPrefix
  | tagEnd
  | tagHandle
  | tagVerbatim
  | tagName
  | octet
  | octetLeading
  | octetTrailing
  | octetCode
  | anchorName
  /-- Collections within collections, too many. -/
  | depth
  | itemInFlow
  | itemHere
  | keyHere
  | keyBlank
  | valueHere
  | valueLine
  | blockHeader
  | blockZero
  | quotedMarker
  | quotedEnd
  | quotedTrailing
  | escapeLetter
  | escapeDigits
  | escapeCode
  | plainDash
  | documentStart
  | documentEnd
  | versionTwice
  | tagUnknown
  | anchorUnknown
  | nodeContent
  | mappingKey
  | sequenceItem
  | flowSequence
  | flowMapping
  /-- A key that is given again in a mapping. -/
  | repeated (key : String)
  deriving DecidableEq, Repr

/-- The wording of a reason. -/
def Reason.message : Reason → String
  | .touchingComment => "comments must be separated from other tokens by whitespace"
  | .tabIndent => "tabs disallowed within this context (block indentation)"
  | .tabKey => "tabs disallowed in this context"
  | .tabQuoted => "tab cannot be used as indentation"
  | .tabPlain => "while scanning a plain scalar, found a tab"
  | .tabBlock => "a block scalar content cannot start with a tab"
  | .tabItem => "'-' must be followed by a valid YAML whitespace"
  | .tabValue => "':' must be followed by a valid YAML whitespace"
  | .noColon => "simple key expect ':'"
  | .noKey => "simple key expected"
  | .afterDocument => "invalid content after document end marker"
  | .indent => "invalid indentation"
  | .indentAnchor => "invalid indentation for anchor"
  | .indentFlow => "invalid indentation in flow construct"
  | .indentQuoted => "invalid indentation in quoted scalar"
  | .indentBlock => "wrongly indented line in block scalar"
  | .unexpected c => s!"unexpected character: `{c}'"
  | .directiveEnd => "while scanning a directive, did not find expected comment or line break"
  | .directiveName => "while scanning a directive, could not find expected directive name"
  | .directiveLetter => "while scanning a directive, found unexpected non-alphabetical character"
  | .versionPoint =>
    "while scanning a YAML directive, did not find expected digit or '.' character"
  | .versionLength => "while scanning a YAML directive, found extremely long version number"
  | .versionNumber => "while scanning a YAML directive, did not find expected version number"
  | .tagDirectiveEnd => "while scanning TAG, did not find expected whitespace or line break"
  | .tagDirectiveHandle => "while parsing a tag directive, did not find expected '!'"
  | .tagPrefix => "invalid global tag character"
  | .tagEnd => "while scanning a tag, did not find expected whitespace or line break"
  | .tagHandle => "while scanning a tag, did not find expected '!'"
  | .tagVerbatim => "while scanning a verbatim tag, did not find the expected '>'"
  | .tagName => "while parsing a tag, did not find expected tag URI"
  | .octet => "while parsing a tag, did not find URI escaped octet"
  | .octetLeading => "while parsing a tag, found an incorrect leading UTF-8 octet"
  | .octetTrailing => "while parsing a tag, found an incorrect trailing UTF-8 octet"
  | .octetCode => "while parsing a tag, found an invalid UTF-8 codepoint"
  | .anchorName =>
    "while scanning an anchor or alias, did not find expected alphabetic or numeric character"
  | .depth => "recursion limit exceeded"
  | .itemInFlow => "\"-\" is only valid inside a block"
  | .itemHere => "block sequence entries are not allowed in this context"
  | .keyHere => "mapping keys are not allowed in this context"
  | .keyBlank => "expected whitespace"
  | .valueHere => "mapping values are not allowed in this context"
  | .valueLine => "illegal placement of ':' indicator"
  | .blockHeader =>
    "while scanning a block scalar, did not find expected comment or line break"
  | .blockZero => "while scanning a block scalar, found an indentation indicator equal to 0"
  | .quotedMarker => "while scanning a quoted scalar, found unexpected document indicator"
  | .quotedEnd => "while scanning a quoted scalar, found unexpected end of stream"
  | .quotedTrailing => "invalid trailing content after double-quoted scalar"
  | .escapeLetter => "while parsing a quoted scalar, found unknown escape character"
  | .escapeDigits => "while parsing a quoted scalar, did not find expected hexadecimal number"
  | .escapeCode => "while parsing a quoted scalar, found invalid Unicode character escape code"
  | .plainDash => "plain scalar cannot start with '-' followed by ,[]\x7b\x7d"
  | .documentStart => "did not find expected <document start>"
  | .documentEnd => "missing explicit document end marker before directive"
  | .versionTwice => "duplicate version directive"
  | .tagUnknown => "the handle wasn't declared"
  | .anchorUnknown => "while parsing node, found unknown anchor"
  | .nodeContent => "while parsing a node, did not find expected node content"
  | .mappingKey => "while parsing a block mapping, did not find expected key"
  | .sequenceItem => "while parsing a block collection, did not find expected '-' indicator"
  | .flowSequence => "while parsing a flow sequence, expected ',' or ']'"
  | .flowMapping => "while parsing a flow mapping, did not find expected ',' or '\x7d'"
  | .repeated key => s!"{key}: duplicated key in mapping"

/-- Why a text cannot be read, and where. -/
structure Fault where
  reason : Reason
  place : Place
  deriving DecidableEq, Repr

/-- The wording of a fault. Columns are counted from one. -/
def Fault.message (f : Fault) : String :=
  s!"{f.reason.message} at byte {f.place.index} line {f.place.line} column {f.place.column + 1}"

end Switchboard.Yaml
