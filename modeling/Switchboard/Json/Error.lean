import Switchboard.Text.Utf8

/-!
# What is wrong with a JSON text

A `Json.Error` says what went wrong, where in the text, and inside which value of the document. A
fault of the text (`Fault`) always has a position; a `mismatch`, where the text is fine but the
value is not the one asked for, has one only if it was found while reading.
-/

namespace Switchboard.Json

/-- A way in which a text fails to be JSON. -/
inductive Fault where
  | endInValue
  | endInString
  | endInList
  | endInObject
  | expectedValue
  | expectedIdent
  | expectedColon
  | expectedListCommaOrEnd
  | expectedObjectCommaOrEnd
  | keyMustBeString
  | trailingComma
  | trailingCharacters
  | invalidNumber
  | numberOutOfRange
  | invalidEscape
  | invalidCodePoint
  | unexpectedEndOfHexEscape
  | loneSurrogate
  | controlCharacter
  | recursionLimit
  deriving DecidableEq, Repr

/-- The wording of a fault. -/
def Fault.message : Fault → String
  | .endInValue => "EOF while parsing a value"
  | .endInString => "EOF while parsing a string"
  | .endInList => "EOF while parsing a list"
  | .endInObject => "EOF while parsing an object"
  | .expectedValue => "expected value"
  | .expectedIdent => "expected ident"
  | .expectedColon => "expected `:`"
  | .expectedListCommaOrEnd => "expected `,` or `]`"
  | .expectedObjectCommaOrEnd => "expected `,` or `\x7d`"
  | .keyMustBeString => "key must be a string"
  | .trailingComma => "trailing comma"
  | .trailingCharacters => "trailing characters"
  | .invalidNumber => "invalid number"
  | .numberOutOfRange => "number out of range"
  | .invalidEscape => "invalid escape"
  | .invalidCodePoint => "invalid unicode code point"
  | .unexpectedEndOfHexEscape => "unexpected end of hex escape"
  | .loneSurrogate => "lone leading surrogate in hex escape"
  | .controlCharacter => "control character (\\u0000-\\u001F) found while parsing a string"
  | .recursionLimit => "recursion limit exceeded"

/-- What is wrong: the text itself, or a value that is not the one asked for. -/
inductive Cause where
  | fault (f : Fault)
  | mismatch (text : String)
  deriving DecidableEq, Repr

/-- The wording of a cause. -/
def Cause.message : Cause → String
  | .fault f => f.message
  | .mismatch text => text

/-- A place in a text: lines count from one, columns are bytes since the line began. -/
structure Position where
  line : Nat
  column : Nat
  deriving DecidableEq, Repr

/-- The place reached after the first `index` bytes of a text. -/
def Position.after (text : Bytes) (index : Nat) : Position :=
  (text.take index).foldl
    (fun p b => if b = 10 then ⟨p.line + 1, 0⟩ else ⟨p.line, p.column + 1⟩) ⟨1, 0⟩

/-- A step from a value into one of its parts. -/
inductive PathStep where
  | item (index : Nat)
  | member (key : String)
  | unknown
  deriving DecidableEq, Repr

/-- The wording of a path: members joined by points, items in brackets. -/
def pathText (path : List PathStep) : String :=
  let write (text : String) (step : PathStep) : String :=
    let joint := if text.isEmpty then "" else "."
    match step with
    | .item index => text ++ s!"[{index}]"
    | .member key => text ++ joint ++ key
    | .unknown => text ++ joint ++ "?"
  path.foldl write ""

/-- Why a text cannot be read: a cause, the number of bytes read when it was found, if it was found
while reading, and the way from the whole document to the value in which it was found. -/
structure Error where
  cause : Cause
  index : Option Nat
  path : List PathStep
  deriving DecidableEq, Repr

namespace Error

/-- The wording of an error in the given text. -/
def message (text : Bytes) (e : Error) : String :=
  match e.index with
  | some index =>
    let p := Position.after text index
    s!"{e.cause.message} at line {p.line} column {p.column}"
  | none => e.cause.message

/-- The wording of an error, after the path to it if that names a part of the document. -/
def messageWithPath (text : Bytes) (e : Error) : String :=
  if e.path.all (· = .unknown) then e.message text
  else s!"{pathText e.path}: {e.message text}"

/-- Whether the value is not the one asked for, the text being fine so far. -/
def isMismatch (e : Error) : Bool :=
  e.cause matches .mismatch _

end Error

end Switchboard.Json
