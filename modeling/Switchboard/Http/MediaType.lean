import Switchboard.Text.Ascii

/-!
# Media types

A media type is two names joined by a slash, the second perhaps with a suffix after its last `+`,
and then parameters, each a name and a token or quoted text. A request holds JSON if its type is
`application/json` or has the suffix `json` in the same tree.
-/

namespace Switchboard.Http

/-- A media type without its parameters. -/
structure MediaType where
  type : String
  subtype : String
  suffix : Option String
  deriving DecidableEq, Repr

namespace MediaType

/-- Whether a character may stand in a token. -/
def isToken (c : Char) : Bool :=
  c.isAlphanum || "!#$%&'+-.^_`|~".toList.contains c

/-- Whether a character may stand between quotes. -/
def isQuotable (c : Char) : Bool := 32 ≤ c.toNat && c.toNat ≠ 127

/-- Drop the rest of a quoted text, of which a part was read, and what may follow it up to the next
parameter. -/
def afterQuoted : List Char → Option (List Char)
  | [] => none
  | '"' :: rest =>
    match rest.dropWhile (· = ' ') with
    | [] => some []
    | ';' :: rest => some rest
    | _ => none
  | c :: rest => if isQuotable c then afterQuoted rest else none

/-- Drop a quoted text after its opening quote and what may follow it up to the next parameter. It
is not empty: a quote right at its beginning is a part of it. -/
def afterOpening : List Char → Option (List Char)
  | [] => none
  | c :: rest => if isQuotable c then afterQuoted rest else none

/-- Whether a text, `fuel` characters at most, holds parameters only. -/
def areParameters : (fuel : Nat) → List Char → Bool
  | 0, cs => cs.isEmpty
  | fuel + 1, cs =>
    let cs := cs.dropWhile (· = ' ')
    if cs.isEmpty then true
    else
      let name := cs.takeWhile isToken
      match cs.dropWhile isToken with
      | '=' :: '"' :: value =>
        !name.isEmpty &&
          match afterOpening value with
          | some rest => areParameters fuel rest
          | none => false
      | '=' :: value =>
        let text := value.takeWhile isToken
        !name.isEmpty &&
          match value.dropWhile isToken with
          | [] => true
          | ';' :: rest => !text.isEmpty && areParameters fuel rest
          | _ => false
      | _ => false

/-- The parts of a name before and after its last `+`, unless that is its first character. -/
def splitSuffix (name : List Char) : List Char × Option (List Char) :=
  let last := name.reverse.takeWhile (· ≠ '+')
  if last.length + 1 < name.length then
    (name.take (name.length - last.length - 1), some last.reverse)
  else (name, none)

/-- Read a media type. -/
def parse? (s : String) : Option MediaType :=
  let cs := (Ascii.lower s).toList
  let type := cs.takeWhile isToken
  match cs.dropWhile isToken with
  | '/' :: rest =>
    let name := rest.takeWhile isToken
    if type.isEmpty then none
    else
      let (subtype, suffix) := splitSuffix name
      let result : MediaType :=
        ⟨String.ofList type, String.ofList subtype, suffix.map String.ofList⟩
      match rest.dropWhile isToken with
      | [] => some result
      | c :: parameters =>
        if (c = ';' || c = ' ') && !name.isEmpty && areParameters (s.length + 1) parameters then
          some result
        else none
  | _ => none

/-- Whether a media type is that of a JSON text. -/
def isJson (m : MediaType) : Bool :=
  m.type = "application" && (m.subtype = "json" || m.suffix = some "json")

end MediaType

end Switchboard.Http
