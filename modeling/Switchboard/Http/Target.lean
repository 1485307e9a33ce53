import Switchboard.Text.Utf8

/-!
# Paths and queries

A request's target is a path and perhaps a query after `?`; a fragment after `#` is dropped. The
name of a scheme and an authority may come before the path, but where a request goes does not depend
on them; an authority alone leads nowhere. Segments of the path are percent-decoded one by one, so
that an encoded slash does not split one. A query holds pairs joined by `&`; in it `+` stands for a
space.
-/

namespace Switchboard.Http

/-- The parts of a target. -/
structure Target where
  path : List Char
  query : Option (List Char)
  deriving DecidableEq, Repr

namespace Target

/-- The characters before the first `c`, and those after it if there is one. -/
def cut (c : Char) : List Char → List Char × Option (List Char)
  | [] => ([], none)
  | x :: rest =>
    if x = c then ([], some rest)
    else
      let (before, after) := cut c rest
      (x :: before, after)

/-- The pieces of a text between the occurrences of `c`. -/
def split (c : Char) : List Char → List (List Char)
  | [] => [[]]
  | x :: rest =>
    if x = c then [] :: split c rest
    else
      match split c rest with
      | piece :: pieces => (x :: piece) :: pieces
      | [] => [[x]]

/-- Whether a character may stand in a path. -/
def isPath (c : Char) : Bool := !(c.toNat ≤ 0x20 || ['#', '<', '>', '?', '`'].contains c)

/-- Whether a character may stand in a query. -/
def isQuery (c : Char) : Bool := !(c.toNat ≤ 0x20 || ['"', '#', '<', '>'].contains c)

/-- Read a path and a query. -/
def pathAndQuery? (cs : List Char) : Option Target :=
  let (whole, _) := cut '#' cs
  let (path, query) := cut '?' whole
  if path.all isPath && (query.getD []).all isQuery then some ⟨path, query⟩ else none

/-! ## Schemes and authorities -/

/-- Whether a character may stand in the name of a scheme. -/
def isScheme (c : Char) : Bool := c.isAlphanum || ['+', '-', '.'].contains c

/-- The greatest length of the name of a scheme that is not well known. -/
def maxScheme : Nat := 64

/-- What follows the name of a scheme and the two slashes after it, if a target begins with one; a
name that is too long makes the target wrong. -/
def afterScheme? (cs : List Char) : Option (Option (List Char)) :=
  let name := cs.takeWhile isScheme
  match cs.drop name.length with
  | ':' :: '/' :: '/' :: rest => if name.length ≤ maxScheme then some (some rest) else none
  | _ => some none

/-- What has been seen of an authority since the last part that is no name of a host. -/
structure Authority where
  colons : Nat := 0
  bracket : Bool := false
  closed : Bool := false
  percent : Bool := false
  deriving DecidableEq, Repr, Inhabited

namespace Authority

/-- Whether a character may stand in an authority without being one of those that divide it. -/
def isPlain (c : Char) : Bool := c.isAlphanum || "!$&'()*+,-.;=_~".toList.contains c

/-- Go on with a character. The user before an `@` and an address in brackets may hold colons and
percent signs; the name of a host holds neither, but for the colon before a port. -/
def step? (a : Authority) (c : Char) : Option Authority :=
  if c = ':' then if a.colons < 8 then some { a with colons := a.colons + 1 } else none
  else if c = '[' then if a.percent || a.bracket then none else some { a with bracket := true }
  else if c = ']' then
    if !a.bracket || a.closed then none
    else some { a with closed := true, colons := 0, percent := false }
  else if c = '@' then some { a with colons := 0, percent := false }
  else if c = '%' then some { a with percent := true }
  else if isPlain c then some a
  else none

/-- Whether characters are an authority, which may be empty. -/
def accepts (cs : List Char) : Bool :=
  match cs.foldlM step? {} with
  | none => false
  | some a =>
    a.bracket = a.closed && a.colons ≤ 1 && cs.getLast? ≠ some '@' && !a.percent

end Authority

/-- The parts of a target that is one. -/
def parse? (target : String) : Option Target :=
  match target.toList with
  | [] => none
  | ['*'] => some ⟨['*'], none⟩
  | '/' :: rest => pathAndQuery? ('/' :: rest)
  | cs =>
    match afterScheme? cs with
    | none => none
    | some none => if Authority.accepts cs then some ⟨[], none⟩ else none
    | some (some rest) =>
      let authority := rest.takeWhile fun c => c ≠ '/' && c ≠ '?' && c ≠ '#'
      if authority.isEmpty || !Authority.accepts authority then none
      else
        match pathAndQuery? (rest.drop authority.length) with
        | some t => some (if t.path.isEmpty then { t with path := ['/'] } else t)
        | none => none

/-- The parts of a target; one that is none leads nowhere. -/
def parse (target : String) : Target := (parse? target).getD ⟨[], none⟩

/-! ## Decoding -/

/-- The segments of a path that begins with a slash. -/
def segments? (t : Target) : Option (List (List Char)) :=
  match t.path with
  | '/' :: rest => some (split '/' rest)
  | _ => none

/-- The value of a hexadecimal digit. -/
def hexValue? (b : UInt8) : Option Nat :=
  if 48 ≤ b && b ≤ 57 then some (b.toNat - 48)
  else if 65 ≤ b && b ≤ 70 then some (b.toNat - 55)
  else if 97 ≤ b && b ≤ 102 then some (b.toNat - 87)
  else none

/-- The byte that a percent sign and the two bytes after it stand for. -/
def escaped? (a b : UInt8) : Option UInt8 :=
  match hexValue? a, hexValue? b with
  | some x, some y => some (x * 16 + y).toUInt8
  | _, _ => none

/-- Put bytes in the place of percent escapes; a percent sign that begins none stays. -/
def percentDecode : Bytes → Bytes
  | 37 :: a :: b :: rest =>
    match escaped? a b with
    | some x => x :: percentDecode rest
    | none => 37 :: percentDecode (a :: b :: rest)
  | x :: rest => x :: percentDecode rest
  | [] => []
termination_by bs => bs.length

/-- The bytes of some characters. -/
def bytes (cs : List Char) : Bytes := cs.flatMap String.utf8EncodeChar

/-- A segment of a path as text, if it is. -/
def decodeSegment? (segment : List Char) : Option String :=
  Utf8.decode? (percentDecode (bytes segment))

/-- A part of a query as text. -/
def decodeFormPart (part : List Char) : String :=
  Utf8.decodeLossy (percentDecode (bytes (part.map fun c => if c = '+' then ' ' else c)))

/-- The pairs of a query. -/
def queryPairs (t : Target) : List (String × String) :=
  let parts := (split '&' (t.query.getD [])).filter fun p => !p.isEmpty
  parts.map fun p =>
    let (key, value) := cut '=' p
    (decodeFormPart key, decodeFormPart (value.getD []))

end Target

end Switchboard.Http
