import Switchboard.Decimal.Reader
import Switchboard.Http.Message
import Switchboard.Http.Target

/-!
# Heads of requests

The head of a request is a line with method, target and version, lines with one header each, and an
empty line. `Head.read?` reads one from the beginning of a text, and `Head.render` writes one, as a
client does. A head that cannot be read, or that contradicts itself about the body that follows it,
is answered by a status alone, and then the exchange is over.

An exchange is over after its response too if the head asks for that, or if it gives the length of
the body in both ways. The response then says so.
-/

namespace Switchboard.Http

/-- Why the head of a request is refused. -/
inductive HeadFault where
  | malformed
  | targetTooLong
  | tooLarge
  deriving DecidableEq, Repr

/-- The status that answers a fault. -/
def HeadFault.status : HeadFault → Nat
  | .malformed => 400
  | .targetTooLong => 414
  | .tooLarge => 431

/-- The header by which either side says what happens to an exchange after the response. -/
def connectionHeader : String := "connection"

/-- The response to a head that is refused. -/
def HeadFault.response (f : HeadFault) : Response :=
  { status := f.status, headers := [(connectionHeader, "close")] }

/-- The head of a request. -/
structure Head where
  method : String
  target : String
  /-- Whether the version is 1.1, not 1.0. -/
  current : Bool := true
  headers : List (String × String) := []
  deriving DecidableEq, Repr, Inhabited

namespace Head

/-! ## Text -/

/-- The text of a head. A server has no use for it: it is there for clients, who write heads. -/
def render (h : Head) : String :=
  let version := if h.current then "HTTP/1.1" else "HTTP/1.0"
  let lines := s!"{h.method} {h.target} {version}" :: h.headers.map fun (n, v) => s!"{n}: {v}"
  String.join ((lines ++ [""]).map fun line => line ++ "\r\n")

/-- Whether a character may stand in a method or in the name of a header. -/
def isToken (c : Char) : Bool := c.isAlphanum || "!#$%&'*+-.^_`|~".toList.contains c

/-- Whether a character may stand in a target. -/
def isTarget (c : Char) : Bool := 0x20 < c.toNat && c.toNat ≠ 0x7F

/-- Whether a character is a space or a tab. -/
def isBlank (c : Char) : Bool := c = ' ' || c = '\t'

/-- Whether a character may stand in the value of a header. -/
def isValue (c : Char) : Bool := c = '\t' || 0x20 ≤ c.toNat && c.toNat ≠ 0x7F

/-- Read the end of a line. -/
def lineEnd? : List Char → Option (List Char)
  | '\r' :: '\n' :: rest | '\n' :: rest => some rest
  | _ => none

/-- What follows the empty lines at the beginning of a text. -/
def afterEmptyLines : List Char → List Char
  | '\r' :: '\n' :: rest | '\n' :: rest => afterEmptyLines rest
  | cs => cs

/-- Read characters of a kind, one at least, and the one that has to follow them. -/
def word? (isPart : Char → Bool) (stop : Char) (cs : List Char) : Option (String × List Char) :=
  let word := cs.takeWhile isPart
  match cs.drop word.length with
  | c :: rest => if c = stop && !word.isEmpty then some (.ofList word, rest) else none
  | [] => none

/-- Read a version: whether it is 1.1. -/
def version? : List Char → Option (Bool × List Char)
  | 'H' :: 'T' :: 'T' :: 'P' :: '/' :: '1' :: '.' :: '1' :: rest => some (true, rest)
  | 'H' :: 'T' :: 'T' :: 'P' :: '/' :: '1' :: '.' :: '0' :: rest => some (false, rest)
  | _ => none

/-- Read a header and the end of its line. Names are in lower case, and the blanks around a value do
not belong to it. -/
def header? (cs : List Char) : Option ((String × String) × List Char) := do
  let (name, rest) ← word? isToken ':' cs
  let rest := rest.dropWhile isBlank
  let value := rest.takeWhile isValue
  let rest ← lineEnd? (rest.drop value.length)
  return ((Ascii.lower name, .ofList (value.reverse.dropWhile isBlank).reverse), rest)

/-- The greatest number of headers. -/
def maxHeaders : Nat := 100

/-- Read headers, `count` at most, up to the empty line and over it. -/
def headerLines (count : Nat) (cs : List Char) :
    Except HeadFault (List (String × String) × List Char) :=
  match lineEnd? cs with
  | some rest => .ok ([], rest)
  | none =>
    match header? cs, count with
    | none, _ => .error .malformed
    | some _, 0 => .error .tooLarge
    | some (header, rest), count + 1 =>
      (headerLines count rest).map fun (more, rest) => (header :: more, rest)
  termination_by count

/-- The greatest length of a target in bytes. -/
def maxTarget : Nat := 65534

/-- Read the text of a head: what it says, and what follows it. -/
def scan (cs : List Char) : Except HeadFault (Head × List Char) :=
  let line : Option (Head × List Char) := do
    let (method, rest) ← word? isToken ' ' (afterEmptyLines cs)
    let (target, rest) ← word? isTarget ' ' rest
    let (current, rest) ← version? rest
    let rest ← lineEnd? rest
    return ({ method, target, current }, rest)
  match line with
  | none => .error .malformed
  | some (h, rest) => do
    let (headers, rest) ← headerLines maxHeaders rest
    if h.target.utf8ByteSize > maxTarget then .error .targetTooLong
    else if (Target.parse? h.target).isNone then .error .malformed
    else .ok ({ h with headers }, rest)

/-! ## What is said about the body -/

/-- What the headers that were read say about the body and the exchange. -/
structure Framing where
  /-- The length of the body. -/
  length : Option Nat := none
  /-- Whether the body comes in chunks, if the way it is transferred is given. -/
  chunked : Option Bool := none
  /-- Whether the exchange goes on after the response. -/
  persistent : Bool
  deriving DecidableEq, Repr, Inhabited

/-- The greatest length of a body that can be said. -/
def maxLength : Nat := Nat.pow 2 64 - 3

/-- The length that a text gives. -/
def bodyLength (value : String) : Except HeadFault Nat :=
  let cs := value.toList
  if !cs.all Char.isDigit then .error .malformed
  else
    match Decimal.natural? (Nat.pow 2 64 - 1) cs with
    | none => .error .malformed
    | some n => if n ≤ maxLength then .ok n else .error .tooLarge

/-- The words between the commas of the value of a header, in lower case. -/
def words (value : String) : List String :=
  if (Utf8.encode value).all Request.isVisible then
    (Target.split ',' (Ascii.lower value).toList).map fun w =>
      .ofList ((w.dropWhile isBlank).reverse.dropWhile isBlank).reverse
  else []

namespace Framing

/-- Regard a header, and decide whether to keep it. A length counts only if it comes before the way
of transfer, and the same length may be given again. -/
def regard (current : Bool) (f : Framing) (header : String × String) :
    Except HeadFault (Bool × Framing) :=
  let (name, value) := header
  if name = "transfer-encoding" then
    if current then .ok (true, { f with chunked := some ((words value).getLast? = some "chunked") })
    else .error .malformed
  else if name = "content-length" then
    if f.chunked.isSome then .ok (false, f)
    else do
      let n ← bodyLength value
      match f.length with
      | none => return (true, { f with length := some n })
      | some m => if m = n then return (false, f) else throw .malformed
  else if name = connectionHeader then
    let persistent :=
      if f.persistent then !(words value).contains "close" else (words value).contains "keep-alive"
    .ok (true, { f with persistent })
  else .ok (true, f)

/-- Regard headers: those that are kept, and what they say. -/
def ofHeaders (current : Bool) (f : Framing) :
    List (String × String) → Except HeadFault (List (String × String) × Framing)
  | [] => .ok ([], f)
  | header :: rest => do
    let (kept, f) ← regard current f header
    let (headers, f) ← ofHeaders current f rest
    return (if kept then header :: headers else headers, f)

end Framing

/-- A head that was accepted, whether its exchange goes on after the response, and what follows it.
-/
structure Accepted where
  head : Head
  persistent : Bool
  rest : List Char
  deriving DecidableEq, Repr, Inhabited

/-- Read a head from the beginning of a text. -/
def read (text : String) : Except HeadFault Accepted := do
  let (head, rest) ← scan text.toList
  let (headers, f) ← Framing.ofHeaders head.current { persistent := head.current } head.headers
  match f.chunked with
  | some false => throw .malformed
  | chunked =>
    let both := chunked.isSome && f.length.isSome
    return { head := { head with headers }, persistent := f.persistent && !both, rest }

/-- The request with a head and no body. -/
def request (h : Head) : Request :=
  { method := h.method, target := h.target, headers := h.headers, upgradable := h.current }

end Head

namespace Head.Accepted

/-- The response with what it says about the exchange. -/
def conclude (a : Accepted) (r : Response) : Response :=
  if a.head.current then
    if a.persistent then r
    else if r.headers.any fun (n, _) => n = connectionHeader then
      { r with headers := r.headers.map fun (n, v) =>
          if n = connectionHeader then (n, v ++ ", close") else (n, v) }
    else r.withHeaders [(connectionHeader, "close")]
  else if a.persistent then
    { r with headers := (r.headers.filter fun (n, _) => n ≠ connectionHeader) ++
        [(connectionHeader, "keep-alive")] }
  else r

end Head.Accepted

end Switchboard.Http
