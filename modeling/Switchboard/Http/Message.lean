import Switchboard.Json.Printer
import Switchboard.Text.Ascii
import Switchboard.Text.Utf8

/-!
# Requests and responses

Names of headers do not depend on the case of ASCII letters; of several headers of one name the
first counts. The value of a header is a list of bytes, and only some of these are text.
-/

namespace Switchboard.Http

/-- A request. -/
structure Request where
  method : String
  /-- What follows the method: a path, perhaps with a query. -/
  target : String
  headers : List (String × Bytes) := []
  body : Bytes := []
  /-- Whether the exchange can become one of another protocol. -/
  upgradable : Bool := false
  deriving DecidableEq, Repr, Inhabited

/-- A response. -/
structure Response where
  status : Nat
  headers : List (String × String) := []
  body : Bytes := []
  deriving DecidableEq, Repr, Inhabited

namespace Request

/-- Headers whose values are given as text. -/
instance : Coe (List (String × String)) (List (String × Bytes)) where
  coe headers := headers.map fun (name, value) => (name, Utf8.encode value)

/-- The value of a header. -/
def header? (r : Request) (name : String) : Option Bytes :=
  (r.headers.find? fun (n, _) => Ascii.sameText n name).map Prod.snd

/-- Whether a byte may stand in the value of a header that is text. -/
def isVisible (b : UInt8) : Bool := (32 ≤ b && b < 127) || b = 9

/-- The value of a header that is text: it holds visible ASCII characters, spaces and tabs only. -/
def textHeader? (r : Request) (name : String) : Option String :=
  (r.header? name).bind fun v => if v.all isVisible then some (Ascii.ofBytes v) else none

/-- Bytes that may stand in a text are ASCII characters. -/
theorem lt_of_isVisible {b : UInt8} (h : isVisible b = true) : b.toNat < 128 := by
  simp only [isVisible, Bool.or_eq_true, Bool.and_eq_true, decide_eq_true_eq] at h
  rcases h with ⟨-, hlt⟩ | rfl
  · have hlt' : b.toNat < 127 := UInt8.lt_iff_toNat_lt.mp hlt
    omega
  · decide

theorem textHeader?_of_header? {r : Request} {name : String} {v : Bytes}
    (hv : r.header? name = some v) :
    r.textHeader? name = if v.all isVisible then some (Ascii.ofBytes v) else none := by
  rw [textHeader?, hv, Option.bind_some]

end Request

namespace Response

/-- The type of a plain text. -/
def plainType : String := "text/plain; charset=utf-8"

/-- A response without a body. -/
def empty (status : Nat) : Response := { status }

/-- A response that holds a plain text. -/
def text (status : Nat) (s : String) : Response :=
  { status, headers := [("content-type", plainType)], body := Utf8.encode s }

/-- A response that holds a JSON value. -/
def json (status : Nat) (v : Json) : Response :=
  { status, headers := [("content-type", "application/json")], body := Utf8.encode v.print }

/-- Add headers to a response. -/
def withHeaders (r : Response) (headers : List (String × String)) : Response :=
  { r with headers := r.headers ++ headers }

end Response

end Switchboard.Http
