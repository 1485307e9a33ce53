import Switchboard.Json.Error
import Switchboard.Settings.Fault

/-!
# What can go wrong

An `Error` says what went wrong as a cause; `Error.message` words it. To a client it is answered
with a status and a code (`Error.status`, `Error.code`), and with its wording unless the fault is
the server's own and the server is in production.
-/

namespace Switchboard

/-- A configuration value or a frame that is refused. -/
inductive Invalid where
  | zeroInterval
  | readTimeoutTooShort (readTimeout heartbeat : Nat)
  | noQueue
  | noMessageSize
  | notText (fault : Utf8.Fault)
  | other (reason : String)
  deriving DecidableEq, Repr

/-- The wording of a refusal. -/
def Invalid.message : Invalid → String
  | .zeroInterval => "heartbeat interval and write timeout must be non-zero"
  | .readTimeoutTooShort readTimeout heartbeat =>
    s!"read timeout ({readTimeout}ms) must exceed heartbeat interval ({heartbeat}ms)"
  | .noQueue => "queue capacity must be at least 1"
  | .noMessageSize => "max message size must be non-zero"
  | .notText fault => s!"text frame is not valid UTF-8: {fault.message}"
  | .other reason => reason

/-- What went wrong. -/
inductive Error where
  | config (fault : SettingsFault)
  | upgrade (reason : String)
  | transport (reason : String)
  | serialization (reason : String)
  | validation (reason : Invalid)
  | notFound (what : String)
  deriving DecidableEq, Repr

namespace Error

/-- The name of the kind of an error. -/
def kind : Error → String
  | .config _ => "Config"
  | .upgrade _ => "Upgrade"
  | .transport _ => "Transport"
  | .serialization _ => "Serialization"
  | .validation _ => "Validation"
  | .notFound _ => "NotFound"

/-- The wording of an error. -/
def message : Error → String
  | .config fault => s!"Configuration error: {fault.message}"
  | .upgrade reason => s!"Upgrade failed: {reason}"
  | .transport reason => s!"Transport error: {reason}"
  | .serialization reason => s!"Serialization error: {reason}"
  | .validation reason => s!"Validation error: {reason.message}"
  | .notFound what => s!"Not found: {what}"

/-- The HTTP status that answers an error. -/
def status : Error → Nat
  | .config _ => 500
  | .upgrade _ => 400
  | .transport _ => 502
  | .serialization _ => 400
  | .validation _ => 400
  | .notFound _ => 404

/-- The code by which clients tell errors apart. -/
def code : Error → String
  | .config _ => "CONFIG_ERROR"
  | .upgrade _ => "UPGRADE_FAILED"
  | .transport _ => "TRANSPORT_ERROR"
  | .serialization _ => "SERIALIZATION_ERROR"
  | .validation _ => "VALIDATION_ERROR"
  | .notFound _ => "NOT_FOUND"

/-- Whether a run mode is that of a server in production. -/
def isProduction (runMode : Option String) : Bool :=
  runMode = some "production" || runMode = some "prod"

/-- The wording a client is given. -/
def clientMessage (runMode : Option String) (e : Error) : String :=
  if e.status ≥ 500 && isProduction runMode then "Internal server error" else e.message

/-- The error of reading a JSON text. -/
def ofJson (text : Bytes) (e : Json.Error) : Error := .serialization (e.message text)

end Error

end Switchboard
