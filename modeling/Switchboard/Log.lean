/-!
# Events for the log

An event has a level, a message and fields. The order of the fields is that in which they are
written.
-/

namespace Switchboard

/-- How much an event matters. -/
inductive Level where
  | error
  | warn
  | info
  | debug
  | trace
  deriving DecidableEq, Repr, Inhabited

/-- The lower-case name of a level. -/
def Level.name : Level → String
  | .error => "error"
  | .warn => "warn"
  | .info => "info"
  | .debug => "debug"
  | .trace => "trace"

/-- The value of a field. -/
inductive LogValue where
  | text (s : String)
  | number (n : Nat)
  | flag (b : Bool)
  deriving DecidableEq, Repr, Inhabited

/-- An event. -/
structure LogEvent where
  level : Level
  message : String
  fields : List (String × LogValue)
  deriving DecidableEq, Repr, Inhabited

end Switchboard
