import Switchboard.Config

/-!
# Settings

A server is told where to listen, how to run its connections and what to log. Every setting has a
default.
-/

namespace Switchboard

/-- Where a server listens. -/
structure ServerSettings where
  host : String := "0.0.0.0"
  port : Nat := 8081
  deriving DecidableEq, Repr, Inhabited

/-- What a server logs. -/
structure LogSettings where
  /-- The filter of events, unless the environment names another. -/
  level : String := "info"
  /-- Whether events are written as JSON. -/
  json : Bool := false
  deriving DecidableEq, Repr, Inhabited

/-- The settings of a server. -/
structure Settings where
  server : ServerSettings := {}
  websocket : SocketConfig := {}
  logging : LogSettings := {}
  deriving DecidableEq, Repr, Inhabited

/-- The address at which a server listens. -/
def Settings.address (s : Settings) : String := s!"{s.server.host}:{s.server.port}"

end Switchboard
