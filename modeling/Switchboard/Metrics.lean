import Switchboard.Decimal.Binary64
import Switchboard.Frame
import Switchboard.Tally

/-!
# Counters

What a hub counts: connections opened and closed, by reason, failed upgrades, frames received, by
kind, deliveries asked for, by target, frames dropped and handlers that panicked; and two gauges
that are set on demand.
-/

namespace Switchboard

/-- Why a connection was torn down. -/
inductive CloseReason where
  | peerClosed
  | readError
  | readTimeout
  | writeError
  | writeTimeout
  | frameTooLarge
  | removed
  | taskFailed
  deriving DecidableEq, Repr, Inhabited

/-- The name of a reason in labels and logs. -/
def CloseReason.name : CloseReason → String
  | .peerClosed => "peer_closed"
  | .readError => "read_error"
  | .readTimeout => "read_timeout"
  | .writeError => "write_error"
  | .writeTimeout => "write_timeout"
  | .frameTooLarge => "frame_too_large"
  | .removed => "removed"
  | .taskFailed => "task_failed"

/-- All reasons. -/
def CloseReason.all : List CloseReason :=
  [.peerClosed, .readError, .readTimeout, .writeError, .writeTimeout, .frameTooLarge, .removed,
    .taskFailed]

/-- All counters and gauges. -/
structure Metrics where
  connectionsActive : Int := 0
  usersConnected : Int := 0
  opened : Nat := 0
  closed : Tally := {}
  upgradeFailures : Nat := 0
  /-- The lifetimes of closed connections in seconds, the latest first. -/
  lifetimes : List Binary64 := []
  sent : Tally := {}
  dropped : Nat := 0
  received : Tally := {}
  handlerPanics : Nat := 0
  deriving Repr, Inhabited

namespace Metrics

/-- A connection was opened. -/
def countOpened (m : Metrics) : Metrics := { m with opened := m.opened + 1 }

/-- A connection was closed after a lifetime in seconds. -/
def countClosed (m : Metrics) (reason : CloseReason) (lifetime : Binary64) : Metrics :=
  { m with closed := m.closed.bump reason.name, lifetimes := lifetime :: m.lifetimes }

/-- An upgrade failed. -/
def countUpgradeFailure (m : Metrics) : Metrics :=
  { m with upgradeFailures := m.upgradeFailures + 1 }

/-- A frame was received. -/
def countReceived (m : Metrics) (kind : FrameKind) : Metrics :=
  { m with received := m.received.bump kind.name }

/-- A handler panicked. -/
def countHandlerPanic (m : Metrics) : Metrics := { m with handlerPanics := m.handlerPanics + 1 }

/-- A delivery to a target was asked for. -/
def countSent (m : Metrics) (target : String) : Metrics := { m with sent := m.sent.bump target }

/-- A frame was dropped. -/
def countDropped (m : Metrics) : Metrics := { m with dropped := m.dropped + 1 }

/-- The sum of all lifetimes in seconds. -/
def lifetimeSum (m : Metrics) : Binary64 := m.lifetimes.reverse.foldl Binary64.add Binary64.zero

end Metrics

end Switchboard
