import Switchboard.Error
import Switchboard.Frame
import Switchboard.Handler

/-!
# Transports

A transport carries frames between a connection and its peer. It has a sink, to which frames are
handed one at a time, and a stream of what arrives. Everything is tried at an instant and may turn
out to be `pending`; it is then tried again, at `wakeAt` or after the peer has acted.
-/

namespace Switchboard

/-- How far handing over a frame, or closing, has come. -/
inductive Progress where
  | done
  | failed (e : Error)
  | panicked (p : Panic)
  | pending
  deriving DecidableEq, Repr, Inhabited

/-- What arrives. -/
inductive Arrival where
  | frame (f : Frame)
  | failed (e : Error)
  | ended
  | panicked (p : Panic)
  | pending
  deriving DecidableEq, Repr, Inhabited

/-- The two halves of a connection's link to its peer. Instants are in milliseconds. -/
class Transport (τ : Type) where
  /-- Begin to hand over a frame. -/
  send (now : Nat) (f : Frame) (t : τ) : Progress × τ
  /-- Go on handing over the frame that is pending. -/
  resume (now : Nat) (t : τ) : Progress × τ
  /-- Begin or go on closing the sink. -/
  close (now : Nat) (t : τ) : Progress × τ
  /-- Take what has arrived next. -/
  receive (now : Nat) (t : τ) : Arrival × τ
  /-- Whether something has arrived that was not taken. -/
  hasArrived (t : τ) : Bool
  /-- The instant at which what is pending goes on by itself. -/
  wakeAt (t : τ) : Option Nat
  /-- Let go of the sink. -/
  releaseSink (now : Nat) (t : τ) : τ
  /-- Let go of the stream. -/
  releaseStream (now : Nat) (t : τ) : τ

/-- A frame that a peer received: when, and with which close code. -/
structure Delivery where
  time : Nat
  frame : Frame
  code : Option Nat := none
  deriving DecidableEq, Repr, Inhabited

end Switchboard
