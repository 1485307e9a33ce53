import Switchboard.Transport

/-!
# Links that misbehave

A scripted link has a peer that never sends, and a sink that takes its time, stalls, fails or panics
by a script. The close frame counts as a frame like any other.
-/

namespace Switchboard

/-- How a link behaves. -/
inductive LinkScript where
  /-- Handing over a frame takes a number of milliseconds. -/
  | slow (span : Nat)
  /-- A number of frames are handed over, and no other ever is. -/
  | stalled (frames : Nat)
  /-- A number of frames are handed over, and any other panics. -/
  | panics (frames : Nat) (payload : Panic)
  /-- A number of frames are handed over, and any other fails. -/
  | fails (frames : Nat) (e : Error)
  /-- Closing the sink never ends. -/
  | closeStalls
  /-- Closing the sink fails. -/
  | closeFails (e : Error)
  /-- Taking what arrives panics. -/
  | readPanics (payload : Panic)
  deriving DecidableEq, Repr, Inhabited

/-- A link that behaves by a script. -/
structure ScriptedLink where
  script : LinkScript
  /-- The number of frames handed over. -/
  written : Nat := 0
  /-- The frame being handed over, and when that ends. -/
  inFlight : Option (Nat × Frame) := none
  /-- What the peer received, the latest first. -/
  received : List Delivery := []
  /-- When the peer saw the sink closed. -/
  closedAt : Option Nat := none
  deriving DecidableEq, Repr, Inhabited

namespace ScriptedLink

/-- The peer receives a frame. -/
def deliver (now : Nat) (f : Frame) (s : ScriptedLink) : Progress × ScriptedLink :=
  (.done, { s with
    written := s.written + 1, inFlight := none, received := ⟨now, f, none⟩ :: s.received })

/-- Hand over a frame. -/
def send (now : Nat) (f : Frame) (s : ScriptedLink) : Progress × ScriptedLink :=
  match s.script with
  | .slow 0 => s.deliver now f
  | .slow span => (.pending, { s with inFlight := some (now + span, f) })
  | .stalled n => if s.written < n then s.deliver now f else (.pending, s)
  | .panics n p => if s.written < n then s.deliver now f else (.panicked p, s)
  | .fails n e => if s.written < n then s.deliver now f else (.failed e, s)
  | _ => s.deliver now f

/-- Go on handing over a frame. -/
def resume (now : Nat) (s : ScriptedLink) : Progress × ScriptedLink :=
  match s.inFlight with
  | some (due, f) => if due ≤ now then s.deliver now f else (.pending, s)
  | none => (.pending, s)

/-- Close the sink. -/
def close (now : Nat) (s : ScriptedLink) : Progress × ScriptedLink :=
  match s.script with
  | .closeStalls => (.pending, s)
  | .closeFails e => (.failed e, s)
  | _ => (.done, { s with closedAt := some now })

/-- Take what arrives: nothing ever does. -/
def receive (s : ScriptedLink) : Arrival × ScriptedLink :=
  match s.script with
  | .readPanics p => (.panicked p, s)
  | _ => (.pending, s)

instance : Transport ScriptedLink where
  send := send
  resume := resume
  close := close
  receive _ s := s.receive
  hasArrived _ := false
  wakeAt s := s.inFlight.map Prod.fst
  releaseSink _ s := { s with inFlight := none }
  releaseStream _ s := s

end ScriptedLink

end Switchboard
