import Switchboard.Transport

/-!
# A link within the process

A memory link joins a connection to a peer in the same process. Both directions are unbounded: the
peer receives a frame the moment it is handed over, until it stops receiving, from when on the sink
fails; and what it sends, or reports as a failure, waits to be taken for as long as the stream is
held. A peer may answer each heartbeat by itself.
-/

namespace Switchboard

/-- A link to a peer within the process. -/
structure MemoryLink where
  /-- What the peer sent and was not yet taken, the first first. -/
  inbound : List Arrival := []
  /-- Whether the peer can still send. -/
  sending : Bool := true
  /-- Whether the peer still receives. -/
  receiving : Bool := true
  /-- Whether the connection still holds the stream. -/
  held : Bool := true
  /-- Whether the peer is still there to act. -/
  present : Bool := true
  /-- Whether the peer answers each heartbeat with a pong. -/
  answersPings : Bool := false
  /-- What the peer received, the latest first. -/
  received : List Delivery := []
  /-- When the peer saw the sink closed. -/
  closedAt : Option Nat := none
  deriving DecidableEq, Repr, Inhabited

namespace MemoryLink

/-- The failure of a sink whose peer no longer receives. -/
def gone : Error := .transport "send failed because receiver is gone"

/-- The peer puts something into the stream: whether it could. -/
def push (m : MemoryLink) (a : Arrival) : Bool × MemoryLink :=
  if m.sending && m.held then (true, { m with inbound := m.inbound ++ [a] }) else (false, m)

/-- Hand over a frame. -/
def send (now : Nat) (f : Frame) (m : MemoryLink) : Progress × MemoryLink :=
  if !m.receiving then (.failed gone, m)
  else
    let m := { m with received := ⟨now, f, none⟩ :: m.received }
    if m.answersPings && f.kind = .ping then (.done, (m.push (.frame ⟨.pong, f.payload⟩)).2)
    else (.done, m)

/-- The peer sees the sink closed. -/
def closeSink (now : Nat) (m : MemoryLink) : MemoryLink :=
  if m.receiving && m.closedAt.isNone then { m with closedAt := some now } else m

/-- Take what the peer sent next. -/
def receive (m : MemoryLink) : Arrival × MemoryLink :=
  match m.inbound with
  | a :: rest => (a, { m with inbound := rest })
  | [] => (if m.sending then .pending else .ended, m)

/-- The peer ends the stream. -/
def hangUp (m : MemoryLink) : MemoryLink := { m with sending := false }

/-- The peer stops receiving. -/
def stopReceiving (m : MemoryLink) : MemoryLink := { m with receiving := false }

/-- The peer goes away. -/
def vanish (m : MemoryLink) : MemoryLink :=
  { m with sending := false, receiving := false, present := false }

instance : Transport MemoryLink where
  send := send
  resume _ m := (.done, m)
  close now m := (.done, m.closeSink now)
  receive _ m := m.receive
  hasArrived m := !m.inbound.isEmpty || !m.sending
  wakeAt _ := none
  releaseSink := closeSink
  releaseStream _ m := { m with held := false, inbound := [] }

end MemoryLink

end Switchboard
