import Switchboard.Socket.Inbound
import Switchboard.Transport

/-!
# A link over a web socket

A socket link joins a connection to a peer over a byte pipe in each direction. The peer reads all
that is written at once, until it stops reading, from when on the pipe fills up and writing has to
wait, or until it stops receiving, from when on writing fails. The connection's end answers a ping
by a pong with the same payload and a close frame by a close frame. Such a reply goes out behind the
next frame, or before the next message is taken.

## How an exchange ends

The first close frame, whichever end it comes from, is the last frame that the connection sends. A
stream that ends before any was received is a fault. Once the connection has let go of the sink and
of the stream, the peer sees the pipe closed.
-/

namespace Switchboard

/-- How far an exchange has come to its end. -/
inductive Closing where
  | open
  /-- A close frame was sent. -/
  | byUs
  /-- A close frame was received. -/
  | byPeer
  /-- A close frame was sent, and then one was received. -/
  | acknowledged
  | over
  deriving DecidableEq, Repr, Inhabited

/-- Whether the peer may send more. -/
def Closing.canRead : Closing → Bool
  | .open | .byUs => true
  | _ => false

/-- A link to a peer over a web socket. -/
structure SocketLink where
  /-- The number of bytes that the pipe to the peer holds. -/
  capacity : Nat := 1048576
  /-- Whether the peer answers each ping with a pong. -/
  answersPings : Bool := false
  /-- What the peer sent and did not arrive yet. -/
  arriving : Bytes := []
  /-- Whether the peer can still send. -/
  sending : Bool := true
  /-- Whether the peer still receives. -/
  receiving : Bool := true
  /-- Whether the peer still reads what it receives. -/
  reading : Bool := true
  /-- Whether the peer is still there to act. -/
  present : Bool := true
  /-- The number of bytes in the pipe that the peer does not read. -/
  unread : Nat := 0
  /-- What the peer received, the latest first. -/
  received : List Delivery := []
  /-- When the peer saw the pipe closed. -/
  closedAt : Option Nat := none
  inbound : Inbound
  closing : Closing := .open
  /-- The pong or close frame to be sent as a reply. -/
  reply : Option SocketFrame := none
  /-- Whether a reply could not be written out. -/
  replyWaits : Bool := false
  /-- The frames to be written out, the first first. -/
  outgoing : List SocketFrame := []
  /-- The number of bytes to be written out. -/
  backlog : Nat := 0
  /-- Whether nothing more will be taken from the stream. -/
  ended : Bool := false
  sinkHeld : Bool := true
  streamHeld : Bool := true
  deriving DecidableEq, Repr, Inhabited

namespace SocketLink

/-! ## Frames on their way to the peer -/

/-- The purpose of a frame and its payload. -/
def content : SocketFrame → Wire.Opcode × Bytes
  | .text s => (.text, Utf8.encode s)
  | .binary payload => (.binary, payload)
  | .ping payload => (.ping, payload)
  | .pong payload => (.pong, payload)
  | .close none => (.close, [])
  | .close (some (code, reason)) => (.close, Wire.spell 2 code ++ Utf8.encode reason)

/-- The close code of a frame that has one. -/
def codeOf : SocketFrame → Option Nat
  | .close reason => reason.map Prod.fst
  | _ => none

/-- What a peer sends when it masks with the key of zeros. -/
def peerBytes (o : Wire.Opcode) (payload : Bytes) : Bytes :=
  Wire.encode o (some [0, 0, 0, 0]) payload

/-- Put a frame behind those to be written out. -/
def enqueue (s : SocketLink) (f : SocketFrame) : SocketLink :=
  { s with outgoing := s.outgoing ++ [f], backlog := s.backlog + Wire.size (content f).2.length }

/-- Put the reply behind the frames to be written out. -/
def enqueueReply (s : SocketLink) : SocketLink :=
  match s.reply with
  | some f => { s.enqueue f with reply := none }
  | none => s

/-- Set the reply; a close frame that is to be sent is never replaced. -/
def setReply (s : SocketLink) (f : SocketFrame) : SocketLink :=
  match s.reply with
  | some (.close _) => s
  | _ => { s with reply := some f }

/-- The peer puts bytes into its pipe: whether it could. -/
def push (s : SocketLink) (bs : Bytes) : Bool × SocketLink :=
  if s.sending && (s.sinkHeld || s.streamHeld) then (true, { s with arriving := s.arriving ++ bs })
  else (false, s)

/-- The peer receives a frame. -/
def deliver (now : Nat) (s : SocketLink) (f : SocketFrame) : SocketLink :=
  let s := { s with received := ⟨now, f.toFrame, codeOf f⟩ :: s.received }
  match f with
  | .ping payload => if s.answersPings then (s.push (peerBytes .pong payload)).2 else s
  | _ => s

/-- How writing out has gone. -/
inductive Written where
  | all
  | waits
  | failed
  deriving DecidableEq, Repr

/-- Write out what is to be written. -/
def writeOut (now : Nat) (s : SocketLink) : Written × SocketLink :=
  if s.outgoing.isEmpty then (.all, s)
  else if !s.receiving then (.failed, s)
  else if s.reading then
    (.all, s.outgoing.foldl (deliver now) { s with outgoing := [], backlog := 0 })
  else
    let room := s.capacity - s.unread
    if s.backlog ≤ room then
      (.all, { s with outgoing := [], backlog := 0, unread := s.unread + s.backlog })
    else (.waits, { s with backlog := s.backlog - room, unread := s.unread + room })

/-- Write out what is to be written, with the reply behind it. An exchange in which the peer may not
send more is over after that. -/
def flush (now : Nat) (s : SocketLink) : Written × SocketLink :=
  match s.enqueueReply.writeOut now with
  | (.all, s) =>
    let s := { s with replyWaits := false }
    (.all, if s.closing.canRead then s else { s with closing := .over })
  | r => r

/-- How far handing over a frame has come after writing out. -/
def progress (r : Written × SocketLink) : Progress × SocketLink :=
  match r with
  | (.all, s) => (.done, s)
  | (.waits, s) => (.pending, s)
  | (.failed, s) => (.failed SocketFault.brokenPipe.toError, s)

/-- Hand over a frame. -/
def send (now : Nat) (f : Frame) (s : SocketLink) : Progress × SocketLink :=
  match f.toSocket with
  | .error fault => (.failed (.validation (.notText fault)), s)
  | .ok frame =>
    match s.closing with
    | .over => (.failed SocketFault.over.toError, s)
    | .open =>
      progress <| flush now <| match frame with
        | .pong payload => s.setReply (.pong payload)
        | .close reason => { s with closing := .byUs }.enqueue (.close reason)
        | frame => s.enqueue frame
    | _ => (.failed SocketFault.closing.toError, s)

/-- Close the sink; a close frame goes out before if none did. -/
def closeSink (now : Nat) (s : SocketLink) : Progress × SocketLink :=
  progress <| flush now <|
    if s.closing = .open then { s with closing := .byUs }.enqueue (.close none) else s

/-! ## Messages that arrive -/

/-- The stream has ended, by a fault if there was no close frame. -/
def finish (s : SocketLink) : Arrival × SocketLink :=
  let arrival := if s.closing.canRead then .failed SocketFault.reset.toError else .ended
  (arrival, { s with ended := true, closing := .over })

/-- What a message that was taken does to the exchange. -/
def react (s : SocketLink) (f : SocketFrame) : SocketLink :=
  match f, s.closing with
  | .ping payload, .open => s.setReply (.pong payload)
  | .close reason, .open => { s with closing := .byPeer }.setReply (.close reason)
  | .close _, .byUs => { s with closing := .acknowledged }
  | _, _ => s

/-- Take what has arrived next, the replies being written out. -/
def take (s : SocketLink) : Arrival × SocketLink :=
  let i := { s.inbound with bytes := s.inbound.bytes ++ s.arriving }
  match i.next with
  | .error fault => (.failed fault.toError, { s with arriving := [], inbound := i, ended := true })
  | .ok (some f, after) => (.frame f.toFrame, { s with arriving := [], inbound := after }.react f)
  | .ok (none, after) =>
    let s := { s with arriving := [], inbound := after }
    if s.sending then (.pending, s) else s.finish

/-- Write out the reply and take what has arrived next. -/
def receive (now : Nat) (s : SocketLink) : Arrival × SocketLink :=
  if s.ended || s.closing = .over then (.ended, { s with ended := true })
  else if s.reply.isSome || s.replyWaits then
    match s.flush now with
    | (.failed, s) => (.failed SocketFault.brokenPipe.toError, { s with ended := true })
    | (.waits, s) => { s with replyWaits := true }.take
    | (.all, s) => if s.closing = .over then (.ended, { s with ended := true }) else s.take
  else if s.closing.canRead then s.take
  else (.ended, { s with ended := true, closing := .over })

/-- The peer sees the pipe closed once neither half is held. -/
def release (now : Nat) (s : SocketLink) : SocketLink :=
  let sees := s.receiving && s.reading && s.closedAt.isNone
  if !s.sinkHeld && !s.streamHeld && sees then { s with closedAt := some now } else s

instance : Transport SocketLink where
  send := send
  resume now s := progress (s.flush now)
  close := closeSink
  receive := receive
  hasArrived s := !s.ended && (!s.arriving.isEmpty || !s.sending)
  wakeAt _ := none
  releaseSink now s := { s with sinkHeld := false }.release now
  releaseStream now s := { s with streamHeld := false }.release now

/-! ## What the peer does -/

/-- The purpose of a frame of a kind. -/
def opcodeOf : FrameKind → Wire.Opcode
  | .text => .text
  | .binary => .binary
  | .ping => .ping
  | .pong => .pong
  | .close => .close

/-- The bytes by which a peer sends a frame, after a close code if one is given. -/
def frameBytes (f : Frame) (code : Option Nat) : Bytes :=
  peerBytes (opcodeOf f.kind) (code.elim [] (Wire.spell 2) ++ f.payload)

/-- The peer ends the stream. -/
def hangUp (s : SocketLink) : SocketLink := { s with sending := false }

/-- The peer stops receiving. -/
def stopReceiving (s : SocketLink) : SocketLink := { s with receiving := false }

/-- The peer stops reading what it receives. -/
def stopReading (s : SocketLink) : SocketLink := { s with reading := false }

/-- The peer goes away. -/
def vanish (s : SocketLink) : SocketLink :=
  { s with sending := false, receiving := false, present := false }

end SocketLink

end Switchboard
