import Switchboard.Transport.Memory
import Switchboard.Transport.Scripted
import Switchboard.Transport.Socket

/-!
# Links of any kind

A hub's connections may be joined to their peers by links of different kinds. A `Link` is one of
them, with what the peer can do to it.
-/

namespace Switchboard

/-- A link of any kind. -/
inductive Link where
  | memory (m : MemoryLink)
  | scripted (s : ScriptedLink)
  | socket (s : SocketLink)
  deriving Inhabited

namespace Link

instance : Transport Link where
  send now f
    | .memory m => (Transport.send now f m).map id .memory
    | .scripted s => (Transport.send now f s).map id .scripted
    | .socket s => (Transport.send now f s).map id .socket
  resume now
    | .memory m => (Transport.resume now m).map id .memory
    | .scripted s => (Transport.resume now s).map id .scripted
    | .socket s => (Transport.resume now s).map id .socket
  close now
    | .memory m => (Transport.close now m).map id .memory
    | .scripted s => (Transport.close now s).map id .scripted
    | .socket s => (Transport.close now s).map id .socket
  receive now
    | .memory m => (Transport.receive now m).map id .memory
    | .scripted s => (Transport.receive now s).map id .scripted
    | .socket s => (Transport.receive now s).map id .socket
  hasArrived
    | .memory m => Transport.hasArrived m
    | .scripted s => Transport.hasArrived s
    | .socket s => Transport.hasArrived s
  wakeAt
    | .memory m => Transport.wakeAt m
    | .scripted s => Transport.wakeAt s
    | .socket s => Transport.wakeAt s
  releaseSink now
    | .memory m => .memory (Transport.releaseSink now m)
    | .scripted s => .scripted (Transport.releaseSink now s)
    | .socket s => .socket (Transport.releaseSink now s)
  releaseStream now
    | .memory m => .memory (Transport.releaseStream now m)
    | .scripted s => .scripted (Transport.releaseStream now s)
    | .socket s => .socket (Transport.releaseStream now s)

/-- What the peer received, the latest first. -/
def received : Link → List Delivery
  | .memory m => m.received
  | .scripted s => s.received
  | .socket s => s.received

/-- When the peer saw the sink closed. -/
def closedAt : Link → Option Nat
  | .memory m => m.closedAt
  | .scripted s => s.closedAt
  | .socket s => s.closedAt

/-- The peer sends a frame, over a web socket with a close code if one is given: whether it could,
if it can send at all. -/
def peerSend (f : Frame) (code : Option Nat) : Link → Option Bool × Link
  | .memory m =>
    if m.present then (m.push (.frame f)).map some .memory else (none, .memory m)
  | .socket s =>
    if s.present then (s.push (SocketLink.frameBytes f code)).map some .socket
    else (none, .socket s)
  | l => (none, l)

/-- The peer sends bytes: whether it could, if it can at all. -/
def peerSendBytes (bs : Bytes) : Link → Option Bool × Link
  | .socket s => if s.present then (s.push bs).map some .socket else (none, .socket s)
  | l => (none, l)

/-- The peer makes the stream fail: whether it could, if it can at all. -/
def peerFail (e : Error) : Link → Option Bool × Link
  | .memory m => if m.present then (m.push (.failed e)).map some .memory else (none, .memory m)
  | l => (none, l)

/-- The peer ends the stream. -/
def hangUp : Link → Link
  | .memory m => .memory m.hangUp
  | .socket s => .socket s.hangUp
  | l => l

/-- The peer stops receiving, so that the sink fails. -/
def stopReceiving : Link → Link
  | .memory m => .memory m.stopReceiving
  | .socket s => .socket s.stopReceiving
  | l => l

/-- The peer stops reading, so that the sink fills up. -/
def stopReading : Link → Link
  | .socket s => .socket s.stopReading
  | l => l

/-- The peer goes away. -/
def vanish : Link → Link
  | .memory m => .memory m.vanish
  | .socket s => .socket s.vanish
  | l => l

end Link

end Switchboard
