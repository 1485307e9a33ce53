import Switchboard.Json.Printer
import Switchboard.Text.Utf8

/-!
# Frames

A frame is a kind and a payload. Text frames should hold UTF-8, but nothing in the type asks for it:
`Frame.text?` tells. `SocketFrame` is a frame in the terms of a web socket, where text and close
reasons are known to be text; `Frame.toSocket` and `SocketFrame.toFrame` go back and forth.
-/

namespace Switchboard

/-- What a frame is for. -/
inductive FrameKind where
  | text
  | binary
  | ping
  | pong
  | close
  deriving DecidableEq, Repr, Inhabited

namespace FrameKind

/-- The lower-case name of a kind. -/
def name : FrameKind → String
  | .text => "text"
  | .binary => "binary"
  | .ping => "ping"
  | .pong => "pong"
  | .close => "close"

/-- The name of a kind in log fields. -/
def title : FrameKind → String
  | .text => "Text"
  | .binary => "Binary"
  | .ping => "Ping"
  | .pong => "Pong"
  | .close => "Close"

/-- Whether frames of a kind carry application data. -/
def isData : FrameKind → Bool
  | .text | .binary => true
  | _ => false

end FrameKind

/-- A frame on its way to or from a peer. -/
structure Frame where
  kind : FrameKind
  payload : Bytes
  deriving DecidableEq, Repr, Inhabited

namespace Frame

/-- A heartbeat. -/
def ping : Frame := ⟨.ping, []⟩

/-- The frame that ends an exchange. -/
def close : Frame := ⟨.close, []⟩

/-- A text frame that holds a text. -/
def ofText (s : String) : Frame := ⟨.text, Utf8.encode s⟩

/-- A text frame that holds a JSON value. -/
def ofJson (v : Json) : Frame := .ofText v.print

/-- The payload as text, if it is text. -/
def text? (f : Frame) : Option String := Utf8.decode? f.payload

/-- Whether a frame can be put on the wire: a text frame must hold text. -/
def isSendable (f : Frame) : Bool :=
  f.kind ≠ .text || Utf8.isValid f.payload

end Frame

/-- A frame as a web socket knows it. -/
inductive SocketFrame where
  | text (s : String)
  | binary (payload : Bytes)
  | ping (payload : Bytes)
  | pong (payload : Bytes)
  /-- A close frame, with a code and a reason or neither. -/
  | close (reason : Option (Nat × String))
  deriving DecidableEq, Repr, Inhabited

/-- The close code of an ordinary end. -/
def SocketFrame.normalClosure : Nat := 1000

/-- A frame in the terms of a web socket; fails on a text frame that does not hold text. A faulty
close reason is repaired. -/
def Frame.toSocket (f : Frame) : Except Utf8.Fault SocketFrame :=
  match f.kind with
  | .text => (Utf8.decode f.payload).map .text
  | .binary => .ok (.binary f.payload)
  | .ping => .ok (.ping f.payload)
  | .pong => .ok (.pong f.payload)
  | .close => .ok (.close (some (SocketFrame.normalClosure, Utf8.decodeLossy f.payload)))

/-- A web socket's frame; of a close frame only the reason is kept. -/
def SocketFrame.toFrame : SocketFrame → Frame
  | .text s => .ofText s
  | .binary payload => ⟨.binary, payload⟩
  | .ping payload => ⟨.ping, payload⟩
  | .pong payload => ⟨.pong, payload⟩
  | .close none => .close
  | .close (some (_, reason)) => ⟨.close, Utf8.encode reason⟩

end Switchboard
