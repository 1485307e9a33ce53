import Switchboard.Error
import Switchboard.Socket.Wire

/-!
# What can go wrong on a web socket

A peer may break the rules of the protocol, send too much, send what is not text where text is due,
or go away; and the server's own side may come too late. `SocketFault.message` words it.
-/

namespace Switchboard

/-- What went wrong on a web socket. -/
inductive SocketFault where
  | unknownOpcode (code : Nat)
  | notMasked
  | reservedBits
  | fragmentedControl
  | longControl
  /-- A close frame with half a code. -/
  | shortClose
  | nothingToContinue
  /-- A message began before the one under way was finished. -/
  | notContinued (o : Wire.Opcode)
  | tooLong (length limit : Nat)
  | notText (detail : String)
  /-- The peer went away without a word. -/
  | reset
  /-- The exchange is over. -/
  | over
  /-- A close frame has been sent or received. -/
  | closing
  /-- The peer no longer receives. -/
  | brokenPipe
  deriving DecidableEq, Repr, Inhabited

namespace SocketFault

/-- The wording of a breach of the protocol. -/
def breach (reason : String) : String := "WebSocket protocol error: " ++ reason

/-- The name of a purpose in the wording of a fault. -/
def opcodeTitle : Wire.Opcode → String
  | .text => "TEXT"
  | .binary => "BINARY"
  | .continuation => "CONTINUE"
  | .close => "CLOSE"
  | .ping => "PING"
  | .pong => "PONG"

/-- The wording of a fault. -/
def message : SocketFault → String
  | .unknownOpcode code => breach s!"Encountered invalid opcode: {code}"
  | .notMasked => breach "Received an unmasked frame from client"
  | .reservedBits => breach "Reserved bits are non-zero"
  | .fragmentedControl => breach "Fragmented control frame"
  | .longControl => breach "Control frame too big (payload must be 125 bytes or less)"
  | .shortClose => breach "Invalid close sequence"
  | .nothingToContinue => breach "Continue frame but nothing to continue"
  | .notContinued o => breach s!"While waiting for more fragments received: {opcodeTitle o}"
  | .tooLong length limit => s!"Space limit exceeded: Message too long: {length} > {limit}"
  | .notText detail => s!"UTF-8 encoding error: {detail}"
  | .reset => breach "Connection reset without closing handshake"
  | .over => "Trying to work with closed connection"
  | .closing => breach "Sending after closing is not allowed"
  | .brokenPipe => "IO error: broken pipe"

/-- A fault as an error of the transport. -/
def toError (f : SocketFault) : Error := .transport f.message

end SocketFault

end Switchboard
