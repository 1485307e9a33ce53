import Switchboard.Error
import Switchboard.Frame
import Switchboard.Log
import Switchboard.Protocol
import Switchboard.Registry

/-!
# Handlers of inbound frames

A handler is given a connection and a frame and does one thing after another, each seen at once by
the next: it offers frames to the connection, starts sends, changes the connection's handlers,
removes the connection, writes notes and log events, or panics. A `Script` is such a course of
action; where an action has an answer, what follows may depend on it. Every script ends.

A handler is a function of the member and the frame, and has no state of its own. One that keeps
state between frames is covered all the same: what it would do with the next frame is a handler, and
the outside may set a connection's handlers between any two frames, so that a run in which the state
moves on is a run in which the handlers that go by the new state are set before the next frame.

The protocol's handler and the one that logs frames are the ones a server installs by default.
-/

namespace Switchboard

/-- What a panic carries. -/
inductive Panic where
  | text (s : String)
  | other
  deriving DecidableEq, Repr, Inhabited

/-- The wording of a panic. -/
def Panic.detail : Panic → String
  | .text s => s
  | .other => "non-string panic payload"

/-- What a handler notes down. -/
inductive NoteEntry where
  | frame (label : String) (frame : Frame)
  | offered (sent : Bool)
  | removed (won : Bool)
  deriving DecidableEq, Repr, Inhabited

/-- An entry in one of the journals that handlers keep. -/
structure Note where
  journal : String
  entry : NoteEntry
  deriving DecidableEq, Repr, Inhabited

/-- What a handler does with a frame. -/
inductive Script where
  | done
  | panic (payload : Panic)
  /-- Offer a frame to the connection; the answer says whether there was room. -/
  | trySend (frame : Frame) (next : Bool → Script)
  /-- Start a task that sends a frame to the connection. -/
  | startSend (frame : Frame) (next : Script)
  | addHandlers (handlers : List (Member → Frame → Script)) (next : Script)
  | setHandlers (handlers : List (Member → Frame → Script)) (next : Script)
  /-- Remove the connection; the answer says whether this was the removal that counted. -/
  | remove (next : Bool → Script)
  | note (note : Note) (next : Script)
  | log (event : LogEvent) (next : Script)

instance : Inhabited Script := ⟨.done⟩

/-- What is done with each inbound frame of a connection. -/
abbrev Handler := Member → Frame → Script

namespace Handler

/-- Act on frames with the given payload only. -/
def onPayload (payload : Bytes) (h : Handler) : Handler := fun member frame =>
  if frame.payload = payload then h member frame else .done

/-- Note each frame down. -/
def record (journal label : String) : Handler := fun _ frame =>
  .note ⟨journal, .frame label frame⟩ .done

/-- Offer each frame back, and note whether there was room. No module of the library installs it: it
is there for who tries out a connection. -/
def echo (journal : String) : Handler := fun _ frame =>
  .trySend frame fun sent => .note ⟨journal, .offered sent⟩ .done

/-- Start a send of a fixed frame. -/
def send (frame : Frame) : Handler := fun _ _ => .startSend frame .done

/-- Panic with a payload that depends on the frame. -/
def panic (payload : Frame → Panic) : Handler := fun _ frame => .panic (payload frame)

/-- Add handlers to the connection. -/
def add (handlers : List Handler) : Handler := fun _ _ => .addHandlers handlers .done

/-- Replace the handlers of the connection. -/
def set (handlers : List Handler) : Handler := fun _ _ => .setHandlers handlers .done

/-- Remove the connection, and note whether that counted. -/
def removeSelf (journal : String) : Handler := fun _ _ =>
  .remove fun won => .note ⟨journal, .removed won⟩ .done

/-- Offer a reply to a client. -/
def reply (member : Member) (m : ServerMessage) (next : Script) : Script :=
  .trySend (.ofText m.print) fun sent =>
    if sent then next
    else
      let subject := ("connection_id", LogValue.text member.id)
      .log ⟨.debug, "Reply dropped, queue full or closed", [subject]⟩ next

/-- Answer the messages of the JSON protocol. -/
def protocol : Handler := fun member frame =>
  if frame.kind ≠ .text then .done
  else
    match ClientMessage.recognize frame.payload with
    | .foreign =>
      .log ⟨.debug, "Frame is not a protocol message", [("connection_id", .text member.id)]⟩ .done
    | .message .ping => reply member .pong .done
    | .unsupported reason =>
      .log ⟨.debug, "Unsupported protocol message",
          [("connection_id", .text member.id), ("error", .text reason)]⟩
        (reply member (.error ServerMessage.unsupportedCode reason) .done)

/-- Log each frame. -/
def logInbound : Handler := fun member frame =>
  .log ⟨.debug, "Inbound frame",
      [("connection_id", .text member.id), ("user_id", .text (member.user.getD "")),
        ("kind", .text frame.kind.title), ("len", .number frame.payload.length)]⟩ .done

/-- The handlers a server installs by default. -/
def defaults : List Handler := [logInbound, protocol]

end Handler

end Switchboard
