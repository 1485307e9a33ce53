import Switchboard.Hub.Manage
import Switchboard.Hub.Send

/-!
# Dispatch of inbound frames

A frame is given to every handler of the connection in the order of the list as it stood when the
dispatch began. A handler's panic ends that handler only: it is counted and logged, and the next
handler runs.
-/

namespace Switchboard.Hub

variable {τ : Type}

/-- Run a script on behalf of a connection: what it panicked with, if it did, and the hub after. -/
def runScript (id : String) : Script → Hub τ → Option Panic × Hub τ
  | .done, h => (none, h)
  | .panic p, h => (some p, h)
  | .trySend f next, h =>
    let (sent, h) := h.trySend id f
    runScript id (next sent) h
  | .startSend f next, h => runScript id next (h.startCall (.toHandle id f)).2
  | .addHandlers hs next, h => runScript id next (h.addHandlers id hs)
  | .setHandlers hs next, h => runScript id next (h.setHandlers id hs)
  | .remove next, h =>
    let (won, h) := h.remove id
    runScript id (next won) h
  | .note n next, h => runScript id next (h.addNote n)
  | .log e next, h => runScript id next (h.logEvent e)

/-- Give a frame to the handlers of a list, `index` being the place of the first of them. -/
def runHandlers (member : Member) (f : Frame) : (index : Nat) → List Handler → Hub τ → Hub τ
  | _, [], h => h
  | index, handler :: rest, h =>
    let (panic, h) := runScript member.id (handler member f) h
    let h := match panic with
      | none => h
      | some p =>
        (h.count Metrics.countHandlerPanic).logAbout member.id .error "Message handler panicked"
          [("handler_index", .number index), ("panic", .text p.detail)]
    runHandlers member f (index + 1) rest h

/-- Give a frame to the handlers of a connection. -/
def dispatch (h : Hub τ) (c : Connection τ) (f : Frame) : Hub τ :=
  runHandlers c.member f 0 c.handlers h

end Switchboard.Hub
