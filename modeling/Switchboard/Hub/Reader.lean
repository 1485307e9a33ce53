import Switchboard.Hub.Dispatch

/-!
# The reader of a connection

The reader takes what arrives until the connection is torn down. It has a deadline, which only a
pong puts off: when it passes with nothing to take, the connection is torn down. So it is when the
stream ends or fails, when the peer sends a close frame, and when a frame is longer than the limit.
Every other data frame is counted and given to the handlers.

`Hub.readerTurn` takes the next step and says whether the reader could go on at once.
-/

namespace Switchboard.Hub

variable {τ : Type} [Transport τ]

/-- The reader stops and lets go of the stream. -/
def stopReader (h : Hub τ) (id : String) : Hub τ :=
  h.update id fun c =>
    { c with reader := .stopped, link := Transport.releaseStream h.now c.link }

/-- The reader stops and tears the connection down. -/
def failReader (h : Hub τ) (id : String) (reason : CloseReason) : Hub τ :=
  ((h.stopReader id).teardown id reason).2

/-- Take a frame that has arrived. -/
def takeFrame (h : Hub τ) (c : Connection τ) (f : Frame) : Bool × Hub τ :=
  match f.kind with
  | .pong =>
    (true, h.update c.id fun c => { c with reader := .reading (h.now + h.config.readTimeout) })
  | .ping => (true, h)
  | .close =>
    (false, (h.logAbout c.id .debug "Received close frame" []).failReader c.id .peerClosed)
  | .text | .binary =>
    if f.payload.length > h.config.maxMessageSize then
      let h := h.logAbout c.id .warn "Inbound frame exceeds max message size"
        [("len", .number f.payload.length), ("max", .number h.config.maxMessageSize)]
      (false, h.failReader c.id .frameTooLarge)
    else
      let h := h.count fun m => m.countReceived f.kind
      (true, if c.alive then h.dispatch c f else h)

/-- Take what has arrived. -/
def takeArrival (h : Hub τ) (c : Connection τ) (deadline : Nat) (a : Arrival) : Bool × Hub τ :=
  match a with
  | .frame f => h.takeFrame c f
  | .ended => (false, h.failReader c.id .peerClosed)
  | .failed e =>
    let h := h.logAbout c.id .warn "WebSocket receive error" [("error", .text e.message)]
    (false, h.failReader c.id .readError)
  | .panicked p =>
    let h := (h.stopReader c.id).logAbout c.id .error "Connection I/O task panicked"
      [("task", .text "reader"), ("panic", .text p.detail)]
    (false, (h.teardown c.id .taskFailed).2)
  | .pending =>
    if deadline ≤ h.now then
      let h := h.logAbout c.id .warn "No pong within read deadline"
        [("timeout_ms", .number h.config.readTimeout)]
      (false, h.failReader c.id .readTimeout)
    else (false, h)

/-- A turn of the reader of a connection: whether it could go on at once, and the hub after. -/
def readerTurn (h : Hub τ) (id : String) : Bool × Hub τ :=
  match h.find? id with
  | none => (false, h)
  | some c =>
    match c.reader with
    | .stopped => (false, h)
    | .starting =>
      (true, h.update id fun c => { c with reader := .reading (h.now + h.config.readTimeout) })
    | .reading deadline =>
      if !c.alive then (false, h.stopReader id)
      else
        let (a, link) := Transport.receive h.now c.link
        let h := h.update id fun c => { c with link := link }
        h.takeArrival { c with link := link } deadline a

end Switchboard.Hub
