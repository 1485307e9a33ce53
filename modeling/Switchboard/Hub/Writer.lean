import Switchboard.Hub.Basic

/-!
# The writer of a connection

The writer waits for three things, the earlier going before the later: the teardown, the next frame
of the outbox, and the time for a heartbeat. Each frame has to be handed over within the write
timeout. A failure, a timeout or a panic of the sink tears the connection down. After a teardown the
writer sends a close frame and closes the sink, both together within the write timeout, and stops.

`Hub.writerTurn` takes the next step and says whether the writer could go on at once.
-/

namespace Switchboard.Hub

variable {τ : Type} [Transport τ]

/-- How late a heartbeat may be, in milliseconds, for the next to be counted from when it was
due. -/
def heartbeatSlack : Nat := 5

/-- When the heartbeat after one that was due at `due` is due. -/
def nextHeartbeat (now due period : Nat) : Nat :=
  if now > due + heartbeatSlack then now + period else due + period

/-- Set the link of a connection to what became of it; the reader is woken if that has something to
take. -/
def setLink (h : Hub τ) (id : String) (link : τ) : Hub τ :=
  let h := h.update id fun c => { c with link := link }
  if Transport.hasArrived link then h.wakeReader id else h

/-- Begin to hand a frame over to the link of a connection: how far that has come, and the hub
after. -/
def hand (h : Hub τ) (id : String) (f : Frame) (cause : Cause) (link : τ) : Progress × Hub τ :=
  let (p, link) := Transport.send h.now f link
  (p, (h.setLink id link).record (.handed id f cause))

/-- The writer stops and lets go of the sink. -/
def stopWriter (h : Hub τ) (id : String) : Hub τ :=
  h.update id fun c =>
    { c with writer := .stopped, link := Transport.releaseSink h.now c.link }

/-- The writer stops and tears the connection down. -/
def failWriter (h : Hub τ) (id : String) (reason : CloseReason) : Hub τ :=
  ((h.stopWriter id).teardown id reason).2

/-- The writer's sink panicked. -/
def panicWriter (h : Hub τ) (id : String) (p : Panic) : Hub τ :=
  ((h.stopWriter id).logAbout id .error "Connection I/O task panicked"
    [("task", .text "writer"), ("panic", .text p.detail)]).teardown id .taskFailed |>.2

/-- Go on from how far handing over a frame has come. -/
def afterSend (h : Hub τ) (id : String) (kind : FrameKind) (limit : Nat) (p : Progress) :
    Bool × Hub τ :=
  match p with
  | .done => (true, h.update id fun c => { c with writer := .idle })
  | .failed e =>
    let h := h.logAbout id .warn "WebSocket send error"
      [("error", .text e.message), ("kind", .text kind.title)]
    (false, h.failWriter id .writeError)
  | .panicked p => (false, h.panicWriter id p)
  | .pending =>
    if limit ≤ h.now then
      let h := h.logAbout id .warn "WebSocket send timed out"
        [("timeout_ms", .number h.config.writeTimeout), ("kind", .text kind.title)]
      (false, h.failWriter id .writeTimeout)
    else (false, h.update id fun c => { c with writer := .sending kind limit })

/-- Send a frame, or drop it if it cannot be put on the wire. -/
def sendFrame (h : Hub τ) (c : Connection τ) (f : Frame) (cause : Cause) : Bool × Hub τ :=
  if f.isSendable then
    let (p, h) := h.hand c.id f cause c.link
    h.afterSend c.id f.kind (h.now + h.config.writeTimeout) p
  else
    let h := h.count Metrics.countDropped
    let h := h.logAbout c.id .warn "Dropping text frame with invalid UTF-8 payload"
      [("len", .number f.payload.length)]
    (true, h)

/-- The writer stops after the close frame; what went wrong with it is only logged. -/
def finishClose (h : Hub τ) (id : String) (limit : Nat) (p : Progress) (wait : WriterPhase) :
    Bool × Hub τ :=
  match p with
  | .done => (false, h.stopWriter id)
  | .failed e =>
    let h := h.logAbout id .debug "Close frame not delivered" [("error", .text e.message)]
    (false, h.stopWriter id)
  | .panicked p => (false, h.panicWriter id p)
  | .pending =>
    if limit ≤ h.now then
      let h := h.logAbout id .debug "Close frame timed out" []
      (false, h.stopWriter id)
    else (false, h.update id fun c => { c with writer := wait })

/-- Close the sink, or go on closing it. -/
def closeSink (h : Hub τ) (id : String) (limit : Nat) : Bool × Hub τ :=
  match h.find? id with
  | none => (false, h)
  | some c =>
    let (p, link) := Transport.close h.now c.link
    let h := h.setLink id link
    h.finishClose id limit p (.closingSink limit)

/-- Go on from how far handing over the close frame has come. -/
def afterCloseFrame (h : Hub τ) (id : String) (limit : Nat) (p : Progress) : Bool × Hub τ :=
  match p with
  | .done => h.closeSink id limit
  | p => h.finishClose id limit p (.sendingClose limit)

/-- A turn of the writer that waits for something to do. -/
def idleWriterTurn (h : Hub τ) (c : Connection τ) : Bool × Hub τ :=
  if !c.alive then
    let limit := h.now + h.config.writeTimeout
    let (p, h) := h.hand c.id .close .farewell c.link
    h.afterCloseFrame c.id limit p
  else
    match c.outbox.take with
    | some (f, granted, outbox) =>
      let h := h.update c.id fun c => { c with outbox := outbox }
      let h := h.wakeAll (granted.toList.map fun t => .call t.call)
      h.sendFrame c f .queued
    | none =>
      if c.heartbeat ≤ h.now then
        let next := nextHeartbeat h.now c.heartbeat h.config.heartbeat
        let h := h.update c.id fun c => { c with heartbeat := next }
        h.sendFrame c .ping .heartbeat
      else (false, h)

/-- A turn of the writer of a connection: whether it could go on at once, and the hub after. -/
def writerTurn (h : Hub τ) (id : String) : Bool × Hub τ :=
  match h.find? id with
  | none => (false, h)
  | some c =>
    match c.writer with
    | .stopped => (false, h)
    | .starting =>
      (true, h.update id fun c =>
        { c with writer := .idle, heartbeat := h.now + h.config.heartbeat })
    | .idle => h.idleWriterTurn c
    | .sending kind limit =>
      let (p, link) := Transport.resume h.now c.link
      let h := h.setLink id link
      h.afterSend id kind limit p
    | .sendingClose limit =>
      let (p, link) := Transport.resume h.now c.link
      let h := h.setLink id link
      h.afterCloseFrame id limit p
    | .closingSink limit => h.closeSink id limit

end Switchboard.Hub
