import Mathlib.Tactic.Simps.Basic
import Switchboard.Proofs.Spares

/-!
# Hubs over links that behave alike

A hub does not look into its links. If a link behaves as what `f` makes of it (`Faithful f`), then a
hub over such links does what the hub over the others does: every operation commutes with
`Hub.mapLinks f`, which puts all connections over other links. The lemmas follow the operations, one
each; those of the first part do not need that `f` is faithful, since what they are about does not
touch links at all.
-/

namespace Switchboard

/-- A link behaves as what `f` makes of it. -/
structure Faithful {σ τ : Type} [Transport σ] [Transport τ] (f : σ → τ) : Prop where
  send (now : Nat) (frame : Frame) (l : σ) : Transport.send now frame (f l) =
    ((Transport.send now frame l).1, f (Transport.send now frame l).2)
  resume (now : Nat) (l : σ) : Transport.resume now (f l) =
    ((Transport.resume now l).1, f (Transport.resume now l).2)
  close (now : Nat) (l : σ) : Transport.close now (f l) =
    ((Transport.close now l).1, f (Transport.close now l).2)
  receive (now : Nat) (l : σ) : Transport.receive now (f l) =
    ((Transport.receive now l).1, f (Transport.receive now l).2)
  hasArrived (l : σ) : Transport.hasArrived (f l) = Transport.hasArrived l
  wakeAt (l : σ) : Transport.wakeAt (f l) = Transport.wakeAt l
  releaseSink (now : Nat) (l : σ) :
    Transport.releaseSink now (f l) = f (Transport.releaseSink now l)
  releaseStream (now : Nat) (l : σ) :
    Transport.releaseStream now (f l) = f (Transport.releaseStream now l)

variable {σ τ : Type}

/-- The connection over another link. -/
@[simps]
def Connection.mapLink (f : σ → τ) (c : Connection σ) : Connection τ where
  member := c.member
  createdAt := c.createdAt
  alive := c.alive
  handlers := c.handlers
  outbox := c.outbox
  writer := c.writer
  heartbeat := c.heartbeat
  reader := c.reader
  link := f c.link

@[simp]
theorem Connection.id_mapLink (f : σ → τ) (c : Connection σ) : (c.mapLink f).id = c.id := rfl

namespace Hub

/-- The hub with all its connections over other links. -/
@[simps]
def mapLinks (f : σ → τ) (h : Hub σ) : Hub τ where
  config := h.config
  origins := h.origins
  serverHandlers := h.serverHandlers
  now := h.now
  wallClock := h.wallClock
  connections := h.connections.map (Connection.mapLink f)
  registry := h.registry
  calls := h.calls
  ready := h.ready
  metrics := h.metrics
  log := h.log
  notes := h.notes
  history := h.history

variable (f : σ → τ) (h : Hub σ)

/-! ## What does not look at links -/

@[simp]
theorem find?_mapLinks (id : String) :
    (h.mapLinks f).find? id = (h.find? id).map (Connection.mapLink f) := by
  rw [find?, find?, mapLinks, List.find?_map]
  rfl

/-- The same change to a connection. -/
theorem update_mapLinks {g : Connection σ → Connection σ} {g' : Connection τ → Connection τ}
    (hg : ∀ c : Connection σ, g' (c.mapLink f) = (g c).mapLink f) (id : String) :
    (h.mapLinks f).update id g' = (h.update id g).mapLinks f := by
  rw [update, update, mapLinks, mapLinks]
  simp only [List.map_map, mk.injEq, true_and, and_true]
  refine List.map_congr_left fun c _ => ?_
  dsimp only [Function.comp]
  rw [show (c.mapLink f).id = c.id from rfl]
  split
  · exact hg c
  · rfl

theorem count_mapLinks (g : Metrics → Metrics) :
    (h.mapLinks f).count g = (h.count g).mapLinks f := rfl

theorem wake_mapLinks (t : Task) : (h.mapLinks f).wake t = (h.wake t).mapLinks f := by
  rw [wake, wake, show (h.mapLinks f).ready = h.ready from rfl]
  split <;> rfl

theorem wakeAll_mapLinks (ts : List Task) (h : Hub σ) :
    (h.mapLinks f).wakeAll ts = (h.wakeAll ts).mapLinks f := by
  induction ts generalizing h with
  | nil => rfl
  | cons t ts ih =>
    rw [wakeAll, List.foldl_cons, wake_mapLinks]
    exact ih (h.wake t)

theorem wakeWriter_mapLinks (id : String) :
    (h.mapLinks f).wakeWriter id = (h.wakeWriter id).mapLinks f := by
  rw [wakeWriter, wakeWriter, find?_mapLinks]
  cases h.find? id with
  | none => rfl
  | some c =>
    dsimp only [Option.map_some, Connection.mapLink]
    split
    · exact wake_mapLinks f h _
    · rfl

theorem wakeReader_mapLinks (id : String) :
    (h.mapLinks f).wakeReader id = (h.wakeReader id).mapLinks f := by
  rw [wakeReader, wakeReader, find?_mapLinks]
  cases h.find? id with
  | none => rfl
  | some c =>
    dsimp only [Option.map_some, Connection.mapLink]
    split
    · rfl
    · exact wake_mapLinks f h _

theorem wakeBlockedWriter_mapLinks (id : String) :
    (h.mapLinks f).wakeBlockedWriter id = (h.wakeBlockedWriter id).mapLinks f := by
  rw [wakeBlockedWriter, wakeBlockedWriter, find?_mapLinks]
  cases h.find? id with
  | none => rfl
  | some c =>
    dsimp only [Option.map_some]
    rw [Connection.mapLink_writer]
    cases c.writer with
    | sending kind limit => exact wake_mapLinks f h _
    | sendingClose limit => exact wake_mapLinks f h _
    | closingSink limit => exact wake_mapLinks f h _
    | _ => rfl

theorem teardown_mapLinks (id : String) (reason : CloseReason) :
    (h.mapLinks f).teardown id reason =
      ((h.teardown id reason).1, (h.teardown id reason).2.mapLinks f) := by
  rw [teardown, teardown, find?_mapLinks]
  cases h.find? id with
  | none => rfl
  | some c =>
    dsimp only [Option.map_some, Connection.mapLink]
    split
    · rfl
    · rw [update_mapLinks (g := fun c => { c with alive := false }) f h (fun _ => rfl),
        wakeWriter_mapLinks, wakeReader_mapLinks, wakeAll_mapLinks]
      rfl

/-! ## Sends -/

theorem enter_mapLinks (id : String) (fr : Frame) (s : Sender) (put : Outbox → Outbox) :
    (h.mapLinks f).enter id fr s put = (h.enter id fr s put).mapLinks f := by
  rw [enter, enter, update_mapLinks (g := fun c => { c with outbox := put c.outbox }) f h
    fun _ => rfl]
  exact wakeWriter_mapLinks f ((h.update id fun c => { c with outbox := put c.outbox }).record
    (.entered id fr s)) id

theorem trySend_mapLinks (id : String) (fr : Frame) :
    (h.mapLinks f).trySend id fr =
      ((h.trySend id fr).1, (h.trySend id fr).2.mapLinks f) := by
  rw [trySend, trySend, find?_mapLinks]
  cases h.find? id with
  | none => rfl
  | some c =>
    dsimp only [Option.map_some, Connection.mapLink]
    split
    · exact congrArg (Prod.mk true) (enter_mapLinks f h id fr .offer _)
    · rfl

theorem beginSend_mapLinks (id : String) (fr : Frame) (t : Ticket) :
    (h.mapLinks f).beginSend id fr t =
      ((h.beginSend id fr t).1, (h.beginSend id fr t).2.mapLinks f) := by
  rw [beginSend, beginSend, find?_mapLinks]
  cases h.find? id with
  | none => rfl
  | some c =>
    dsimp only [Option.map_some, Connection.mapLink]
    split
    · rfl
    · split
      · exact congrArg (Prod.mk false) (enter_mapLinks f h id fr (.call t) _)
      · exact congrArg (Prod.mk true) (update_mapLinks f h (fun _ => rfl) id)

theorem withdrawSend_mapLinks (id : String) (t : Ticket) :
    (h.mapLinks f).withdrawSend id t = (h.withdrawSend id t).mapLinks f := by
  rw [withdrawSend, withdrawSend, find?_mapLinks]
  cases h.find? id with
  | none => rfl
  | some c =>
    dsimp only [Option.map_some, Connection.mapLink]
    rw [update_mapLinks (g := fun x => { x with outbox := (c.outbox.withdraw t).2 }) f h
      fun _ => rfl]
    exact wakeAll_mapLinks f _ _

theorem resumeSend_mapLinks (roomFirst : Bool) (id : String) (fr : Frame) (t : Ticket) :
    (h.mapLinks f).resumeSend roomFirst id fr t =
      ((h.resumeSend roomFirst id fr t).1, (h.resumeSend roomFirst id fr t).2.mapLinks f) := by
  rw [resumeSend, resumeSend, find?_mapLinks]
  cases h.find? id with
  | none => rfl
  | some c =>
    dsimp only [Option.map_some, Connection.mapLink]
    split
    · exact congrArg (Prod.mk false) (enter_mapLinks f h id fr (.call t) _)
    · split
      · rw [withdrawSend_mapLinks]
        rfl
      · rfl

theorem beginSends_mapLinks (n : Nat) (fr : Frame) (places : List (String × Nat)) (h : Hub σ) :
    beginSends n fr places (h.mapLinks f) =
      ((beginSends n fr places h).1, (beginSends n fr places h).2.mapLinks f) := by
  induction places generalizing h with
  | nil => rfl
  | cons x rest ih =>
    rw [beginSends, beginSends, beginSend_mapLinks]
    dsimp only
    rw [ih]

theorem resumeSends_mapLinks (roomFirst : Nat → Bool) (n : Nat) (fr : Frame)
    (places : List (String × Nat)) (h : Hub σ) :
    resumeSends roomFirst n fr places (h.mapLinks f) =
      ((resumeSends roomFirst n fr places h).1,
        (resumeSends roomFirst n fr places h).2.mapLinks f) := by
  induction places generalizing h with
  | nil => rfl
  | cons x rest ih =>
    rw [resumeSends, resumeSends, resumeSend_mapLinks]
    dsimp only
    rw [ih]

theorem sendToEach_mapLinks (n : Nat) (fr : Frame) (ids : List String) (r : Reply) :
    (h.mapLinks f).sendToEach n fr ids r = (h.sendToEach n fr ids r).mapLinks f := by
  rw [sendToEach, sendToEach, beginSends_mapLinks]
  rfl

theorem fanOut_mapLinks (n : Nat) (target : String) (members : List Member) (fr : Frame) :
    (h.mapLinks f).fanOut n target members fr = (h.fanOut n target members fr).mapLinks f := by
  rw [fanOut, fanOut]
  split
  · rfl
  · exact sendToEach_mapLinks f (h.count fun m => m.countSent target) n fr _ _

theorem beginCall_mapLinks (n : Nat) (r : SendOrder) :
    (h.mapLinks f).beginCall n r = (h.beginCall n r).mapLinks f := by
  cases r with
  | toHandle id fr => exact sendToEach_mapLinks f h n fr [id] .sent
  | toConnection id fr =>
    rw [beginCall, beginCall, show (h.mapLinks f).registry = h.registry from rfl]
    cases h.registry.lookup id with
    | none => rfl
    | some m =>
      exact sendToEach_mapLinks f (h.count fun m => m.countSent "connection") n fr [m.id] _
  | toUser user fr => exact fanOut_mapLinks f h n "user" _ fr
  | toAll fr => exact fanOut_mapLinks f h n "broadcast" _ fr

theorem callTurn_mapLinks (roomFirst : Nat → Bool) (n : Nat) :
    (h.mapLinks f).callTurn roomFirst n = (h.callTurn roomFirst n).mapLinks f := by
  rw [callTurn, callTurn, show (h.mapLinks f).calls = h.calls from rfl]
  split
  · exact beginCall_mapLinks f h n _
  · rw [resumeSends_mapLinks]
    rfl
  · rfl

theorem startCall_mapLinks (r : SendOrder) :
    (h.mapLinks f).startCall r = ((h.startCall r).1, (h.startCall r).2.mapLinks f) :=
  congrArg (Prod.mk _) (wake_mapLinks f (h.addCall r).2 (.call h.calls.length))

theorem withdrawSends_mapLinks (n : Nat) (places : List (String × Nat)) (h : Hub σ) :
    withdrawSends n places (h.mapLinks f) = (withdrawSends n places h).mapLinks f := by
  induction places generalizing h with
  | nil => rfl
  | cons x rest ih => rw [withdrawSends, withdrawSends, withdrawSend_mapLinks, ih]

theorem abandon_mapLinks (n : Nat) : (h.mapLinks f).abandon n = (h.abandon n).mapLinks f := by
  rw [abandon, abandon, show (h.mapLinks f).calls = h.calls from rfl]
  split
  · rfl
  · rw [withdrawSends_mapLinks]
    rfl
  · rfl

/-! ## What handlers do -/

theorem remove_mapLinks (id : String) :
    (h.mapLinks f).remove id = ((h.remove id).1, (h.remove id).2.mapLinks f) := by
  rw [remove, remove, show (h.mapLinks f).registry = h.registry from rfl]
  cases h.registry.lookup id with
  | none => rfl
  | some m =>
    dsimp only
    rw [teardown_mapLinks]
    rfl

theorem addHandlers_mapLinks (id : String) (hs : List Handler) :
    (h.mapLinks f).addHandlers id hs = (h.addHandlers id hs).mapLinks f :=
  update_mapLinks f h (fun _ => rfl) id

theorem setHandlers_mapLinks (id : String) (hs : List Handler) :
    (h.mapLinks f).setHandlers id hs = (h.setHandlers id hs).mapLinks f :=
  update_mapLinks f h (fun _ => rfl) id

theorem runScript_mapLinks (id : String) (script : Script) (h : Hub σ) :
    runScript id script (h.mapLinks f) =
      ((runScript id script h).1, (runScript id script h).2.mapLinks f) := by
  match script with
  | .done => rfl
  | .panic p => rfl
  | .trySend fr next =>
    rw [runScript, runScript, trySend_mapLinks]
    exact runScript_mapLinks id _ _
  | .startSend fr next =>
    rw [runScript, runScript, startCall_mapLinks]
    exact runScript_mapLinks id _ _
  | .addHandlers hs next =>
    rw [runScript, runScript, addHandlers_mapLinks]
    exact runScript_mapLinks id _ _
  | .setHandlers hs next =>
    rw [runScript, runScript, setHandlers_mapLinks]
    exact runScript_mapLinks id _ _
  | .remove next =>
    rw [runScript, runScript, remove_mapLinks]
    exact runScript_mapLinks id _ _
  | .note n next => exact runScript_mapLinks id next (h.addNote n)
  | .log e next => exact runScript_mapLinks id next (h.logEvent e)

theorem runHandlers_mapLinks (member : Member) (fr : Frame) (index : Nat)
    (handlers : List Handler) (h : Hub σ) :
    runHandlers member fr index handlers (h.mapLinks f) =
      (runHandlers member fr index handlers h).mapLinks f := by
  induction handlers generalizing index h with
  | nil => rfl
  | cons handler rest ih =>
    rw [runHandlers, runHandlers, runScript_mapLinks]
    dsimp only
    generalize runScript member.id (handler member fr) h = ran
    obtain ⟨panic, h'⟩ := ran
    cases panic with
    | none => exact ih (index + 1) h'
    | some p =>
      exact ih (index + 1) ((h'.count Metrics.countHandlerPanic).logAbout member.id .error
        "Message handler panicked" [("handler_index", .number index), ("panic", .text p.detail)])

theorem dispatch_mapLinks (c : Connection σ) (fr : Frame) :
    (h.mapLinks f).dispatch (c.mapLink f) fr = (h.dispatch c fr).mapLinks f :=
  runHandlers_mapLinks f c.member fr 0 c.handlers h

/-! ## The two tasks -/

section Tasks

variable [Transport σ] [Transport τ] {f : σ → τ} (faithful : Faithful f)

include faithful

theorem setLink_mapLinks (h : Hub σ) (id : String) (link : σ) :
    (h.mapLinks f).setLink id (f link) = (h.setLink id link).mapLinks f := by
  rw [setLink, setLink, faithful.hasArrived,
    update_mapLinks (g := fun c => { c with link := link }) f h fun _ => rfl]
  split
  · exact wakeReader_mapLinks f _ id
  · rfl

theorem stopWriter_mapLinks (h : Hub σ) (id : String) :
    (h.mapLinks f).stopWriter id = (h.stopWriter id).mapLinks f := by
  refine update_mapLinks f h (fun c => ?_) id
  dsimp only [Connection.mapLink]
  rw [← faithful.releaseSink]
  rfl

theorem failWriter_mapLinks (h : Hub σ) (id : String) (reason : CloseReason) :
    (h.mapLinks f).failWriter id reason = (h.failWriter id reason).mapLinks f := by
  rw [failWriter, failWriter, stopWriter_mapLinks faithful, teardown_mapLinks]

theorem panicWriter_mapLinks (h : Hub σ) (id : String) (p : Panic) :
    (h.mapLinks f).panicWriter id p = (h.panicWriter id p).mapLinks f := by
  rw [panicWriter, panicWriter, stopWriter_mapLinks faithful]
  exact congrArg Prod.snd (teardown_mapLinks f ((h.stopWriter id).logAbout id .error
    "Connection I/O task panicked" [("task", .text "writer"), ("panic", .text p.detail)]) id _)

theorem afterSend_mapLinks (h : Hub σ) (id : String) (kind : FrameKind) (limit : Nat)
    (p : Progress) : (h.mapLinks f).afterSend id kind limit p =
      ((h.afterSend id kind limit p).1, (h.afterSend id kind limit p).2.mapLinks f) := by
  cases p with
  | done => exact congrArg (Prod.mk true) (update_mapLinks f h (fun _ => rfl) id)
  | failed e =>
    exact congrArg (Prod.mk false) (failWriter_mapLinks faithful (h.logAbout id .warn
      "WebSocket send error" [("error", .text e.message), ("kind", .text kind.title)]) id _)
  | panicked p => exact congrArg (Prod.mk false) (panicWriter_mapLinks faithful h id p)
  | pending =>
    rw [afterSend, afterSend, show (h.mapLinks f).now = h.now from rfl]
    split
    · exact congrArg (Prod.mk false) (failWriter_mapLinks faithful (h.logAbout id .warn
        "WebSocket send timed out" [("timeout_ms", .number h.config.writeTimeout),
          ("kind", .text kind.title)]) id _)
    · exact congrArg (Prod.mk false) (update_mapLinks f h (fun _ => rfl) id)

theorem hand_mapLinks (h : Hub σ) (id : String) (fr : Frame) (cause : Cause) (link : σ) :
    (h.mapLinks f).hand id fr cause (f link) =
      ((h.hand id fr cause link).1, (h.hand id fr cause link).2.mapLinks f) := by
  rw [hand, hand, show (h.mapLinks f).now = h.now from rfl, faithful.send]
  dsimp only
  rw [setLink_mapLinks faithful]
  rfl

theorem sendFrame_mapLinks (h : Hub σ) (c : Connection σ) (fr : Frame) (cause : Cause) :
    (h.mapLinks f).sendFrame (c.mapLink f) fr cause =
      ((h.sendFrame c fr cause).1, (h.sendFrame c fr cause).2.mapLinks f) := by
  rw [sendFrame, sendFrame]
  split
  · rw [show (c.mapLink f).link = f c.link from rfl, hand_mapLinks faithful]
    exact afterSend_mapLinks faithful _ c.id _ _ _
  · rfl

theorem finishClose_mapLinks (h : Hub σ) (id : String) (limit : Nat) (p : Progress)
    (wait : WriterPhase) : (h.mapLinks f).finishClose id limit p wait =
      ((h.finishClose id limit p wait).1, (h.finishClose id limit p wait).2.mapLinks f) := by
  cases p with
  | done => exact congrArg (Prod.mk false) (stopWriter_mapLinks faithful h id)
  | failed e =>
    exact congrArg (Prod.mk false) (stopWriter_mapLinks faithful (h.logAbout id .debug
      "Close frame not delivered" [("error", .text e.message)]) id)
  | panicked p => exact congrArg (Prod.mk false) (panicWriter_mapLinks faithful h id p)
  | pending =>
    rw [finishClose, finishClose, show (h.mapLinks f).now = h.now from rfl]
    split
    · exact congrArg (Prod.mk false) (stopWriter_mapLinks faithful (h.logAbout id .debug
        "Close frame timed out" []) id)
    · exact congrArg (Prod.mk false) (update_mapLinks f h (fun _ => rfl) id)

theorem closeSink_mapLinks (h : Hub σ) (id : String) (limit : Nat) :
    (h.mapLinks f).closeSink id limit =
      ((h.closeSink id limit).1, (h.closeSink id limit).2.mapLinks f) := by
  rw [closeSink, closeSink, find?_mapLinks]
  cases h.find? id with
  | none => rfl
  | some c =>
    dsimp only [Option.map_some, Connection.mapLink]
    rw [show (h.mapLinks f).now = h.now from rfl, faithful.close]
    dsimp only
    rw [setLink_mapLinks faithful]
    exact finishClose_mapLinks faithful _ id limit _ _

theorem afterCloseFrame_mapLinks (h : Hub σ) (id : String) (limit : Nat) (p : Progress) :
    (h.mapLinks f).afterCloseFrame id limit p =
      ((h.afterCloseFrame id limit p).1, (h.afterCloseFrame id limit p).2.mapLinks f) := by
  cases p with
  | done => exact closeSink_mapLinks faithful h id limit
  | failed e => exact finishClose_mapLinks faithful h id limit (.failed e) (.sendingClose limit)
  | panicked p => exact finishClose_mapLinks faithful h id limit (.panicked p) (.sendingClose limit)
  | pending => exact finishClose_mapLinks faithful h id limit .pending (.sendingClose limit)

theorem idleWriterTurn_mapLinks (h : Hub σ) (c : Connection σ) :
    (h.mapLinks f).idleWriterTurn (c.mapLink f) =
      ((h.idleWriterTurn c).1, (h.idleWriterTurn c).2.mapLinks f) := by
  rw [idleWriterTurn, idleWriterTurn]
  simp only [Connection.mapLink_alive, Connection.id_mapLink, Connection.mapLink_link,
    Connection.mapLink_outbox, Connection.mapLink_heartbeat, mapLinks_now, mapLinks_config]
  split
  · rw [hand_mapLinks faithful]
    exact afterCloseFrame_mapLinks faithful _ c.id _ _
  · cases c.outbox.take with
    | some taken =>
      obtain ⟨fr, granted, outbox⟩ := taken
      dsimp only
      rw [update_mapLinks (g := fun c => { c with outbox := outbox }) f h fun _ => rfl,
        wakeAll_mapLinks]
      exact sendFrame_mapLinks faithful _ c fr .queued
    | none =>
      dsimp only
      split
      · rw [update_mapLinks (g := fun x => { x with
          heartbeat := nextHeartbeat h.now c.heartbeat h.config.heartbeat }) f h fun _ => rfl]
        exact sendFrame_mapLinks faithful _ c .ping .heartbeat
      · rfl

theorem writerTurn_mapLinks (h : Hub σ) (id : String) :
    (h.mapLinks f).writerTurn id = ((h.writerTurn id).1, (h.writerTurn id).2.mapLinks f) := by
  rw [writerTurn, writerTurn, find?_mapLinks]
  cases h.find? id with
  | none => rfl
  | some c =>
    dsimp only [Option.map_some]
    rw [show (c.mapLink f).writer = c.writer from rfl, show (c.mapLink f).link = f c.link from rfl,
      show (h.mapLinks f).now = h.now from rfl, faithful.resume]
    cases c.writer with
    | stopped => rfl
    | starting => exact congrArg (Prod.mk true) (update_mapLinks f h (fun _ => rfl) id)
    | idle => exact idleWriterTurn_mapLinks faithful h c
    | sending kind limit =>
      dsimp only
      rw [setLink_mapLinks faithful]
      exact afterSend_mapLinks faithful _ id kind limit _
    | sendingClose limit =>
      dsimp only
      rw [setLink_mapLinks faithful]
      exact afterCloseFrame_mapLinks faithful _ id limit _
    | closingSink limit => exact closeSink_mapLinks faithful h id limit

theorem stopReader_mapLinks (h : Hub σ) (id : String) :
    (h.mapLinks f).stopReader id = (h.stopReader id).mapLinks f := by
  refine update_mapLinks f h (fun c => ?_) id
  dsimp only [Connection.mapLink]
  rw [← faithful.releaseStream]
  rfl

theorem failReader_mapLinks (h : Hub σ) (id : String) (reason : CloseReason) :
    (h.mapLinks f).failReader id reason = (h.failReader id reason).mapLinks f := by
  rw [failReader, failReader, stopReader_mapLinks faithful, teardown_mapLinks]

theorem takeFrame_mapLinks (h : Hub σ) (c : Connection σ) (fr : Frame) :
    (h.mapLinks f).takeFrame (c.mapLink f) fr =
      ((h.takeFrame c fr).1, (h.takeFrame c fr).2.mapLinks f) := by
  rw [takeFrame, takeFrame]
  cases hkind : fr.kind with
  | pong => exact congrArg (Prod.mk true) (update_mapLinks f h (fun _ => rfl) c.id)
  | ping => rfl
  | close =>
    exact congrArg (Prod.mk false) (failReader_mapLinks faithful
      (h.logAbout c.id .debug "Received close frame" []) c.id _)
  | text | binary =>
    dsimp only
    rw [mapLinks_config, Connection.mapLink_alive]
    split
    · exact congrArg (Prod.mk false) (failReader_mapLinks faithful (h.logAbout c.id .warn
        "Inbound frame exceeds max message size" [("len", .number fr.payload.length),
          ("max", .number h.config.maxMessageSize)]) c.id _)
    · split
      · rw [count_mapLinks, dispatch_mapLinks]
      · rfl

theorem takeArrival_mapLinks (h : Hub σ) (c : Connection σ) (deadline : Nat) (a : Arrival) :
    (h.mapLinks f).takeArrival (c.mapLink f) deadline a =
      ((h.takeArrival c deadline a).1, (h.takeArrival c deadline a).2.mapLinks f) := by
  cases a with
  | frame fr => exact takeFrame_mapLinks faithful h c fr
  | ended => exact congrArg (Prod.mk false) (failReader_mapLinks faithful h c.id _)
  | failed e =>
    exact congrArg (Prod.mk false) (failReader_mapLinks faithful (h.logAbout c.id .warn
      "WebSocket receive error" [("error", .text e.message)]) c.id _)
  | panicked p =>
    rw [takeArrival, takeArrival, Connection.id_mapLink, stopReader_mapLinks faithful]
    exact congrArg (fun x => (false, x.2)) (teardown_mapLinks f ((h.stopReader c.id).logAbout c.id
      .error "Connection I/O task panicked" [("task", .text "reader"), ("panic", .text p.detail)])
        c.id .taskFailed)
  | pending =>
    rw [takeArrival, takeArrival, mapLinks_now]
    split
    · exact congrArg (Prod.mk false) (failReader_mapLinks faithful (h.logAbout c.id .warn
        "No pong within read deadline" [("timeout_ms", .number h.config.readTimeout)]) c.id _)
    · rfl

theorem readerTurn_mapLinks (h : Hub σ) (id : String) :
    (h.mapLinks f).readerTurn id = ((h.readerTurn id).1, (h.readerTurn id).2.mapLinks f) := by
  rw [readerTurn, readerTurn, find?_mapLinks]
  cases h.find? id with
  | none => rfl
  | some c =>
    dsimp only [Option.map_some]
    rw [show (c.mapLink f).reader = c.reader from rfl, show (c.mapLink f).link = f c.link from rfl,
      show (h.mapLinks f).now = h.now from rfl, faithful.receive]
    cases c.reader with
    | stopped => rfl
    | starting => exact congrArg (Prod.mk true) (update_mapLinks f h (fun _ => rfl) id)
    | reading deadline =>
      dsimp only
      rw [show (c.mapLink f).alive = c.alive from rfl]
      split
      · exact congrArg (Prod.mk false) (stopReader_mapLinks faithful h id)
      · rw [update_mapLinks
          (g := fun x => { x with link := (Transport.receive h.now c.link).2 }) f h fun _ => rfl]
        exact takeArrival_mapLinks faithful _ _ deadline _

theorem turn_mapLinks (h : Hub σ) (roomFirst : Nat → Bool) (t : Task) :
    (h.mapLinks f).turn roomFirst t =
      ((h.turn roomFirst t).1, (h.turn roomFirst t).2.mapLinks f) := by
  cases t with
  | writer id => exact writerTurn_mapLinks faithful h id
  | reader id => exact readerTurn_mapLinks faithful h id
  | call n => exact congrArg (Prod.mk false) (callTurn_mapLinks f h roomFirst n)

theorem poll_mapLinks (h : Hub σ) (roomFirst : Nat → Bool) (t : Task) :
    (h.mapLinks f).poll roomFirst t = (h.poll roomFirst t).mapLinks f := by
  have hturn := turn_mapLinks faithful { h with ready := h.ready.erase t } roomFirst t
  rw [poll_eq (h.mapLinks f) roomFirst t hturn, poll_eq h roomFirst t rfl]
  dsimp only
  split <;> rfl

/-! ## Events -/

theorem timersOf_mapLink (c : Connection σ) : timersOf (c.mapLink f) = timersOf c := by
  rw [timersOf, timersOf, Connection.mapLink_link, faithful.wakeAt]
  rfl

theorem timers_mapLinks (h : Hub σ) : (h.mapLinks f).timers = h.timers := by
  rw [timers, timers, mapLinks_connections, List.flatMap_map]
  congr 1
  funext c
  exact timersOf_mapLink faithful c

theorem moveClock_mapLinks (h : Hub σ) (t : Nat) :
    (h.mapLinks f).moveClock t = (h.moveClock t).mapLinks f := by
  rw [moveClock, moveClock, timers_mapLinks faithful]
  exact wakeAll_mapLinks f _ { h with now := t }

theorem peerActs_mapLinks (h : Hub σ) (id : String) {act : σ → σ} {act' : τ → τ}
    (hact : ∀ l, act' (f l) = f (act l)) :
    ((h.mapLinks f).peerActs id fun l => ((), act' l)).2 =
      (h.peerActs id fun l => ((), act l)).2.mapLinks f := by
  rw [peerActs, peerActs, find?_mapLinks]
  cases h.find? id with
  | none => rfl
  | some c =>
    dsimp only [Option.map_some, Connection.mapLink]
    rw [hact]
    change ((h.mapLinks f).setLink id (f (act c.link))).wakeBlockedWriter id =
      ((h.setLink id (act c.link)).wakeBlockedWriter id).mapLinks f
    rw [setLink_mapLinks faithful, wakeBlockedWriter_mapLinks]

end Tasks

/-! ## Events -/

theorem append_mapLinks (x : Connection σ) (registry : Registry) :
    ({ h.mapLinks f with
      connections := (h.mapLinks f).connections ++ [x.mapLink f], registry } : Hub τ) =
      ({ h with connections := h.connections ++ [x], registry } : Hub σ).mapLinks f := by
  simp [mapLinks]

theorem accept_mapLinks (id : String) (link : σ) (o : ConnectOptions) :
    (h.mapLinks f).accept id (f link) o =
      ((h.accept id link o).1, (h.accept id link o).2.mapLinks f) := by
  rw [accept, accept, show (h.mapLinks f).capacityFor o = h.capacityFor o from rfl]
  dsimp only
  split
  · rfl
  · have happend := append_mapLinks f h
      { member := Member.ofTexts id o.user o.tag, link, createdAt := h.wallClock
        handlers := o.handlers, outbox := { capacity := h.capacityFor o } }
      (h.registry.insert (Member.ofTexts id o.user o.tag))
    refine congrArg (Prod.mk _) ((congrArg (fun h' : Hub τ =>
      (((h'.wake (.writer id)).wake (.reader id)).count Metrics.countOpened).logAbout id .info
        "Connection registered" _) happend).trans ?_)
    dsimp only
    rw [wake_mapLinks, wake_mapLinks]
    rfl

theorem upgrade_mapLinks (id : String) (made : Except Error σ) (o : ConnectOptions) :
    (h.mapLinks f).upgrade id (made.map f) o =
      ((h.upgrade id made o).1, (h.upgrade id made o).2.mapLinks f) := by
  cases made with
  | error e => rfl
  | ok link => exact accept_mapLinks f h id link o

end Hub

namespace Http.Api

variable (f : σ → τ) (h : Hub σ)

theorem getConnection_mapLinks (s : Server) (id : String) :
    getConnection s (h.mapLinks f) id =
      ((getConnection s h id).1, (getConnection s h id).2.mapLinks f) := by
  rw [getConnection, getConnection, Hub.mapLinks_registry]
  cases h.registry.lookup id with
  | none => rfl
  | some m =>
    dsimp only [Option.bind_some]
    rw [Hub.find?_mapLinks]
    cases h.find? m.id <;> rfl

theorem deleteConnection_mapLinks (s : Server) (id : String) :
    deleteConnection s (h.mapLinks f) id =
      ((deleteConnection s h id).1, (deleteConnection s h id).2.mapLinks f) := by
  rw [deleteConnection, deleteConnection, Hub.remove_mapLinks]
  dsimp only
  split <;> rfl

theorem getUser_mapLinks (s : Server) (user : String) :
    getUser s (h.mapLinks f) user = ((getUser s h user).1, (getUser s h user).2.mapLinks f) := by
  rw [getUser, getUser, Hub.mapLinks_registry]
  split
  · rename_i members _
    have hinfo : (members.filterMap fun m => (h.mapLinks f).find? m.id).map infoJson =
        (members.filterMap fun m => h.find? m.id).map infoJson := by
      rw [List.map_filterMap, List.map_filterMap]
      simp only [Hub.find?_mapLinks, Option.map_map]
      rfl
    dsimp only
    rw [hinfo]
  · rfl

theorem socket_mapLinks (t : Target) (r : Request) :
    socket (h.mapLinks f) t r = ((socket h t r).1, (socket h t r).2.mapLinks f) := by
  rw [socket, socket]
  split
  · rfl
  · dsimp only
    rw [show (h.mapLinks f).checkOrigin = h.checkOrigin from rfl]
    split
    · rfl
    · split <;> rfl

theorem sendOutcome_mapLinks (r : Request) (order : Frame → SendOrder) (missing : String) :
    sendOutcome (h.mapLinks f) r order missing =
      ((sendOutcome h r order missing).1, (sendOutcome h r order missing).2.mapLinks f) := by
  rw [sendOutcome, sendOutcome]
  split <;> rfl

theorem withPart_mapLinks (part : List Char) {next : String → Outcome × Hub σ}
    {next' : String → Outcome × Hub τ}
    (hnext : ∀ text, next' text = ((next text).1, (next text).2.mapLinks f)) :
    withPart (h.mapLinks f) part next' =
      ((withPart h part next).1, (withPart h part next).2.mapLinks f) := by
  rw [withPart, withPart]
  split
  · exact hnext _
  · rfl

theorem atRoute_mapLinks (s : Server) (t : Target) (r : Request) (route : Route) :
    atRoute s (h.mapLinks f) t r route =
      ((atRoute s h t r route).1, (atRoute s h t r route).2.mapLinks f) := by
  cases route with
  | socket => exact socket_mapLinks f h t r
  | health => rfl
  | stats => rfl
  | metrics => rfl
  | connection part =>
    refine withPart_mapLinks f h part fun id => ?_
    split
    · rw [deleteConnection_mapLinks]
    · rw [getConnection_mapLinks]
  | connectionMessages part =>
    exact withPart_mapLinks f h part fun id => sendOutcome_mapLinks f h r _ id
  | userConnections part =>
    refine withPart_mapLinks f h part fun user => ?_
    rw [getUser_mapLinks]
  | userMessages part =>
    exact withPart_mapLinks f h part fun user => sendOutcome_mapLinks f h r _ user
  | broadcast => exact sendOutcome_mapLinks f h r _ ""

theorem handle_mapLinks (s : Server) (r : Request) :
    handle s (h.mapLinks f) r = ((handle s h r).1, (handle s h r).2.mapLinks f) := by
  rw [handle, handle]
  dsimp only
  split
  · rfl
  · split
    · rfl
    · split
      · rfl
      · split
        · rw [atRoute_mapLinks]
        · rfl

end Http.Api

end Switchboard
