import Switchboard.Hub.Peer
import Switchboard.Proofs.Ledger

/-!
# What a hub does is a sequence of steps of its ledger

`Hub.LeadsTo h h'` says that the ledger of `h'` is reached from that of `h` by steps. Every
operation of a hub but the opening of a connection leads to the hub after it: what peers do,
scripts, turns of writers, readers and calls, removals, the passing of time.

The operations are taken in the order in which they are built from each other, and none is opened
again once it has its lemma.
-/

namespace Switchboard.Hub

variable {τ : Type}

/-- The ledger of one hub is reached from that of another. -/
def LeadsTo (h h' : Hub τ) : Prop := Ledger.Steps h.ledger h'.ledger

theorem LeadsTo.refl (h : Hub τ) : h.LeadsTo h := Relation.ReflTransGen.refl

theorem LeadsTo.trans {h₁ h₂ h₃ : Hub τ} (first : h₁.LeadsTo h₂) (second : h₂.LeadsTo h₃) :
    h₁.LeadsTo h₃ := Relation.ReflTransGen.trans first second

theorem LeadsTo.of_eq {h h' : Hub τ} (he : h'.ledger = h.ledger) : h.LeadsTo h' := by
  rw [LeadsTo, he]

/-- What follows a change that the ledger does not show. -/
theorem LeadsTo.aside {h₁ h₂ h₃ : Hub τ} (rest : h₂.LeadsTo h₃) (he : h₂.ledger = h₁.ledger) :
    h₁.LeadsTo h₃ := (LeadsTo.of_eq he).trans rest

theorem LeadsTo.step {h h' : Hub τ} {l : Ledger} (step : Ledger.Step h.ledger l)
    (he : h'.ledger = l) : h.LeadsTo h' := by
  rw [LeadsTo, he]
  exact Relation.ReflTransGen.single step

/-! ## Teardown and removal -/

theorem teardown_of_not_alive {h : Hub τ} {id : String}
    (hdead : ∀ c, h.find? id = some c → c.alive = false) (reason : CloseReason) :
    h.teardown id reason = (false, h) := by
  rw [teardown]
  cases hc : h.find? id with
  | none => rfl
  | some c => simp [hdead c hc]

theorem teardown_of_alive {h : Hub τ} {id : String} {c : Connection τ}
    (hc : h.find? id = some c) (halive : c.alive = true) (reason : CloseReason) :
    (h.teardown id reason).1 = true ∧
      ∃ lifetime, (h.teardown id reason).2.ledger = h.ledger.close id reason lifetime := by
  rw [teardown, hc]
  simp only [halive, Bool.not_true, Bool.false_eq_true, if_false, ledger_logAbout, ledger_record,
    true_and]
  refine ⟨(Binary64.ofNat (h.wallClock - c.createdAt)).div (.ofNat 1000), ?_⟩
  -- the hub in which everyone who has to find out is ready to
  generalize hw : ((((h.update id fun c => { c with alive := false }).wakeWriter id).wakeReader
    id).wakeAll (c.outbox.pending.map fun t => .call t.call)) = woken
  have hl : woken.ledger = h.ledger.update id fun a => { a with alive := false } := by
    rw [← hw, ledger_wakeAll, ledger_wakeReader, ledger_wakeWriter]
    exact ledger_update fun _ => rfl
  change Ledger.record { woken.ledger with
    registry := (woken.ledger.registry.remove id).2
    closed := woken.ledger.closed.bump reason.name
    lifetimes := _ :: woken.ledger.lifetimes } _ = _
  rw [hl]
  rfl

/-- A teardown tears a connection down if it is alive, and otherwise does nothing. -/
theorem teardown_cases (h : Hub τ) (id : String) (reason : CloseReason) :
    (∃ (c : Connection τ) (lifetime : Binary64), h.find? id = some c ∧ c.alive = true ∧
      (h.teardown id reason).1 = true ∧
      (h.teardown id reason).2.ledger = h.ledger.close id reason lifetime) ∨
    h.teardown id reason = (false, h) := by
  by_cases halive : ∃ c, h.find? id = some c ∧ c.alive = true
  · obtain ⟨c, hc, halive⟩ := halive
    obtain ⟨hwon, lifetime, hl⟩ := teardown_of_alive hc halive reason
    exact .inl ⟨c, lifetime, hc, halive, hwon, hl⟩
  · refine .inr (teardown_of_not_alive (fun c hc => ?_) reason)
    simpa using fun ha => halive ⟨c, hc, ha⟩

theorem leadsTo_teardown (h : Hub τ) (id : String) (reason : CloseReason)
    (hreason : reason ≠ .removed) : h.LeadsTo (h.teardown id reason).2 := by
  rcases teardown_cases h id reason with ⟨c, lifetime, hc, halive, -, hl⟩ | hnothing
  · exact .step (.close (find?_ledger_of_some hc) halive hreason) hl
  · rw [hnothing]
    exact .refl h

/-- A removal tears down the connection registered under the id if it is alive, and says so. -/
theorem remove_cases (h : Hub τ) (id : String) :
    ((h.remove id).1 = true ∧ ∃ (c : Connection τ) (lifetime : Binary64),
      h.find? id = some c ∧ c.alive = true ∧
      (h.remove id).2.ledger =
        (h.ledger.close id .removed lifetime).record (.removal id true)) ∨
    ((h.remove id).1 = false ∧ (h.remove id).2.ledger = h.ledger.record (.removal id false)) := by
  rw [remove]
  cases hm : h.registry.lookup id with
  | none => exact .inr ⟨rfl, rfl⟩
  | some m =>
    have hid : m.id = id := by simpa using List.find?_some hm
    rcases teardown_cases h id .removed with ⟨c, lifetime, hc, halive, hwon, hl⟩ | hnothing
    · refine .inl ⟨?_, c, lifetime, hc, halive, ?_⟩
      · simp only [hid, hwon]
      · simp only [hid, ledger_record, hl, hwon]
    · exact .inr ⟨by simp only [hid, hnothing], by simp only [hid, hnothing, ledger_record]⟩

theorem leadsTo_remove (h : Hub τ) (id : String) : h.LeadsTo (h.remove id).2 := by
  rcases remove_cases h id with ⟨-, c, lifetime, hc, halive, hl⟩ | ⟨-, hl⟩
  · exact .step (.remove (find?_ledger_of_some hc) halive) hl
  · exact .step .decline hl

theorem leadsTo_upgradeFailed (h : Hub τ) (reason : String) :
    h.LeadsTo (h.upgradeFailed reason) := .step .refuse rfl

/-! ## Sends -/

theorem ledger_enter (h : Hub τ) (id : String) (f : Frame) (s : Sender) (put : Outbox → Outbox) :
    (h.enter id f s put).ledger = h.ledger.enter id f s put := by
  rw [enter, ledger_wakeWriter, ledger_record]
  exact congrArg (Ledger.record · _) (ledger_update fun _ => rfl)

theorem leadsTo_putFrame {h : Hub τ} {id : String} {c : Connection τ} (f : Frame) {s : Sender}
    (hc : h.find? id = some c) (halive : c.alive = true) (hroom : c.outbox.hasRoom = true)
    (hs : h.ledger.Sends f s) : h.LeadsTo (h.putFrame id f s) :=
  .step (.put (find?_ledger_of_some hc) halive hroom hs) (ledger_enter h id f s _)

theorem leadsTo_trySend (h : Hub τ) (id : String) (f : Frame) : h.LeadsTo (h.trySend id f).2 := by
  rw [trySend]
  cases hc : h.find? id with
  | none => exact .of_eq rfl
  | some c =>
    dsimp only
    split
    · rename_i hroom
      obtain ⟨halive, hroom⟩ := Bool.and_eq_true_iff.mp hroom
      exact leadsTo_putFrame f hc halive hroom trivial
    · exact .of_eq rfl

theorem leadsTo_startCall (h : Hub τ) (r : SendOrder) : h.LeadsTo (h.startCall r).2 :=
  .step .ask (ledger_wake _ _)

theorem leadsTo_setCall {h : Hub τ} {number : Nat} {old : Call}
    {f : Frame} (hold : h.calls[number]? = some old) (hopen : old.frame? = some f) {new : Call}
    (hnew : ∀ g, new.frame? = some g → g = f) : h.LeadsTo (h.setCall number new) :=
  .step (.proceed hold hopen hnew) rfl

/-- A call that gets on may be over. -/
theorem leadsTo_endCall {h : Hub τ} {number : Nat} {old : Call} {f : Frame}
    (hold : h.calls[number]? = some old) (hopen : old.frame? = some f) {new : Call}
    (hnew : new.frame? = none) : h.LeadsTo (h.setCall number new) :=
  leadsTo_setCall hold hopen fun g hg => by
    rw [hnew] at hg
    cases hg

/-- A send that begins or goes on leads to the hub after it, and the calls stay what they are. -/
def Serves (h h' : Hub τ) : Prop := h.LeadsTo h' ∧ h'.calls = h.calls

theorem Serves.refl (h : Hub τ) : h.Serves h := ⟨.refl h, rfl⟩

theorem Serves.trans {h₁ h₂ h₃ : Hub τ} (first : h₁.Serves h₂) (second : h₂.Serves h₃) :
    h₁.Serves h₃ := ⟨first.1.trans second.1, second.2.trans first.2⟩

theorem serves_withdrawSend (h : Hub τ) (id : String) (t : Ticket) :
    h.Serves (h.withdrawSend id t) := by
  rw [withdrawSend]
  cases hc : h.find? id with
  | none => exact .refl h
  | some c =>
    have hl : ((h.update id fun c' => { c' with outbox := (c.outbox.withdraw t).2 }).wakeAll
        ((c.outbox.withdraw t).1.toList.map fun t => .call t.call)).ledger =
        h.ledger.mapOutbox id fun _ => (c.outbox.withdraw t).2 := by
      rw [ledger_wakeAll]
      exact ledger_update fun _ => rfl
    exact ⟨.step (.withdraw (find?_ledger_of_some hc)) hl, congrArg Ledger.calls hl⟩

theorem serves_withdrawSends (number : Nat) (places : List (String × Nat)) (h : Hub τ) :
    h.Serves (withdrawSends number places h) := by
  induction places generalizing h with
  | nil => exact .refl h
  | cons target rest ih => exact (serves_withdrawSend h target.1 ⟨number, target.2⟩).trans (ih _)

theorem serves_beginSend {h : Hub τ} {f : Frame} {t : Ticket} (hs : h.ledger.Sends f (.call t))
    (id : String) : h.Serves (h.beginSend id f t).2 := by
  rw [beginSend]
  cases hc : h.find? id with
  | none => exact ⟨.of_eq rfl, rfl⟩
  | some c =>
    dsimp only
    split
    · exact ⟨.of_eq rfl, rfl⟩
    · rename_i halive
      have halive : c.alive = true := by simpa using halive
      split
      · rename_i hroom
        exact ⟨leadsTo_putFrame f hc halive hroom hs,
          congrArg Ledger.calls (ledger_enter h id f _ _)⟩
      · rename_i hroom
        have hl : (h.update id fun c => { c with outbox := c.outbox.join t }).ledger =
            h.ledger.mapOutbox id fun o => o.join t := ledger_update fun _ => rfl
        have hfull : c.outbox.hasRoom = false := by simpa using hroom
        exact ⟨.step (.join (find?_ledger_of_some hc) halive hfull) hl, congrArg Ledger.calls hl⟩

theorem serves_resumeSend {h : Hub τ} {f : Frame} {t : Ticket} (hs : h.ledger.Sends f (.call t))
    (roomFirst : Bool) (id : String) : h.Serves (h.resumeSend roomFirst id f t).2 := by
  rw [resumeSend]
  cases hc : h.find? id with
  | none => exact .refl h
  | some c =>
    dsimp only
    split
    · rename_i hgranted
      obtain ⟨hgranted, -⟩ := Bool.and_eq_true_iff.mp hgranted
      have hl := ledger_enter h id f (.call t) fun o => o.redeem t f
      exact ⟨.step (.redeem (find?_ledger_of_some hc) hgranted hs) hl, congrArg Ledger.calls hl⟩
    · split
      · obtain ⟨hleads, hcalls⟩ := serves_withdrawSend h id t
        exact ⟨hleads.trans (.of_eq rfl), hcalls⟩
      · exact .refl h

/-- Sends of a call stay possible as long as the calls stay what they are. -/
theorem sends_of_calls_eq {h h' : Hub τ} (he : h'.calls = h.calls) {f : Frame} {t : Ticket}
    (hs : h.ledger.Sends f (.call t)) : h'.ledger.Sends f (.call t) := by
  change (h'.calls[t.call]?).map Call.frame? = some (some f)
  rw [he]
  exact hs

theorem sends_of_open {h : Hub τ} {number : Nat} {c : Call} {f : Frame}
    (hc : h.calls[number]? = some c) (hopen : c.frame? = some f) (place : Nat) :
    h.ledger.Sends f (.call ⟨number, place⟩) := by
  change (h.calls[number]?).map Call.frame? = some (some f)
  rw [hc, Option.map_some, hopen]

theorem serves_beginSends {number : Nat} {f : Frame} (places : List (String × Nat)) {h : Hub τ}
    (hs : ∀ place, h.ledger.Sends f (.call ⟨number, place⟩)) :
    h.Serves (beginSends number f places h).2 := by
  induction places generalizing h with
  | nil => exact .refl h
  | cons target rest ih =>
    -- the first send leaves the calls as they are, so that the others may still be made
    have hfirst := serves_beginSend (hs target.2) target.1
    exact hfirst.trans (ih fun place => sends_of_calls_eq hfirst.2 (hs place))

theorem serves_resumeSends {roomFirst : Nat → Bool} {number : Nat} {f : Frame}
    (places : List (String × Nat)) {h : Hub τ}
    (hs : ∀ place, h.ledger.Sends f (.call ⟨number, place⟩)) :
    h.Serves (resumeSends roomFirst number f places h).2 := by
  induction places generalizing h with
  | nil => exact .refl h
  | cons target rest ih =>
    have hfirst := serves_resumeSend (hs target.2) (roomFirst target.2) target.1
    exact hfirst.trans (ih fun place => sends_of_calls_eq hfirst.2 (hs place))

/-! ## Calls -/

theorem leadsTo_settleCall {h h' : Hub τ} {number : Nat} {old : Call} {f : Frame}
    (hserves : h.Serves h') (hold : h.calls[number]? = some old) (hopen : old.frame? = some f)
    (left : List (String × Nat)) (r : Reply) : h.LeadsTo (h'.settleCall number f left r) := by
  have hold' : h'.calls[number]? = some old := by rw [hserves.2, hold]
  refine hserves.1.trans ?_
  rw [settleCall]
  -- the call is over if no send has to wait, and waits with the same frame otherwise
  split
  · exact leadsTo_endCall hold' hopen rfl
  · exact leadsTo_setCall hold' hopen fun g hg => (Option.some.inj hg).symm

theorem leadsTo_sendToEach {h : Hub τ} {number : Nat} {old : Call} {f : Frame}
    (hold : h.calls[number]? = some old) (hopen : old.frame? = some f)
    (ids : List String) (r : Reply) : h.LeadsTo (h.sendToEach number f ids r) :=
  leadsTo_settleCall (serves_beginSends _ (sends_of_open hold hopen)) hold hopen _ r

theorem leadsTo_fanOut {h : Hub τ} {number : Nat} {old : Call} {f : Frame}
    (hold : h.calls[number]? = some old) (hopen : old.frame? = some f) (target : String)
    (members : List Member) : h.LeadsTo (h.fanOut number target members f) := by
  rw [fanOut]
  split
  · exact leadsTo_endCall hold hopen rfl
  · refine .aside ?_ (ledger_countSent h target)
    exact leadsTo_sendToEach (h := h.count fun m => m.countSent target) hold hopen _ _

theorem leadsTo_beginCall {h : Hub τ} {number : Nat} {r : SendOrder}
    (hold : h.calls[number]? = some (.requested r)) : h.LeadsTo (h.beginCall number r) := by
  cases r with
  | toHandle id f => exact leadsTo_sendToEach hold rfl _ _
  | toConnection id f =>
    rw [beginCall]
    split
    · exact .aside (leadsTo_endCall (h := h.dropFrame) hold rfl rfl) (ledger_dropFrame h)
    · refine .aside ?_ (ledger_countSent h "connection")
      exact leadsTo_sendToEach (h := h.count fun m => m.countSent "connection") hold rfl _ _
  | toUser user f => exact leadsTo_fanOut hold rfl "user" _
  | toAll f => exact leadsTo_fanOut hold rfl "broadcast" _

theorem leadsTo_callTurn (h : Hub τ) (roomFirst : Nat → Bool) (number : Nat) :
    h.LeadsTo (h.callTurn roomFirst number) := by
  rw [callTurn]
  split
  · rename_i r hold
    exact leadsTo_beginCall hold
  · rename_i f places r hold
    exact leadsTo_settleCall (serves_resumeSends places (sends_of_open hold rfl)) hold rfl _ r
  · exact .refl h

theorem leadsTo_abandon (h : Hub τ) (number : Nat) : h.LeadsTo (h.abandon number) := by
  rw [abandon]
  split
  · rename_i r hold
    exact leadsTo_endCall hold rfl rfl
  · rename_i f places r hold
    -- its waiting sends are withdrawn before the call is over
    obtain ⟨hleads, hcalls⟩ := serves_withdrawSends number places h
    have hold' : (withdrawSends number places h).calls[number]? = some (.waiting f places r) := by
      rw [hcalls, hold]
    exact hleads.trans (leadsTo_endCall hold' rfl rfl)
  · exact .refl h

/-! ## Scripts and dispatch -/

theorem ledger_addHandlers (h : Hub τ) (id : String) (handlers : List Handler) :
    (h.addHandlers id handlers).ledger = h.ledger := ledger_update_aside fun _ => rfl

theorem ledger_setHandlers (h : Hub τ) (id : String) (handlers : List Handler) :
    (h.setHandlers id handlers).ledger = h.ledger := ledger_update_aside fun _ => rfl

theorem leadsTo_runScript (id : String) (script : Script) (h : Hub τ) :
    h.LeadsTo (runScript id script h).2 := by
  -- the cases are those of a script: its end, a panic, and what it does before it goes on
  fun_induction runScript id script h with
  | case1 h => exact .refl h
  | case2 p h => exact .refl h
  | case3 f next h sent h' hsend ih =>
    have hfirst := leadsTo_trySend h id f
    rw [hsend] at hfirst
    exact hfirst.trans ih
  | case4 f next h ih => exact (leadsTo_startCall h _).trans ih
  | case5 handlers next h ih => exact .aside ih (ledger_addHandlers h id handlers)
  | case6 handlers next h ih => exact .aside ih (ledger_setHandlers h id handlers)
  | case7 next h won h' hremove ih =>
    have hfirst := leadsTo_remove h id
    rw [hremove] at hfirst
    exact hfirst.trans ih
  | case8 n next h ih => exact .aside ih (ledger_addNote h n)
  | case9 e next h ih => exact .aside ih (ledger_logEvent h e)

theorem leadsTo_runHandlers (member : Member) (f : Frame) (index : Nat) (handlers : List Handler)
    (h : Hub τ) : h.LeadsTo (runHandlers member f index handlers h) := by
  induction handlers generalizing index h with
  | nil => exact .refl h
  | cons handler rest ih =>
    have hscript := leadsTo_runScript member.id (handler member f) h
    rw [runHandlers]
    generalize runScript member.id (handler member f) h = ran at hscript ⊢
    obtain ⟨panic, h'⟩ := ran
    cases panic with
    | none => exact hscript.trans (ih _ h')
    | some p =>
      -- a panic is counted, and the handlers that follow run all the same
      refine hscript.trans (.aside (ih _ _) ?_)
      exact ledger_countHandlerPanic h'

theorem leadsTo_dispatch (h : Hub τ) (c : Connection τ) (f : Frame) :
    h.LeadsTo (h.dispatch c f) := leadsTo_runHandlers c.member f 0 c.handlers h

/-! ## The writer -/

variable [Transport τ]

theorem ledger_setLink (h : Hub τ) (id : String) (link : τ) :
    (h.setLink id link).ledger = h.ledger := by
  have hl : (h.update id fun c => { c with link := link }).ledger = h.ledger :=
    ledger_update_aside fun _ => rfl
  rw [setLink]
  split
  · rw [ledger_wakeReader, hl]
  · exact hl

theorem ledger_hand (h : Hub τ) (id : String) (f : Frame) (cause : Cause) (link : τ) :
    (h.hand id f cause link).2.ledger = h.ledger.record (.handed id f cause) :=
  congrArg (Ledger.record · _) (ledger_setLink h id _)

theorem ledger_stopWriter (h : Hub τ) (id : String) : (h.stopWriter id).ledger = h.ledger :=
  ledger_update_aside fun _ => rfl

theorem leadsTo_failWriter (h : Hub τ) (id : String) (reason : CloseReason)
    (hreason : reason ≠ .removed) : h.LeadsTo (h.failWriter id reason) :=
  .aside (leadsTo_teardown _ id reason hreason) (ledger_stopWriter h id)

theorem leadsTo_panicWriter (h : Hub τ) (id : String) (p : Panic) :
    h.LeadsTo (h.panicWriter id p) := by
  refine .aside (leadsTo_teardown _ id .taskFailed (by decide)) ?_
  exact ledger_stopWriter h id

theorem leadsTo_afterSend (h : Hub τ) (id : String) (kind : FrameKind) (limit : Nat)
    (p : Progress) : h.LeadsTo (h.afterSend id kind limit p).2 := by
  cases p with
  | done => exact .of_eq (ledger_update_aside fun _ => rfl)
  | failed e =>
    exact .aside (leadsTo_failWriter _ id .writeError (by decide)) (ledger_logAbout _ _ _ _ _)
  | panicked p => exact leadsTo_panicWriter h id p
  | pending =>
    rw [afterSend]
    split
    · exact .aside (leadsTo_failWriter _ id .writeTimeout (by decide)) (ledger_logAbout _ _ _ _ _)
    · exact .of_eq (ledger_update_aside fun _ => rfl)

theorem leadsTo_finishClose (h : Hub τ) (id : String) (limit : Nat) (p : Progress)
    (wait : WriterPhase) : h.LeadsTo (h.finishClose id limit p wait).2 := by
  cases p with
  | done => exact .of_eq (ledger_stopWriter h id)
  | failed e => exact .of_eq (ledger_stopWriter _ id)
  | panicked p => exact leadsTo_panicWriter h id p
  | pending =>
    rw [finishClose]
    split
    · exact .of_eq (ledger_stopWriter _ id)
    · exact .of_eq (ledger_update_aside fun _ => rfl)

theorem leadsTo_closeSink (h : Hub τ) (id : String) (limit : Nat) :
    h.LeadsTo (h.closeSink id limit).2 := by
  rw [closeSink]
  cases h.find? id with
  | none => exact .refl h
  | some c => exact .aside (leadsTo_finishClose _ id limit _ _) (ledger_setLink h id _)

theorem leadsTo_afterCloseFrame (h : Hub τ) (id : String) (limit : Nat) (p : Progress) :
    h.LeadsTo (h.afterCloseFrame id limit p).2 := by
  cases p with
  | done => exact leadsTo_closeSink h id limit
  | failed e => exact leadsTo_finishClose h id limit _ _
  | panicked p => exact leadsTo_finishClose h id limit _ _
  | pending => exact leadsTo_finishClose h id limit _ _

/-- A heartbeat is handed over like a frame of the outbox. -/
theorem leadsTo_sendPing (h : Hub τ) (c : Connection τ) :
    h.LeadsTo (h.sendFrame c .ping .heartbeat).2 := by
  have hhand := ledger_hand h c.id .ping .heartbeat c.link
  exact (LeadsTo.step .beat hhand).trans (leadsTo_afterSend _ c.id _ _ _)

/-- The next frame of the outbox is handed over or dropped. `h` is the hub after it was taken. -/
theorem leadsTo_sendQueued {h₀ h : Hub τ} {c : Connection τ} {f : Frame} {t : Option Ticket}
    {o : Outbox} (hc : h₀.find? c.id = some c) (halive : c.alive = true)
    (htake : c.outbox.take = some (f, t, o))
    (hl : h.ledger = h₀.ledger.mapOutbox c.id fun _ => o) :
    h₀.LeadsTo (h.sendFrame c f .queued).2 := by
  rw [sendFrame]
  split
  · rename_i hsend
    have hhand := ledger_hand h c.id f .queued c.link
    rw [hl] at hhand
    have hpass : h₀.LeadsTo (h.hand c.id f .queued c.link).2 :=
      .step (.pass (find?_ledger_of_some hc) halive htake hsend) hhand
    exact hpass.trans (leadsTo_afterSend _ c.id _ _ _)
  · rename_i hsend
    exact .step (.shed (find?_ledger_of_some hc) halive htake (by simpa using hsend)) hl

theorem leadsTo_idleWriterTurn {h : Hub τ} {c : Connection τ} (hc : h.find? c.id = some c) :
    h.LeadsTo (h.idleWriterTurn c).2 := by
  rw [idleWriterTurn]
  split
  · -- the connection was torn down: the writer says farewell
    have hhand := ledger_hand h c.id .close .farewell c.link
    dsimp only
    generalize h.hand c.id .close .farewell c.link = handed at hhand ⊢
    obtain ⟨p, h'⟩ := handed
    have hhanded : h.LeadsTo h' := .step .part hhand
    exact hhanded.trans (leadsTo_afterCloseFrame h' c.id _ p)
  · rename_i halive
    have halive : c.alive = true := by simpa using halive
    -- a frame of the outbox comes before a heartbeat
    split
    · rename_i f t o htake
      refine leadsTo_sendQueued hc halive htake ?_
      rw [ledger_wakeAll]
      exact ledger_update fun _ => rfl
    · split
      · exact .aside (leadsTo_sendPing _ c) (ledger_update_aside fun _ => rfl)
      · exact .refl h

theorem leadsTo_writerTurn (h : Hub τ) (id : String) : h.LeadsTo (h.writerTurn id).2 := by
  rw [writerTurn]
  cases hc : h.find? id with
  | none => exact .refl h
  | some c =>
    dsimp only
    split
    · exact .refl h
    · exact .of_eq (ledger_update_aside fun _ => rfl)
    · exact leadsTo_idleWriterTurn (by rw [id_of_find? hc, hc])
    · exact .aside (leadsTo_afterSend _ id _ _ _) (ledger_setLink h id _)
    · exact .aside (leadsTo_afterCloseFrame _ id _ _) (ledger_setLink h id _)
    · exact leadsTo_closeSink h id _

/-! ## The reader -/

theorem ledger_stopReader (h : Hub τ) (id : String) : (h.stopReader id).ledger = h.ledger :=
  ledger_update_aside fun _ => rfl

theorem leadsTo_failReader (h : Hub τ) (id : String) (reason : CloseReason)
    (hreason : reason ≠ .removed) : h.LeadsTo (h.failReader id reason) :=
  .aside (leadsTo_teardown _ id reason hreason) (ledger_stopReader h id)

/-- A data frame ends the reader if it is too long, and is counted and dispatched otherwise. -/
theorem leadsTo_takeData (h : Hub τ) (c : Connection τ) (f : Frame) (hdata : f.kind.isData = true) :
    h.LeadsTo (h.takeFrame c f).2 := by
  have hkind : f.kind = .text ∨ f.kind = .binary := by
    revert hdata
    cases f.kind <;> decide
  -- both kinds of data are treated alike
  rcases hkind with hkind | hkind <;>
    · simp only [takeFrame, hkind]
      split
      · exact .aside (leadsTo_failReader _ c.id .frameTooLarge (by decide))
          (ledger_logAbout _ _ _ _ _)
      · split
        · exact .aside (leadsTo_dispatch _ c f) (ledger_countReceived h _)
        · exact .of_eq (ledger_countReceived h _)

theorem leadsTo_takeFrame (h : Hub τ) (c : Connection τ) (f : Frame) :
    h.LeadsTo (h.takeFrame c f).2 := by
  cases hkind : f.kind with
  | pong =>
    simp only [takeFrame, hkind]
    exact .of_eq (ledger_update_aside fun _ => rfl)
  | ping =>
    simp only [takeFrame, hkind]
    exact .refl h
  | close =>
    simp only [takeFrame, hkind]
    exact .aside (leadsTo_failReader _ c.id .peerClosed (by decide)) (ledger_logAbout _ _ _ _ _)
  | text => exact leadsTo_takeData h c f (by rw [hkind]; rfl)
  | binary => exact leadsTo_takeData h c f (by rw [hkind]; rfl)

theorem leadsTo_takeArrival (h : Hub τ) (c : Connection τ) (deadline : Nat) (a : Arrival) :
    h.LeadsTo (h.takeArrival c deadline a).2 := by
  cases a with
  | frame f => exact leadsTo_takeFrame h c f
  | ended => exact leadsTo_failReader h c.id .peerClosed (by decide)
  | failed e =>
    exact .aside (leadsTo_failReader _ c.id .readError (by decide)) (ledger_logAbout _ _ _ _ _)
  | panicked p =>
    refine .aside (leadsTo_teardown _ c.id .taskFailed (by decide)) ?_
    exact ledger_stopReader h c.id
  | pending =>
    rw [takeArrival]
    split
    · exact .aside (leadsTo_failReader _ c.id .readTimeout (by decide)) (ledger_logAbout _ _ _ _ _)
    · exact .refl h

theorem leadsTo_readerTurn (h : Hub τ) (id : String) : h.LeadsTo (h.readerTurn id).2 := by
  rw [readerTurn]
  cases h.find? id with
  | none => exact .refl h
  | some c =>
    dsimp only
    split
    · exact .refl h
    · exact .of_eq (ledger_update_aside fun _ => rfl)
    · split
      · exact .of_eq (ledger_stopReader h id)
      · rename_i deadline _ _
        generalize Transport.receive h.now c.link = received
        refine .aside (leadsTo_takeArrival (h.update id fun c => { c with link := received.2 })
          { c with link := received.2 } deadline received.1) ?_
        exact ledger_update_aside fun _ => rfl

/-! ## Turns, peers and time -/

theorem leadsTo_poll (h : Hub τ) (roomFirst : Nat → Bool) (t : Task) :
    h.LeadsTo (h.poll roomFirst t) := by
  have hturn : ∀ h : Hub τ, h.LeadsTo (h.turn roomFirst t).2 := fun h => by
    cases t with
    | writer id => exact leadsTo_writerTurn h id
    | reader id => exact leadsTo_readerTurn h id
    | call number => exact leadsTo_callTurn h roomFirst number
  rw [poll]
  refine .aside ((hturn _).trans ?_) (ledger_setReady h (h.ready.erase t))
  dsimp only
  split
  · exact .of_eq rfl
  · exact .refl _

omit [Transport τ] in
theorem ledger_wakeBlockedWriter (h : Hub τ) (id : String) :
    (h.wakeBlockedWriter id).ledger = h.ledger := by
  rw [wakeBlockedWriter]
  split
  · rfl
  · split
    all_goals first | exact ledger_wake _ _ | rfl

theorem ledger_peerActs (h : Hub τ) (id : String) (act : τ → α × τ) :
    (h.peerActs id act).2.ledger = h.ledger := by
  rw [peerActs]
  cases h.find? id with
  | none => rfl
  | some c =>
    dsimp only
    rw [ledger_wakeBlockedWriter]
    exact ledger_setLink h id _

theorem ledger_moveClock (h : Hub τ) (t : Nat) : (h.moveClock t).ledger = h.ledger :=
  ledger_wakeAll _ _

end Switchboard.Hub
