import Switchboard.Proofs.Invocations

/-!
# Who handles frames

Who handles the frames of which connection, and how many calls of handlers have panicked, is the
`Rota` of a hub. The actions of scripts change it in their own way, and so does the opening of a
connection; everything else that a hub does leaves it alone.

A hub's operations are taken in the order in which they are built from each other, first those that
leave the rota alone, then those that change it.
-/

namespace Switchboard

/-- Who handles frames. -/
structure Rota where
  /-- The connections with their handlers, in the order in which they were opened. -/
  lists : List (Member × List Handler) := []
  /-- How many calls of handlers have panicked. -/
  panics : Nat := 0

namespace Rota

/-- The handlers of a connection. -/
def handlers? (r : Rota) (id : String) : Option (List Handler) :=
  (r.lists.find? fun x => x.1.id = id).map Prod.snd

/-- The rota after an action on behalf of the connection `id`. -/
def amend (id : String) (r : Rota) (a : Action) : Rota :=
  { r with lists := r.lists.map fun x => if x.1.id = id then (x.1, a.amend x.2) else x }

/-- The rota after a call of a handler of the connection `id`. -/
def call (id : String) (r : Rota) (i : Invocation) : Rota :=
  let r := i.actions.foldl (amend id) r
  { r with panics := r.panics + if i.panic?.isSome then 1 else 0 }

/-- The rota after a connection was opened. -/
def enroll (r : Rota) (m : Member) (handlers : List Handler) : Rota :=
  { r with lists := r.lists ++ [(m, handlers)] }

/-- An action that is not about handlers changes no rota. -/
theorem amend_eq_self {a : Action} (ha : ∀ hs, a.amend hs = hs) (id : String) (r : Rota) :
    r.amend id a = r := by
  simp only [amend, ha, ite_self, List.map_id']

theorem panics_foldl_amend (id : String) (as : List Action) (r : Rota) :
    (as.foldl (amend id) r).panics = r.panics := by
  induction as generalizing r with
  | nil => rfl
  | cons a rest ih => exact ih (r.amend id a)

theorem panics_foldl_call (id : String) (is : List Invocation) (r : Rota) :
    (is.foldl (call id) r).panics = r.panics + panicked is := by
  induction is generalizing r with
  | nil => rfl
  | cons i rest ih =>
    have hone : (r.call id i).panics = r.panics + if i.panic?.isSome then 1 else 0 :=
      congrArg (· + _) (panics_foldl_amend id i.actions r)
    rw [List.foldl_cons, ih, hone, panicked, panicked, List.countP_cons]
    omega

end Rota

namespace Hub

variable {τ : Type}

/-- The rota of a hub. -/
def rota (h : Hub τ) : Rota where
  lists := h.connections.map fun c => (c.member, c.handlers)
  panics := h.metrics.handlerPanics

theorem handlers?_rota (h : Hub τ) (id : String) :
    h.rota.handlers? id = (h.find? id).map Connection.handlers := by
  rw [Rota.handlers?, rota, List.find?_map, Option.map_map]
  rfl

/-! ## What leaves the rota alone -/

theorem Rouses.rota_eq {h h' : Hub τ} (rouses : h.Rouses h') : h'.rota = h.rota := by
  obtain ⟨ready, rfl, -⟩ := rouses
  rfl

/-- A change of a connection in which its handlers have no part. -/
theorem rota_update {h : Hub τ} {id : String} {f : Connection τ → Connection τ}
    (hf : ∀ c : Connection τ, ((f c).member, (f c).handlers) = (c.member, c.handlers)) :
    (h.update id f).rota = h.rota := by
  simp only [rota, update, List.map_map, Rota.mk.injEq, and_true]
  refine List.map_congr_left fun c _ => ?_
  rw [Function.comp_apply]
  split
  · exact hf c
  · rfl

/-- The handlers of a connection are changed as an action changes them. -/
theorem rota_update_amend (h : Hub τ) (id : String) (a : Action) :
    (h.update id fun c => { c with handlers := a.amend c.handlers }).rota = h.rota.amend id a := by
  simp only [rota, update, Rota.amend, List.map_map, Rota.mk.injEq, and_true]
  refine List.map_congr_left fun c _ => ?_
  simp only [Function.comp_apply]
  by_cases hc : c.member.id = id
  · rw [if_pos hc, if_pos (show c.id = id from hc)]
  · rw [if_neg hc, if_neg (show ¬ c.id = id from hc)]

theorem rota_teardown (h : Hub τ) (id : String) (reason : CloseReason) :
    (h.teardown id reason).2.rota = h.rota := by
  rcases teardown_cases h id reason with ⟨c, -, hc, halive, -⟩ | hnothing
  · have torn := teardown_of_alive_torn hc halive reason
    obtain ⟨lifetime, hmetrics⟩ := torn.metrics_eq
    have hdead : (h.update id fun c => { c with alive := false }).rota = h.rota :=
      rota_update fun _ => rfl
    rw [← hdead, rota, torn.connections_eq, hmetrics]
    rfl
  · rw [hnothing]

theorem rota_remove (h : Hub τ) (id : String) : (h.remove id).2.rota = h.rota := by
  rw [remove]
  cases h.registry.lookup id with
  | none => rfl
  | some m => exact rota_teardown h m.id .removed

theorem rota_enter (h : Hub τ) (id : String) (f : Frame) (s : Sender) (put : Outbox → Outbox) :
    (h.enter id f s put).rota = h.rota := by
  have hput : (h.update id fun c => { c with outbox := put c.outbox }).rota = h.rota :=
    rota_update fun _ => rfl
  exact (rouses_wakeWriter _ id).rota_eq.trans hput

theorem rota_trySend (h : Hub τ) (id : String) (f : Frame) :
    (h.trySend id f).2.rota = h.rota := by
  rw [trySend]
  split
  · split
    · exact rota_enter h id f .offer _
    · rfl
  · rfl

theorem rota_startCall (h : Hub τ) (r : SendOrder) : (h.startCall r).2.rota = h.rota :=
  (rouses_wake (h.addCall r).2 _).rota_eq

theorem rota_withdrawSend (h : Hub τ) (id : String) (t : Ticket) :
    (h.withdrawSend id t).rota = h.rota := by
  rw [withdrawSend]
  split
  · rfl
  · exact (rouses_wakeAll _ _).rota_eq.trans (rota_update fun _ => rfl)

theorem rota_withdrawSends (number : Nat) (places : List (String × Nat)) (h : Hub τ) :
    (withdrawSends number places h).rota = h.rota := by
  induction places generalizing h with
  | nil => rfl
  | cons target rest ih => exact (ih _).trans (rota_withdrawSend h target.1 _)

theorem rota_beginSend (h : Hub τ) (id : String) (f : Frame) (t : Ticket) :
    (h.beginSend id f t).2.rota = h.rota := by
  rw [beginSend]
  split
  · rfl
  · split
    · rfl
    · split
      · exact rota_enter h id f (.call t) _
      · exact rota_update fun _ => rfl

theorem rota_resumeSend (h : Hub τ) (roomFirst : Bool) (id : String) (f : Frame) (t : Ticket) :
    (h.resumeSend roomFirst id f t).2.rota = h.rota := by
  rw [resumeSend]
  split
  · rfl
  · split
    · exact rota_enter h id f (.call t) _
    · split
      · exact rota_withdrawSend h id t
      · rfl

theorem rota_beginSends (number : Nat) (f : Frame) (places : List (String × Nat)) (h : Hub τ) :
    (beginSends number f places h).2.rota = h.rota := by
  induction places generalizing h with
  | nil => rfl
  | cons target rest ih => exact (ih _).trans (rota_beginSend h target.1 f _)

theorem rota_resumeSends (roomFirst : Nat → Bool) (number : Nat) (f : Frame)
    (places : List (String × Nat)) (h : Hub τ) :
    (resumeSends roomFirst number f places h).2.rota = h.rota := by
  induction places generalizing h with
  | nil => rfl
  | cons target rest ih => exact (ih _).trans (rota_resumeSend h _ target.1 f _)

theorem rota_fanOut (h : Hub τ) (number : Nat) (target : String) (members : List Member)
    (f : Frame) : (h.fanOut number target members f).rota = h.rota := by
  rw [fanOut]
  split
  · rfl
  · exact rota_beginSends number f _ (h.count fun m => m.countSent target)

theorem rota_beginCall (h : Hub τ) (number : Nat) (r : SendOrder) :
    (h.beginCall number r).rota = h.rota := by
  cases r with
  | toHandle id f => exact rota_beginSends number f ([id].zipIdx) h
  | toConnection id f =>
    rw [beginCall]
    split
    · rfl
    · rename_i m _
      exact rota_beginSends number f ([m.id].zipIdx) (h.count fun m => m.countSent "connection")
  | toUser user f => exact rota_fanOut h number "user" _ f
  | toAll f => exact rota_fanOut h number "broadcast" _ f

theorem rota_callTurn (h : Hub τ) (roomFirst : Nat → Bool) (number : Nat) :
    (h.callTurn roomFirst number).rota = h.rota := by
  rw [callTurn]
  split
  · exact rota_beginCall h number _
  · exact rota_resumeSends roomFirst number _ _ h
  · rfl

theorem rota_abandon (h : Hub τ) (number : Nat) : (h.abandon number).rota = h.rota := by
  rw [abandon]
  split
  · rfl
  · exact rota_withdrawSends number _ h
  · rfl

section Tasks

variable [Transport τ]

theorem rota_setLink (h : Hub τ) (id : String) (link : τ) : (h.setLink id link).rota = h.rota := by
  have hlink : (h.update id fun c => { c with link := link }).rota = h.rota :=
    rota_update fun _ => rfl
  rw [setLink]
  split
  · exact (rouses_wakeReader _ id).rota_eq.trans hlink
  · exact hlink

theorem rota_stopWriter (h : Hub τ) (id : String) : (h.stopWriter id).rota = h.rota :=
  rota_update fun _ => rfl

theorem rota_failWriter (h : Hub τ) (id : String) (reason : CloseReason) :
    (h.failWriter id reason).rota = h.rota :=
  (rota_teardown _ id reason).trans (rota_stopWriter h id)

theorem rota_panicWriter (h : Hub τ) (id : String) (p : Panic) :
    (h.panicWriter id p).rota = h.rota :=
  (rota_teardown _ id .taskFailed).trans (rota_stopWriter h id)

theorem rota_afterSend (h : Hub τ) (id : String) (kind : FrameKind) (limit : Nat) (p : Progress) :
    (h.afterSend id kind limit p).2.rota = h.rota := by
  cases p with
  | done => exact rota_update fun _ => rfl
  | failed e => exact rota_failWriter (h.logAbout id .warn _ _) id .writeError
  | panicked p => exact rota_panicWriter h id p
  | pending =>
    rw [afterSend]
    split
    · exact rota_failWriter (h.logAbout id .warn _ _) id .writeTimeout
    · exact rota_update fun _ => rfl

theorem rota_sendFrame (h : Hub τ) (c : Connection τ) (f : Frame) (cause : Cause) :
    (h.sendFrame c f cause).2.rota = h.rota := by
  rw [sendFrame]
  split
  · exact (rota_afterSend _ c.id f.kind _ _).trans (rota_setLink h c.id _)
  · rfl

theorem rota_finishClose (h : Hub τ) (id : String) (limit : Nat) (p : Progress)
    (wait : WriterPhase) : (h.finishClose id limit p wait).2.rota = h.rota := by
  cases p with
  | done => exact rota_stopWriter h id
  | failed e => exact rota_stopWriter (h.logAbout id .debug _ _) id
  | panicked p => exact rota_panicWriter h id p
  | pending =>
    rw [finishClose]
    split
    · exact rota_stopWriter (h.logAbout id .debug _ _) id
    · exact rota_update fun _ => rfl

theorem rota_closeSink (h : Hub τ) (id : String) (limit : Nat) :
    (h.closeSink id limit).2.rota = h.rota := by
  rw [closeSink]
  split
  · rfl
  · exact (rota_finishClose _ id limit _ _).trans (rota_setLink h id _)

theorem rota_afterCloseFrame (h : Hub τ) (id : String) (limit : Nat) (p : Progress) :
    (h.afterCloseFrame id limit p).2.rota = h.rota := by
  cases p with
  | done => exact rota_closeSink h id limit
  | failed e => exact rota_finishClose h id limit _ _
  | panicked p => exact rota_finishClose h id limit _ _
  | pending => exact rota_finishClose h id limit _ _

theorem rota_idleWriterTurn (h : Hub τ) (c : Connection τ) :
    (h.idleWriterTurn c).2.rota = h.rota := by
  rw [idleWriterTurn]
  split
  · exact (rota_afterCloseFrame _ c.id _ _).trans (rota_setLink h c.id _)
  · split
    · exact (rota_sendFrame _ c _ .queued).trans ((rouses_wakeAll _ _).rota_eq.trans
        (rota_update fun _ => rfl))
    · split
      · exact (rota_sendFrame _ c .ping .heartbeat).trans
          (rota_update fun _ => rfl)
      · rfl

theorem rota_writerTurn (h : Hub τ) (id : String) : (h.writerTurn id).2.rota = h.rota := by
  rw [writerTurn]
  split
  · rfl
  · split
    · rfl
    · exact rota_update fun _ => rfl
    · exact rota_idleWriterTurn h _
    · exact (rota_afterSend _ id _ _ _).trans (rota_setLink h id _)
    · exact (rota_afterCloseFrame _ id _ _).trans (rota_setLink h id _)
    · exact rota_closeSink h id _

theorem rota_failReader (h : Hub τ) (id : String) (reason : CloseReason) :
    (h.failReader id reason).rota = h.rota :=
  (rota_teardown _ id reason).trans (rota_update fun _ => rfl)

/-- What arrives and is not for the handlers leaves the rota alone. -/
theorem rota_takeArrival {h : Hub τ} {c : Connection τ} {a : Arrival}
    (hnone : Connection.forHandlers? h.config a = none) (deadline : Nat) :
    (h.takeArrival c deadline a).2.rota = h.rota := by
  cases a with
  | frame f =>
    rw [takeArrival, takeFrame]
    split
    · exact rota_update fun _ => rfl
    · rfl
    · exact rota_failReader (h.logAbout c.id .debug _ _) c.id .peerClosed
    all_goals
      rename_i hkind
      have hlong : f.payload.length > h.config.maxMessageSize := by
        simpa [Connection.forHandlers?, hkind, FrameKind.isData] using hnone
      rw [if_pos hlong]
      exact rota_failReader (h.logAbout c.id .warn _ _) c.id .frameTooLarge
  | ended => exact rota_failReader h c.id .peerClosed
  | failed e => exact rota_failReader (h.logAbout c.id .warn _ _) c.id .readError
  | panicked p =>
    exact (rota_teardown _ c.id .taskFailed).trans (rota_update fun _ => rfl)
  | pending =>
    rw [takeArrival]
    split
    · exact rota_failReader (h.logAbout c.id .warn _ _) c.id .readTimeout
    · rfl

/-- A turn of a reader that takes nothing for the handlers. -/
theorem rota_readerTurn {h : Hub τ} {id : String} {c : Connection τ} (hc : h.find? id = some c)
    (hnone : c.dispatched? h.now h.config = none) : (h.readerTurn id).2.rota = h.rota := by
  rw [readerTurn, hc]
  dsimp only
  split
  · rfl
  · exact rota_update fun _ => rfl
  · rename_i deadline hreading
    split
    · exact rota_update fun _ => rfl
    · rename_i halive
      have halive : c.alive = true := by simpa using halive
      rw [Connection.dispatched?_of_reading halive hreading] at hnone
      exact (rota_takeArrival (h := h.update id _) hnone deadline).trans
        (rota_update fun _ => rfl)

theorem rota_peerActs (h : Hub τ) (id : String) (act : τ → α × τ) :
    (h.peerActs id act).2.rota = h.rota := by
  rw [peerActs]
  split
  · rfl
  · exact (rouses_wakeBlockedWriter _ id).rota_eq.trans (rota_setLink h id _)

end Tasks

theorem rota_errand (e : Http.Errand) (h : Hub τ) : (e.run h).rota = h.rota := by
  cases e with
  | look => rfl
  | remove id => exact rota_remove h id
  | send order => exact rota_startCall h order

/-! ## What changes the rota -/

theorem rota_afterAction (id : String) (h : Hub τ) (a : Action) :
    (h.afterAction id a).rota = h.rota.amend id a := by
  cases a with
  | offered f sent =>
    exact (rota_trySend h id f).trans (Rota.amend_eq_self (fun _ => rfl) id _).symm
  | asked f => exact (rota_startCall h _).trans (Rota.amend_eq_self (fun _ => rfl) id _).symm
  | added hs => exact rota_update_amend h id (.added hs)
  | replaced hs => exact rota_update_amend h id (.replaced hs)
  | removed won => exact (rota_remove h id).trans (Rota.amend_eq_self (fun _ => rfl) id _).symm
  | noted n => exact (Rota.amend_eq_self (a := .noted n) (fun _ => rfl) id _).symm
  | logged e => exact (Rota.amend_eq_self (a := .logged e) (fun _ => rfl) id _).symm

theorem Acts.rota_eq {id : String} {h h' : Hub τ} {as : List Action} (acts : Acts id h as h') :
    h'.rota = as.foldl (Rota.amend id) h.rota := by
  induction acts with
  | nil => rfl
  | cons _ _ ih => rw [ih, rota_afterAction, List.foldl_cons]

theorem Invokes.rota_eq {member : Member} {f : Frame} {index : Nat} {h h' : Hub τ}
    {is : List Invocation} (invokes : Invokes member f index h is h') :
    h'.rota = is.foldl (Rota.call member.id) h.rota := by
  induction invokes with
  | nil => rfl
  | @cons index h h₁ h' i is _ acts _ ih =>
    have hcall : (h₁.afterCall member.id index i.panic?).rota = h.rota.call member.id i := by
      rw [Rota.call, ← acts.rota_eq]
      cases i.panic? <;> rfl
    rw [ih, hcall, List.foldl_cons]

theorem rota_accept {h : Hub τ} {o : ConnectOptions} (hfit : h.capacityFor o ≤ Outbox.maxCapacity)
    (id : String) (link : τ) :
    (h.accept id link o).2.rota = h.rota.enroll (Member.ofTexts id o.user o.tag) o.handlers := by
  rw [accept]
  dsimp only
  rw [if_neg (by omega)]
  refine ((rouses_wake _ (.writer id)).trans (rouses_wake _ (.reader id))).rota_eq.trans ?_
  simp only [rota, Rota.enroll, List.map_append, List.map_cons, List.map_nil]

end Hub

end Switchboard
