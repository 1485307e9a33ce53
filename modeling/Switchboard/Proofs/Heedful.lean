import Switchboard.Proofs.Chores

/-!
# What is due is ready

A task that has something to do is ready: nobody sleeps through what concerns him. `Hub.Heedful`
says so of the tasks of all connections and of all calls, and `Run.heedful` of every state of a run,
whoever gets turns in it and however time passes.

## Shape of the proof

What gives a task something to do makes it ready (`Hub.Heeds`). A task that gets a turn is no longer
ready; when the turn is over it can go on at once and is ready again, or there is nothing left for
it to do (`Turned.Does`). A call cannot go on at once, and every send of it that still waits, for a
living connection and without a slot, stands in line; this is where `Hub.InOrder` is needed.
-/

namespace Switchboard

/-! ## Who cannot go on at once has nothing left to do -/

/-- After a turn the task can go on at once, or its chore is done. -/
def Turned.Does {τ : Type} (r : Turned τ) (now : Nat) (x : Chore) : Prop :=
  r.again = false → ¬ r.conn.Due now x

theorem Turned.does_of_again {τ : Type} {r : Turned τ} (hagain : r.again = true) (now : Nat)
    (x : Chore) : r.Does now x := fun hdone => by
  rw [hagain] at hdone
  cases hdone

namespace Connection

variable {τ : Type} [Transport τ] {now limit : Nat} {config : SocketConfig} {c : Connection τ}

theorem does_failWriter (now : Nat) (c : Connection τ) (reason : CloseReason) :
    (c.failWriter now reason).Does now .write := fun _ => by
  rw [failWriter, conn_torn]
  exact fun due => due

theorem does_afterSend (now : Nat) (c : Connection τ) (kind : FrameKind) (limit : Nat)
    (p : Progress) : (c.afterSend now kind limit p).Does now .write := by
  rcases afterSend_cases now c kind limit p with heq | ⟨hlimit, heq⟩ | ⟨reason, -, heq⟩
  · rw [heq]
    exact Turned.does_of_again rfl now .write
  · rw [heq]
    exact fun _ => Nat.not_le_of_lt hlimit
  · rw [heq]
    exact does_failWriter now c reason

theorem does_sendFrame (now : Nat) (config : SocketConfig) (c : Connection τ) (f : Frame)
    (cause : Cause) : (c.sendFrame now config f cause).Does now .write := by
  rw [sendFrame]
  split
  · exact does_afterSend now { c with link := (Transport.send now f c.link).2 } f.kind _ _
  · exact Turned.does_of_again rfl now .write

/-- The writer waits for its link no longer than to its limit. -/
theorem does_finishClose {wait : WriterPhase} (p : Progress)
    (hwait : ¬ limit ≤ now → ¬ ({ c with writer := wait } : Connection τ).Due now .write) :
    (c.finishClose now limit wait p).Does now .write := by
  cases p with
  | done => exact fun _ due => due
  | failed e => exact fun _ due => due
  | panicked p => exact does_failWriter now c .taskFailed
  | pending =>
    rw [finishClose]
    split
    · exact fun _ due => due
    · rename_i hlimit
      exact fun _ => hwait hlimit

theorem does_closeSink (now : Nat) (c : Connection τ) (limit : Nat) :
    (c.closeSink now limit).Does now .write :=
  does_finishClose _ fun hlimit => hlimit

theorem does_afterCloseFrame (now : Nat) (c : Connection τ) (limit : Nat) (p : Progress) :
    (c.afterCloseFrame now limit p).Does now .write := by
  have hfinish : ∀ p, (c.finishClose now limit (.sendingClose limit) p).Does now .write := fun p =>
    does_finishClose p fun hlimit => hlimit
  cases p with
  | done => exact does_closeSink now c limit
  | failed e => exact hfinish (.failed e)
  | panicked p => exact hfinish (.panicked p)
  | pending => exact hfinish .pending

theorem does_idleTurn (now : Nat) (config : SocketConfig) (hidle : c.writer = .idle) :
    (c.idleTurn now config).Does now .write := by
  rw [idleTurn]
  split
  · exact does_afterCloseFrame now { c with link := (Transport.send now .close c.link).2 } _ _
  · rename_i halive
    split
    · exact does_sendFrame now config _ _ .queued
    · rename_i htake
      have hempty := queued_eq_nil_of_take htake
      split
      · exact does_sendFrame now config _ .ping .heartbeat
      · rename_i hearly
        have halive : c.alive = true := by simpa using halive
        intro _
        simp [Due, hidle, halive, hempty, Nat.lt_of_not_le hearly]

/-- A writer that cannot go on at once has written all there is to write. -/
theorem does_writerTurn (now : Nat) (config : SocketConfig) (c : Connection τ) :
    (c.writerTurn now config).Does now .write := by
  rw [writerTurn]
  split
  · rename_i hstopped
    intro _
    simp [Due, hstopped]
  · exact Turned.does_of_again rfl now .write
  · rename_i hidle
    exact does_idleTurn now config hidle
  · exact does_afterSend now { c with link := (Transport.resume now c.link).2 } _ _ _
  · exact does_afterCloseFrame now { c with link := (Transport.resume now c.link).2 } _ _
  · exact does_closeSink now c _

theorem does_failReader (now : Nat) (c : Connection τ) (reason : CloseReason) :
    (c.failReader now reason).Does now .read := fun _ => by
  rw [failReader, conn_torn]
  exact fun due => due

/-- A reader that cannot go on at once has taken all there is to take. -/
theorem does_readerTurn (now : Nat) (config : SocketConfig) (c : Connection τ) :
    (c.readerTurn now config).Does now .read := by
  cases hreader : c.reader with
  | starting =>
    rw [readerTurn, hreader]
    exact Turned.does_of_again rfl now .read
  | stopped =>
    rw [readerTurn, hreader]
    intro _
    simp [Due, hreader]
  | reading deadline =>
    cases halive : c.alive with
    | false =>
      have hturn : c.readerTurn now config = { conn := c.stopReader now } := by
        simp [readerTurn, hreader, halive]
      rw [hturn]
      exact fun _ due => due
    | true =>
      rw [readerTurn_of_reading halive hreader]
      rcases takeArrival_cases now config { c with link := (Transport.receive now c.link).2 }
          deadline (Transport.receive now c.link).1 with
        ⟨f, -, -, heq⟩ | ⟨f, -, -, heq⟩ | ⟨-, hearly, heq⟩ | ⟨reason, -, heq⟩
      · rw [heq]
        exact Turned.does_of_again rfl now .read
      · rw [heq]
        exact Turned.does_of_again rfl now .read
      · rw [heq]
        intro _
        simp [Due, hreader, halive, hearly]
      · rw [heq]
        exact does_failReader now _ reason

end Connection

namespace Hub

variable {τ : Type} {h h' : Hub τ} {id : String} {n : Nat} {f : Frame} {c : Connection τ}

/-- A send that still has to wait has no slot, and its connection is alive. -/
theorem not_issues_resumeSend {roomFirst : Bool} {t : Ticket}
    (hwaits : (h.resumeSend roomFirst id f t).1 = true) :
    ¬ (h.resumeSend roomFirst id f t).2.Issues id (.send t) := by
  revert hwaits
  rw [resumeSend]
  cases hc : h.find? id with
  | none => exact fun hfalse => absurd hfalse Bool.false_ne_true
  | some c =>
    dsimp only
    split
    · exact fun hfalse => absurd hfalse Bool.false_ne_true
    · rename_i hgranted
      split
      · exact fun hfalse => absurd hfalse Bool.false_ne_true
      · rename_i halive
        have halive : c.alive = true := by simpa using halive
        rintro - ⟨c', hc', due⟩
        obtain rfl := Option.some.inj (hc.symm.trans hc')
        rcases due with hmem | ⟨hdead, -⟩
        · simp [Outbox.isGranted, hmem, halive] at hgranted
        · rw [halive] at hdead
          cases hdead

/-- A send that is left waiting had nothing to do when it got its turn; if it has now, its call is
ready. -/
theorem mem_ready_of_issues_resumeSends (roomFirst : Nat → Bool) (n : Nat) (f : Frame)
    (places : List (String × Nat)) (h : Hub τ) :
    ∀ x ∈ (resumeSends roomFirst n f places h).1,
      (resumeSends roomFirst n f places h).2.Issues x.1 (.send ⟨n, x.2⟩) →
        .call n ∈ (resumeSends roomFirst n f places h).2.ready := by
  induction places generalizing h with
  | nil => exact fun x hx => absurd hx List.not_mem_nil
  | cons y rest ih =>
    obtain ⟨id, p⟩ := y
    rw [resumeSends]
    dsimp only
    intro x hx hissues
    split at hx
    · rename_i hwaits
      rcases List.mem_cons.mp hx with rfl | hx
      · have hheeds : Heeds (fun _ => False) (h.resumeSend (roomFirst p) id f ⟨n, p⟩).2
            (resumeSends roomFirst n f rest (h.resumeSend (roomFirst p) id f ⟨n, p⟩).2).2 :=
          heeds_resumeSends roomFirst n f rest _
        exact (hheeds.issues id _ (fun hfalse => hfalse) hissues).resolve_left
          (not_issues_resumeSend hwaits)
      · exact ih _ x hx hissues
    · exact ih _ x hx hissues

/-- A call that gets a turn has nothing to do after it, or is ready again. -/
theorem mem_ready_of_issues_callTurn (inOrder : h.InOrder) (roomFirst : Nat → Bool) {t : Ticket}
    (hcall : t.call = n) (hissues : (h.callTurn roomFirst n).Issues id (.send t)) :
    .call n ∈ (h.callTurn roomFirst n).ready := by
  -- a send that has something to do stands in line
  have hline : ∀ {h' : Hub τ}, h'.InOrder → h'.Issues id (.send t) → (id, t.place) ∈ h'.line n := by
    rintro h' inOrder ⟨c, hc, due⟩
    rw [← hcall, ← inOrder.lined.mem_iff, pending_of_find? hc]
    exact due.elim (fun hmem => List.mem_append_left _ hmem)
      fun hdead => List.mem_append_right _ hdead.2
  have hleft := hline (inOrder_callTurn inOrder roomFirst n) hissues
  -- a call in which nobody waited before has only sends that went in line in this turn
  have hnobody : h.line n = [] → .call n ∈ (h.callTurn roomFirst n).ready := fun hnone => by
    have hheeds : Heeds (fun _ => False) h (h.callTurn roomFirst n) := heeds_callTurn h roomFirst n
    rcases hheeds.issues id (.send t) (fun hfalse => hfalse) hissues with hissues | hready
    · have hmem := hline inOrder hissues
      rw [hnone] at hmem
      cases hmem
    · rwa [Chore.task, hcall] at hready
  cases hc : h.calls[n]? with
  | none => exact hnobody (by rw [line, hc]; rfl)
  | some call =>
    cases call with
    | requested r => exact hnobody (line_of_getElem? hc)
    | finished reply => exact hnobody (line_of_getElem? hc)
    | abandoned => exact hnobody (line_of_getElem? hc)
    | waiting f places reply =>
      have hlt := (List.getElem?_eq_some_iff.mp hc).1
      have hserves : h.Serves (resumeSends roomFirst n f places h).2 :=
        serves_resumeSends places (sends_of_open hc rfl)
      rw [callTurn, hc] at hissues hleft ⊢
      dsimp only at hissues hleft ⊢
      rw [line_settleCall (hserves.2 ▸ hlt), Function.update_self] at hleft
      obtain ⟨m, p⟩ := t
      obtain rfl : m = n := hcall
      exact mem_ready_of_issues_resumeSends roomFirst m f places h _ hleft hissues

/-! ## Events -/

/-- Who has something to do is ready. -/
structure Heedful (h : Hub τ) : Prop where
  issues : ∀ id x, h.Issues id x → x.task id ∈ h.ready
  asked : ∀ n r, h.calls[n]? = some (.requested r) → .call n ∈ h.ready

theorem Heeds.heedful (heeds : Heeds (fun _ => False) h h') (heedful : h.Heedful) : h'.Heedful where
  issues id x hissues := by
    rcases heeds.issues id x (fun hfalse => hfalse) hissues with hissues | hready
    · exact heeds.ready_subset (heedful.issues id x hissues)
    · exact hready
  asked n r hasked := by
    rcases heeds.asked n r (fun hfalse => hfalse) hasked with hasked | hready
    · exact heeds.ready_subset (heedful.asked n r hasked)
    · exact hready

/-- A task that got a turn is ready if there is something left for it to do. -/
theorem Heedful.of_turn {t : Task} {p : Bool × Hub τ} (heedful : h.Heedful)
    (heeds : Heeds (· = t) { h with ready := h.ready.erase t } p.2)
    (hissues : ∀ id x, x.task id = t → p.2.Issues id x → p.1 = true ∨ t ∈ p.2.ready)
    (hasked : ∀ n r, .call n = t → p.2.calls[n]? = some (.requested r) →
      p.1 = true ∨ t ∈ p.2.ready) :
    (if p.1 then { p.2 with ready := t :: p.2.ready } else p.2).Heedful := by
  obtain ⟨⟨ready, heq, hsub⟩, hagain⟩ := rouses_again p.1 t p.2
  rw [heq] at hagain ⊢
  have hself : p.1 = true ∨ t ∈ p.2.ready → t ∈ ready := fun hself =>
    hself.elim (fun h => hagain h) fun h => hsub h
  have hother : ∀ other, other ≠ t → other ∈ h.ready → other ∈ ready := fun other hne hready =>
    hsub (heeds.ready_subset ((List.mem_erase_of_ne hne).mpr hready))
  constructor
  · intro id x hdue
    by_cases ht : x.task id = t
    · rw [ht]
      exact hself (hissues id x ht hdue)
    · rcases heeds.issues id x ht hdue with hdue | hready
      · exact hother _ ht (heedful.issues id x hdue)
      · exact hsub hready
  · intro n r hdue
    by_cases ht : Task.call n = t
    · rw [ht]
      exact hself (hasked n r ht hdue)
    · rcases heeds.asked n r ht hdue with hdue | hready
      · exact hother _ ht (heedful.asked n r hdue)
      · exact hsub hready

variable [Transport τ]

/-- A call is not asked for any more once it had a turn. -/
theorem not_asked_poll (h : Hub τ) (roomFirst : Nat → Bool) (n : Nat) (r : SendOrder) :
    (h.poll roomFirst (.call n)).calls[n]? ≠ some (.requested r) := by
  intro hasked
  cases hc : h.calls[n]? with
  | none =>
    have hsame : h.poll roomFirst (.call n) = { h with ready := h.ready.erase (.call n) } := by
      change callTurn { h with ready := h.ready.erase (.call n) } roomFirst n = _
      rw [callTurn, hc]
    rw [hsame, hc] at hasked
    cases hasked
  | some call =>
    obtain ⟨call', hcall', advance⟩ := advance_step hc (.turn (.call n) roomFirst)
    obtain rfl := Option.some.inj (hcall'.symm.trans hasked)
    cases advance with
    | stays other => cases other roomFirst rfl
    | begins bound => exact bound
    | resumes bound => exact bound

theorem again_of_issues_writerTurn (hissues : (h.writerTurn id).2.Issues id .write) :
    (h.writerTurn id).1 = true := by
  obtain ⟨c', hc', due⟩ := hissues
  cases hc : h.find? id with
  | none =>
    rw [writerTurn, hc] at hc'
    rw [hc] at hc'
    cases hc'
  | some c =>
    have makes := makes_writerTurn hc
    obtain rfl := Option.some.inj (makes.gets.find?_self.symm.trans hc')
    rw [makes.gets.within.now_eq] at due
    rw [makes.again_eq]
    by_contra hagain
    exact c.does_writerTurn h.now h.config (by simpa using hagain) due

theorem again_of_issues_readerTurn (hissues : (h.readerTurn id).2.Issues id .read) :
    (h.readerTurn id).1 = true := by
  obtain ⟨c', hc', due⟩ := hissues
  cases hc : h.find? id with
  | none =>
    rw [readerTurn, hc] at hc'
    rw [hc] at hc'
    cases hc'
  | some c =>
    cases hf : c.dispatched? h.now h.config with
    | some f => rw [readerTurn_of_dispatched hc hf]
    | none =>
      obtain ⟨h', makes, hp⟩ := reads_readerTurn hc
      rw [hf] at hp
      rw [hp, Option.elim_none] at hc' due
      obtain rfl := Option.some.inj (makes.gets.find?_self.symm.trans hc')
      rw [makes.gets.within.now_eq] at due
      have hagain : (h.readerTurn id).1 = (c.readerTurn h.now h.config).again := makes.again_eq
      rw [hagain]
      by_contra hagain
      exact c.does_readerTurn h.now h.config (by simpa using hagain) due

/-- Whoever gets a turn, nobody misses anything by it. -/
theorem heedful_poll (inOrder : h.InOrder) (heedful : h.Heedful) (roomFirst : Nat → Bool)
    (t : Task) : (h.poll roomFirst t).Heedful := by
  rw [poll_eq h roomFirst t rfl]
  cases t with
  | writer id =>
    refine heedful.of_turn (heeds_writerTurn _ id) (fun d x ht hissues => .inl ?_)
      fun n r ht => nomatch ht
    cases x with
    | write =>
      obtain rfl := Task.writer.inj ht
      exact again_of_issues_writerTurn hissues
    | read => cases ht
    | send t => cases ht
  | reader id =>
    refine heedful.of_turn (heeds_readerTurn _ id) (fun d x ht hissues => .inl ?_)
      fun n r ht => nomatch ht
    cases x with
    | write => cases ht
    | read =>
      obtain rfl := Task.reader.inj ht
      exact again_of_issues_readerTurn hissues
    | send t => cases ht
  | call n =>
    have herase : ({ h with ready := h.ready.erase (.call n) } : Hub τ).InOrder :=
      SameLines.inOrder (.refl h) (.refl h) inOrder
    refine heedful.of_turn (heeds_callTurn _ roomFirst n) (fun d x ht hissues => .inr ?_)
      fun m r ht hasked => ?_
    · cases x with
      | write => cases ht
      | read => cases ht
      | send t => exact mem_ready_of_issues_callTurn herase roomFirst (Task.call.inj ht) hissues
    · obtain rfl := Task.call.inj ht
      exact absurd hasked (not_asked_poll h roomFirst m r)

/-- When its time comes, a task is made ready. -/
theorem heeds_moveClock (h : Hub τ) (now : Nat) : Heeds but h (h.moveClock now) := by
  have hready : ∀ id c, h.find? id = some c → ∀ timer ∈ timersOf c, timer.1 ≤ now →
      timer.2 ∈ (h.moveClock now).ready := fun _ _ hc _ htimer hdue =>
    mem_ready_moveClock hc htimer hdue
  obtain ⟨ready, heq, hsub⟩ := rouses_moveClock h now
  rw [heq] at hready ⊢
  refine ⟨hsub, fun id x _ hissues => ?_, fun n r _ hasked => .inl hasked⟩
  obtain ⟨c, hc, due⟩ := hissues
  have hc : h.find? id = some c := hc
  obtain rfl := id_of_find? hc
  cases x with
  | write =>
    cases hwriter : c.writer with
    | starting => exact .inl ⟨c, hc, by simp [Connection.Due, hwriter]⟩
    | idle =>
      simp only [Connection.Due, hwriter] at due
      rcases due with hdead | hqueued | hbeat
      · exact .inl ⟨c, hc, by simp [Connection.Due, hwriter, hdead]⟩
      · exact .inl ⟨c, hc, by simp [Connection.Due, hwriter, hqueued]⟩
      · exact .inr (hready _ c hc (c.heartbeat, .writer c.id) (by simp [timersOf, hwriter]) hbeat)
    | sending kind limit =>
      simp only [Connection.Due, hwriter] at due
      exact .inr (hready _ c hc (limit, .writer c.id) (by simp [timersOf, hwriter]) due)
    | sendingClose limit =>
      simp only [Connection.Due, hwriter] at due
      exact .inr (hready _ c hc (limit, .writer c.id) (by simp [timersOf, hwriter]) due)
    | closingSink limit =>
      simp only [Connection.Due, hwriter] at due
      exact .inr (hready _ c hc (limit, .writer c.id) (by simp [timersOf, hwriter]) due)
    | stopped => simp [Connection.Due, hwriter] at due
  | read =>
    cases hreader : c.reader with
    | starting => exact .inl ⟨c, hc, by simp [Connection.Due, hreader]⟩
    | reading deadline =>
      simp only [Connection.Due, hreader] at due
      rcases due with hdead | hlate
      · exact .inl ⟨c, hc, by simp [Connection.Due, hreader, hdead]⟩
      · exact .inr (hready _ c hc (deadline, .reader c.id) (by simp [timersOf, hreader]) hlate)
    | stopped => simp [Connection.Due, hreader] at due
  | send t => exact .inl ⟨c, hc, due⟩

omit [Transport τ] in
/-- A connection was added whose tasks are ready. -/
theorem heeds_of_opened {x : Connection τ} (hconnections : h'.connections = h.connections ++ [x])
    (hcalls : h'.calls = h.calls) (hnow : h'.now = h.now) (hready : h.ready ⊆ h'.ready)
    (houtbox : x.outbox.pending = []) (hwriter : .writer x.id ∈ h'.ready)
    (hreader : .reader x.id ∈ h'.ready) : Heeds but h h' where
  ready_subset := hready
  issues id y _ hissues := by
    obtain ⟨c, hc, due⟩ := hissues
    rw [find?, hconnections, List.find?_append] at hc
    cases hold : h.find? id with
    | some c₀ =>
      rw [find?] at hold
      rw [hold, Option.some_or] at hc
      exact .inl ⟨c, hold.trans hc, hnow ▸ due⟩
    | none =>
      rw [find?] at hold
      rw [hold, Option.none_or] at hc
      obtain rfl := List.mem_singleton.mp (List.mem_of_find?_eq_some hc)
      obtain rfl : c.id = id := by simpa using List.find?_some hc
      cases y with
      | write => exact .inr hwriter
      | read => exact .inr hreader
      | send t =>
        have hmem : t ∈ c.outbox.pending := due.elim (fun hmem => List.mem_append_left _ hmem)
          fun hdead => List.mem_append_right _ hdead.2
        rw [houtbox] at hmem
        cases hmem
  asked n r _ hasked := .inl (hcalls ▸ hasked)

omit [Transport τ] in
theorem heeds_accept (h : Hub τ) (d : String) (link : τ) (o : ConnectOptions) :
    Heeds but h (h.accept d link o).2 := by
  rw [accept]
  dsimp only
  split
  · exact .refl h
  · generalize hopened : ({ h with
      connections := h.connections ++ [{ member := Member.ofTexts d o.user o.tag, link
                                         createdAt := h.wallClock, handlers := o.handlers
                                         outbox := { capacity := h.capacityFor o } }]
      registry := h.registry.insert (Member.ofTexts d o.user o.tag) } : Hub τ) = opened
    have hwriter := mem_ready_wake opened (.writer d)
    obtain ⟨ready, heq, hsub⟩ := rouses_wake opened (.writer d)
    rw [heq] at hwriter ⊢
    have hreader := mem_ready_wake { opened with ready } (.reader d)
    obtain ⟨ready', heq', hsub'⟩ := rouses_wake { opened with ready } (.reader d)
    rw [heq'] at hreader ⊢
    subst hopened
    exact heeds_of_opened rfl rfl rfl (fun _ ht => hsub' (hsub ht)) rfl (hsub' hwriter) hreader

theorem heeds_peerActs (h : Hub τ) (id : String) (act : τ → α × τ) :
    Heeds but h (h.peerActs id act).2 := by
  rw [peerActs]
  cases h.find? id with
  | none => exact .refl h
  | some c =>
    exact (heeds_setLink h id (act c.link).2).trans (rouses_wakeBlockedWriter _ id).heeds

omit [Transport τ] in
theorem heeds_errand (e : Http.Errand) (h : Hub τ) : Heeds but h (e.run h) := by
  cases e with
  | look => exact .refl h
  | remove id => exact heeds_remove h id
  | send order => exact heeds_startCall h order

theorem heedful_step (inOrder : h.InOrder) (heedful : h.Heedful) (e : Event τ) :
    (h.step e).Heedful := by
  cases e with
  | upgrade id made o =>
    cases made with
    | error e => exact Heeds.heedful (heeds_aside h _ _ _) heedful
    | ok link => exact Heeds.heedful (heeds_accept h id link o) heedful
  | upgradeFailed reason => exact Heeds.heedful (heeds_aside h _ _ _) heedful
  | ask r => exact Heeds.heedful (heeds_startCall h r) heedful
  | abandon n => exact Heeds.heedful (heeds_abandon h n) heedful
  | remove id => exact Heeds.heedful (heeds_remove h id) heedful
  | request s r =>
    obtain ⟨errand, hasks⟩ := Http.exists_asks τ r
    obtain ⟨metrics, log, heq⟩ := hasks s h
    rw [heq]
    exact Heeds.heedful ((heeds_errand errand h).trans (heeds_aside _ metrics log _)) heedful
  | act id script => exact Heeds.heedful (heeds_runScript id script h) heedful
  | peer id act => exact Heeds.heedful (heeds_peerActs h id _) heedful
  | turn t roomFirst => exact heedful_poll inOrder heedful roomFirst t
  | pass now wallClock =>
    have hpass : Heeds (fun _ => False) h (h.step (.pass now wallClock)) :=
      (heeds_moveClock h now).trans (heeds_of_eq rfl rfl rfl fun _ ht => ht)
    exact hpass.heedful heedful

omit [Transport τ] in
/-- In a hub without connections nobody has anything to do. -/
theorem heedful_initial (config : SocketConfig) (origins : OriginPolicy) (handlers : List Handler)
    (now wallClock : Nat) :
    (initial config origins handlers now wallClock : Hub τ).Heedful where
  issues id x := by
    rintro ⟨c, hc, -⟩
    cases hc
  asked n r hasked := by cases hasked

end Hub

/-- **Whoever has something to do is ready**, in any state of a run. -/
theorem Run.heedful {τ : Type} [Transport τ] {h h' : Hub τ} {es : List (Event τ)}
    (run : Run h es h') (inOrder : h.InOrder) (heedful : h.Heedful) : h'.Heedful := by
  induction run with
  | nil => exact heedful
  | cons _ _ ih => exact ih (Hub.inOrder_step inOrder _) (Hub.heedful_step inOrder heedful _)

end Switchboard
