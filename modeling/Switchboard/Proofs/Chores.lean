import Switchboard.Proofs.Lines

/-!
# What there is to do

`Connection.Due` lists what there can be to do about a connection, whether or not a task knows of
it: its writer or reader has not started, has something to take or to find out, or its time has
come; a send has got a slot, or waits for a connection that is dead.

`Hub.Heeds but h h'` says of what leads from `h` to `h'` that all it gives to do to tasks other than
those of `but` it makes them ready for. Such pieces follow one another, and every operation of a hub
is one; `heeds_of_update` is where a change of a connection is held against what is due. A task that
gets a turn is exempt while the turn lasts: what it has left to do at the end is no matter of these
lemmas.
-/

namespace Switchboard

/-- Something about a connection that a task is to see to. -/
inductive Chore where
  | write
  | read
  /-- A waiting send is to go on. -/
  | send (t : Ticket)

/-- The task that is to see to a chore about the connection with an id. -/
def Chore.task (id : String) : Chore → Task
  | .write => .writer id
  | .read => .reader id
  | .send t => .call t.call

/-- There is something to do about a connection. -/
def Connection.Due {τ : Type} (now : Nat) (c : Connection τ) : Chore → Prop
  | .write => match c.writer with
    | .starting => True
    | .idle => c.alive = false ∨ c.outbox.queued ≠ [] ∨ c.heartbeat ≤ now
    | .sending _ limit | .sendingClose limit | .closingSink limit => limit ≤ now
    | .stopped => False
  | .read => match c.reader with
    | .starting => True
    | .reading deadline => c.alive = false ∨ deadline ≤ now
    | .stopped => False
  | .send t => t ∈ c.outbox.granted ∨ c.alive = false ∧ t ∈ c.outbox.waiting

/-- A writer that does not wait for something to do has nothing to see to but its own time. -/
theorem Connection.Due.write_of_not_idle {τ : Type} {now : Nat} {c c' : Connection τ}
    (due : c'.Due now .write) (hwriter : c'.writer = c.writer) (hidle : c.writer ≠ .idle) :
    c.Due now .write := by
  unfold Due at due ⊢
  rw [hwriter] at due
  cases hphase : c.writer with
  | idle => exact absurd hphase hidle
  | starting => trivial
  | sending kind limit => rwa [hphase] at due
  | sendingClose limit => rwa [hphase] at due
  | closingSink limit => rwa [hphase] at due
  | stopped => rwa [hphase] at due

namespace Hub

variable {τ : Type} {h h' h'' : Hub τ} {id d : String} {c : Connection τ} {but : Task → Prop}

/-- There is something to do about the connection with an id. -/
def Issues (h : Hub τ) (id : String) (x : Chore) : Prop :=
  ∃ c, h.find? id = some c ∧ c.Due h.now x

/-- Whoever got something new to do is ready, those of `but` excepted. -/
structure Heeds (but : Task → Prop) (h h' : Hub τ) : Prop where
  ready_subset : h.ready ⊆ h'.ready
  issues : ∀ id x, ¬ but (x.task id) → h'.Issues id x → h.Issues id x ∨ x.task id ∈ h'.ready
  asked : ∀ n r, ¬ but (.call n) → h'.calls[n]? = some (.requested r) →
    h.calls[n]? = some (.requested r) ∨ .call n ∈ h'.ready

theorem Heeds.refl (h : Hub τ) : Heeds but h h where
  ready_subset _ ht := ht
  issues _ _ _ hissues := .inl hissues
  asked _ _ _ hasked := .inl hasked

theorem Heeds.trans (first : Heeds but h h') (second : Heeds but h' h'') : Heeds but h h'' where
  ready_subset _ ht := second.ready_subset (first.ready_subset ht)
  issues id x hbut hissues := by
    rcases second.issues id x hbut hissues with hissues | hready
    · exact (first.issues id x hbut hissues).imp_right fun hready => second.ready_subset hready
    · exact .inr hready
  asked n r hbut hasked := by
    rcases second.asked n r hbut hasked with hasked | hready
    · exact (first.asked n r hbut hasked).imp_right fun hready => second.ready_subset hready
    · exact .inr hready

/-- What gives nobody anything to do. -/
theorem heeds_of_eq (hconnections : h'.connections = h.connections) (hcalls : h'.calls = h.calls)
    (hnow : h'.now = h.now) (hready : h.ready ⊆ h'.ready) : Heeds but h h' where
  ready_subset := hready
  issues id x _ hissues := by
    obtain ⟨c, hc, due⟩ := hissues
    exact .inl ⟨c, find?_of_connections_eq hconnections id ▸ hc, hnow ▸ due⟩
  asked n r _ hasked := .inl (hcalls ▸ hasked)

theorem Rouses.heeds (rouses : h.Rouses h') : Heeds but h h' := by
  obtain ⟨ready, rfl, hsub⟩ := rouses
  exact heeds_of_eq rfl rfl rfl hsub

/-- A connection was changed, and whoever is to see to something new about it is ready. -/
theorem heeds_of_update {g : Connection τ → Connection τ} (hg : ∀ c, (g c).member = c.member)
    (hconnections : h'.connections = (h.update d g).connections) (hcalls : h'.calls = h.calls)
    (hnow : h'.now = h.now) (hready : h.ready ⊆ h'.ready)
    (hdue : ∀ c, h.find? d = some c → ∀ x, ¬ but (x.task d) → (g c).Due h.now x →
      c.Due h.now x ∨ x.task d ∈ h'.ready) : Heeds but h h' where
  ready_subset := hready
  issues id x hbut hissues := by
    obtain ⟨c', hc', due⟩ := hissues
    rw [find?_of_connections_eq hconnections, find?_update hg] at hc'
    rw [hnow] at due
    split at hc'
    · rename_i hid
      subst hid
      obtain ⟨c, hc, rfl⟩ := Option.map_eq_some_iff.mp hc'
      exact (hdue c hc x hbut due).imp_left fun due => ⟨c, hc, due⟩
    · exact .inl ⟨c', hc', due⟩
  asked n r _ hasked := .inl (hcalls ▸ hasked)

/-- A connection was changed in a way that gives nobody anything to do. -/
theorem heeds_update {g : Connection τ → Connection τ} (hg : ∀ c, (g c).member = c.member)
    (hdue : ∀ c x, ¬ but (x.task d) → (g c).Due h.now x → c.Due h.now x) :
    Heeds but h (h.update d g) :=
  heeds_of_update hg rfl rfl rfl (fun _ ht => ht) fun c _ x hbut due => .inl (hdue c x hbut due)

/-! ## Teardown -/

theorem mem_ready_teardown (hc : h.find? id = some c) (halive : c.alive = true)
    (reason : CloseReason) {t : Ticket} (ht : t ∈ c.outbox.pending) :
    .call t.call ∈ (h.teardown id reason).2.ready := by
  rw [teardown, hc]
  simp only [halive, Bool.not_true, Bool.false_eq_true, if_false]
  exact mem_ready_wakeAll (List.mem_map_of_mem (f := fun t : Ticket => Task.call t.call) ht) _

/-- Everybody who has to do with a connection is to find out that it is dead, and is ready. -/
theorem heeds_teardown (h : Hub τ) (id : String) (reason : CloseReason) :
    Heeds but h (h.teardown id reason).2 := by
  rcases teardown_cases h id reason with ⟨c, -, hc, halive, -⟩ | hnothing
  · have torn := teardown_of_alive_torn hc halive reason
    have hpending := fun t => mem_ready_teardown (t := t) hc halive reason
    refine heeds_of_update (g := fun c => { c with alive := false }) (fun _ => rfl)
      torn.connections_eq torn.calls_eq torn.now_eq torn.ready_subset fun c' hc' x _ due => ?_
    obtain rfl := Option.some.inj (hc.symm.trans hc')
    cases x with
    | write =>
      by_cases hidle : c.writer = .idle
      · exact .inr (torn.writer_ready hidle)
      · exact .inl (due.write_of_not_idle rfl hidle)
    | read =>
      refine .inr (torn.reader_ready fun hstopped => ?_)
      unfold Connection.Due at due
      simp [hstopped] at due
    | send t =>
      rcases due with hgranted | ⟨-, hwaiting⟩
      · exact .inl (.inl hgranted)
      · exact .inr (hpending t (List.mem_append_right _ hwaiting))
  · rw [hnothing]
    exact .refl h

theorem heeds_record (h : Hub τ) (x : Happening) : Heeds but h (h.record x) :=
  heeds_of_eq rfl rfl rfl fun _ ht => ht

theorem heeds_aside (h : Hub τ) (metrics : Metrics) (log : List LogEvent) (notes : List Note) :
    Heeds but h { h with metrics, log, notes } := heeds_of_eq rfl rfl rfl fun _ ht => ht

theorem heeds_remove (h : Hub τ) (id : String) : Heeds but h (h.remove id).2 := by
  rw [remove]
  cases h.registry.lookup id with
  | none => exact heeds_record h _
  | some m => exact (heeds_teardown h m.id .removed).trans (heeds_record _ _)

/-! ## Sends -/

/-- A frame that is new wakes the writer, if that waits for one. -/
theorem heeds_enter (h : Hub τ) (id : String) (f : Frame) (s : Sender) (put : Outbox → Outbox)
    (hgranted : ∀ o, (put o).granted ⊆ o.granted) (hwaiting : ∀ o, (put o).waiting ⊆ o.waiting) :
    Heeds but h (h.enter id f s put) := by
  have hrouses := rouses_wakeWriter
    ((h.update id fun c => { c with outbox := put c.outbox }).record (.entered id f s)) id
  have hready : ∀ c, h.find? id = some c → c.writer = .idle →
      .writer id ∈ (h.enter id f s put).ready := fun c hc hidle => by
    have hput : (h.update id fun c => { c with outbox := put c.outbox }).find? id =
        some { c with outbox := put c.outbox } := find?_update_self hc fun _ => rfl
    exact mem_ready_wakeWriter (h := (h.update id _).record (.entered id f s)) hput hidle
  obtain ⟨ready, heq, hsub⟩ := hrouses
  rw [enter, heq] at hready ⊢
  refine heeds_of_update (g := fun c => { c with outbox := put c.outbox }) (fun _ => rfl) rfl rfl
    rfl hsub fun c hc x _ due => ?_
  cases x with
  | write =>
    by_cases hidle : c.writer = .idle
    · exact .inr (hready c hc hidle)
    · exact .inl (due.write_of_not_idle rfl hidle)
  | read => exact .inl due
  | send t =>
    exact .inl (due.imp (fun hmem => hgranted _ hmem) fun hdead =>
      ⟨hdead.1, hwaiting _ hdead.2⟩)

theorem heeds_putFrame (h : Hub τ) (id : String) (f : Frame) (s : Sender) :
    Heeds but h (h.putFrame id f s) :=
  heeds_enter h id f s (fun o => o.put f) (fun _ _ ht => ht) fun _ _ ht => ht

theorem heeds_trySend (h : Hub τ) (id : String) (f : Frame) : Heeds but h (h.trySend id f).2 := by
  rw [trySend]
  split
  · split
    · exact heeds_putFrame h id f .offer
    · exact heeds_aside h _ _ _
  · exact heeds_aside h _ _ _

/-- Who is given a slot is woken. -/
theorem heeds_grant (hc : h.find? id = some c) {o : Outbox}
    (hgranted : o.granted ⊆ c.outbox.granted) (hwaiting : o.waiting ⊆ c.outbox.waiting)
    (hqueued : o.queued ≠ [] → c.outbox.queued ≠ []) :
    Heeds but h ((h.update id fun c => { c with outbox := o.grant.2 }).wakeAll
      (o.grant.1.toList.map fun t => .call t.call)) := by
  have hwoken : ∀ t, o.grant.1 = some t → Task.call t.call ∈
      ((h.update id fun c => { c with outbox := o.grant.2 }).wakeAll
        (o.grant.1.toList.map fun t => .call t.call)).ready := fun t ht =>
    mem_ready_wakeAll (by rw [ht]; exact List.mem_singleton_self _) _
  obtain ⟨ready, heq, hsub⟩ := rouses_wakeAll (o.grant.1.toList.map fun t => .call t.call)
    (h.update id fun c => { c with outbox := o.grant.2 })
  rw [heq] at hwoken ⊢
  refine heeds_of_update (g := fun c => { c with outbox := o.grant.2 }) (fun _ => rfl) rfl rfl rfl
    hsub fun c' hc' x _ due => ?_
  obtain rfl := Option.some.inj (hc.symm.trans hc')
  cases x with
  | write =>
    refine .inl ?_
    by_cases hidle : c.writer = .idle
    · unfold Connection.Due at due ⊢
      simp only [hidle, Outbox.queued_grant] at due ⊢
      exact due.imp_right (Or.imp_left hqueued)
    · exact due.write_of_not_idle rfl hidle
  | read => exact .inl due
  | send t =>
    rcases o.grant_cases with hnone | ⟨first, rest, hline, hsome⟩
    · rw [Connection.Due, hnone] at due
      exact .inl (due.imp (fun hmem => hgranted hmem) fun hdead => ⟨hdead.1, hwaiting hdead.2⟩)
    · rw [Connection.Due, hsome] at due
      rcases due with hmem | ⟨hdead, hmem⟩
      · rcases List.mem_append.mp hmem with hmem | hmem
        · exact .inl (.inl (hgranted hmem))
        · obtain rfl := List.mem_singleton.mp hmem
          exact .inr (hwoken t (congrArg Prod.fst hsome))
      · exact .inl (.inr ⟨hdead, hwaiting (hline ▸ List.mem_cons_of_mem _ hmem)⟩)

theorem heeds_withdrawSend (h : Hub τ) (id : String) (t : Ticket) :
    Heeds but h (h.withdrawSend id t) := by
  rw [withdrawSend]
  cases hc : h.find? id with
  | none => exact .refl h
  | some c =>
    exact heeds_grant hc (o := { c.outbox with
      granted := c.outbox.granted.erase t, waiting := c.outbox.waiting.erase t })
      List.erase_subset List.erase_subset fun hqueued => hqueued

theorem heeds_withdrawSends (n : Nat) (places : List (String × Nat)) (h : Hub τ) :
    Heeds but h (withdrawSends n places h) := by
  induction places generalizing h with
  | nil => exact .refl h
  | cons x rest ih => exact (heeds_withdrawSend h x.1 ⟨n, x.2⟩).trans (ih _)

theorem heeds_beginSend (h : Hub τ) (id : String) (f : Frame) (t : Ticket) :
    Heeds but h (h.beginSend id f t).2 := by
  rw [beginSend]
  split
  · exact heeds_aside h _ _ _
  · rename_i c hc
    split
    · exact heeds_aside h _ _ _
    · rename_i halive
      split
      · exact heeds_putFrame h id f (.call t)
      · -- who goes in line for a living connection has nothing to do
        refine heeds_of_update (g := fun c => { c with outbox := c.outbox.join t }) (fun _ => rfl)
          rfl rfl rfl (fun _ ht => ht) fun c' hc' x _ due => ?_
        obtain rfl := Option.some.inj (hc.symm.trans hc')
        cases x with
        | write => exact .inl due
        | read => exact .inl due
        | send t' =>
          rcases due with hmem | ⟨hdead, -⟩
          · exact .inl (.inl hmem)
          · exact absurd hdead (by simpa using halive)

theorem heeds_resumeSend (h : Hub τ) (roomFirst : Bool) (id : String) (f : Frame) (t : Ticket) :
    Heeds but h (h.resumeSend roomFirst id f t).2 := by
  rw [resumeSend]
  split
  · exact .refl h
  · split
    · exact heeds_enter h id f (.call t) (fun o => o.redeem t f) (fun _ => List.erase_subset)
        fun _ _ ht => ht
    · split
      · exact (heeds_withdrawSend h id t).trans (heeds_aside _ _ _ _)
      · exact .refl h

theorem heeds_beginSends (n : Nat) (f : Frame) (places : List (String × Nat)) (h : Hub τ) :
    Heeds but h (beginSends n f places h).2 := by
  induction places generalizing h with
  | nil => exact .refl h
  | cons x rest ih => exact (heeds_beginSend h x.1 f ⟨n, x.2⟩).trans (ih _)

theorem heeds_resumeSends (roomFirst : Nat → Bool) (n : Nat) (f : Frame)
    (places : List (String × Nat)) (h : Hub τ) :
    Heeds but h (resumeSends roomFirst n f places h).2 := by
  induction places generalizing h with
  | nil => exact .refl h
  | cons x rest ih => exact (heeds_resumeSend h (roomFirst x.2) x.1 f ⟨n, x.2⟩).trans (ih _)

/-- A call that is past its first turn is not one that has yet to get it. -/
theorem heeds_setCall (h : Hub τ) (n : Nat) {call : Call} (hcall : ∀ r, call ≠ .requested r) :
    Heeds but h (h.setCall n call) where
  ready_subset _ ht := ht
  issues _ _ _ hissues := .inl hissues
  asked m r _ hasked := by
    rw [setCall, List.getElem?_set] at hasked
    split at hasked
    · split at hasked
      · exact absurd (Option.some.inj hasked) (hcall r)
      · cases hasked
    · exact .inl hasked

theorem heeds_settleCall (h : Hub τ) (n : Nat) (f : Frame) (left : List (String × Nat))
    (reply : Reply) : Heeds but h (h.settleCall n f left reply) := by
  rw [settleCall]
  split
  · exact heeds_setCall h n (by simp)
  · exact heeds_setCall h n (by simp)

theorem heeds_sendToEach (h : Hub τ) (n : Nat) (f : Frame) (ids : List String) (reply : Reply) :
    Heeds but h (h.sendToEach n f ids reply) :=
  (heeds_beginSends n f ids.zipIdx h).trans (heeds_settleCall _ n f _ reply)

theorem heeds_fanOut (h : Hub τ) (n : Nat) (target : String) (members : List Member) (f : Frame) :
    Heeds but h (h.fanOut n target members f) := by
  rw [fanOut]
  split
  · exact heeds_setCall h n (by simp)
  · exact (heeds_aside h _ _ _).trans (heeds_sendToEach _ n f _ _)

theorem heeds_beginCall (h : Hub τ) (n : Nat) (r : SendOrder) : Heeds but h (h.beginCall n r) := by
  cases r with
  | toHandle id f => exact heeds_sendToEach h n f [id] _
  | toConnection id f =>
    rw [beginCall]
    split
    · exact (heeds_aside h _ _ _).trans (heeds_setCall _ n (by simp))
    · exact (heeds_aside h _ _ _).trans (heeds_sendToEach _ n f _ _)
  | toUser user f => exact heeds_fanOut h n "user" _ f
  | toAll f => exact heeds_fanOut h n "broadcast" _ f

theorem heeds_callTurn (h : Hub τ) (roomFirst : Nat → Bool) (n : Nat) :
    Heeds but h (h.callTurn roomFirst n) := by
  rw [callTurn]
  split
  · exact heeds_beginCall h n _
  · exact (heeds_resumeSends roomFirst n _ _ h).trans (heeds_settleCall _ n _ _ _)
  · exact .refl h

theorem heeds_abandon (h : Hub τ) (n : Nat) : Heeds but h (h.abandon n) := by
  rw [abandon]
  split
  · exact heeds_setCall h n (by simp)
  · exact (heeds_withdrawSends n _ h).trans (heeds_setCall _ n (by simp))
  · exact .refl h

/-- A send that is asked for is to get a turn. -/
theorem heeds_startCall (h : Hub τ) (r : SendOrder) : Heeds but h (h.startCall r).2 where
  ready_subset := by
    obtain ⟨ready, heq, hsub⟩ := rouses_wake (h.addCall r).2 (.call (h.addCall r).1)
    intro t ht
    rw [startCall]
    dsimp only
    rw [heq]
    exact hsub ht
  issues id x _ hissues := by
    obtain ⟨ready, heq, -⟩ := rouses_wake (h.addCall r).2 (.call (h.addCall r).1)
    rw [startCall] at hissues
    dsimp only at hissues
    rw [heq] at hissues
    exact .inl hissues
  asked n r' _ hasked := by
    have hwoken := mem_ready_wake (h.addCall r).2 (.call (h.addCall r).1)
    obtain ⟨ready, heq, -⟩ := rouses_wake (h.addCall r).2 (.call (h.addCall r).1)
    rw [startCall] at hasked ⊢
    dsimp only at hasked ⊢
    rw [heq] at hasked hwoken ⊢
    by_cases hlt : n < h.calls.length
    · left
      have hold : (h.calls ++ [.requested r])[n]? = some (.requested r') := hasked
      rwa [List.getElem?_append_left hlt] at hold
    · right
      have hle : n < (h.calls ++ [Call.requested r]).length :=
        (List.getElem?_eq_some_iff.mp hasked).1
      rw [List.length_append, List.length_singleton] at hle
      obtain rfl : n = h.calls.length := by omega
      exact hwoken

/-! ## Scripts and dispatch -/

theorem heeds_changeHandlers (h : Hub τ) (id : String) (g : List Handler → List Handler) :
    Heeds but h (h.update id fun c => { c with handlers := g c.handlers }) :=
  heeds_update (g := fun c => { c with handlers := g c.handlers }) (fun _ => rfl)
    fun _ _ _ due => due

theorem heeds_runScript (id : String) (script : Script) (h : Hub τ) :
    Heeds but h (runScript id script h).2 := by
  -- the cases are those of a script: its end, a panic, and what it does before it goes on
  fun_induction runScript id script h with
  | case1 h => exact .refl h
  | case2 p h => exact .refl h
  | case3 f next h sent h' hsend ih =>
    have hfirst : Heeds but h (h.trySend id f).2 := heeds_trySend h id f
    rw [hsend] at hfirst
    exact hfirst.trans ih
  | case4 f next h ih => exact (heeds_startCall h _).trans ih
  | case5 handlers next h ih => exact (heeds_changeHandlers h id fun hs => hs ++ handlers).trans ih
  | case6 handlers next h ih => exact (heeds_changeHandlers h id fun _ => handlers).trans ih
  | case7 next h won h' hremove ih =>
    have hfirst : Heeds but h (h.remove id).2 := heeds_remove h id
    rw [hremove] at hfirst
    exact hfirst.trans ih
  | case8 n next h ih => exact (heeds_aside h _ _ _).trans ih
  | case9 e next h ih => exact (heeds_aside h _ _ _).trans ih

theorem heeds_runHandlers (member : Member) (f : Frame) (index : Nat) (handlers : List Handler)
    (h : Hub τ) : Heeds but h (runHandlers member f index handlers h) := by
  induction handlers generalizing index h with
  | nil => exact .refl h
  | cons handler rest ih =>
    have hscript : Heeds but h (runScript member.id (handler member f) h).2 :=
      heeds_runScript member.id (handler member f) h
    rw [runHandlers]
    generalize runScript member.id (handler member f) h = ran at hscript ⊢
    obtain ⟨panic, h'⟩ := ran
    cases panic with
    | none => exact hscript.trans (ih _ h')
    | some p => exact hscript.trans ((heeds_aside h' _ _ _).trans (ih _ _))

theorem heeds_dispatch (h : Hub τ) (c : Connection τ) (f : Frame) :
    Heeds but h (h.dispatch c f) := heeds_runHandlers c.member f 0 c.handlers h

/-! ## The writer in its turn -/

variable [Transport τ]

theorem heeds_setLink (h : Hub τ) (id : String) (link : τ) : Heeds but h (h.setLink id link) := by
  have hupdate : Heeds but h (h.update id fun c => { c with link := link }) :=
    heeds_update (g := fun c => { c with link := link }) (fun _ => rfl) fun _ _ _ due => due
  rw [setLink]
  split
  · exact hupdate.trans (rouses_wakeReader _ id).heeds
  · exact hupdate

theorem heeds_hand (h : Hub τ) (id : String) (f : Frame) (cause : Cause) (link : τ) :
    Heeds but h (h.hand id f cause link).2 :=
  (heeds_setLink h id _).trans (heeds_record _ _)

omit [Transport τ] in
/-- A writer that moves on is not done before its turn is over. -/
theorem heeds_setWriter (h : Hub τ) (id : String) (phase : WriterPhase) :
    Heeds (· = .writer id) h (h.update id fun c => { c with writer := phase }) :=
  heeds_update (g := fun c => { c with writer := phase }) (fun _ => rfl) fun c x hbut due => by
    cases x with
    | write => exact absurd rfl hbut
    | read => exact due
    | send t => exact due

theorem heeds_stopWriter (h : Hub τ) (id : String) :
    Heeds (· = .writer id) h (h.stopWriter id) :=
  heeds_update (g := Connection.stopWriter h.now) (fun _ => rfl) fun c x hbut due => by
    cases x with
    | write => exact absurd rfl hbut
    | read => exact due
    | send t => exact due

theorem heeds_failWriter (h : Hub τ) (id : String) (reason : CloseReason) :
    Heeds (· = .writer id) h (h.failWriter id reason) :=
  (heeds_stopWriter h id).trans (heeds_teardown _ id reason)

theorem heeds_panicWriter (h : Hub τ) (id : String) (p : Panic) :
    Heeds (· = .writer id) h (h.panicWriter id p) :=
  ((heeds_stopWriter h id).trans (heeds_aside _ _ _ _)).trans (heeds_teardown _ id .taskFailed)

theorem heeds_afterSend (h : Hub τ) (id : String) (kind : FrameKind) (limit : Nat) (p : Progress) :
    Heeds (· = .writer id) h (h.afterSend id kind limit p).2 := by
  cases p with
  | done => exact heeds_setWriter h id .idle
  | failed e => exact (heeds_aside h _ _ _).trans (heeds_failWriter _ id .writeError)
  | panicked p => exact heeds_panicWriter h id p
  | pending =>
    rw [afterSend]
    split
    · exact (heeds_aside h _ _ _).trans (heeds_failWriter _ id .writeTimeout)
    · exact heeds_setWriter h id (.sending kind limit)

theorem heeds_sendFrame (h : Hub τ) (c : Connection τ) (f : Frame) (cause : Cause) :
    Heeds (· = .writer c.id) h (h.sendFrame c f cause).2 := by
  rw [sendFrame]
  split
  · exact (heeds_hand h c.id f cause c.link).trans (heeds_afterSend _ c.id f.kind _ _)
  · exact heeds_aside h _ _ _

theorem heeds_finishClose (h : Hub τ) (id : String) (limit : Nat) (p : Progress)
    (wait : WriterPhase) : Heeds (· = .writer id) h (h.finishClose id limit p wait).2 := by
  cases p with
  | done => exact heeds_stopWriter h id
  | failed e => exact (heeds_aside h _ _ _).trans (heeds_stopWriter _ id)
  | panicked p => exact heeds_panicWriter h id p
  | pending =>
    rw [finishClose]
    split
    · exact (heeds_aside h _ _ _).trans (heeds_stopWriter _ id)
    · exact heeds_setWriter h id wait

theorem heeds_closeSink (h : Hub τ) (id : String) (limit : Nat) :
    Heeds (· = .writer id) h (h.closeSink id limit).2 := by
  rw [closeSink]
  split
  · exact .refl h
  · exact (heeds_setLink h id _).trans (heeds_finishClose _ id limit _ _)

theorem heeds_afterCloseFrame (h : Hub τ) (id : String) (limit : Nat) (p : Progress) :
    Heeds (· = .writer id) h (h.afterCloseFrame id limit p).2 := by
  cases p with
  | done => exact heeds_closeSink h id limit
  | failed e => exact heeds_finishClose h id limit (.failed e) (.sendingClose limit)
  | panicked p => exact heeds_finishClose h id limit (.panicked p) (.sendingClose limit)
  | pending => exact heeds_finishClose h id limit .pending (.sendingClose limit)

theorem heeds_idleWriterTurn (hc : h.find? c.id = some c) :
    Heeds (· = .writer c.id) h (h.idleWriterTurn c).2 := by
  rw [idleWriterTurn]
  split
  · exact (heeds_hand h c.id .close .farewell c.link).trans (heeds_afterCloseFrame _ c.id _ _)
  · cases htake : c.outbox.take with
    | some taken =>
      obtain ⟨f, granted, outbox⟩ := taken
      obtain ⟨rest, hqueued, hgrant⟩ := Outbox.take_eq_grant htake
      have hgranted : Heeds (· = .writer c.id) h _ :=
        heeds_grant hc (o := { c.outbox with queued := rest }) (fun _ ht => ht) (fun _ ht => ht)
          fun _ => by simp [hqueued]
      rw [hgrant] at hgranted
      exact hgranted.trans (heeds_sendFrame _ c f .queued)
    | none =>
      dsimp only
      split
      · have hbeat : Heeds (· = .writer c.id) h (h.update c.id fun c' =>
            { c' with heartbeat := nextHeartbeat h.now c.heartbeat h.config.heartbeat }) :=
          heeds_update (g := fun c' =>
            { c' with heartbeat := nextHeartbeat h.now c.heartbeat h.config.heartbeat })
            (fun _ => rfl) fun c x hbut due => by
              cases x with
              | write => exact absurd rfl hbut
              | read => exact due
              | send t => exact due
        exact hbeat.trans (heeds_sendFrame _ c .ping .heartbeat)
      · exact .refl h

theorem heeds_writerTurn (h : Hub τ) (id : String) :
    Heeds (· = .writer id) h (h.writerTurn id).2 := by
  rw [writerTurn]
  split
  · exact .refl h
  · rename_i c hc
    obtain rfl := id_of_find? hc
    split
    · exact .refl h
    · exact heeds_update (g := fun c =>
        { c with writer := .idle, heartbeat := h.now + h.config.heartbeat }) (fun _ => rfl)
        fun c x hbut due => by
          cases x with
          | write => exact absurd rfl hbut
          | read => exact due
          | send t => exact due
    · exact heeds_idleWriterTurn hc
    · exact (heeds_setLink h c.id _).trans (heeds_afterSend _ c.id _ _ _)
    · exact (heeds_setLink h c.id _).trans (heeds_afterCloseFrame _ c.id _ _)
    · exact heeds_closeSink h c.id _

/-! ## The reader in its turn -/

theorem heeds_stopReader (h : Hub τ) (id : String) :
    Heeds (· = .reader id) h (h.stopReader id) :=
  heeds_update (g := Connection.stopReader h.now) (fun _ => rfl) fun c x hbut due => by
    cases x with
    | write => exact due
    | read => exact absurd rfl hbut
    | send t => exact due

theorem heeds_failReader (h : Hub τ) (id : String) (reason : CloseReason) :
    Heeds (· = .reader id) h (h.failReader id reason) :=
  (heeds_stopReader h id).trans (heeds_teardown _ id reason)

omit [Transport τ] in
theorem heeds_setReader (h : Hub τ) (id : String) (phase : ReaderPhase) :
    Heeds (· = .reader id) h (h.update id fun c => { c with reader := phase }) :=
  heeds_update (g := fun c => { c with reader := phase }) (fun _ => rfl) fun c x hbut due => by
    cases x with
    | write => exact due
    | read => exact absurd rfl hbut
    | send t => exact due

theorem heeds_takeFrame (h : Hub τ) (c : Connection τ) (f : Frame) :
    Heeds (· = .reader c.id) h (h.takeFrame c f).2 := by
  have hdata : Heeds (· = .reader c.id) h (if f.payload.length > h.config.maxMessageSize then
      (false, (h.logAbout c.id .warn "Inbound frame exceeds max message size"
        [("len", .number f.payload.length), ("max", .number h.config.maxMessageSize)]).failReader
          c.id .frameTooLarge)
      else (true, if c.alive then (h.count fun m => m.countReceived f.kind).dispatch c f
        else h.count fun m => m.countReceived f.kind)).2 := by
    split
    · exact (heeds_aside h _ _ _).trans (heeds_failReader _ c.id .frameTooLarge)
    · refine (heeds_aside h (h.metrics.countReceived f.kind) h.log h.notes).trans ?_
      dsimp only
      split
      · exact heeds_dispatch _ c f
      · exact .refl _
  rw [takeFrame]
  split
  · exact heeds_setReader h c.id _
  · exact .refl h
  · exact (heeds_aside h _ _ _).trans (heeds_failReader _ c.id .peerClosed)
  · exact hdata
  · exact hdata

theorem heeds_takeArrival (h : Hub τ) (c : Connection τ) (deadline : Nat) (a : Arrival) :
    Heeds (· = .reader c.id) h (h.takeArrival c deadline a).2 := by
  cases a with
  | frame f => exact heeds_takeFrame h c f
  | ended => exact heeds_failReader h c.id .peerClosed
  | failed e => exact (heeds_aside h _ _ _).trans (heeds_failReader _ c.id .readError)
  | panicked p =>
    exact ((heeds_stopReader h c.id).trans (heeds_aside _ _ _ _)).trans
      (heeds_teardown _ c.id .taskFailed)
  | pending =>
    rw [takeArrival]
    split
    · exact (heeds_aside h _ _ _).trans (heeds_failReader _ c.id .readTimeout)
    · exact .refl h

theorem heeds_readerTurn (h : Hub τ) (id : String) :
    Heeds (· = .reader id) h (h.readerTurn id).2 := by
  rw [readerTurn]
  split
  · exact .refl h
  · rename_i c hc
    obtain rfl := id_of_find? hc
    split
    · exact .refl h
    · exact heeds_setReader h c.id _
    · split
      · exact heeds_stopReader h c.id
      · have hlink : Heeds (· = .reader c.id) h (h.update c.id fun c' =>
            { c' with link := (Transport.receive h.now c.link).2 }) :=
          heeds_update (g := fun c' => { c' with link := (Transport.receive h.now c.link).2 })
            (fun _ => rfl) fun _ _ _ due => due
        exact hlink.trans (heeds_takeArrival _
          { c with link := (Transport.receive h.now c.link).2 } _ _)

end Hub

end Switchboard
