import Switchboard.Proofs.Run
import Switchboard.Proofs.Solo

/-!
# What happens to a connection from outside

Only its own two tasks move a connection on: its writer hands frames over, its reader takes what
arrives. `Hub.Spares id h h'` says that neither of them had a part in what led from `h` to `h'`: the
connection `id` may have got frames into its outbox, or have been removed, but its tasks are where
they were, and one that has something new to do is ready.

`Hub.spares_step` says so of every event that is neither a turn of these tasks nor the passing of
time. What a turn of the reader leads the handlers to do spares the connection too
(`Hub.spares_dispatch`).
-/

namespace Switchboard

/-- What may happen to a connection while its own tasks do nothing. -/
def Happening.fromOutside : Happening → Bool
  | .entered _ _ _ | .removal _ _ | .closed _ .removed => true
  | .handed _ _ _ | .closed _ _ => false

/-- The tasks of a connection are where they were, and it was not brought back to life. -/
structure Connection.Steady (c c' : Connection τ) : Prop where
  member_eq : c'.member = c.member
  writer_eq : c'.writer = c.writer
  heartbeat_eq : c'.heartbeat = c.heartbeat
  reader_eq : c'.reader = c.reader
  alive_of : c'.alive = true → c.alive = true

theorem Connection.Steady.refl (c : Connection τ) : c.Steady c :=
  ⟨rfl, rfl, rfl, rfl, fun halive => halive⟩

theorem Connection.Steady.trans {c₁ c₂ c₃ : Connection τ} (first : c₁.Steady c₂)
    (second : c₂.Steady c₃) : c₁.Steady c₃ where
  member_eq := second.member_eq.trans first.member_eq
  writer_eq := second.writer_eq.trans first.writer_eq
  heartbeat_eq := second.heartbeat_eq.trans first.heartbeat_eq
  reader_eq := second.reader_eq.trans first.reader_eq
  alive_of halive := first.alive_of (second.alive_of halive)

namespace Hub

variable {τ : Type} {h h' h'' : Hub τ} {id d : String}

/-- If the connection `id` is dead, its reader has stopped or is to get a turn. -/
def Warned (id : String) (h : Hub τ) : Prop :=
  ∀ c, h.find? id = some c → c.alive = false → c.reader ≠ .stopped → .reader id ∈ h.ready

/-- The tasks of the connection `id` had no part in what led from one hub to another. -/
structure Spares (id : String) (h h' : Hub τ) : Prop where
  now_eq : h'.now = h.now
  config_eq : h'.config = h.config
  /-- A writer that waits for something to do is ready if there is a new frame. -/
  conn : ∀ c, h.find? id = some c → ∃ c', h'.find? id = some c' ∧ c.Steady c' ∧
    (c.writer = .idle → .writer id ∈ h'.ready ∨ c'.outbox.queued = c.outbox.queued)
  writer_ready : .writer id ∈ h.ready → .writer id ∈ h'.ready
  reader_ready : .reader id ∈ h.ready → .reader id ∈ h'.ready
  warned : h.Warned id → h'.Warned id
  history : ∃ news, h'.history = news ++ h.history ∧
    ∀ x ∈ news, x.id = id → x.fromOutside = true

theorem Spares.refl (id : String) (h : Hub τ) : Spares id h h where
  now_eq := rfl
  config_eq := rfl
  conn c hc := ⟨c, hc, .refl c, fun _ => .inr rfl⟩
  writer_ready hready := hready
  reader_ready hready := hready
  warned hwarned := hwarned
  history := ⟨[], rfl, fun _ hx => absurd hx List.not_mem_nil⟩

theorem Spares.trans (first : Spares id h h') (second : Spares id h' h'') : Spares id h h'' where
  now_eq := second.now_eq.trans first.now_eq
  config_eq := second.config_eq.trans first.config_eq
  conn c hc := by
    obtain ⟨c', hc', hsteady, hidle⟩ := first.conn c hc
    obtain ⟨c'', hc'', hsteady', hidle'⟩ := second.conn c' hc'
    refine ⟨c'', hc'', hsteady.trans hsteady', fun hwriter => ?_⟩
    -- a writer that is ready after the first part is ready after the second
    rcases hidle hwriter with hready | hsame
    · exact .inl (second.writer_ready hready)
    · rcases hidle' (hsteady.writer_eq.trans hwriter) with hready | hsame'
      · exact .inl hready
      · exact .inr (hsame'.trans hsame)
  writer_ready hready := second.writer_ready (first.writer_ready hready)
  reader_ready hready := second.reader_ready (first.reader_ready hready)
  warned hwarned := second.warned (first.warned hwarned)
  history := by
    obtain ⟨news, heq, hnews⟩ := first.history
    obtain ⟨news', heq', hnews'⟩ := second.history
    refine ⟨news' ++ news, by rw [heq', heq, List.append_assoc], fun x hx => ?_⟩
    rcases List.mem_append.mp hx with hx | hx
    · exact hnews' x hx
    · exact hnews x hx

/-- What is done for another connection spares this one. -/
theorem Within.spares (within : Within d h h') (hne : d ≠ id) : Spares id h h' where
  now_eq := within.now_eq
  config_eq := within.config_eq
  conn c hc := ⟨c, (within.find?_eq id hne.symm).trans hc, .refl c, fun _ => .inr rfl⟩
  writer_ready hready := within.ready_subset hready
  reader_ready hready := within.ready_subset hready
  warned hwarned c hc hdead hreads :=
    within.ready_subset (hwarned c ((within.find?_eq id hne.symm).symm.trans hc) hdead hreads)
  history := by
    obtain ⟨news, heq, hnews⟩ := within.history
    exact ⟨news, heq, fun x hx hid => absurd ((hnews x hx).symm.trans hid) hne⟩

/-- What is done for the connection itself, when its tasks are where they were after it. -/
theorem Within.spares_self (within : Within id h h') (hhistory : ∃ news,
      h'.history = news ++ h.history ∧ ∀ x ∈ news, x.fromOutside = true)
    (hconn : ∀ c, h.find? id = some c → ∃ c', h'.find? id = some c' ∧ c.Steady c' ∧
      (c.writer = .idle → .writer id ∈ h'.ready ∨ c'.outbox.queued = c.outbox.queued))
    (hwarned : h.Warned id → h'.Warned id) : Spares id h h' where
  now_eq := within.now_eq
  config_eq := within.config_eq
  conn := hconn
  writer_ready hready := within.ready_subset hready
  reader_ready hready := within.ready_subset hready
  warned := hwarned
  history := by
    obtain ⟨news, heq, hnews⟩ := hhistory
    exact ⟨news, heq, fun x hx _ => hnews x hx⟩

theorem Rouses.warned (rouses : h.Rouses h') (hwarned : h.Warned id) : h'.Warned id := by
  obtain ⟨ready, rfl, hsub⟩ := rouses
  exact fun c hc hdead hreads => hsub (hwarned c hc hdead hreads)

theorem Rouses.spares (rouses : h.Rouses h') (id : String) : Spares id h h' := by
  have hwarned : h.Warned id → h'.Warned id := rouses.warned
  obtain ⟨ready, rfl, hsub⟩ := rouses
  exact ⟨rfl, rfl, fun c hc => ⟨c, hc, .refl c, fun _ => .inr rfl⟩, fun hready => hsub hready,
    fun hready => hsub hready, hwarned, [], rfl, fun _ hx => absurd hx List.not_mem_nil⟩

theorem spares_aside (id : String) (h : Hub τ) (metrics : Metrics) (log : List LogEvent)
    (notes : List Note) : Spares id h { h with metrics, log, notes } :=
  { Spares.refl id h with }

theorem spares_calls (id : String) (h : Hub τ) (calls : List Call) :
    Spares id h { h with calls } :=
  { Spares.refl id h with }

theorem warned_update {f : Connection τ → Connection τ}
    (hf : ∀ c, (f c).member = c.member ∧ (f c).alive = c.alive ∧ (f c).reader = c.reader)
    (hwarned : h.Warned id) : (h.update d f).Warned id := by
  intro c hc hdead hreads
  rw [find?_update fun c => (hf c).1] at hc
  split at hc
  · obtain ⟨x, hx, rfl⟩ := Option.map_eq_some_iff.mp hc
    obtain ⟨-, halive, hreader⟩ := hf x
    exact hwarned x hx (halive.symm.trans hdead) fun hstopped => hreads (hreader.trans hstopped)
  · exact hwarned c hc hdead hreads

/-- A change of some connection that shows neither in its tasks nor in its queue. -/
theorem spares_update {f : Connection τ → Connection τ}
    (hf : ∀ c, c.Steady (f c) ∧ (f c).outbox.queued = c.outbox.queued)
    (halive : ∀ c, (f c).alive = c.alive) : Spares id h (h.update d f) :=
  { Spares.refl id h with
    conn := fun c hc => by
      rw [find?_update fun c => (hf c).1.member_eq]
      split
      · exact ⟨f c, by rw [hc]; rfl, (hf c).1, fun _ => .inr (hf c).2⟩
      · exact ⟨c, hc, .refl c, fun _ => .inr rfl⟩
    warned := warned_update fun c => ⟨(hf c).1.member_eq, halive c, (hf c).1.reader_eq⟩ }

/-- A frame wakes the writer of the connection whose outbox it enters. -/
theorem spares_enter (h : Hub τ) (d : String) (f : Frame) (s : Sender) (put : Outbox → Outbox) :
    Spares id h (h.enter d f s put) := by
  have hwithin := within_enter h d f s put
  have hhistory : (h.enter d f s put).history = .entered d f s :: h.history :=
    congrArg Ledger.history (ledger_enter h d f s put)
  by_cases hne : d = id
  · subst hne
    refine hwithin.spares_self ⟨[.entered d f s], hhistory, fun x hx => ?_⟩ (fun c hc => ?_) ?_
    · rw [List.mem_singleton.mp hx]
      rfl
    · have hput : (h.update d fun c => { c with outbox := put c.outbox }).find? d =
          some { c with outbox := put c.outbox } := find?_update_self hc fun _ => rfl
      rw [enter]
      generalize (h.update d fun c => { c with outbox := put c.outbox }) = h₁ at hput ⊢
      obtain ⟨ready, heq, -⟩ := rouses_wakeWriter (h₁.record (.entered d f s)) d
      refine ⟨{ c with outbox := put c.outbox }, by rw [heq]; exact hput,
        ⟨rfl, rfl, rfl, rfl, fun halive => halive⟩, fun hidle => .inl ?_⟩
      exact mem_ready_wakeWriter (h := h₁.record (.entered d f s)) hput hidle
    · exact fun hwarned =>
        (rouses_wakeWriter _ d).warned (warned_update (fun _ => ⟨rfl, rfl, rfl⟩) hwarned)
  · exact hwithin.spares hne

theorem find?_remove {c : Connection τ} (hc : h.find? id = some c) :
    ∃ alive, (h.remove id).2.find? id = some { c with alive } ∧
      (alive = true → c.alive = true) := by
  rw [remove]
  cases hm : h.registry.lookup id with
  | none => exact ⟨c.alive, hc, fun halive => halive⟩
  | some m =>
    obtain rfl : m.id = id := by simpa using List.find?_some hm
    cases halive : c.alive with
    | true =>
      have torn := teardown_of_alive_torn hc halive .removed
      exact ⟨false, torn.find?_self hc, fun _ => rfl⟩
    | false =>
      have hdead : ∀ c', h.find? m.id = some c' → c'.alive = false := fun c' hc' => by
        rwa [← Option.some.inj (hc.symm.trans hc')]
      dsimp only
      rw [teardown_of_not_alive hdead]
      exact ⟨false, by rw [← halive]; exact hc, fun hfalse => hfalse⟩

theorem warned_teardown (reason : CloseReason) (hwarned : h.Warned id) :
    (h.teardown id reason).2.Warned id := by
  rcases teardown_cases h id reason with ⟨c, -, hc, halive, -⟩ | hnothing
  · have torn := teardown_of_alive_torn hc halive reason
    intro c' hc' _ hreads
    obtain rfl := Option.some.inj ((torn.find?_self hc).symm.trans hc')
    exact torn.reader_ready hreads
  · rwa [hnothing]

theorem warned_remove (hwarned : h.Warned id) : (h.remove id).2.Warned id := by
  rw [remove]
  cases hm : h.registry.lookup id with
  | none => exact hwarned
  | some m =>
    obtain rfl : m.id = id := by simpa using List.find?_some hm
    exact warned_teardown .removed hwarned

theorem spares_remove (h : Hub τ) (d : String) : Spares id h (h.remove d).2 := by
  have hwithin := within_remove h d
  by_cases hne : d = id
  · subst hne
    refine hwithin.spares_self ?_ (fun c hc => ?_) warned_remove
    · rcases remove_cases h d with ⟨-, c, lifetime, -, -, hl⟩ | ⟨-, hl⟩
      · refine ⟨[.removal d true, .closed d .removed], congrArg Ledger.history hl, ?_⟩
        simp [Happening.fromOutside]
      · refine ⟨[.removal d false], congrArg Ledger.history hl, ?_⟩
        simp [Happening.fromOutside]
    · obtain ⟨alive, hc', halive⟩ := find?_remove hc
      exact ⟨_, hc', ⟨rfl, rfl, rfl, rfl, halive⟩, fun _ => .inr rfl⟩
  · exact hwithin.spares hne

theorem Deed.spares (deed : Deed d h h') (id : String) : Spares id h h' := by
  cases deed with
  | aside metrics log notes => exact spares_aside id h metrics log notes
  | wake t => exact (rouses_wake h t).spares id
  | ask f => exact spares_calls id h _
  | handle g =>
    exact spares_update (fun c => ⟨⟨rfl, rfl, rfl, rfl, fun halive => halive⟩, rfl⟩) fun _ => rfl
  | offer f => exact spares_enter h d f .offer _
  | remove => exact spares_remove h d

theorem Deeds.spares (deeds : Deeds d h h') (id : String) : Spares id h h' := by
  induction deeds with
  | refl => exact .refl id h
  | tail _ deed ih => exact ih.trans (deed.spares id)

theorem spares_dispatch (h : Hub τ) (c : Connection τ) (f : Frame) (id : String) :
    Spares id h (h.dispatch c f) := (deeds_dispatch h c f).spares id

/-! ## Sends -/

theorem spares_startCall (h : Hub τ) (r : SendOrder) (id : String) :
    Spares id h (h.startCall r).2 :=
  (spares_calls id h _).trans ((rouses_wake _ _).spares id)

theorem spares_withdrawSend (h : Hub τ) (d : String) (t : Ticket) (id : String) :
    Spares id h (h.withdrawSend d t) := by
  have hwithin := within_withdrawSend h d t
  by_cases hne : d = id
  · subst hne
    rw [withdrawSend] at hwithin ⊢
    cases hc : h.find? d with
    | none => exact .refl d h
    | some c =>
      rw [hc] at hwithin
      have hupdate := find?_update_self hc
        (f := fun c' => { c' with outbox := (c.outbox.withdraw t).2 }) fun _ => rfl
      obtain ⟨ready, heq, hsub⟩ := rouses_wakeAll
        ((c.outbox.withdraw t).1.toList.map fun t => .call t.call)
        (h.update d fun c' => { c' with outbox := (c.outbox.withdraw t).2 })
      dsimp only at hwithin ⊢
      rw [heq] at hwithin ⊢
      refine hwithin.spares_self ⟨[], rfl, fun _ hx => absurd hx List.not_mem_nil⟩
        (fun c' hc' => ?_) fun hwarned => ?_
      · obtain rfl : c = c' := Option.some.inj (hc.symm.trans hc')
        exact ⟨_, hupdate, ⟨rfl, rfl, rfl, rfl, fun halive => halive⟩,
          fun _ => .inr (Outbox.queued_withdraw c.outbox t)⟩
      · exact Rouses.warned ⟨ready, rfl, hsub⟩ (warned_update (fun _ => ⟨rfl, rfl, rfl⟩) hwarned)
  · exact hwithin.spares hne

theorem spares_withdrawSends (number : Nat) (places : List (String × Nat)) (h : Hub τ)
    (id : String) : Spares id h (withdrawSends number places h) := by
  induction places generalizing h with
  | nil => exact .refl id h
  | cons target rest ih =>
    exact (spares_withdrawSend h target.1 ⟨number, target.2⟩ id).trans (ih _)

theorem spares_beginSend (h : Hub τ) (d : String) (f : Frame) (t : Ticket) (id : String) :
    Spares id h (h.beginSend d f t).2 := by
  rw [beginSend]
  split
  · exact spares_aside id h _ _ _
  · split
    · exact spares_aside id h _ _ _
    · split
      · exact spares_enter h d f (.call t) fun o => o.put f
      · exact spares_update (fun c => ⟨⟨rfl, rfl, rfl, rfl, fun halive => halive⟩, rfl⟩)
          fun _ => rfl

theorem spares_resumeSend (h : Hub τ) (roomFirst : Bool) (d : String) (f : Frame) (t : Ticket)
    (id : String) : Spares id h (h.resumeSend roomFirst d f t).2 := by
  rw [resumeSend]
  split
  · exact .refl id h
  · split
    · exact spares_enter h d f (.call t) fun o => o.redeem t f
    · split
      · exact (spares_withdrawSend h d t id).trans (spares_aside id _ _ _ _)
      · exact .refl id h

theorem spares_beginSends (number : Nat) (f : Frame) (places : List (String × Nat)) (h : Hub τ)
    (id : String) : Spares id h (beginSends number f places h).2 := by
  induction places generalizing h with
  | nil => exact .refl id h
  | cons target rest ih => exact (spares_beginSend h target.1 f ⟨number, target.2⟩ id).trans (ih _)

theorem spares_resumeSends (roomFirst : Nat → Bool) (number : Nat) (f : Frame)
    (places : List (String × Nat)) (h : Hub τ) (id : String) :
    Spares id h (resumeSends roomFirst number f places h).2 := by
  induction places generalizing h with
  | nil => exact .refl id h
  | cons target rest ih =>
    exact (spares_resumeSend h (roomFirst target.2) target.1 f ⟨number, target.2⟩ id).trans (ih _)

theorem spares_sendToEach (h : Hub τ) (number : Nat) (f : Frame) (ids : List String) (r : Reply)
    (id : String) : Spares id h (h.sendToEach number f ids r) :=
  (spares_beginSends number f ids.zipIdx h id).trans (spares_calls id _ _)

theorem spares_fanOut (h : Hub τ) (number : Nat) (target : String) (members : List Member)
    (f : Frame) (id : String) : Spares id h (h.fanOut number target members f) := by
  rw [fanOut]
  split
  · exact spares_calls id h _
  · exact (spares_aside id h _ _ _).trans (spares_sendToEach _ number f _ _ id)

theorem spares_beginCall (h : Hub τ) (number : Nat) (r : SendOrder) (id : String) :
    Spares id h (h.beginCall number r) := by
  cases r with
  | toHandle d f => exact spares_sendToEach h number f [d] _ id
  | toConnection d f =>
    rw [beginCall]
    split
    · exact (spares_aside id h _ _ _).trans (spares_calls id _ _)
    · exact (spares_aside id h _ _ _).trans (spares_sendToEach _ number f _ _ id)
  | toUser user f => exact spares_fanOut h number "user" _ f id
  | toAll f => exact spares_fanOut h number "broadcast" _ f id

theorem spares_callTurn (h : Hub τ) (roomFirst : Nat → Bool) (number : Nat) (id : String) :
    Spares id h (h.callTurn roomFirst number) := by
  rw [callTurn]
  split
  · exact spares_beginCall h number _ id
  · exact (spares_resumeSends roomFirst number _ _ h id).trans (spares_calls id _ _)
  · exact .refl id h

theorem spares_abandon (h : Hub τ) (number : Nat) (id : String) :
    Spares id h (h.abandon number) := by
  rw [abandon]
  split
  · exact spares_calls id h _
  · exact (spares_withdrawSends number _ h id).trans (spares_calls id _ _)
  · exact .refl id h

/-! ## Requests -/

end Hub

/-- Nothing differs but the gauges. -/
def Metrics.Gauged (m m' : Metrics) : Prop :=
  ∃ active users, m' = { m with connectionsActive := active, usersConnected := users }

theorem Metrics.Gauged.refl (m : Metrics) : m.Gauged m := ⟨_, _, rfl⟩

namespace Http

/-- What the answer to a request does to a hub, apart from counters and log. -/
inductive Errand where
  /-- Nothing. -/
  | look
  | remove (id : String)
  /-- A send is asked for. -/
  | send (order : SendOrder)

/-- The hub after an errand. -/
def Errand.run {τ : Type} (h : Hub τ) : Errand → Hub τ
  | .look => h
  | .remove id => (h.remove id).2
  | .send order => (h.startCall order).2

namespace Api

/-- The send that an outcome asks for. -/
def Outcome.order? : Outcome → Option SendOrder
  | .send order _ => some order
  | _ => none

/-- A decision about a request comes to an errand. -/
def Serves {τ : Type} (e : Errand) (h : Hub τ) : Outcome × Hub τ → Prop
  | (outcome, h') => match e with
    | .send order => outcome.order? = some order ∧ h' = h
    | e => outcome.order? = none ∧ ∃ metrics log, h' = { e.run h with metrics, log } ∧
      (e.run h).metrics.Gauged metrics

variable {τ : Type}

theorem serves_answer (h : Hub τ) (r : Response) : Serves .look h (.answer r, h) :=
  ⟨rfl, h.metrics, h.log, rfl, .refl _⟩

theorem serves_errorAnswer (s : Server) (h : Hub τ) (e : Error) :
    Serves .look h (.answer (errorAnswer s h e).1, (errorAnswer s h e).2) :=
  ⟨rfl, _, _, rfl, .refl _⟩

theorem serves_deleteConnection (s : Server) (h : Hub τ) (id : String) :
    Serves (.remove id) h (.answer (deleteConnection s h id).1, (deleteConnection s h id).2) := by
  refine ⟨rfl, ?_⟩
  rw [deleteConnection, Errand.run]
  dsimp only
  split <;> exact ⟨_, _, rfl, .refl _⟩

theorem serves_getConnection (s : Server) (h : Hub τ) (id : String) :
    Serves .look h (.answer (getConnection s h id).1, (getConnection s h id).2) := by
  rw [getConnection]
  split
  · exact serves_answer h _
  · exact serves_errorAnswer s h _

theorem serves_getUser (s : Server) (h : Hub τ) (user : String) :
    Serves .look h (.answer (getUser s h user).1, (getUser s h user).2) := by
  rw [getUser]
  split
  · exact serves_answer h _
  · exact serves_errorAnswer s h _

theorem serves_socket (h : Hub τ) (t : Target) (r : Request) : Serves .look h (socket h t r) := by
  rw [socket]
  split
  · exact serves_answer h _
  · dsimp only
    split
    · exact ⟨rfl, _, _, rfl, .refl _⟩
    · split
      · exact ⟨rfl, _, _, rfl, .refl _⟩
      · exact ⟨rfl, h.metrics, h.log, rfl, .refl _⟩

/-- What a request to send comes to is in its body. -/
theorem exists_serves_sendOutcome (r : Request) (order : Frame → SendOrder) (missing : String) :
    ∃ e, ∀ h : Hub τ, Serves e h (sendOutcome h r order missing) := by
  cases hbody : readBody r with
  | ok f => exact ⟨.send (order f), fun h => by rw [sendOutcome, hbody]; exact ⟨rfl, rfl⟩⟩
  | error response => exact ⟨.look, fun h => by rw [sendOutcome, hbody]; exact serves_answer h _⟩

theorem exists_serves_withPart (part : List Char)
    (next : Server → Hub τ → String → Outcome × Hub τ)
    (hnext : ∀ text, ∃ e, ∀ s h, Serves e h (next s h text)) :
    ∃ e, ∀ s h, Serves e h (withPart h part (next s h)) := by
  cases hpart : Target.decodeSegment? part with
  | some text =>
    obtain ⟨e, he⟩ := hnext text
    exact ⟨e, fun s h => by rw [withPart, hpart]; exact he s h⟩
  | none => exact ⟨.look, fun s h => by rw [withPart, hpart]; exact serves_answer h _⟩

theorem exists_serves_atRoute (t : Target) (r : Request) (route : Route) :
    ∃ e, ∀ s (h : Hub τ), Serves e h (atRoute s h t r route) := by
  cases route with
  | socket => exact ⟨.look, fun s h => serves_socket h t r⟩
  | health => exact ⟨.look, fun s h => serves_answer h _⟩
  | stats => exact ⟨.look, fun s h => serves_answer h _⟩
  | metrics => exact ⟨.look, fun s h => ⟨rfl, _, _, rfl, _, _, rfl⟩⟩
  | connection part =>
    refine exists_serves_withPart part (fun s h id => if r.method = "DELETE" then
      (.answer (deleteConnection s h id).1, (deleteConnection s h id).2)
      else (.answer (getConnection s h id).1, (getConnection s h id).2)) fun id => ?_
    by_cases hmethod : r.method = "DELETE"
    · exact ⟨.remove id, fun s h => by rw [if_pos hmethod]; exact serves_deleteConnection s h id⟩
    · exact ⟨.look, fun s h => by rw [if_neg hmethod]; exact serves_getConnection s h id⟩
  | connectionMessages part =>
    refine exists_serves_withPart part
      (fun _ h id => sendOutcome h r (.toConnection id) id) fun id => ?_
    obtain ⟨e, he⟩ := exists_serves_sendOutcome (τ := τ) r (.toConnection id) id
    exact ⟨e, fun _ h => he h⟩
  | userConnections part =>
    exact exists_serves_withPart part (fun s h user =>
      (.answer (getUser s h user).1, (getUser s h user).2)) fun user =>
        ⟨.look, fun s h => serves_getUser s h user⟩
  | userMessages part =>
    refine exists_serves_withPart part
      (fun _ h user => sendOutcome h r (.toUser user) user) fun user => ?_
    obtain ⟨e, he⟩ := exists_serves_sendOutcome (τ := τ) r (.toUser user) user
    exact ⟨e, fun _ h => he h⟩
  | broadcast =>
    obtain ⟨e, he⟩ := exists_serves_sendOutcome (τ := τ) r .toAll ""
    exact ⟨e, fun _ h => he h⟩

theorem Serves.mapResponse {e : Errand} {h : Hub τ} {p : Outcome × Hub τ} (serves : Serves e h p)
    (f : Response → Response) : Serves e h (p.1.mapResponse f, p.2) := by
  have horder : (p.1.mapResponse f).order? = p.1.order? := by cases p.1 <;> rfl
  cases e with
  | look => exact ⟨horder.trans serves.1, serves.2⟩
  | remove id => exact ⟨horder.trans serves.1, serves.2⟩
  | send order => exact ⟨horder.trans serves.1, serves.2⟩

/-- What a request comes to does not depend on the hub that it is made to. -/
theorem exists_serves_handle (τ : Type) (r : Request) :
    ∃ e, ∀ s (h : Hub τ), Serves e h (handle s h r) := by
  by_cases hoptions : r.method = "OPTIONS"
  · refine ⟨.look, fun s h => ?_⟩
    rw [handle]
    dsimp only
    rw [if_pos hoptions]
    exact serves_answer h _
  by_cases hlong : announcesTooMuch r = true
  · refine ⟨.look, fun s h => ?_⟩
    rw [handle]
    dsimp only
    rw [if_neg hoptions, if_pos hlong]
    exact serves_answer h _
  cases hroute : Route.ofTarget? (Target.parse r.target) with
  | none =>
    refine ⟨.look, fun s h => ?_⟩
    rw [handle]
    dsimp only
    rw [if_neg hoptions, if_neg hlong, hroute]
    exact serves_answer h _
  | some route =>
    by_cases hmethod : route.methods.contains r.method = true
    · obtain ⟨e, he⟩ := exists_serves_atRoute (τ := τ) (Target.parse r.target) r route
      refine ⟨e, fun s h => ?_⟩
      rw [handle]
      dsimp only
      rw [if_neg hoptions, if_neg hlong, hroute, Option.any_some]
      simp only [hmethod, if_true]
      exact (he s h).mapResponse _
    · refine ⟨.look, fun s h => ?_⟩
      rw [handle]
      dsimp only
      rw [if_neg hoptions, if_neg hlong, hroute, Option.any_some]
      simp only [hmethod, if_false, Bool.false_eq_true]
      exact serves_answer h _

end Api

/-- A request has a hub do an errand and count and log what it will. -/
def Request.Asks (τ : Type) [Transport τ] (r : Request) (e : Errand) : Prop :=
  ∀ s (h : Hub τ), ∃ metrics log, h.step (.request s r) = { e.run h with metrics, log }

/-- What a request asks for counts for itself: besides, only the gauges are set. -/
theorem exists_asks_gauged (τ : Type) [Transport τ] (r : Request) :
    ∃ e : Errand, ∀ s (h : Hub τ), ∃ metrics log,
      h.step (.request s r) = { e.run h with metrics, log } ∧ (e.run h).metrics.Gauged metrics := by
  obtain ⟨e, he⟩ := Api.exists_serves_handle τ r
  refine ⟨e, fun s h => ?_⟩
  have hserves := he s h
  rw [Hub.step]
  generalize Api.handle s h r = handled at hserves ⊢
  obtain ⟨outcome, h'⟩ := handled
  cases e with
  | send order =>
    obtain ⟨horder, rfl⟩ := hserves
    cases outcome with
    | send order' missing =>
      obtain rfl : order' = order := Option.some.inj horder
      exact ⟨_, _, rfl, .refl _⟩
    | answer response => cases horder
    | connect response user tag => cases horder
  | look =>
    obtain ⟨horder, metrics, log, rfl, gauged⟩ := hserves
    cases outcome with
    | send order' missing => cases horder
    | answer response => exact ⟨metrics, log, rfl, gauged⟩
    | connect response user tag => exact ⟨metrics, log, rfl, gauged⟩
  | remove id =>
    obtain ⟨horder, metrics, log, rfl, gauged⟩ := hserves
    cases outcome with
    | send order' missing => cases horder
    | answer response => exact ⟨metrics, log, rfl, gauged⟩
    | connect response user tag => exact ⟨metrics, log, rfl, gauged⟩

/-- Every request has one errand, whatever hub it is made to. -/
theorem exists_asks (τ : Type) [Transport τ] (r : Request) : ∃ e, r.Asks τ e := by
  obtain ⟨e, he⟩ := exists_asks_gauged τ r
  refine ⟨e, fun s h => ?_⟩
  obtain ⟨metrics, log, heq, -⟩ := he s h
  exact ⟨metrics, log, heq⟩

end Http

namespace Event

variable {τ : Type}

/-- The event is a turn of a task of the connection `id`. -/
def IsTurnOf (id : String) : Event τ → Prop
  | .turn (.writer d) _ | .turn (.reader d) _ => d = id
  | _ => False

/-- Time passes in the event. -/
def IsPass : Event τ → Prop
  | .pass _ _ => True
  | _ => False

end Event

namespace Hub

variable {τ : Type} {h h' : Hub τ} {id : String}

theorem spares_errand (e : Http.Errand) (h : Hub τ) (id : String) : Spares id h (e.run h) := by
  cases e with
  | look => exact .refl id h
  | remove d => exact spares_remove h d
  | send order => exact spares_startCall h order id

/-- A connection that is opened is another one, or was not there before. -/
theorem spares_accept (h : Hub τ) (d : String) (link : τ) (o : ConnectOptions) (id : String) :
    Spares id h (h.accept d link o).2 := by
  rw [accept]
  dsimp only
  split
  · exact .refl id h
  · have hfind : ∀ (x : Connection τ) (registry : Registry),
        ({ h with connections := h.connections ++ [x], registry } : Hub τ).find? id =
          (h.find? id).or ([x].find? fun c => c.id = id) := fun _ _ => List.find?_append
    have hopened : Spares id h { h with
        connections := h.connections ++
          [{ member := Member.ofTexts d o.user o.tag, link, createdAt := h.wallClock
             handlers := o.handlers, outbox := { capacity := h.capacityFor o } }]
        registry := h.registry.insert (Member.ofTexts d o.user o.tag) } :=
      { Spares.refl id h with
        conn := fun c hc => ⟨c, by rw [hfind, hc]; rfl, .refl c, fun _ => .inr rfl⟩
        warned := fun hwarned c hc hdead hreads => by
          rw [hfind] at hc
          cases hc₀ : h.find? id with
          | some c₀ =>
            rw [hc₀] at hc
            exact hwarned c (hc₀.trans hc) hdead hreads
          | none =>
            -- the connection that is opened is not dead
            rw [hc₀, Option.none_or] at hc
            obtain rfl := List.mem_singleton.mp (List.mem_of_find?_eq_some hc)
            cases hdead }
    exact hopened.trans
      ((((rouses_wake _ _).trans (rouses_wake _ _)).spares id).trans (spares_aside id _ _ _ _))

variable [Transport τ]

theorem spares_setLink (h : Hub τ) (d : String) (link : τ) (id : String) :
    Spares id h (h.setLink d link) := by
  have hupdate : Spares id h (h.update d fun c => { c with link := link }) :=
    spares_update (fun c => ⟨⟨rfl, rfl, rfl, rfl, fun halive => halive⟩, rfl⟩) fun _ => rfl
  rw [setLink]
  split
  · exact hupdate.trans ((rouses_wakeReader _ d).spares id)
  · exact hupdate

theorem spares_peerActs (h : Hub τ) (d : String) (act : τ → α × τ) (id : String) :
    Spares id h (h.peerActs d act).2 := by
  rw [peerActs]
  cases h.find? d with
  | none => exact .refl id h
  | some c =>
    exact (spares_setLink h d (act c.link).2 id).trans
      ((rouses_wakeBlockedWriter _ d).spares id)

/-- A turn of any task that does not work for the connection `id`. -/
theorem spares_turn {t : Task} (hwriter : t ≠ .writer id) (hreader : t ≠ .reader id) (h : Hub τ)
    (roomFirst : Nat → Bool) : Spares id h (h.turn roomFirst t).2 := by
  cases t with
  | writer d => exact (within_writerTurn h d).spares fun he => hwriter (he ▸ rfl)
  | reader d => exact (within_readerTurn h d).spares fun he => hreader (he ▸ rfl)
  | call number => exact spares_callTurn h roomFirst number id

theorem spares_poll {t : Task} (hwriter : t ≠ .writer id) (hreader : t ≠ .reader id) (h : Hub τ)
    (roomFirst : Nat → Bool) : Spares id h (h.poll roomFirst t) := by
  have herase : Spares id h { h with ready := h.ready.erase t } :=
    { Spares.refl id h with
      conn := fun c hc => ⟨c, hc, .refl c, fun _ => .inr rfl⟩
      writer_ready := fun hready => (List.mem_erase_of_ne hwriter.symm).mpr hready
      reader_ready := fun hready => (List.mem_erase_of_ne hreader.symm).mpr hready
      warned := fun hwarned c hc hdead hreads =>
        (List.mem_erase_of_ne hreader.symm).mpr (hwarned c hc hdead hreads) }
  have hturn := herase.trans (spares_turn hwriter hreader _ roomFirst)
  rw [poll]
  dsimp only
  split
  · exact hturn.trans (Rouses.spares ⟨_, rfl, fun _ ht => List.mem_cons_of_mem _ ht⟩ id)
  · exact hturn

/-- **Events from outside.** What is neither a turn of a task of the connection nor the passing of
time leaves its tasks where they are. -/
theorem spares_step {e : Event τ} (hturn : ¬ e.IsTurnOf id) (hpass : ¬ e.IsPass) (h : Hub τ) :
    Spares id h (h.step e) := by
  cases e with
  | upgrade d made o =>
    cases made with
    | error e => exact spares_aside id h _ _ _
    | ok link => exact spares_accept h d link o id
  | upgradeFailed reason => exact spares_aside id h _ _ _
  | ask r => exact spares_startCall h r id
  | abandon number => exact spares_abandon h number id
  | remove d => exact spares_remove h d
  | request s r =>
    obtain ⟨e, hasks⟩ := Http.exists_asks τ r
    obtain ⟨metrics, log, heq⟩ := hasks s h
    rw [heq]
    exact (spares_errand e h id).trans (spares_aside id _ metrics log _)
  | act d script => exact (deeds_runScript d script h).spares id
  | peer d act => exact spares_peerActs h d _ id
  | turn t roomFirst =>
    refine spares_poll (fun ht => hturn ?_) (fun ht => hturn ?_) h roomFirst
    · rw [ht]
      rfl
    · rw [ht]
      rfl
  | pass now wallClock => exact absurd trivial hpass

/-! ## Turns of its own tasks -/

/-- A turn of the task `t` made of the connection `id` what `r` says; other tasks are as ready as
they were. -/
structure Moves (id : String) (t : Task) (r : Turned τ) (h h' : Hub τ) : Prop where
  now_eq : h'.now = h.now
  config_eq : h'.config = h.config
  find?_self : h'.find? id = some r.conn
  history_eq : h'.history = r.news ++ h.history
  ready_of_ne : ∀ other, other ≠ t → other ∈ h.ready → other ∈ h'.ready

omit [Transport τ] in
/-- A task that gets a turn is not ready any more. -/
theorem Makes.moves {t : Task} {r : Turned τ} {p : Bool × Hub τ}
    (makes : Makes id r { h with ready := h.ready.erase t } p) : Moves id t r h p.2 where
  now_eq := makes.gets.within.now_eq
  config_eq := makes.gets.within.config_eq
  find?_self := makes.gets.find?_self
  history_eq := makes.gets.history_eq
  ready_of_ne _ hne hready :=
    makes.gets.within.ready_subset ((List.mem_erase_of_ne hne).mpr hready)

theorem poll_eq (h : Hub τ) (roomFirst : Nat → Bool) (t : Task) {p : Bool × Hub τ}
    (hp : ({ h with ready := h.ready.erase t } : Hub τ).turn roomFirst t = p) :
    h.poll roomFirst t = if p.1 then { p.2 with ready := t :: p.2.ready } else p.2 := by
  rw [poll, hp]

omit [Transport τ] in
/-- A task that can go on at once is ready again. -/
theorem rouses_again (again : Bool) (t : Task) (h : Hub τ) :
    h.Rouses (if again then { h with ready := t :: h.ready } else h) ∧
      (again = true → t ∈ (if again then { h with ready := t :: h.ready } else h).ready) := by
  cases again with
  | false => exact ⟨.refl h, fun hfalse => absurd hfalse Bool.false_ne_true⟩
  | true => exact ⟨⟨_, rfl, fun _ ht => List.mem_cons_of_mem _ ht⟩, fun _ => List.mem_cons_self⟩

/-- A turn of the writer of a connection. -/
theorem moves_writer {c : Connection τ} (hc : h.find? id = some c) (roomFirst : Nat → Bool) :
    Moves id (.writer id) (c.writerTurn h.now h.config) h (h.poll roomFirst (.writer id)) ∧
      ((c.writerTurn h.now h.config).again = true →
        .writer id ∈ (h.poll roomFirst (.writer id)).ready) := by
  have makes := makes_writerTurn (h := { h with ready := h.ready.erase (.writer id) }) hc
  have moves := makes.moves
  rw [poll_eq h roomFirst (.writer id) rfl]
  obtain ⟨⟨ready, heq, hsub⟩, hagain⟩ := rouses_again
    (({ h with ready := h.ready.erase (.writer id) } : Hub τ).writerTurn id).1 (.writer id)
    (({ h with ready := h.ready.erase (.writer id) } : Hub τ).writerTurn id).2
  refine ⟨?_, fun h => hagain (makes.again_eq.trans h)⟩
  rw [show Hub.turn _ roomFirst (.writer id) = writerTurn _ id from rfl, heq]
  exact { moves with ready_of_ne := fun _ hne hready => hsub (moves.ready_of_ne _ hne hready) }

/-- A turn of the reader of a connection, and what the handlers do at its end. -/
theorem moves_reader {c : Connection τ} (hc : h.find? id = some c) (roomFirst : Nat → Bool) :
    (∃ h', Moves id (.reader id) (c.readerTurn h.now h.config) h h' ∧
      Spares id h' (h.poll roomFirst (.reader id))) ∧
      ((c.readerTurn h.now h.config).again = true →
        .reader id ∈ (h.poll roomFirst (.reader id)).ready) := by
  obtain ⟨h', makes, hp⟩ :=
    reads_readerTurn (h := { h with ready := h.ready.erase (.reader id) }) hc
  rw [poll_eq h roomFirst (.reader id) rfl]
  obtain ⟨hrouses, hagain⟩ := rouses_again
    (({ h with ready := h.ready.erase (.reader id) } : Hub τ).readerTurn id).1 (.reader id)
    (({ h with ready := h.ready.erase (.reader id) } : Hub τ).readerTurn id).2
  refine ⟨⟨h', makes.moves, ?_⟩, fun h => hagain (makes.again_eq.trans h)⟩
  refine Spares.trans ?_ (hrouses.spares id)
  rw [hp]
  cases c.dispatched? h.now h.config with
  | none => exact .refl id h'
  | some f => exact spares_dispatch h' _ f id

omit [Transport τ] in
theorem isTurnOf_cases {e : Event τ} (hturn : e.IsTurnOf id) :
    (∃ roomFirst, e = .turn (.writer id) roomFirst) ∨
      ∃ roomFirst, e = .turn (.reader id) roomFirst := by
  cases e with
  | turn t roomFirst =>
    cases t with
    | writer d =>
      obtain rfl : d = id := hturn
      exact .inl ⟨roomFirst, rfl⟩
    | reader d =>
      obtain rfl : d = id := hturn
      exact .inr ⟨roomFirst, rfl⟩
    | call number => cases hturn
  | _ => cases hturn

theorem history_poll (h : Hub τ) (roomFirst : Nat → Bool) (t : Task) :
    (h.poll roomFirst t).history =
      (({ h with ready := h.ready.erase t } : Hub τ).turn roomFirst t).2.history := by
  rw [poll]
  dsimp only
  split <;> rfl

theorem rouses_moveClock (h : Hub τ) (now : Nat) :
    ({ h with now } : Hub τ).Rouses (h.moveClock now) := rouses_wakeAll _ _

/-- Nothing that happened is ever forgotten. -/
theorem exists_news (h : Hub τ) (e : Event τ) : ∃ news, (h.step e).history = news ++ h.history := by
  -- an event that is no turn of its tasks spares the connection without a name, if there is one
  by_cases hturn : e.IsTurnOf ""
  · rcases isTurnOf_cases hturn with ⟨roomFirst, rfl⟩ | ⟨roomFirst, rfl⟩
    · obtain ⟨news, heq, -⟩ :=
        (within_writerTurn { h with ready := h.ready.erase (.writer "") } "").history
      exact ⟨news, (history_poll h roomFirst _).trans heq⟩
    · obtain ⟨news, heq, -⟩ :=
        (within_readerTurn { h with ready := h.ready.erase (.reader "") } "").history
      exact ⟨news, (history_poll h roomFirst _).trans heq⟩
  · by_cases hpass : e.IsPass
    · cases e with
      | pass now wallClock =>
        obtain ⟨ready, heq, -⟩ := rouses_moveClock h now
        exact ⟨[], by rw [step, heq]; rfl⟩
      | _ => cases hpass
    · obtain ⟨news, heq, -⟩ := (spares_step hturn hpass h).history
      exact ⟨news, heq⟩

/-! ## Coming into being -/

omit [Transport τ] in
theorem find?_eq_none_iff : h.find? id = none ↔ ∀ m ∈ h.ledger.members, m.id ≠ id := by
  rw [find?, List.find?_eq_none, Ledger.members, ledger, List.map_map]
  simp only [List.mem_map, Function.comp_apply, forall_exists_index, and_imp,
    forall_apply_eq_imp_iff₂, decide_eq_true_eq]
  rfl

/-- A connection comes into being when it is opened. -/
theorem find?_step_of_none {e : Event τ} (hnone : h.find? id = none) (hallowed : e.Allowed h)
    (hother : ∀ m, e.opening? h.config = some m → m.id ≠ id) : (h.step e).find? id = none := by
  rw [find?_eq_none_iff] at hnone ⊢
  cases he : e.opening? h.config with
  | none =>
    have hsame : (h.step e).ledger.members = h.ledger.members :=
      Ledger.Steps.keeps (P := fun l => l.members = h.ledger.members)
        (fun step hl => step.members_eq.trans hl) (leadsTo_step he) rfl
    rwa [hsame]
  | some m =>
    obtain ⟨-, capacity, -, hl⟩ := ledger_step_of_opening he hallowed
    rw [hl, Ledger.members_enroll]
    intro x hx
    rcases List.mem_append.mp hx with hx | hx
    · exact hnone x hx
    · rw [List.mem_singleton.mp hx]
      exact hother m he

/-- The connection that an upgrade opens, and its tasks are ready. -/
structure Opens (id : String) (h : Hub τ) (o : ConnectOptions) (link : τ) (h' : Hub τ) : Prop where
  now_eq : h'.now = h.now
  config_eq : h'.config = h.config
  history_eq : h'.history = h.history
  find?_self : h'.find? id = some
    { member := Member.ofTexts id o.user o.tag, link, createdAt := h.wallClock
      handlers := o.handlers, outbox := { capacity := h.capacityFor o } }
  writer_ready : .writer id ∈ h'.ready
  reader_ready : .reader id ∈ h'.ready

omit [Transport τ] in
theorem opens_accept {o : ConnectOptions} (hnone : h.find? id = none)
    (hfit : h.capacityFor o ≤ Outbox.maxCapacity) (link : τ) :
    Opens id h o link (h.accept id link o).2 := by
  rw [accept]
  dsimp only
  rw [if_neg (by omega)]
  generalize hh : ({ h with
    connections := h.connections ++ [{ member := Member.ofTexts id o.user o.tag, link
                                       createdAt := h.wallClock, handlers := o.handlers
                                       outbox := { capacity := h.capacityFor o } }]
    registry := h.registry.insert (Member.ofTexts id o.user o.tag) } : Hub τ) = opened
  have hfind : opened.find? id = some
      { member := Member.ofTexts id o.user o.tag, link, createdAt := h.wallClock
        handlers := o.handlers, outbox := { capacity := h.capacityFor o } } := by
    rw [find?] at hnone
    rw [← hh, find?, List.find?_append, hnone]
    simp [Connection.id, Member.ofTexts]
  have hwriter := mem_ready_wake opened (.writer id)
  obtain ⟨ready, heq, -⟩ := rouses_wake opened (.writer id)
  rw [heq] at hwriter ⊢
  have hreader := mem_ready_wake ({ opened with ready }) (.reader id)
  obtain ⟨ready', heq', hsub'⟩ := rouses_wake { opened with ready } (.reader id)
  rw [heq'] at hreader ⊢
  subst hh
  exact ⟨rfl, rfl, rfl, hfind, hsub' hwriter, hreader⟩

omit [Transport τ] in
/-- Such an upgrade says whom it opened a connection for. -/
theorem answer_accept {o : ConnectOptions} (hfit : h.capacityFor o ≤ Outbox.maxCapacity)
    (link : τ) : (h.accept id link o).1 = .opened (Member.ofTexts id o.user o.tag) := by
  rw [accept]
  dsimp only
  rw [if_neg (Nat.not_lt.mpr hfit)]

omit [Transport τ] in
/-- An upgrade that asks for more room than an outbox can have crashes, and changes nothing. -/
theorem accept_of_over {o : ConnectOptions} (hover : Outbox.maxCapacity < h.capacityFor o)
    (link : τ) : h.accept id link o = (.crashed, h) :=
  if_pos hover

omit [Transport τ] in
/-- An event that opens the connection `id` is its upgrade. -/
theorem upgrade_of_opening? {e : Event τ} {m : Member} (he : e.opening? h.config = some m) :
    ∃ link o, e = .upgrade m.id (.ok link) o ∧ h.capacityFor o ≤ Outbox.maxCapacity := by
  cases e with
  | upgrade d made o =>
    cases made with
    | error e => simp [Event.opening?] at he
    | ok link =>
      rw [opening?_upgrade] at he
      by_cases hfit : h.capacityFor o > Outbox.maxCapacity
      · simp [hfit] at he
      · obtain rfl : Member.ofTexts d o.user o.tag = m := by simpa [hfit] using he
        exact ⟨link, o, rfl, by omega⟩
  | _ => simp [Event.opening?] at he

/-! ## What an event does to a connection -/

/-- What an event does to the connection `id`. -/
inductive Passage (id : String) (h : Hub τ) : Event τ → Hub τ → Prop
  /-- There is no such connection, neither before nor after it. -/
  | absent {e : Event τ} {h' : Hub τ} (fresh : h.find? id = none) (gone : h'.find? id = none) :
      Passage id h e h'
  | opened {h' : Hub τ} {link : τ} {o : ConnectOptions} (fresh : h.find? id = none)
      (opens : Opens id h o link h') : Passage id h (.upgrade id (.ok link) o) h'
  | writer {h' : Hub τ} {c : Connection τ} {roomFirst : Nat → Bool} (found : h.find? id = some c)
      (moves : Moves id (.writer id) (c.writerTurn h.now h.config) h h')
      (again : (c.writerTurn h.now h.config).again = true → .writer id ∈ h'.ready) :
      Passage id h (.turn (.writer id) roomFirst) h'
  /-- The reader's turn led to `h'`, and what the handlers did with a frame to `h''`. -/
  | reader {h' h'' : Hub τ} {c : Connection τ} {roomFirst : Nat → Bool}
      (found : h.find? id = some c)
      (moves : Moves id (.reader id) (c.readerTurn h.now h.config) h h') (spares : Spares id h' h'')
      (again : (c.readerTurn h.now h.config).again = true → .reader id ∈ h''.ready) :
      Passage id h (.turn (.reader id) roomFirst) h''
  | pass {c : Connection τ} {now wallClock : Nat} (found : h.find? id = some c) :
      Passage id h (.pass now wallClock) (h.step (.pass now wallClock))
  | spared {e : Event τ} {h' : Hub τ} {c : Connection τ} (found : h.find? id = some c)
      (outside : ¬ e.IsTurnOf id) (spares : Spares id h h') : Passage id h e h'

theorem passage_step {e : Event τ} (id : String) (hallowed : e.Allowed h) :
    Passage id h e (h.step e) := by
  cases hc : h.find? id with
  | none =>
    by_cases hopen : ∃ m, e.opening? h.config = some m ∧ m.id = id
    · obtain ⟨m, he, rfl⟩ := hopen
      obtain ⟨link, o, rfl, hfit⟩ := upgrade_of_opening? he
      exact .opened hc (opens_accept hc hfit link)
    · exact .absent hc (find?_step_of_none hc hallowed fun m he hid => hopen ⟨m, he, hid⟩)
  | some c =>
    by_cases hturn : e.IsTurnOf id
    · rcases isTurnOf_cases hturn with ⟨roomFirst, rfl⟩ | ⟨roomFirst, rfl⟩
      · obtain ⟨moves, hagain⟩ := moves_writer hc roomFirst
        exact .writer hc moves hagain
      · obtain ⟨⟨h', moves, spares⟩, hagain⟩ := moves_reader hc roomFirst
        exact .reader hc moves spares hagain
    · by_cases hpass : e.IsPass
      · cases e with
        | pass now wallClock => exact .pass hc
        | _ => cases hpass
      · exact .spared hc hturn (spares_step hturn hpass h)

end Hub

end Switchboard
