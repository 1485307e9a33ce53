import Switchboard.Proofs.Balance
import Switchboard.Proofs.Timing
import Switchboard.Transport.Memory

/-!
# What has arrived and was not taken

A transport may keep what has arrived in a queue, its inbox, until it is taken
(`Transport.Queued`). Only the reader of a connection takes from it; whatever else happens may put
something in (`Hub.Feeds`). `arrivals` tells what is put in during a run, and when.

The reader is never left waiting while there is something for it to do: something in the inbox, or a
teardown to notice (`Hub.Alert`).
-/

namespace Switchboard

/-- A transport that keeps what has arrived in order until it is taken. What is done with the sink
may put something in, and takes nothing out. -/
class Transport.Queued (τ : Type) [Transport τ] where
  /-- What has arrived and was not taken, the first first. -/
  inbox : τ → List Arrival
  hasArrived_iff : ∀ t : τ, Transport.hasArrived t = true ↔ inbox t ≠ []
  receive_nil : ∀ (now : Nat) (t : τ), inbox t = [] →
    (Transport.receive now t).1 = .pending ∧ inbox (Transport.receive now t).2 = []
  /-- What is no frame is the last that is taken. -/
  receive_cons : ∀ (now : Nat) (t : τ) (a : Arrival) (rest : List Arrival), inbox t = a :: rest →
    (Transport.receive now t).1 = a ∧
      ((∃ f, a = .frame f) → inbox (Transport.receive now t).2 = rest)
  inbox_send : ∀ (now : Nat) (f : Frame) (t : τ), inbox t <+: inbox (Transport.send now f t).2
  inbox_resume : ∀ (now : Nat) (t : τ), inbox t <+: inbox (Transport.resume now t).2
  inbox_close : ∀ (now : Nat) (t : τ), inbox t <+: inbox (Transport.close now t).2
  inbox_releaseSink : ∀ (now : Nat) (t : τ), inbox (Transport.releaseSink now t) = inbox t

open Transport (Queued)
open Transport.Queued (inbox)

/-! ## Links within the process -/

namespace MemoryLink

/-- What the peer sent, and the end of the stream once it has come. -/
def items (m : MemoryLink) : List Arrival := m.inbound ++ if m.sending then [] else [.ended]

theorem items_push (m : MemoryLink) (a : Arrival) : m.items <+: (m.push a).2.items := by
  rw [push]
  split
  · rename_i hcan
    have hsending : m.sending = true := (Bool.and_eq_true_iff.mp hcan).1
    exact ⟨[a], by simp [items, hsending]⟩
  · exact List.prefix_rfl

theorem items_send (now : Nat) (f : Frame) (m : MemoryLink) :
    m.items <+: (m.send now f).2.items := by
  rw [send]
  split
  · exact List.prefix_rfl
  · dsimp only
    split
    · exact items_push { m with received := ⟨now, f, none⟩ :: m.received } _
    · exact List.prefix_rfl

theorem items_closeSink (now : Nat) (m : MemoryLink) : (m.closeSink now).items = m.items := by
  rw [closeSink]
  split <;> rfl

instance : Queued MemoryLink where
  inbox := items
  hasArrived_iff m := by
    change (!m.inbound.isEmpty || !m.sending) = true ↔ _
    cases hin : m.inbound <;> cases hs : m.sending <;> simp [items, hin, hs]
  receive_nil now m hnil := by
    obtain ⟨hin, hs⟩ := List.append_eq_nil_iff.mp hnil
    have hsending : m.sending = true := by
      by_contra hno
      simp [hno] at hs
    change m.receive.1 = .pending ∧ m.receive.2.items = []
    simp [receive, items, hin, hsending]
  receive_cons now m a rest hcons := by
    change m.receive.1 = a ∧ ((∃ f, a = .frame f) → m.receive.2.items = rest)
    cases hin : m.inbound with
    | cons b left =>
      rw [items, hin, List.cons_append] at hcons
      obtain ⟨rfl, rfl⟩ := List.cons.inj hcons
      simp [receive, items, hin]
    | nil =>
      -- only the end of the stream is left
      cases hs : m.sending with
      | true => simp [items, hin, hs] at hcons
      | false =>
        obtain ⟨rfl, rfl⟩ : .ended = a ∧ [] = rest := by simpa [items, hin, hs] using hcons
        simp [receive, hin, hs]
  inbox_send := items_send
  inbox_resume _ _ := List.prefix_rfl
  inbox_close now m := (items_closeSink now m) ▸ List.prefix_rfl
  inbox_releaseSink := items_closeSink

end MemoryLink

namespace Hub

variable {τ : Type} [Transport τ] {h h' h'' : Hub τ} {id : String} {c c' : Connection τ}
  {e : Event τ}

/-- The reader of the connection `id` is to get a turn if there is anything for it to do. -/
def Alert (id : String) (h : Hub τ) : Prop :=
  ∀ c, h.find? id = some c → c.reader ≠ .stopped →
    c.alive = false ∨ Transport.hasArrived c.link = true → .reader id ∈ h.ready

theorem Alert.warned (alert : h.Alert id) : h.Warned id :=
  fun c hc hdead hreads => alert c hc hreads (.inl hdead)

variable [Queued τ]

/-- What the reader of the connection `id` may take. -/
def inbox (id : String) (h : Hub τ) : List Arrival :=
  ((h.find? id).map fun c => Queued.inbox c.link).getD []

theorem inbox_of_find? (hc : h.find? id = some c) : h.inbox id = Queued.inbox c.link := by
  rw [inbox, hc]
  rfl

/-- What was done took nothing out of the inbox of the connection `id`, and its reader is to get a
turn if it has to. -/
structure Feeds (id : String) (h h' : Hub τ) : Prop where
  conn : ∀ c, h.find? id = some c →
    ∃ c', h'.find? id = some c' ∧ Queued.inbox c.link <+: Queued.inbox c'.link
  alert : h.Alert id → h'.Alert id

theorem Feeds.refl (id : String) (h : Hub τ) : Feeds id h h where
  conn c hc := ⟨c, hc, List.prefix_rfl⟩
  alert halert := halert

theorem Feeds.trans (first : Feeds id h h') (second : Feeds id h' h'') : Feeds id h h'' where
  conn c hc := by
    obtain ⟨c', hc', hin⟩ := first.conn c hc
    obtain ⟨c'', hc'', hin'⟩ := second.conn c' hc'
    exact ⟨c'', hc'', hin.trans hin'⟩
  alert halert := second.alert (first.alert halert)

/-- What shows neither in connections nor in who is ready; more tasks may be ready. -/
theorem feeds_of_same (hconnections : h'.connections = h.connections)
    (hready : .reader id ∈ h.ready → .reader id ∈ h'.ready) : Feeds id h h' where
  conn c hc := ⟨c, (find?_of_connections_eq hconnections id).trans hc, List.prefix_rfl⟩
  alert halert c hc hreads hwork :=
    hready (halert c ((find?_of_connections_eq hconnections id).symm.trans hc) hreads hwork)

theorem hasArrived_of_inbox_eq {t t' : τ} (heq : Queued.inbox t' = Queued.inbox t)
    (harrived : Transport.hasArrived t' = true) : Transport.hasArrived t = true := by
  rw [Queued.hasArrived_iff] at harrived ⊢
  rwa [← heq]

/-- The connection is what it was to its reader. -/
theorem feeds_update {d : String} {f : Connection τ → Connection τ}
    (hf : ∀ c, (f c).member = c.member ∧ (f c).reader = c.reader ∧ (f c).alive = c.alive)
    (hinbox : ∀ c, Queued.inbox (f c).link = Queued.inbox c.link) : Feeds id h (h.update d f) where
  conn c hc := by
    rw [find?_update fun c => (hf c).1]
    split
    · exact ⟨f c, by rw [hc]; rfl, hinbox c ▸ List.prefix_rfl⟩
    · exact ⟨c, hc, List.prefix_rfl⟩
  alert halert c hc hreads hwork := by
    rw [find?_update fun c => (hf c).1] at hc
    split at hc
    · obtain ⟨x, hx, rfl⟩ := Option.map_eq_some_iff.mp hc
      obtain ⟨-, hreader, halive⟩ := hf x
      rw [hreader] at hreads
      rw [halive] at hwork
      exact halert x hx hreads (hwork.imp_right (hasArrived_of_inbox_eq (hinbox x)))
    · exact halert c hc hreads hwork

theorem Rouses.feeds (rouses : h.Rouses h') (id : String) : Feeds id h h' := by
  obtain ⟨ready, rfl, hsub⟩ := rouses
  exact feeds_of_same rfl fun hready => hsub hready

/-- A reader is woken when something has arrived. -/
theorem feeds_setLink {link : τ}
    (hinbox : ∀ c, h.find? id = some c → Queued.inbox c.link <+: Queued.inbox link) :
    Feeds id h (h.setLink id link) := by
  have hfind : ∀ c, h.find? id = some c →
      (h.update id fun c => { c with link := link }).find? id = some { c with link := link } :=
    fun c hc => find?_update_self hc fun _ => rfl
  have hconn : ∀ c', (h.update id fun c => { c with link := link }).find? id = some c' →
      ∃ c, h.find? id = some c ∧ c' = { c with link := link } := fun c' hc' => by
    rw [find?_update (f := fun c => { c with link := link }) fun _ => rfl, if_pos rfl] at hc'
    obtain ⟨c, hc, rfl⟩ := Option.map_eq_some_iff.mp hc'
    exact ⟨c, hc, rfl⟩
  rw [setLink]
  split
  · rename_i harrived
    obtain ⟨ready, heq, hsub⟩ := rouses_wakeReader (h.update id fun c => { c with link := link }) id
    constructor
    · exact fun c hc => ⟨_, by rw [heq]; exact hfind c hc, hinbox c hc⟩
    · intro _ c' hc' hreads _
      rw [heq] at hc'
      exact mem_ready_wakeReader hc' hreads
  · rename_i harrived
    constructor
    · exact fun c hc => ⟨_, hfind c hc, hinbox c hc⟩
    · intro halert c' hc' hreads hwork
      obtain ⟨c, hc, rfl⟩ := hconn c' hc'
      exact halert c hc hreads (.inl (hwork.resolve_right harrived))

theorem feeds_teardown (h : Hub τ) (id : String) (reason : CloseReason) :
    Feeds id h (h.teardown id reason).2 := by
  rcases teardown_cases h id reason with ⟨c, -, hc, halive, -⟩ | hnothing
  · have torn := teardown_of_alive_torn hc halive reason
    have hself := torn.find?_self hc
    constructor
    · intro c' hc'
      obtain rfl := Option.some.inj (hc.symm.trans hc')
      exact ⟨_, hself, List.prefix_rfl⟩
    · intro _ c' hc' hreads _
      obtain rfl := Option.some.inj (hself.symm.trans hc')
      exact torn.reader_ready hreads
  · rw [hnothing]
    exact .refl id h

/-! ## The writer -/

theorem feeds_stopWriter (h : Hub τ) (id : String) : Feeds id h (h.stopWriter id) :=
  feeds_update (fun _ => ⟨rfl, rfl, rfl⟩) fun c => Queued.inbox_releaseSink h.now c.link

theorem feeds_setWriter (h : Hub τ) (id : String) (phase : WriterPhase) :
    Feeds id h (h.update id fun c => { c with writer := phase }) :=
  feeds_update (fun _ => ⟨rfl, rfl, rfl⟩) fun _ => rfl

theorem feeds_logAbout (h : Hub τ) (id about : String) (level : Level) (message : String)
    (fields : List (String × LogValue)) : Feeds id h (h.logAbout about level message fields) :=
  feeds_of_same rfl fun hready => hready

theorem feeds_failWriter (h : Hub τ) (id : String) (reason : CloseReason) :
    Feeds id h (h.failWriter id reason) :=
  (feeds_stopWriter h id).trans (feeds_teardown _ id reason)

theorem feeds_panicWriter (h : Hub τ) (id : String) (p : Panic) :
    Feeds id h (h.panicWriter id p) :=
  ((feeds_stopWriter h id).trans (feeds_logAbout _ id _ _ _ _)).trans (feeds_teardown _ id _)

theorem feeds_afterSend (h : Hub τ) (id : String) (kind : FrameKind) (limit : Nat)
    (p : Progress) : Feeds id h (h.afterSend id kind limit p).2 := by
  cases p with
  | done => exact feeds_setWriter h id .idle
  | failed e => exact (feeds_logAbout h id _ _ _ _).trans (feeds_failWriter _ id _)
  | panicked p => exact feeds_panicWriter h id p
  | pending =>
    rw [afterSend]
    split
    · exact (feeds_logAbout h id _ _ _ _).trans (feeds_failWriter _ id _)
    · exact feeds_setWriter h id (.sending kind limit)

theorem feeds_finishClose (h : Hub τ) (id : String) (limit : Nat) (p : Progress)
    (wait : WriterPhase) : Feeds id h (h.finishClose id limit p wait).2 := by
  cases p with
  | done => exact feeds_stopWriter h id
  | failed e => exact (feeds_logAbout h id _ _ _ _).trans (feeds_stopWriter _ id)
  | panicked p => exact feeds_panicWriter h id p
  | pending =>
    rw [finishClose]
    split
    · exact (feeds_logAbout h id _ _ _ _).trans (feeds_stopWriter _ id)
    · exact feeds_setWriter h id wait

theorem feeds_closeSink (h : Hub τ) (id : String) (limit : Nat) :
    Feeds id h (h.closeSink id limit).2 := by
  rw [closeSink]
  cases hc : h.find? id with
  | none => exact .refl id h
  | some c =>
    have hlink : Feeds id h (h.setLink id (Transport.close h.now c.link).2) :=
      feeds_setLink fun x hx => by
        rw [hc] at hx
        obtain rfl := Option.some.inj hx
        exact Queued.inbox_close h.now c.link
    exact hlink.trans (feeds_finishClose _ id limit _ _)

theorem feeds_afterCloseFrame (h : Hub τ) (id : String) (limit : Nat) (p : Progress) :
    Feeds id h (h.afterCloseFrame id limit p).2 := by
  cases p with
  | done => exact feeds_closeSink h id limit
  | failed e => exact feeds_finishClose h id limit _ _
  | panicked p => exact feeds_finishClose h id limit _ _
  | pending => exact feeds_finishClose h id limit _ _

theorem feeds_hand {link : τ} (hlink : ∀ c, h.find? id = some c → c.link = link) (f : Frame)
    (cause : Cause) : Feeds id h (h.hand id f cause link).2 := by
  have hset : Feeds id h (h.setLink id (Transport.send h.now f link).2) :=
    feeds_setLink fun c hc => hlink c hc ▸ Queued.inbox_send h.now f c.link
  exact hset.trans (feeds_of_same rfl fun hready => hready)

theorem feeds_sendFrame (hlink : ∀ x, h.find? c.id = some x → x.link = c.link) (f : Frame)
    (cause : Cause) : Feeds c.id h (h.sendFrame c f cause).2 := by
  rw [sendFrame]
  split
  · exact (feeds_hand hlink f cause).trans (feeds_afterSend _ c.id _ _ _)
  · exact feeds_of_same rfl fun hready => hready

/-- A frame is sent over the link of a connection after a change that its reader does not notice. -/
theorem feeds_updateSend (hc : h.find? c.id = some c) {g : Connection τ → Connection τ}
    (hg : ∀ c, (g c).member = c.member ∧ (g c).reader = c.reader ∧ (g c).alive = c.alive)
    (hlink : ∀ c, (g c).link = c.link) (rouses : (h.update c.id g).Rouses h') (f : Frame)
    (cause : Cause) : Feeds c.id h (h'.sendFrame c f cause).2 := by
  have hchange : Feeds c.id h (h.update c.id g) := feeds_update hg fun c => by rw [hlink]
  refine (hchange.trans (rouses.feeds c.id)).trans (feeds_sendFrame (fun x hx => ?_) f cause)
  obtain ⟨ready, rfl, -⟩ := rouses
  have hfind := find?_update_self hc (f := g) fun c => (hg c).1
  obtain rfl := Option.some.inj (hfind.symm.trans hx)
  exact hlink c

theorem feeds_idleWriterTurn (hc : h.find? c.id = some c) :
    Feeds c.id h (h.idleWriterTurn c).2 := by
  rw [idleWriterTurn]
  split
  · refine (feeds_hand (fun x hx => ?_) .close .farewell).trans (feeds_afterCloseFrame _ c.id _ _)
    rw [Option.some.inj (hc.symm.trans hx)]
  · split
    · rename_i o _
      exact feeds_updateSend (g := fun c => { c with outbox := o }) hc (fun _ => ⟨rfl, rfl, rfl⟩)
        (fun _ => rfl) (rouses_wakeAll _ _) _ _
    · split
      · let next := nextHeartbeat h.now c.heartbeat h.config.heartbeat
        exact feeds_updateSend (g := fun c => { c with heartbeat := next }) hc
          (fun _ => ⟨rfl, rfl, rfl⟩) (fun _ => rfl) (.refl _) _ _
      · exact .refl c.id h

/-- **A turn of the writer** takes nothing out of the inbox of its connection. -/
theorem feeds_writerTurn (h : Hub τ) (id : String) : Feeds id h (h.writerTurn id).2 := by
  rw [writerTurn]
  cases hc : h.find? id with
  | none => exact .refl id h
  | some c =>
    obtain rfl := id_of_find? hc
    have hresume : Feeds c.id h (h.setLink c.id (Transport.resume h.now c.link).2) :=
      feeds_setLink fun x hx => by
        obtain rfl := Option.some.inj (hc.symm.trans hx)
        exact Queued.inbox_resume h.now c.link
    dsimp only
    split
    · exact .refl c.id h
    · exact feeds_update (fun _ => ⟨rfl, rfl, rfl⟩) fun _ => rfl
    · exact feeds_idleWriterTurn hc
    · exact hresume.trans (feeds_afterSend _ c.id _ _ _)
    · exact hresume.trans (feeds_afterCloseFrame _ c.id _ _)
    · exact feeds_closeSink h c.id _

/-! ## Events -/

theorem feeds_peerActs {α : Type} {act : τ → α × τ}
    (hact : ∀ c, h.find? id = some c → Queued.inbox c.link <+: Queued.inbox (act c.link).2) :
    Feeds id h (h.peerActs id act).2 := by
  rw [peerActs]
  cases hc : h.find? id with
  | none => exact .refl id h
  | some c =>
    have hlink : Feeds id h (h.setLink id (act c.link).2) := feeds_setLink fun x hx => by
      obtain rfl := Option.some.inj (hc.symm.trans hx)
      exact hact c hc
    exact hlink.trans ((rouses_wakeBlockedWriter _ id).feeds id)

/-- The peer of the connection `id`, if it is its peer that acts, takes nothing out of the inbox. -/
def Appends (id : String) (h : Hub τ) : Event τ → Prop
  | .peer d act => d = id → ∀ c ∈ h.find? id, Queued.inbox c.link <+: Queued.inbox (act c.link)
  | _ => True

instance Appends.decidable (id : String) (h : Hub τ) : (e : Event τ) → Decidable (Appends id h e)
  | .peer d act => inferInstanceAs (Decidable (d = id →
    ∀ c ∈ h.find? id, Queued.inbox c.link <+: Queued.inbox (act c.link)))
  | .upgrade _ _ _ | .upgradeFailed _ | .ask _ | .abandon _ | .remove _ | .request _ _ | .act _ _
  | .turn _ _ | .pass _ _ => .isTrue trivial

theorem feeds_poll_writer (h : Hub τ) (roomFirst : Nat → Bool) (id : String) :
    Feeds id h (h.poll roomFirst (.writer id)) := by
  have herase : Feeds id h { h with ready := h.ready.erase (.writer id) } :=
    feeds_of_same rfl fun hready => (List.mem_erase_of_ne (by simp)).mpr hready
  have hturn := herase.trans (feeds_writerTurn { h with ready := h.ready.erase (.writer id) } id)
  rw [poll_eq h roomFirst (.writer id) rfl]
  exact hturn.trans ((rouses_again _ _ _).1.feeds id)

/-- What spares a connection and leaves its link alone. -/
theorem Spares.feeds (spares : Spares id h h') (hc : h.find? id = some c)
    (hc' : h'.find? id = some c') (hlink : c'.link = c.link) : Feeds id h h' where
  conn x hx := by
    obtain rfl := Option.some.inj (hc.symm.trans hx)
    exact ⟨c', hc', hlink ▸ List.prefix_rfl⟩
  alert halert x hx hreads hwork := by
    obtain rfl := Option.some.inj (hc'.symm.trans hx)
    rcases hwork with hdead | harrived
    · exact spares.warned halert.warned c' hc' hdead hreads
    · obtain ⟨y, hy, steady, -⟩ := spares.conn c hc
      obtain rfl := Option.some.inj (hc'.symm.trans hy)
      rw [hlink] at harrived
      rw [steady.reader_eq] at hreads
      exact spares.reader_ready (halert c hc hreads (.inr harrived))

end Hub

/-- The event is a turn of the reader of the connection `id`. -/
def Event.reads {τ : Type} (id : String) : Event τ → Bool
  | .turn (.reader d) _ => d = id
  | _ => false

theorem Event.eq_of_reads {τ : Type} {id : String} {e : Event τ} (hreads : e.reads id = true) :
    ∃ roomFirst, e = .turn (.reader id) roomFirst := by
  cases e with
  | turn t roomFirst =>
    cases t with
    | reader d =>
      obtain rfl : d = id := of_decide_eq_true hreads
      exact ⟨roomFirst, rfl⟩
    | writer | call => cases hreads
  | _ => cases hreads

namespace Hub

variable {τ : Type} [Transport τ] [Queued τ] {h h' : Hub τ} {id : String} {c : Connection τ}
  {e : Event τ}

/-- **Only the reader takes.** Every other event takes nothing out of the inbox of a connection. -/
theorem feeds_step (hallowed : e.Allowed h) (happends : Appends id h e)
    (hother : e.reads id = false) : Feeds id h (h.step e) := by
  by_cases hpeer : ∃ act, e = .peer id act
  · obtain ⟨act, rfl⟩ := hpeer
    exact feeds_peerActs fun c hc => happends rfl c hc
  · cases passage_step id hallowed with
    | absent fresh gone =>
      constructor
      · exact fun c hc => nomatch fresh.symm.trans hc
      · exact fun _ c hc => nomatch gone.symm.trans hc
    | opened fresh opens =>
      constructor
      · exact fun c hc => nomatch fresh.symm.trans hc
      · exact fun _ _ _ _ _ => opens.reader_ready
    | @writer h' c roomFirst found moves again => exact feeds_poll_writer h roomFirst id
    | reader found moves spares again => simp [Event.reads] at hother
    | @pass c now wallClock found =>
      have hrouses := rouses_moveClock h now
      obtain ⟨ready, heq, hsub⟩ := hrouses
      rw [step, heq]
      exact feeds_of_same rfl fun hready => hsub hready
    | @spared e h' c found outside spares =>
      obtain ⟨c', hc', -, hlink⟩ := (balances_step h e).conn id c found
      exact spares.feeds found hc' (hlink fun htouches => htouches.elim outside hpeer)

/-! ## Turns of the reader -/

omit [Queued τ] in
/-- What the handlers do leaves the link to what the reader made of it. -/
theorem link_poll_reader (hc : h.find? id = some c) (roomFirst : Nat → Bool) :
    ∃ c', (h.poll roomFirst (.reader id)).find? id = some c' ∧
      c'.link = (c.readerTurn h.now h.config).conn.link := by
  obtain ⟨h', makes, hp⟩ :=
    reads_readerTurn (h := { h with ready := h.ready.erase (.reader id) }) hc
  have hself := makes.gets.find?_self
  have hturned : ∃ c', (({ h with ready := h.ready.erase (.reader id) } : Hub τ).readerTurn
      id).2.find? id = some c' ∧ c'.link = (c.readerTurn h.now h.config).conn.link := by
    rw [hp]
    cases c.dispatched? h.now h.config with
    | none => exact ⟨_, hself, rfl⟩
    | some f =>
      have balances : Balances (fun _ => False) _ h' _ :=
        balances_dispatch h' (c.readerTurn h.now h.config).conn f
      obtain ⟨c', hc', -, hlink⟩ := balances.conn id _ hself
      exact ⟨c', hc', hlink not_false⟩
  obtain ⟨c', hc', hlink⟩ := hturned
  refine ⟨c', ?_, hlink⟩
  rw [poll_eq h roomFirst (.reader id) rfl]
  split <;> exact hc'

end Hub

namespace Connection

variable {τ : Type} [Transport τ] [Queued τ] {now deadline : Nat} {config : SocketConfig}
  {c : Connection τ}

/-- A reader that cannot go on has stopped, or has nothing to take. -/
theorem rests_readerTurn (hitems : c.alive = true → .pending ∉ Queued.inbox c.link)
    (hrests : (c.readerTurn now config).again = false) :
    (c.readerTurn now config).conn.reader = .stopped ∨
      (c.readerTurn now config).conn.alive = true ∧
        Transport.hasArrived (c.readerTurn now config).conn.link = false := by
  cases hphase : c.reader with
  | starting =>
    rw [readerTurn, hphase] at hrests
    cases hrests
  | stopped =>
    rw [readerTurn, hphase]
    exact .inl hphase
  | reading deadline =>
    cases halive : c.alive with
    | false =>
      rw [readerTurn, hphase]
      simp only [halive, Bool.not_false, if_true]
      exact .inl rfl
    | true =>
      rw [readerTurn_of_reading halive hphase] at hrests ⊢
      rcases takeArrival_cases now config { c with link := (Transport.receive now c.link).2 }
        deadline (Transport.receive now c.link).1 with
        ⟨f, -, -, heq⟩ | ⟨f, -, -, heq⟩ | ⟨hpending, -, heq⟩ | ⟨reason, -, heq⟩
      · rw [heq] at hrests
        cases hrests
      · rw [heq] at hrests
        cases hrests
      · rw [heq]
        refine .inr ⟨halive, ?_⟩
        cases hinbox : Queued.inbox c.link with
        | nil =>
          have hnil := (Queued.receive_nil now c.link hinbox).2
          simpa [hnil] using Queued.hasArrived_iff (Transport.receive now c.link).2
        | cons a rest =>
          -- what is in the inbox is not nothing
          have ha := (Queued.receive_cons now c.link a rest hinbox).1.symm.trans hpending
          rw [hinbox, ha] at hitems
          exact absurd List.mem_cons_self (hitems halive)
      · rw [heq, failReader, conn_torn]
        exact .inl rfl

end Connection

namespace Hub

variable {τ : Type} [Transport τ] [Queued τ] {h h' : Hub τ} {id : String} {c : Connection τ}
  {e : Event τ}

/-- A turn of the reader leaves it something to do only if it gets another. -/
theorem alert_of_reads (hallowed : e.Allowed h) (hreads : e.reads id = true)
    (hitems : ∀ c, h.find? id = some c → c.alive = true → .pending ∉ Queued.inbox c.link) :
    (h.step e).Alert id := by
  obtain ⟨roomFirst, rfl⟩ := Event.eq_of_reads hreads
  cases passage_step id hallowed with
  | absent fresh gone => exact fun c hc => nomatch gone.symm.trans hc
  | spared found outside spares => exact absurd rfl outside
  | @reader h' _ c _ found moves spares again =>
    intro c'' hc'' hnot hwork
    cases hagain : (c.readerTurn h.now h.config).again with
    | true => exact again hagain
    | false =>
      obtain ⟨y, hy, steady, -⟩ := spares.conn _ moves.find?_self
      obtain rfl := Option.some.inj (hc''.symm.trans hy)
      obtain ⟨z, hz, hlink⟩ := link_poll_reader found roomFirst
      obtain rfl := Option.some.inj (hc''.symm.trans hz)
      rcases Connection.rests_readerTurn (hitems c found) hagain with hstopped | ⟨halive, hempty⟩
      · exact absurd (steady.reader_eq.trans hstopped) hnot
      · rcases hwork with hdead | harrived
        · -- a handler tore the connection down, and the reader was told
          refine spares.warned (fun x hx hdead _ => ?_) c'' hc'' hdead hnot
          obtain rfl := Option.some.inj (moves.find?_self.symm.trans hx)
          exact absurd (halive.symm.trans hdead) (by decide)
        · rw [hlink, hempty] at harrived
          cases harrived

/-! ## What arrives -/

/-- What is put into the inbox of the connection `id` in an event. -/
def arrived (id : String) (h : Hub τ) (e : Event τ) : List Arrival :=
  if e.reads id then [] else ((h.step e).inbox id).drop (h.inbox id).length

/-- Time brings nothing. -/
theorem arrived_of_pass (hpass : e.IsPass) (h : Hub τ) : h.arrived id e = [] := by
  cases e with
  | pass later wallClock =>
    have hsame : (h.step (.pass later wallClock)).find? id = h.find? id :=
      find?_moveClock h later id
    have hinbox : (h.step (.pass later wallClock)).inbox id = h.inbox id := by
      rw [inbox, hsame, inbox]
    rw [arrived, hinbox, List.drop_length, ite_self]
  | _ => cases hpass

theorem inbox_step (hother : e.reads id = false) (feeds : Feeds id h (h.step e)) :
    (h.step e).inbox id = h.inbox id ++ h.arrived id e := by
  rw [arrived, if_neg (by simp [hother])]
  cases hc : h.find? id with
  | none =>
    have hnil : h.inbox id = [] := by
      rw [inbox, hc]
      rfl
    rw [hnil]
    rfl
  | some c =>
    obtain ⟨c', hc', hin⟩ := feeds.conn c hc
    rw [inbox_of_find? hc, inbox_of_find? hc']
    exact (List.prefix_iff_eq_append.mp hin).symm

end Hub

/-- What is put into the inbox of the connection `id` in a run, and when; the first first. -/
def arrivals {τ : Type} [Transport τ] [Queued τ] (id : String) :
    Hub τ → List (Event τ) → List (Nat × Arrival)
  | _, [] => []
  | h, e :: es => (h.arrived id e).map (h.now, ·) ++ arrivals id (h.step e) es

section Arrivals

variable {τ : Type} [Transport τ] [Queued τ] {h h' : Hub τ} {es : List (Event τ)}

theorem arrivals_append (id : String) (h : Hub τ) (es es' : List (Event τ)) :
    arrivals id h (es ++ es') = arrivals id h es ++ arrivals id (es.foldl Hub.step h) es' := by
  induction es generalizing h with
  | nil => rfl
  | cons e rest ih => simp [arrivals, ih]

/-- What arrives in an event arrives at its instant. -/
theorem Hub.fst_of_mem_arrived {id : String} {e : Event τ} {x : Nat × Arrival}
    (hx : x ∈ (h.arrived id e).map (h.now, ·)) : x.1 = h.now := by
  obtain ⟨a, -, rfl⟩ := List.mem_map.mp hx
  rfl

theorem Run.le_arrivals (run : Run h es h') (id : String) :
    ∀ x ∈ arrivals id h es, h.now ≤ x.1 := by
  induction run with
  | nil => exact fun x hx => absurd hx List.not_mem_nil
  | @cons h h' e es allowed rest ih =>
    intro x hx
    rcases List.mem_append.mp hx with hx | hx
    · exact Nat.le_of_eq (Hub.fst_of_mem_arrived hx).symm
    · exact Nat.le_trans (Hub.now_le_step allowed) (ih x hx)

theorem Run.arrivals_le (run : Run h es h') (id : String) :
    ∀ x ∈ arrivals id h es, x.1 ≤ h'.now := by
  induction run with
  | nil => exact fun x hx => absurd hx List.not_mem_nil
  | @cons h h' e es allowed rest ih =>
    intro x hx
    rcases List.mem_append.mp hx with hx | hx
    · rw [Hub.fst_of_mem_arrived hx]
      exact Nat.le_trans (Hub.now_le_step allowed) rest.now_le
    · exact ih x hx

/-- Items arrive in the order of their instants. -/
theorem Run.arrivals_pairwise (run : Run h es h') (id : String) :
    (arrivals id h es).Pairwise (·.1 ≤ ·.1) := by
  induction run with
  | nil => exact .nil
  | @cons h h' e es allowed rest ih =>
    refine List.pairwise_append.mpr ⟨?_, ih, fun x hx y hy => ?_⟩
    · refine List.pairwise_of_forall_mem_list fun x hx y hy => ?_
      exact Nat.le_of_eq ((Hub.fst_of_mem_arrived hx).trans (Hub.fst_of_mem_arrived hy).symm)
    · rw [Hub.fst_of_mem_arrived hx]
      exact Nat.le_trans (Hub.now_le_step allowed) (rest.le_arrivals id y hy)

end Arrivals

end Switchboard
