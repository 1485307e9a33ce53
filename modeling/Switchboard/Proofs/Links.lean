import Switchboard.Proofs.Inbox

/-!
# What stays true of a link

The link of a connection changes when its tasks use it and when its peer acts on it, and never
otherwise. What each use keeps (`Transport.Keeps`), and each act of a peer, is therefore true of the
link for as long as the hub lives (`Run.keeps_over`), and so it is from the beginning on if it is
true of each link over which a connection is opened (`Run.allOver`).
-/

namespace Switchboard

/-- Whatever a connection does with its link, `P` stays true of it. -/
structure Transport.Keeps {τ : Type} [Transport τ] (P : τ → Prop) : Prop where
  send (now : Nat) (f : Frame) {t : τ} : P t → P (Transport.send now f t).2
  resume (now : Nat) {t : τ} : P t → P (Transport.resume now t).2
  close (now : Nat) {t : τ} : P t → P (Transport.close now t).2
  receive (now : Nat) {t : τ} : P t → P (Transport.receive now t).2
  releaseSink (now : Nat) {t : τ} : P t → P (Transport.releaseSink now t)
  releaseStream (now : Nat) {t : τ} : P t → P (Transport.releaseStream now t)

namespace Connection

open Transport (Keeps)

variable {τ : Type} [Transport τ] {P : τ → Prop} {now : Nat} {config : SocketConfig}
  {c : Connection τ}

/-! ## Turns of the writer -/

theorem keeps_failWriter (keeps : Keeps P) (hP : P c.link) (reason : CloseReason) :
    P (c.failWriter now reason).conn.link := by
  rw [failWriter, conn_torn]
  exact keeps.releaseSink now hP

theorem keeps_afterSend (keeps : Keeps P) (hP : P c.link) (kind : FrameKind) (limit : Nat)
    (p : Progress) : P (c.afterSend now kind limit p).conn.link := by
  rcases afterSend_cases now c kind limit p with heq | ⟨-, heq⟩ | ⟨reason, -, heq⟩
  · rwa [heq]
  · rwa [heq]
  · rw [heq]
    exact keeps_failWriter keeps hP reason

theorem keeps_sendFrame (keeps : Keeps P) (hP : P c.link) (f : Frame) (cause : Cause) :
    P (c.sendFrame now config f cause).conn.link := by
  rw [sendFrame]
  split
  · exact keeps_afterSend (c := { c with link := (Transport.send now f c.link).2 }) keeps
      (keeps.send now f hP) _ _ _
  · exact hP

theorem keeps_finishClose (keeps : Keeps P) (hP : P c.link) (limit : Nat) (wait : WriterPhase)
    (p : Progress) : P (c.finishClose now limit wait p).conn.link := by
  cases p with
  | done => exact keeps.releaseSink now hP
  | failed e => exact keeps.releaseSink now hP
  | panicked p => exact keeps_failWriter keeps hP .taskFailed
  | pending =>
    rw [finishClose]
    split
    · exact keeps.releaseSink now hP
    · exact hP

theorem keeps_closeSink (keeps : Keeps P) (hP : P c.link) (limit : Nat) :
    P (c.closeSink now limit).conn.link :=
  keeps_finishClose (c := { c with link := (Transport.close now c.link).2 }) keeps
    (keeps.close now hP) limit _ _

theorem keeps_afterCloseFrame (keeps : Keeps P) (hP : P c.link) (limit : Nat) (p : Progress) :
    P (c.afterCloseFrame now limit p).conn.link := by
  cases p with
  | done => exact keeps_closeSink keeps hP limit
  | failed e => exact keeps_finishClose keeps hP limit (.sendingClose limit) (.failed e)
  | panicked p => exact keeps_finishClose keeps hP limit (.sendingClose limit) (.panicked p)
  | pending => exact keeps_finishClose keeps hP limit (.sendingClose limit) .pending

theorem keeps_idleTurn (keeps : Keeps P) (hP : P c.link) :
    P (c.idleTurn now config).conn.link := by
  rw [idleTurn]
  split
  · exact keeps_afterCloseFrame (c := { c with link := (Transport.send now .close c.link).2 })
      keeps (keeps.send now .close hP) _ _
  · split
    · rename_i f _ outbox _
      exact keeps_sendFrame (c := { c with outbox }) keeps hP f .queued
    · split
      · exact keeps_sendFrame (c := { c with
          heartbeat := Hub.nextHeartbeat now c.heartbeat config.heartbeat })
          keeps hP .ping .heartbeat
      · exact hP

theorem keeps_writerTurn (keeps : Keeps P) (hP : P c.link) :
    P (c.writerTurn now config).conn.link := by
  rw [writerTurn]
  split
  · exact hP
  · exact hP
  · exact keeps_idleTurn keeps hP
  · exact keeps_afterSend (c := { c with link := (Transport.resume now c.link).2 }) keeps
      (keeps.resume now hP) _ _ _
  · exact keeps_afterCloseFrame (c := { c with link := (Transport.resume now c.link).2 }) keeps
      (keeps.resume now hP) _ _
  · exact keeps_closeSink keeps hP _

/-! ## Turns of the reader -/

theorem keeps_readerTurn (keeps : Keeps P) (hP : P c.link) :
    P (c.readerTurn now config).conn.link := by
  rw [readerTurn]
  split
  · exact hP
  · exact hP
  · rename_i deadline _
    split
    · exact keeps.releaseStream now hP
    · have hreceive := keeps.receive now hP
      rcases takeArrival_cases now config { c with link := (Transport.receive now c.link).2 }
          deadline (Transport.receive now c.link).1 with
        ⟨f, -, -, heq⟩ | ⟨f, -, -, heq⟩ | ⟨-, -, heq⟩ | ⟨reason, -, heq⟩
      · dsimp only
        rwa [heq]
      · dsimp only
        rwa [heq]
      · dsimp only
        rwa [heq]
      · dsimp only
        rw [heq, failReader, conn_torn]
        exact keeps.releaseStream now hreceive

end Connection

/-- If the event is an act of a peer, it keeps `P` true of the link. -/
def Event.Leaves {τ : Type} (P : τ → Prop) : Event τ → Prop
  | .peer _ change => ∀ t, P t → P (change t)
  | _ => True

namespace Hub

variable {τ : Type} [Transport τ] {P : τ → Prop} {h h' : Hub τ} {id : String} {c : Connection τ}
  {e : Event τ}

/-- There is a connection `id`, and `P` is true of its link. -/
def Over (P : τ → Prop) (id : String) (h : Hub τ) : Prop :=
  ∃ c, h.find? id = some c ∧ P c.link

/-- The peer of a connection acts on its link, and on nothing else. -/
theorem find?_peerActs {α : Type} (hc : h.find? id = some c) (act : τ → α × τ) :
    (h.peerActs id act).2.find? id = some { c with link := (act c.link).2 } := by
  rw [peerActs, hc]
  exact ((gets_setLink hc (act c.link).2).rouse (rouses_wakeBlockedWriter _ id)).find?_self

theorem over_step (keeps : Transport.Keeps P) (hallowed : e.Allowed h) (leaves : e.Leaves P)
    (hover : h.Over P id) : (h.step e).Over P id := by
  obtain ⟨c, hc, hP⟩ := hover
  by_cases hpeer : ∃ act, e = .peer id act
  · obtain ⟨act, rfl⟩ := hpeer
    exact ⟨_, find?_peerActs hc fun link => ((), act link), leaves _ hP⟩
  · cases passage_step id hallowed with
    | absent fresh gone => exact nomatch hc.symm.trans fresh
    | opened fresh opens => exact nomatch hc.symm.trans fresh
    | writer found moves again =>
      obtain rfl := Option.some.inj (hc.symm.trans found)
      exact ⟨_, moves.find?_self, Connection.keeps_writerTurn keeps hP⟩
    | @reader _ _ _ roomFirst found moves spares again =>
      obtain rfl := Option.some.inj (hc.symm.trans found)
      obtain ⟨c', hc', hlink⟩ := link_poll_reader hc roomFirst
      exact ⟨c', hc', hlink ▸ Connection.keeps_readerTurn keeps hP⟩
    | @pass c' now wallClock found =>
      exact ⟨c, (find?_moveClock h now id).trans hc, hP⟩
    | @spared e h' c' found outside spares =>
      obtain ⟨c'', hc'', -, hlink⟩ := (balances_step h e).conn id c hc
      exact ⟨c'', hc'', (hlink fun htouches => htouches.elim outside hpeer) ▸ hP⟩

end Hub

/-- **What transport and peer keep true of a link stays true of it.** -/
theorem Run.keeps_over {τ : Type} [Transport τ] {P : τ → Prop} {h h' : Hub τ} {es : List (Event τ)}
    {id : String} (run : Run h es h') (keeps : Transport.Keeps P) (leaves : ∀ e ∈ es, e.Leaves P)
    (hover : h.Over P id) : h'.Over P id := by
  induction run with
  | nil => exact hover
  | @cons h h' e es allowed rest ih =>
    exact ih (fun e he => leaves e (List.mem_cons_of_mem _ he))
      (Hub.over_step keeps allowed (leaves _ List.mem_cons_self) hover)

/-- If the event opens a connection, `P` is true of its link. -/
def Event.Offers {τ : Type} (P : τ → Prop) : Event τ → Prop
  | .upgrade _ (.ok link) _ => P link
  | _ => True

namespace Hub

variable {τ : Type} [Transport τ] {P : τ → Prop} {h : Hub τ} {id : String} {e : Event τ}

/-- If there is a connection `id`, `P` is true of its link. -/
def AllOver (P : τ → Prop) (id : String) (h : Hub τ) : Prop :=
  ∀ c, h.find? id = some c → P c.link

theorem allOver_step (keeps : Transport.Keeps P) (hallowed : e.Allowed h) (leaves : e.Leaves P)
    (offers : e.Offers P) (hall : h.AllOver P id) : (h.step e).AllOver P id := by
  intro c' hc'
  cases hc : h.find? id with
  | none =>
    cases passage_step id hallowed with
    | absent fresh gone => exact nomatch hc'.symm.trans gone
    | opened fresh opens =>
      obtain rfl := Option.some.inj (opens.find?_self.symm.trans hc')
      exact offers
    | writer found | reader found | pass found | spared found => exact nomatch hc.symm.trans found
  | some c =>
    obtain ⟨c'', hc'', hP⟩ := over_step keeps hallowed leaves ⟨c, hc, hall c hc⟩
    obtain rfl := Option.some.inj (hc'.symm.trans hc'')
    exact hP

end Hub

/-- **What is true of each link at its opening**, and is kept true by transport and peer, is true of
all links. -/
theorem Run.allOver {τ : Type} [Transport τ] {P : τ → Prop} {h h' : Hub τ} {es : List (Event τ)}
    {id : String} (run : Run h es h') (keeps : Transport.Keeps P)
    (hes : ∀ e ∈ es, e.Leaves P ∧ e.Offers P) (hall : h.AllOver P id) : h'.AllOver P id := by
  induction run with
  | nil => exact hall
  | @cons h h' e es allowed rest ih =>
    obtain ⟨leaves, offers⟩ := hes e List.mem_cons_self
    exact ih (fun e he => hes e (List.mem_cons_of_mem _ he))
      (Hub.allOver_step keeps allowed leaves offers hall)

end Switchboard
