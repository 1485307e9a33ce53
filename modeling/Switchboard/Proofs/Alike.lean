import Mathlib.Data.List.Forall2
import Switchboard.Proofs.Solo

/-!
# Connections that differ in tickets only

Two hubs that were asked for different sends number the sends that both were asked for differently.
`ρ : Ticket → Ticket → Prop` pairs the tickets of such sends. Outboxes are alike by `ρ` if they hold
the same frames and, in the same order, paired tickets; connections are alike if nothing but their
outboxes differs, and these are alike.

What is done to outboxes with paired tickets leaves them alike, if no ticket is paired with two
others. Turns of the tasks of alike connections leave them alike and make the same happen
(`Connection.Alike.writerTurn`, `Connection.Alike.readerTurn`). Only a writer that waits for
something to do looks at the outbox at all; everything else commutes with exchanging it
(`Connection.rebox`).
-/

namespace Switchboard

/-! ## Outboxes -/

/-- Outboxes with the same frames and paired tickets. -/
structure Outbox.Alike (ρ : Ticket → Ticket → Prop) (o o' : Outbox) : Prop where
  capacity_eq : o'.capacity = o.capacity
  queued_eq : o'.queued = o.queued
  granted : List.Forall₂ ρ o.granted o'.granted
  waiting : List.Forall₂ ρ o.waiting o'.waiting

theorem forall₂_erase {α β : Type} [DecidableEq α] [DecidableEq β] {r : α → β → Prop}
    (hr : Relator.BiUnique r) {a : α} {b : β} (hab : r a b) {xs : List α} {ys : List β}
    (h : List.Forall₂ r xs ys) : List.Forall₂ r (xs.erase a) (ys.erase b) := by
  induction h with
  | nil => exact .nil
  | @cons x y xs ys hxy hrest ih =>
    have hiff : x = a ↔ y = b := by
      constructor
      · intro hx
        exact hr.2 (hx ▸ hxy) hab
      · intro hy
        exact hr.1 (hy ▸ hxy) hab
    by_cases hx : x = a
    · rw [hx, hiff.mp hx, List.erase_cons_head, List.erase_cons_head]
      exact hrest
    · rw [List.erase_cons_tail (by simpa using hx),
        List.erase_cons_tail (by simpa using fun hy => hx (hiff.mpr hy))]
      exact .cons hxy ih

namespace Outbox.Alike

variable {ρ ρ' : Ticket → Ticket → Prop} {o o' o'' : Outbox} {t t' : Ticket}

theorem symm (alike : o.Alike ρ o') : o'.Alike (flip ρ) o where
  capacity_eq := alike.capacity_eq.symm
  queued_eq := alike.queued_eq.symm
  granted := alike.granted.flip
  waiting := alike.waiting.flip

theorem mono (hρ : ∀ t t', ρ t t' → ρ' t t') (alike : o.Alike ρ o') : o.Alike ρ' o' where
  capacity_eq := alike.capacity_eq
  queued_eq := alike.queued_eq
  granted := alike.granted.imp hρ
  waiting := alike.waiting.imp hρ

/-- There is one outbox that is alike, if tickets are paired one to one. -/
theorem unique (hρ : Relator.BiUnique ρ) (alike : o.Alike ρ o') (alike' : o.Alike ρ o'') :
    o' = o'' := by
  have hgranted : o'.granted = o''.granted :=
    List.right_unique_forall₂' hρ.2 alike.granted alike'.granted
  have hwaiting : o'.waiting = o''.waiting :=
    List.right_unique_forall₂' hρ.2 alike.waiting alike'.waiting
  have hcapacity : o'.capacity = o''.capacity := alike.capacity_eq.trans alike'.capacity_eq.symm
  have hqueued : o'.queued = o''.queued := alike.queued_eq.trans alike'.queued_eq.symm
  cases o'
  cases o''
  simp_all

theorem used_eq (alike : o.Alike ρ o') : o'.used = o.used := by
  unfold used
  rw [alike.queued_eq, alike.granted.length_eq]

theorem hasRoom_eq (alike : o.Alike ρ o') : o'.hasRoom = o.hasRoom := by
  have hempty : o'.waiting.isEmpty = o.waiting.isEmpty := by
    rw [Bool.eq_iff_iff, List.isEmpty_iff_length_eq_zero, List.isEmpty_iff_length_eq_zero,
      alike.waiting.length_eq]
  unfold hasRoom
  rw [alike.used_eq, alike.capacity_eq, hempty]

theorem put (alike : o.Alike ρ o') (f : Frame) : (o.put f).Alike ρ (o'.put f) where
  capacity_eq := alike.capacity_eq
  queued_eq := congrArg (· ++ [f]) alike.queued_eq
  granted := alike.granted
  waiting := alike.waiting

theorem join (alike : o.Alike ρ o') (ht : ρ t t') : (o.join t).Alike ρ (o'.join t') where
  capacity_eq := alike.capacity_eq
  queued_eq := alike.queued_eq
  granted := alike.granted
  waiting := List.rel_append alike.waiting (.cons ht .nil)

theorem isGranted_eq (hρ : Relator.BiUnique ρ) (alike : o.Alike ρ o') (ht : ρ t t') :
    o'.isGranted t' = o.isGranted t := by
  have hmem := List.rel_mem hρ ht alike.granted
  unfold isGranted
  rw [Bool.eq_iff_iff, List.contains_iff_mem, List.contains_iff_mem]
  exact hmem.symm

theorem redeem (hρ : Relator.BiUnique ρ) (alike : o.Alike ρ o') (ht : ρ t t') (f : Frame) :
    (o.redeem t f).Alike ρ (o'.redeem t' f) where
  capacity_eq := alike.capacity_eq
  queued_eq := congrArg (· ++ [f]) alike.queued_eq
  granted := forall₂_erase hρ ht alike.granted
  waiting := alike.waiting

theorem grant (alike : o.Alike ρ o') : o.grant.2.Alike ρ o'.grant.2 := by
  have hused := alike.used_eq
  obtain ⟨capacity, queued, granted, waiting⟩ := o
  obtain ⟨capacity', queued', granted', waiting'⟩ := o'
  obtain ⟨rfl, rfl, hgranted, hwaiting⟩ := alike
  unfold Outbox.grant
  -- there is a first in line in both outboxes or in neither
  cases hwaiting with
  | nil => exact ⟨rfl, rfl, hgranted, .nil⟩
  | cons hfirst hrest =>
    dsimp only
    rw [hused]
    split
    · exact ⟨rfl, rfl, List.rel_append hgranted (.cons hfirst .nil), hrest⟩
    · exact ⟨rfl, rfl, hgranted, .cons hfirst hrest⟩

theorem withdraw (hρ : Relator.BiUnique ρ) (alike : o.Alike ρ o') (ht : ρ t t') :
    (o.withdraw t).2.Alike ρ (o'.withdraw t').2 := by
  apply grant
  exact ⟨alike.capacity_eq, alike.queued_eq, forall₂_erase hρ ht alike.granted,
    forall₂_erase hρ ht alike.waiting⟩

/-- Both outboxes are without frames, or the same frame is the next to leave. -/
theorem take (alike : o.Alike ρ o') :
    (o.take = none ∧ o'.take = none) ∨
    ∃ f t t' p p', o.take = some (f, t, p) ∧ o'.take = some (f, t', p') ∧ p.Alike ρ p' := by
  unfold Outbox.take
  rw [alike.queued_eq]
  cases o.queued with
  | nil => exact .inl ⟨rfl, rfl⟩
  | cons f rest =>
    refine .inr ⟨f, _, _, _, _, rfl, rfl, grant ?_⟩
    exact ⟨alike.capacity_eq, rfl, alike.granted, alike.waiting⟩

end Outbox.Alike

/-! ## Exchanging an outbox -/

section Rebox

variable {τ : Type}

/-- The connection with another outbox. -/
def Connection.rebox (x : Connection τ) (o : Outbox) : Connection τ := { x with outbox := o }

/-- What was made of a connection, with another outbox. -/
def Turned.rebox (r : Turned τ) (o : Outbox) : Turned τ := { r with conn := r.conn.rebox o }

namespace Connection

theorem torn_rebox (x : Connection τ) (o : Outbox) (reason : CloseReason) :
    (x.rebox o).torn reason = (x.torn reason).rebox o := by
  unfold torn
  change (if x.alive = true then _ else _) = _
  split <;> rfl

variable [Transport τ] {now : Nat} {config : SocketConfig}

theorem failWriter_rebox (x : Connection τ) (o : Outbox) (reason : CloseReason) :
    (x.rebox o).failWriter now reason = (x.failWriter now reason).rebox o :=
  torn_rebox (x.stopWriter now) o reason

theorem afterSend_rebox (x : Connection τ) (o : Outbox) (kind : FrameKind) (limit : Nat)
    (p : Progress) :
    (x.rebox o).afterSend now kind limit p = (x.afterSend now kind limit p).rebox o := by
  cases p with
  | done => rfl
  | failed e => exact failWriter_rebox x o .writeError
  | panicked p => exact failWriter_rebox x o .taskFailed
  | pending =>
    rw [afterSend, afterSend]
    split
    · exact failWriter_rebox x o .writeTimeout
    · rfl

theorem sendFrame_rebox (x : Connection τ) (o : Outbox) (f : Frame) (cause : Cause) :
    (x.rebox o).sendFrame now config f cause = (x.sendFrame now config f cause).rebox o := by
  unfold sendFrame
  split
  · exact congrArg (fun r : Turned τ => r.after [.handed x.id f cause])
      (afterSend_rebox { x with link := (Transport.send now f x.link).2 } o f.kind
        (now + config.writeTimeout) (Transport.send now f x.link).1)
  · rfl

theorem finishClose_rebox (x : Connection τ) (o : Outbox) (limit : Nat) (wait : WriterPhase)
    (p : Progress) :
    (x.rebox o).finishClose now limit wait p = (x.finishClose now limit wait p).rebox o := by
  cases p with
  | done => rfl
  | failed e => rfl
  | panicked p => exact failWriter_rebox x o .taskFailed
  | pending =>
    rw [finishClose, finishClose]
    split <;> rfl

theorem closeSink_rebox (x : Connection τ) (o : Outbox) (limit : Nat) :
    (x.rebox o).closeSink now limit = (x.closeSink now limit).rebox o :=
  finishClose_rebox { x with link := (Transport.close now x.link).2 } o limit (.closingSink limit)
    (Transport.close now x.link).1

theorem afterCloseFrame_rebox (x : Connection τ) (o : Outbox) (limit : Nat) (p : Progress) :
    (x.rebox o).afterCloseFrame now limit p = (x.afterCloseFrame now limit p).rebox o := by
  cases p with
  | done => exact closeSink_rebox x o limit
  | failed e => exact finishClose_rebox x o limit (.sendingClose limit) (.failed e)
  | panicked p => exact finishClose_rebox x o limit (.sendingClose limit) (.panicked p)
  | pending => exact finishClose_rebox x o limit (.sendingClose limit) .pending

theorem failReader_rebox (x : Connection τ) (o : Outbox) (reason : CloseReason) :
    (x.rebox o).failReader now reason = (x.failReader now reason).rebox o :=
  torn_rebox (x.stopReader now) o reason

theorem takeFrame_rebox (x : Connection τ) (o : Outbox) (f : Frame) :
    (x.rebox o).takeFrame now config f = (x.takeFrame now config f).rebox o := by
  have hdata : ∀ long : Prop, [Decidable long] →
      (if long then (x.rebox o).failReader now .frameTooLarge
        else { conn := x.rebox o, again := true }) =
      (if long then x.failReader now .frameTooLarge
        else { conn := x, again := true }).rebox o := by
    intro long _
    split
    · exact failReader_rebox x o .frameTooLarge
    · rfl
  unfold takeFrame
  cases f.kind with
  | pong => rfl
  | ping => rfl
  | close => exact failReader_rebox x o .peerClosed
  | text => exact hdata _
  | binary => exact hdata _

theorem takeArrival_rebox (x : Connection τ) (o : Outbox) (deadline : Nat) (a : Arrival) :
    (x.rebox o).takeArrival now config deadline a =
      (x.takeArrival now config deadline a).rebox o := by
  cases a with
  | frame f => exact takeFrame_rebox x o f
  | ended => exact failReader_rebox x o .peerClosed
  | failed e => exact failReader_rebox x o .readError
  | panicked p => exact failReader_rebox x o .taskFailed
  | pending =>
    rw [takeArrival, takeArrival]
    split
    · exact failReader_rebox x o .readTimeout
    · rfl

theorem readerTurn_rebox (x : Connection τ) (o : Outbox) :
    (x.rebox o).readerTurn now config = (x.readerTurn now config).rebox o := by
  obtain ⟨member, createdAt, alive, handlers, outbox, writer, heartbeat, reader, link⟩ := x
  cases reader with
  | stopped => rfl
  | starting => rfl
  | reading deadline =>
    cases alive with
    | false => rfl
    | true =>
      exact takeArrival_rebox ⟨member, createdAt, true, handlers, outbox, writer, heartbeat,
        .reading deadline, (Transport.receive now link).2⟩ o deadline
        (Transport.receive now link).1

end Connection

end Rebox

/-! ## Connections -/

section Connections

variable {τ : Type} {ρ ρ' : Ticket → Ticket → Prop} {x x' : Connection τ}

/-- Nothing differs but the outboxes, and these are alike. -/
def Connection.Alike (ρ : Ticket → Ticket → Prop) (x x' : Connection τ) : Prop :=
  ∃ o, x' = x.rebox o ∧ x.outbox.Alike ρ o

/-- Turns made alike connections alike, and made the same happen. -/
structure Turned.Alike (ρ : Ticket → Ticket → Prop) (r r' : Turned τ) : Prop where
  conn : r.conn.Alike ρ r'.conn
  again_eq : r'.again = r.again
  news_eq : r'.news = r.news

theorem Turned.Alike.after {r r' : Turned τ} (alike : r.Alike ρ r') (news : List Happening) :
    (r.after news).Alike ρ (r'.after news) where
  conn := alike.conn
  again_eq := alike.again_eq
  news_eq := congrArg (· ++ news) alike.news_eq

namespace Connection.Alike

theorem symm (alike : x.Alike ρ x') : x'.Alike (flip ρ) x := by
  obtain ⟨o, rfl, ho⟩ := alike
  exact ⟨x.outbox, rfl, ho.symm⟩

theorem mono (hρ : ∀ t t', ρ t t' → ρ' t t') (alike : x.Alike ρ x') : x.Alike ρ' x' := by
  obtain ⟨o, rfl, ho⟩ := alike
  exact ⟨o, rfl, ho.mono hρ⟩

theorem outbox (alike : x.Alike ρ x') : x.outbox.Alike ρ x'.outbox := by
  obtain ⟨o, rfl, ho⟩ := alike
  exact ho

theorem alive_eq (alike : x.Alike ρ x') : x'.alive = x.alive := by
  obtain ⟨o, rfl, -⟩ := alike
  rfl

theorem writer_eq (alike : x.Alike ρ x') : x'.writer = x.writer := by
  obtain ⟨o, rfl, -⟩ := alike
  rfl

theorem with_outbox (alike : x.Alike ρ x') {o o' : Outbox} (ho : o.Alike ρ o') :
    ({ x with outbox := o } : Connection τ).Alike ρ { x' with outbox := o' } := by
  obtain ⟨_, rfl, -⟩ := alike
  exact ⟨o', rfl, ho⟩

theorem with_alive (alike : x.Alike ρ x') (a : Bool) :
    ({ x with alive := a } : Connection τ).Alike ρ { x' with alive := a } := by
  obtain ⟨o, rfl, ho⟩ := alike
  exact ⟨o, rfl, ho⟩

theorem with_handlers (alike : x.Alike ρ x') (g : List Handler → List Handler) :
    ({ x with handlers := g x.handlers } : Connection τ).Alike ρ
      { x' with handlers := g x'.handlers } := by
  obtain ⟨o, rfl, ho⟩ := alike
  exact ⟨o, rfl, ho⟩

theorem with_link (alike : x.Alike ρ x') (g : τ → τ) :
    ({ x with link := g x.link } : Connection τ).Alike ρ { x' with link := g x'.link } := by
  obtain ⟨o, rfl, ho⟩ := alike
  exact ⟨o, rfl, ho⟩

/-- What commutes with exchanging an outbox leaves it as it is, and alike connections alike. -/
theorem of_rebox {f : Connection τ → Turned τ} (hf : ∀ x o, f (x.rebox o) = (f x).rebox o)
    (alike : x.Alike ρ x') : (f x).Alike ρ (f x') := by
  obtain ⟨o, rfl, ho⟩ := alike
  have hself : f x = (f x).rebox x.outbox := hf x x.outbox
  have houtbox : (f x).conn.outbox = x.outbox := congrArg (fun r => r.conn.outbox) hself
  rw [hf]
  exact ⟨⟨o, rfl, houtbox ▸ ho⟩, rfl, rfl⟩

variable [Transport τ] {now : Nat} {config : SocketConfig}

theorem idleTurn (alike : x.Alike ρ x') (now : Nat) (config : SocketConfig) :
    (x.idleTurn now config).Alike ρ (x'.idleTurn now config) := by
  have hsend : ∀ {y y' : Connection τ}, y.Alike ρ y' → ∀ f cause,
      (y.sendFrame now config f cause).Alike ρ (y'.sendFrame now config f cause) :=
    fun h f cause => h.of_rebox (f := fun y => y.sendFrame now config f cause)
      fun y o => sendFrame_rebox y o f cause
  have htake := alike.outbox.take
  have hsame := alike
  obtain ⟨o, rfl, ho⟩ := hsame
  unfold Connection.idleTurn
  change Turned.Alike ρ _ (if (!x.alive) = true then _ else _)
  split
  · refine Turned.Alike.after ?_ [.handed x.id .close .farewell]
    exact alike.of_rebox (f := fun y =>
      ({ y with link := (Transport.send now .close x.link).2 } : Connection τ).afterCloseFrame now
        (now + config.writeTimeout) (Transport.send now .close x.link).1)
      fun y o => afterCloseFrame_rebox { y with link := (Transport.send now .close x.link).2 } o _ _
  · rcases htake with ⟨hnone, hnone'⟩ | ⟨f, t, t', p, p', hsome, hsome', hp⟩
    · rw [hnone, hnone']
      change Turned.Alike ρ _ (if x.heartbeat ≤ now then _ else _)
      dsimp only
      split
      · exact hsend (y := { x with
          heartbeat := Hub.nextHeartbeat now x.heartbeat config.heartbeat }) ⟨o, rfl, ho⟩ .ping
          .heartbeat
      · exact ⟨⟨o, rfl, ho⟩, rfl, rfl⟩
    · rw [hsome, hsome']
      exact hsend (alike.with_outbox hp) f .queued

/-- **A turn of the writer** does the same for alike connections. -/
theorem writerTurn (alike : x.Alike ρ x') (now : Nat) (config : SocketConfig) :
    (x.writerTurn now config).Alike ρ (x'.writerTurn now config) := by
  unfold Connection.writerTurn
  rw [alike.writer_eq]
  cases x.writer with
  | stopped => exact alike.of_rebox (f := fun y => { conn := y }) fun _ _ => rfl
  | starting =>
    exact alike.of_rebox (f := fun y =>
      { conn := { y with writer := .idle, heartbeat := now + config.heartbeat }, again := true })
      fun _ _ => rfl
  | idle => exact alike.idleTurn now config
  | sending kind limit =>
    exact alike.of_rebox (f := fun y =>
      ({ y with link := (Transport.resume now y.link).2 } : Connection τ).afterSend now kind limit
        (Transport.resume now y.link).1)
      fun y o => afterSend_rebox { y with link := (Transport.resume now y.link).2 } o _ _ _
  | sendingClose limit =>
    exact alike.of_rebox (f := fun y =>
      ({ y with link := (Transport.resume now y.link).2 } : Connection τ).afterCloseFrame now limit
        (Transport.resume now y.link).1)
      fun y o => afterCloseFrame_rebox { y with link := (Transport.resume now y.link).2 } o _ _
  | closingSink limit =>
    exact alike.of_rebox (f := fun y => y.closeSink now limit) fun y o => closeSink_rebox y o limit

/-- **A turn of the reader** does the same for alike connections. -/
theorem readerTurn (alike : x.Alike ρ x') (now : Nat) (config : SocketConfig) :
    (x.readerTurn now config).Alike ρ (x'.readerTurn now config) :=
  alike.of_rebox (f := fun y => y.readerTurn now config) fun y o => readerTurn_rebox y o

theorem dispatched?_eq (alike : x.Alike ρ x') (now : Nat) (config : SocketConfig) :
    x'.dispatched? now config = x.dispatched? now config := by
  obtain ⟨o, rfl, -⟩ := alike
  rfl

end Connection.Alike

/-! ## Rest -/

variable [Transport τ] {now : Nat} {config : SocketConfig}

/-- A turn of the writer would change nothing. -/
def Connection.WriterRests (now : Nat) (config : SocketConfig) (x : Connection τ) : Prop :=
  x.writerTurn now config = { conn := x }

/-- A turn of the reader would change nothing, and give the handlers nothing. -/
def Connection.ReaderRests (now : Nat) (config : SocketConfig) (x : Connection τ) : Prop :=
  x.readerTurn now config = { conn := x } ∧ x.dispatched? now config = none

omit [Transport τ] in
theorem Turned.Alike.rests (hρ : Relator.BiUnique ρ) {r' : Turned τ}
    (alike : Turned.Alike ρ { conn := x } r') (hx : x.Alike ρ x') : r' = { conn := x' } := by
  obtain ⟨⟨o, hconn, ho⟩, hagain, hnews⟩ := alike
  obtain ⟨o', rfl, ho'⟩ := hx
  obtain rfl := ho.unique hρ ho'
  cases r'
  simp_all

theorem Connection.Alike.writerRests (hρ : Relator.BiUnique ρ) (alike : x.Alike ρ x')
    (rests : x.WriterRests now config) : x'.WriterRests now config := by
  have hturn := alike.writerTurn now config
  rw [rests] at hturn
  exact hturn.rests hρ alike

theorem Connection.Alike.readerRests (hρ : Relator.BiUnique ρ) (alike : x.Alike ρ x')
    (rests : x.ReaderRests now config) : x'.ReaderRests now config := by
  have hturn := alike.readerTurn now config
  rw [rests.1] at hturn
  exact ⟨hturn.rests hρ alike, (alike.dispatched?_eq now config).trans rests.2⟩

end Connections

end Switchboard
