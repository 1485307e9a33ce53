import Switchboard.Proofs.Lifecycle
import Switchboard.Proofs.Timing
import Switchboard.Transport.Scripted

/-!
# Why a connection was torn down

`Hub.Ends id h e reason` says that the event `e` at the hub `h` is a cause for the end of the
connection `id`, and which: a removal that counted, something that the reader took, or something
that the link said of a write. `closed_by_first_cause` is the law: a connection was torn down for a
reason exactly if the first cause in the run is one for this reason, and whatever happens later does
not change it.

## Shape of the proof

What an event does to a connection is one of few things (`Hub.Passage`). Only turns of its tasks
tear a connection down for a reason other than a removal, and there the cause is what the link said
(`Hub.ends_of_closed`, `Hub.closed_of_ends`). The two deadlines are read off the phases of the
tasks: `Hub.Deadline` ties the reader's to the last sign of life, `Hub.PendingSince` the writer's to
the last frame that was handed over.
-/

namespace Switchboard

/-! ## Teardowns in a history -/

theorem mem_closures {id : String} {reason : CloseReason} {history : List Happening} :
    (id, reason) ∈ closures history ↔ Happening.closed id reason ∈ history := by
  rw [closures, List.mem_filterMap]
  constructor
  · rintro ⟨x, hx, heq⟩
    cases x with
    | closed d r =>
      obtain ⟨rfl, rfl⟩ := Prod.mk.inj (Option.some.inj heq)
      exact hx
    | entered | handed | removal => cases heq
  · exact fun hx => ⟨_, hx, rfl⟩

theorem mem_removals {id : String} {history : List Happening} :
    id ∈ removals history ↔ Happening.removal id true ∈ history := by
  rw [removals, List.mem_filterMap]
  constructor
  · rintro ⟨x, hx, heq⟩
    cases x with
    | removal d won =>
      cases won with
      | true =>
        obtain rfl := Option.some.inj heq
        exact hx
      | false => cases heq
    | entered | handed | closed => cases heq
  · exact fun hx => ⟨_, hx, rfl⟩

namespace Hub

variable {τ : Type} {h h' : Hub τ} {id : String} {c : Connection τ} {reason reason' : CloseReason}

/-- A connection is torn down for one reason. -/
theorem closed_unique (sound : h.ledger.lives.Sound) (hclosed : .closed id reason ∈ h.history)
    (hclosed' : .closed id reason' ∈ h.history) : reason' = reason := by
  have hnodup : ((closures h.history).map Prod.fst).Nodup := by
    have hperm : ((closures h.history).map Prod.fst).Perm (Lives.deadOn h.ledger.roll) :=
      sound.closures_perm
    exact hperm.nodup_iff.mpr (sound.nodup_ids.sublist (List.filter_sublist.map _))
  have hsame := List.inj_on_of_nodup_map hnodup (mem_closures.mpr hclosed)
    (mem_closures.mpr hclosed') rfl
  exact (congrArg Prod.snd hsame).symm

/-- A connection is dead exactly if it was torn down. -/
theorem dead_iff_closed (sound : h.ledger.lives.Sound) (hc : h.find? id = some c) :
    c.alive = false ↔ ∃ reason, .closed id reason ∈ h.history := by
  have hperm : ((closures h.history).map Prod.fst).Perm (Lives.deadOn h.ledger.roll) :=
    sound.closures_perm
  have hdead : c.alive = false ↔ id ∈ Lives.deadOn h.ledger.roll := by
    rw [Lives.mem_deadOn]
    constructor
    · intro hdead
      have hid : c.member.id = id := id_of_find? hc
      exact ⟨c.member, (mem_roll_iff sound).mpr ⟨c, by rw [hid]; exact hc, rfl, hdead⟩, hid⟩
    · rintro ⟨m, hm, rfl⟩
      obtain ⟨c', hc', -, hdead⟩ := (mem_roll_iff sound).mp hm
      obtain rfl := Option.some.inj (hc.symm.trans hc')
      exact hdead
  rw [hdead, ← hperm.mem_iff]
  constructor
  · intro hid
    obtain ⟨⟨d, reason⟩, hx, rfl⟩ := List.mem_map.mp hid
    exact ⟨reason, mem_closures.mp hx⟩
  · rintro ⟨reason, hclosed⟩
    exact List.mem_map.mpr ⟨(id, reason), mem_closures.mpr hclosed, rfl⟩

/-- Whoever was torn down had been opened. -/
theorem found_of_closed (sound : h.ledger.lives.Sound) (hclosed : .closed id reason ∈ h.history) :
    ∃ c, h.find? id = some c := by
  have hperm : ((closures h.history).map Prod.fst).Perm (Lives.deadOn h.ledger.roll) :=
    sound.closures_perm
  have hid : id ∈ (closures h.history).map Prod.fst :=
    List.mem_map.mpr ⟨(id, reason), mem_closures.mpr hclosed, rfl⟩
  obtain ⟨m, hm, rfl⟩ := Lives.mem_deadOn.mp (hperm.mem_iff.mp hid)
  obtain ⟨c, hc, -⟩ := (mem_roll_iff sound).mp hm
  exact ⟨c, hc⟩

/-- A connection was removed exactly if a removal of it was answered to have counted. -/
theorem closed_removed_iff (sound : h.ledger.lives.Sound) (id : String) :
    .closed id .removed ∈ h.history ↔ .removal id true ∈ h.history := by
  have heq : removals h.history =
      ((closures h.history).filter fun c => c.2 = .removed).map Prod.fst := sound.removals_eq
  rw [← mem_removals, heq, ← mem_closures]
  simp

end Hub

/-! ## Causes -/

namespace Connection

variable {τ : Type} [Transport τ] {now limit : Nat} {config : SocketConfig} {c : Connection τ}
  {r : Turned τ} {reason : CloseReason} {p : Progress}

/-- The frame that the writer of a connection hands over next, if it waits for something to do. -/
def next? (now : Nat) (c : Connection τ) : Option Frame :=
  match c.outbox.take with
  | some (f, _, _) => if f.isSendable then some f else none
  | none => if c.heartbeat ≤ now then some .ping else none

/-- What the link says of the write that the writer of a connection begins or goes on with in a
turn, and until when this may take. The writing of the close frame is not meant. -/
def written? (now : Nat) (config : SocketConfig) (c : Connection τ) : Option (Progress × Nat) :=
  match c.writer with
  | .idle =>
    if c.alive then
      (c.next? now).map fun f => ((Transport.send now f c.link).1, now + config.writeTimeout)
    else none
  | .sending _ limit => some ((Transport.resume now c.link).1, limit)
  | .starting | .sendingClose _ | .closingSink _ | .stopped => none

/-- The writer of a living connection writes nothing in a turn, or begins a write, or goes on with
one. -/
inductive Tries (now : Nat) (config : SocketConfig) (c : Connection τ) : Turned τ → Prop
  | nothing {r : Turned τ} (none : c.written? now config = none) (quiet : r.news = [])
      (waits : ∀ kind limit, r.conn.writer ≠ .sending kind limit) : Tries now config c r
  | begins {c' : Connection τ} {f : Frame} {cause : Cause} {p : Progress}
      (written : c.written? now config = some (p, now + config.writeTimeout))
      (same : c'.id = c.id) (alive : c'.alive = true) :
      Tries now config c ((c'.afterSend now f.kind (now + config.writeTimeout) p).after
        [.handed c.id f cause])
  | goesOn {c' : Connection τ} {kind : FrameKind} {limit : Nat} {p : Progress}
      (written : c.written? now config = some (p, limit)) (sending : c.writer = .sending kind limit)
      (same : c'.id = c.id) (alive : c'.alive = true) :
      Tries now config c (c'.afterSend now kind limit p)

theorem take_eq_none {o : Outbox} (hempty : o.queued = []) : o.take = none := by
  unfold Outbox.take
  rw [hempty]

theorem Writes.tries (writes : c.Writes now config r) (halive : c.alive = true) :
    Tries now config c r := by
  cases writes with
  | start starting =>
    refine .nothing ?_ rfl (by simp)
    rw [written?, starting]
  | rest idle empty early =>
    have hnext : c.next? now = none := by
      rw [next?, take_eq_none empty]
      exact if_neg (Nat.not_le_of_lt early)
    refine .nothing ?_ rfl ?_
    · rw [written?, idle, hnext]
      simp
    · intro kind limit hwriter
      rw [idle] at hwriter
      cases hwriter
  | drop idle taken unsendable =>
    refine .nothing ?_ rfl ?_
    · rw [written?, idle, next?, taken]
      simp [unsendable]
    · intro kind limit hwriter
      change c.writer = _ at hwriter
      rw [idle] at hwriter
      cases hwriter
  | @queued f t o idle taken sendable =>
    refine .begins ?_ rfl halive
    rw [written?, idle, next?, taken]
    simp [sendable, halive]
  | heartbeat idle empty due =>
    refine .begins ?_ rfl halive
    rw [written?, idle, next?, take_eq_none empty]
    simp [due, halive]
  | resume sending =>
    refine .goesOn ?_ sending rfl halive
    rw [written?, sending]

theorem tries_writerTurn (now : Nat) (config : SocketConfig) (halive : c.alive = true)
    (hwriting : c.Writing) : Tries now config c (c.writerTurn now config) :=
  (writes_writerTurn halive hwriting).tries halive

theorem news_afterSend (now : Nat) (c : Connection τ) (kind : FrameKind) (limit : Nat)
    (p : Progress) (halive : c.alive = true) :
    ∀ x, x ∈ (c.afterSend now kind limit p).news ↔
      ∃ reason, WriteFault (limit ≤ now) p reason ∧ x = .closed c.id reason := by
  intro x
  constructor
  · rcases afterSend_cases now c kind limit p with heq | ⟨-, heq⟩ | ⟨reason, fault, heq⟩
    · rw [heq]
      exact fun hx => absurd hx List.not_mem_nil
    · rw [heq]
      exact fun hx => absurd hx List.not_mem_nil
    · rw [heq]
      exact fun hx => ⟨reason, fault, closed_of_mem_torn (c := c.stopWriter now) hx⟩
  · rintro ⟨reason, fault, rfl⟩
    have hstopped : (c.stopWriter now).alive = true := halive
    rw [afterSend_of_fault fault, failWriter, torn_of_alive hstopped]
    exact List.mem_singleton.mpr rfl

/-- **What the writer tears down for.** A turn of the writer of a living connection tears it down
for exactly those faults that the link reports of its write. -/
theorem Tries.closed_iff (tries : Tries now config c r) :
    .closed c.id reason ∈ r.news ↔
      ∃ p limit, c.written? now config = some (p, limit) ∧ WriteFault (limit ≤ now) p reason := by
  -- a write that begins and one that goes on differ only in what is told before its outcome
  have hafter : ∀ {c' : Connection τ} {kind : FrameKind} {limit : Nat} {p : Progress}
      {before : List Happening}, (∀ x ∈ before, x.isHanded c.id = true) → c'.id = c.id →
      c'.alive = true → c.written? now config = some (p, limit) →
      (.closed c.id reason ∈ ((c'.afterSend now kind limit p).after before).news ↔
        ∃ p limit, c.written? now config = some (p, limit) ∧
          WriteFault (limit ≤ now) p reason) := by
    intro c' kind limit p before hbefore hid halive hwritten
    have hno : .closed c.id reason ∉ before := by
      intro hx
      have := hbefore _ hx
      simp [Happening.isHanded] at this
    rw [Turned.after, List.mem_append, or_iff_left hno, news_afterSend _ _ _ _ _ halive, hwritten,
      hid]
    constructor
    · rintro ⟨other, fault, heq⟩
      obtain rfl := (Happening.closed.inj heq).2
      exact ⟨p, limit, rfl, fault⟩
    · rintro ⟨p', limit', heq, fault⟩
      obtain ⟨rfl, rfl⟩ := Prod.mk.inj (Option.some.inj heq)
      exact ⟨reason, fault, rfl⟩
  cases tries with
  | nothing none quiet waits =>
    rw [quiet, none]
    simp
  | begins written same alive =>
    exact hafter (by simp [Happening.isHanded]) same alive written
  | @goesOn c' kind limit p written sending same alive =>
    have hsame : c'.afterSend now kind limit p = (c'.afterSend now kind limit p).after [] := by
      rw [Turned.after, List.append_nil]
    rw [hsame]
    exact hafter (by simp) same alive written

theorem news_takeArrival (now : Nat) (config : SocketConfig) (c : Connection τ) (deadline : Nat)
    (a : Arrival) (halive : c.alive = true) :
    ∀ x, x ∈ (c.takeArrival now config deadline a).news ↔
      ∃ reason, ReadFault config.maxMessageSize (deadline ≤ now) a reason ∧
        x = .closed c.id reason := by
  intro x
  constructor
  · rcases takeArrival_cases now config c deadline a with
      ⟨f, -, -, heq⟩ | ⟨f, -, -, heq⟩ | ⟨-, -, heq⟩ | ⟨reason, fault, heq⟩
    · rw [heq]
      exact fun hx => absurd hx List.not_mem_nil
    · rw [heq]
      exact fun hx => absurd hx List.not_mem_nil
    · rw [heq]
      exact fun hx => absurd hx List.not_mem_nil
    · rw [heq]
      exact fun hx => ⟨reason, fault, closed_of_mem_torn (c := c.stopReader now) hx⟩
  · rintro ⟨reason, fault, rfl⟩
    have hstopped : (c.stopReader now).alive = true := halive
    rw [takeArrival_of_fault fault, failReader, torn_of_alive hstopped]
    exact List.mem_singleton.mpr rfl

/-- **What the reader tears down for.** A turn of the reader of a living connection tears it down
for exactly those faults that it takes. -/
theorem closed_mem_readerTurn_iff (halive : c.alive = true) :
    .closed c.id reason ∈ (c.readerTurn now config).news ↔
      ∃ deadline a, c.reader = .reading deadline ∧ c.taken? now = some a ∧
        ReadFault config.maxMessageSize (deadline ≤ now) a reason := by
  cases hphase : c.reader with
  | starting =>
    rw [readerTurn, hphase]
    simp
  | stopped =>
    rw [readerTurn, hphase]
    simp
  | reading deadline =>
    have htaken : c.taken? now = some (Transport.receive now c.link).1 := by
      rw [taken?, hphase]
      exact if_pos halive
    have hnews := news_takeArrival now config { c with link := (Transport.receive now c.link).2 }
      deadline (Transport.receive now c.link).1 halive (.closed c.id reason)
    rw [readerTurn_of_reading halive hphase, hnews, htaken]
    constructor
    · rintro ⟨other, fault, heq⟩
      obtain rfl := (Happening.closed.inj heq).2
      exact ⟨deadline, _, rfl, rfl, fault⟩
    · rintro ⟨deadline', a, hdeadline, ha, fault⟩
      obtain rfl := ReaderPhase.reading.inj hdeadline
      obtain rfl := Option.some.inj ha
      exact ⟨reason, fault, rfl⟩

end Connection

namespace Hub

variable {τ : Type} [Transport τ] {h h' : Hub τ} {id : String} {c : Connection τ}
  {reason reason' : CloseReason} {e : Event τ}

open Connection (ReadFault WriteFault)

/-- An event is a cause for the end of the connection `id`. -/
inductive Ends (id : String) (h : Hub τ) : Event τ → CloseReason → Prop
  /-- A removal was answered to have counted. -/
  | removed {e : Event τ} (won : .removal id true ∈ h.newsSince (h.step e)) :
      Ends id h e .removed
  /-- The reader took a fault. -/
  | read {c : Connection τ} {deadline : Nat} {a : Arrival} {reason : CloseReason}
      {roomFirst : Nat → Bool} (found : h.find? id = some c)
      (reading : c.reader = .reading deadline)
      (taken : c.taken? h.now = some a)
      (fault : ReadFault h.config.maxMessageSize (deadline ≤ h.now) a reason) :
      Ends id h (.turn (.reader id) roomFirst) reason
  /-- The link said that a write came to a fault. -/
  | write {c : Connection τ} {p : Progress} {limit : Nat} {reason : CloseReason}
      {roomFirst : Nat → Bool} (found : h.find? id = some c)
      (written : c.written? h.now h.config = some (p, limit))
      (fault : WriteFault (limit ≤ h.now) p reason) :
      Ends id h (.turn (.writer id) roomFirst) reason

/-- The writer of the connection `id`, if that is alive, has no part yet in its end. -/
def Writing (id : String) (h : Hub τ) : Prop :=
  ∀ c, h.find? id = some c → c.alive = true → c.Writing

/-- What is new is in the history. -/
theorem mem_history_step_iff (h : Hub τ) (e : Event τ) (x : Happening) :
    x ∈ (h.step e).history ↔ x ∈ h.history ∨ x ∈ h.newsSince (h.step e) := by
  obtain ⟨news, heq⟩ := exists_news h e
  rw [newsSince_eq heq, heq, List.mem_append, List.mem_reverse, or_comm]

omit [Transport τ] in
theorem alive_of_not_closed (sound : h.ledger.lives.Sound) (hc : h.find? id = some c)
    (hopen : ∀ reason, .closed id reason ∉ h.history) : c.alive = true := by
  cases halive : c.alive with
  | true => rfl
  | false =>
    obtain ⟨reason, hclosed⟩ := (dead_iff_closed sound hc).mp halive
    exact absurd hclosed (hopen reason)

/-- A removal that is new was answered in this event. -/
theorem ends_of_closed_removed (sound : h.ledger.lives.Sound)
    (sound' : (h.step e).ledger.lives.Sound)
    (hopen : .closed id .removed ∉ h.history) (hclosed : .closed id .removed ∈ (h.step e).history) :
    Ends id h e .removed := by
  have hwon := (closed_removed_iff sound' id).mp hclosed
  rcases (mem_history_step_iff h e _).mp hwon with hold | hnew
  · exact absurd ((closed_removed_iff sound id).mpr hold) hopen
  · exact .removed hnew

/-- **Whoever is torn down has a cause.** -/
theorem ends_of_closed (hallowed : e.Allowed h) (sound : h.ledger.lives.Sound)
    (sound' : (h.step e).ledger.lives.Sound) (writing : Writing id h)
    (hopen : ∀ reason, .closed id reason ∉ h.history)
    (hclosed : .closed id reason ∈ (h.step e).history) : Ends id h e reason := by
  have hnew : .closed id reason ∈ h.newsSince (h.step e) :=
    ((mem_history_step_iff h e _).mp hclosed).resolve_left (hopen reason)
  -- what happened from outside can only be a removal
  have houtside : (Happening.closed id reason).fromOutside = true → Ends id h e reason := by
    intro hfrom
    cases reason with
    | removed => exact ends_of_closed_removed sound sound' (hopen _) hclosed
    | _ => simp [Happening.fromOutside] at hfrom
  cases passage_step id hallowed with
  | absent fresh gone =>
    obtain ⟨c, hc⟩ := found_of_closed sound' hclosed
    rw [gone] at hc
    cases hc
  | opened fresh opens =>
    rw [opens.history_eq] at hclosed
    exact absurd hclosed (hopen reason)
  | writer found moves again =>
    have halive := alive_of_not_closed sound found hopen
    have htries := Connection.tries_writerTurn h.now h.config halive (writing _ found halive)
    rw [moves.newsSince, List.mem_reverse] at hnew
    obtain rfl := id_of_find? found
    obtain ⟨p, limit, hwritten, fault⟩ := htries.closed_iff.mp hnew
    exact .write found hwritten fault
  | reader found moves spares again =>
    have halive := alive_of_not_closed sound found hopen
    rw [moves.newsSince_spares spares, List.mem_append, List.mem_reverse] at hnew
    rcases hnew with hnew | hnew
    · obtain rfl := id_of_find? found
      obtain ⟨deadline, a, hreading, htaken, fault⟩ :=
        (Connection.closed_mem_readerTurn_iff halive).mp hnew
      exact .read found hreading htaken fault
    · exact houtside (spares.newsSince _ hnew rfl)
  | @pass c now wallClock found =>
    have hsame : (h.step (.pass now wallClock)).history = h.history := history_moveClock h now
    rw [hsame] at hclosed
    exact absurd hclosed (hopen reason)
  | spared found outside spares => exact houtside (spares.newsSince _ hnew rfl)

/-- **A cause tears down.** -/
theorem closed_of_ends (hallowed : e.Allowed h) (sound : h.ledger.lives.Sound)
    (sound' : (h.step e).ledger.lives.Sound) (writing : Writing id h)
    (hopen : ∀ reason, .closed id reason ∉ h.history) (ends : Ends id h e reason) :
    .closed id reason ∈ (h.step e).history := by
  cases ends with
  | removed won =>
    exact (closed_removed_iff sound' id).mpr ((mem_history_step_iff h e _).mpr (.inr won))
  | read found reading taken fault =>
    have halive := alive_of_not_closed sound found hopen
    obtain ⟨⟨h', moves, spares⟩, -⟩ := moves_reader found _
    refine (mem_history_step_iff h _ _).mpr (.inr ?_)
    rw [step, moves.newsSince_spares spares]
    refine List.mem_append_left _ (List.mem_reverse.mpr ?_)
    obtain rfl := id_of_find? found
    exact (Connection.closed_mem_readerTurn_iff halive).mpr ⟨_, _, reading, taken, fault⟩
  | write found written fault =>
    have halive := alive_of_not_closed sound found hopen
    have htries := Connection.tries_writerTurn h.now h.config halive (writing _ found halive)
    obtain ⟨moves, -⟩ := moves_writer found _
    refine (mem_history_step_iff h _ _).mpr (.inr ?_)
    rw [step, moves.newsSince, List.mem_reverse]
    obtain rfl := id_of_find? found
    exact htries.closed_iff.mpr ⟨_, _, written, fault⟩

end Hub

/-! ## Since when a task waits -/

namespace Connection

variable {τ : Type} [Transport τ] {now limit deadline : Nat} {config : SocketConfig}
  {c c' : Connection τ} {r : Turned τ} {kind : FrameKind} {p : Progress}
  {signs : List (Nat × Sign)} {handed : List Nat}

/-- What the phases of the tasks say of the past: the reader's deadline is counted from the last
sign of life, and a pending write from the last frame that was handed over. -/
structure Traced (config : SocketConfig) (signs : List (Nat × Sign)) (handed : List Nat)
    (c : Connection τ) : Prop where
  writing : c.alive = true → c.Writing
  reading : ∀ deadline, c.reader = .reading deadline →
    ∃ s ∈ signs.getLast?, deadline = s.1 + config.readTimeout
  sending : ∀ kind limit, c.alive = true → c.writer = .sending kind limit →
    ∃ t ∈ handed.getLast?, limit = t + config.writeTimeout

omit [Transport τ] in
theorem Traced.of_same (traced : c.Traced config signs handed) (hwriter : c'.writer = c.writer)
    (hreader : c'.reader = c.reader) (halive : c'.alive = true → c.alive = true) :
    c'.Traced config signs handed where
  writing hlives := by
    have hwriting := traced.writing (halive hlives)
    unfold Writing at hwriting ⊢
    rwa [hwriter]
  reading deadline hreading := traced.reading deadline (hreader ▸ hreading)
  sending kind limit hlives hsending :=
    traced.sending kind limit (halive hlives) (hwriter ▸ hsending)

/-- A deadline is set by a sign of life. -/
theorem reading_of_readerTurn
    (hreading : (c.readerTurn now config).conn.reader = .reading deadline) :
    (∃ s, c.sign? now = some s ∧ deadline = now + config.readTimeout) ∨
      c.sign? now = none ∧ c.reader = .reading deadline := by
  cases hphase : c.reader with
  | starting =>
    rw [readerTurn, hphase] at hreading
    rw [sign?, hphase]
    exact .inl ⟨_, rfl, (ReaderPhase.reading.inj hreading).symm⟩
  | stopped =>
    rw [readerTurn, hphase] at hreading
    change c.reader = _ at hreading
    rw [hphase] at hreading
    cases hreading
  | reading was =>
    cases halive : c.alive with
    | false =>
      rw [readerTurn, hphase] at hreading
      simp [halive, stopReader] at hreading
    | true =>
      have htaken : c.taken? now = some (Transport.receive now c.link).1 := by
        rw [taken?, hphase]
        exact if_pos halive
      rw [readerTurn_of_reading halive hphase] at hreading
      rw [sign?, hphase, htaken]
      dsimp only
      rcases takeArrival_cases now config { c with link := (Transport.receive now c.link).2 } was
          (Transport.receive now c.link).1 with
        ⟨f, ha, hpong, heq⟩ | ⟨f, ha, hother, heq⟩ | ⟨ha, -, heq⟩ | ⟨reason, -, heq⟩
      · rw [heq] at hreading
        rw [ha]
        exact .inl ⟨.pong, if_pos hpong, (ReaderPhase.reading.inj hreading).symm⟩
      · rw [heq] at hreading
        rw [ha]
        exact .inr ⟨if_neg hother, hphase.symm.trans hreading⟩
      · rw [heq] at hreading
        rw [ha]
        exact .inr ⟨rfl, hphase.symm.trans hreading⟩
      · rw [heq, failReader, conn_torn] at hreading
        cases hreading

/-- What a writer waits for was begun in its last turn, or before. -/
theorem Tries.written_of_sending (tries : Tries now config c r)
    (hsending : r.conn.writer = .sending kind limit) (halive : r.conn.alive = true) :
    ∃ p, c.written? now config = some (p, limit) := by
  have hafter : ∀ {c' : Connection τ} {kind' : FrameKind} {limit' : Nat} {p : Progress},
      (c'.afterSend now kind' limit' p).conn.writer = .sending kind limit →
      (c'.afterSend now kind' limit' p).conn.alive = true → limit' = limit := by
    intro c' kind' limit' p hsending halive
    rcases afterSend_cases now c' kind' limit' p with heq | ⟨-, heq⟩ | ⟨reason, -, heq⟩
    · rw [heq] at hsending
      cases hsending
    · rw [heq] at hsending
      exact (WriterPhase.sending.inj hsending).2
    · rw [heq, failWriter, conn_torn] at halive
      cases halive
  cases tries with
  | nothing none quiet waits => exact absurd hsending (waits kind limit)
  | begins written same alive =>
    obtain rfl := hafter hsending halive
    exact ⟨_, written⟩
  | goesOn written sending same alive =>
    obtain rfl := hafter hsending halive
    exact ⟨_, written⟩

theorem le_limit_of_written {ready : Prop} (hwritten : c.written? now config = some (p, limit))
    (awake : c.WriterAwake ready now) : now ≤ limit := by
  unfold written? at hwritten
  unfold WriterAwake at awake
  cases hphase : c.writer with
  | idle =>
    rw [hphase] at hwritten
    by_cases halive : c.alive = true
    · simp only [halive, if_true, Option.map_eq_some_iff] at hwritten
      obtain ⟨f, -, heq⟩ := hwritten
      obtain ⟨-, rfl⟩ := Prod.mk.inj heq
      omega
    · simp [halive] at hwritten
  | sending kind limit' =>
    rw [hphase] at hwritten awake
    obtain ⟨-, rfl⟩ := Prod.mk.inj (Option.some.inj hwritten)
    exact awake.1
  | starting | sendingClose | closingSink | stopped =>
    rw [hphase] at hwritten
    cases hwritten

/-- What happens in a write is a teardown, if anything. -/
theorem closed_of_mem_afterSend {x : Happening}
    (hx : x ∈ (c.afterSend now kind limit p).news) : ∃ reason, x = .closed c.id reason := by
  rcases afterSend_cases now c kind limit p with heq | ⟨-, heq⟩ | ⟨reason, -, heq⟩
  · rw [heq] at hx
    cases hx
  · rw [heq] at hx
    cases hx
  · rw [heq] at hx
    exact ⟨reason, closed_of_mem_torn (c := c.stopWriter now) hx⟩

theorem instants_afterSend {sort : Happening → Bool}
    (hsort : ∀ id reason, sort (.closed id reason) = false) (now : Nat) (c : Connection τ)
    (kind : FrameKind) (limit : Nat) (p : Progress) :
    instants sort ((c.afterSend now kind limit p).news.reverse.map (now, ·)) = [] := by
  apply instants_eq_nil
  intro x hx
  obtain ⟨reason, rfl⟩ := closed_of_mem_afterSend (List.mem_reverse.mp hx)
  exact hsort _ reason

theorem instants_after_afterSend {sort : Happening → Bool}
    (hsort : ∀ id reason, sort (.closed id reason) = false) (now : Nat) (c : Connection τ)
    (kind : FrameKind) (limit : Nat) (p : Progress) (before : List Happening) :
    instants sort (((c.afterSend now kind limit p).after before).news.reverse.map (now, ·)) =
      instants sort (before.reverse.map (now, ·)) := by
  rw [Turned.after, List.reverse_append, List.map_append, instants_append,
    instants_afterSend hsort, List.append_nil]

/-- A write is begun by handing a frame over. -/
theorem Tries.limit_eq (tries : Tries now config c r)
    (hwritten : c.written? now config = some (p, limit)) (halive : c.alive = true)
    (traced : c.Traced config signs handed) :
    ∃ t ∈ (handed ++ instants (Happening.isHanded c.id) (r.news.reverse.map (now, ·))).getLast?,
      limit = t + config.writeTimeout := by
  cases tries with
  | nothing none quiet waits =>
    rw [none] at hwritten
    cases hwritten
  | begins written same alive =>
    obtain ⟨rfl, rfl⟩ := Prod.mk.inj (Option.some.inj (written.symm.trans hwritten))
    rw [instants_after_afterSend fun _ _ => rfl]
    refine ⟨now, ?_, rfl⟩
    simp [instants, Happening.isHanded]
  | @goesOn c' kind limit' p' written sending same alive =>
    obtain ⟨rfl, rfl⟩ := Prod.mk.inj (Option.some.inj (written.symm.trans hwritten))
    rw [instants_afterSend fun _ _ => rfl, List.append_nil]
    simpa using traced.sending kind limit' halive sending

end Connection

namespace Hub

variable {τ : Type} [Transport τ] {h h' h'' : Hub τ} {id : String} {c : Connection τ} {e : Event τ}
  {es before : List (Event τ)} {signs : List (Nat × Sign)} {handed : List Nat}
  {reason other : CloseReason}

/-- The connection `id`, if there is one, tells of the past what its tasks say. -/
def Traced (id : String) (signs : List (Nat × Sign)) (handed : List Nat) (h : Hub τ) : Prop :=
  ∀ c, h.find? id = some c → c.Traced h.config signs handed

theorem sign?_eq_none (hturn : ¬ e.IsTurnOf id) (h : Hub τ) : e.sign? id h = none := by
  cases e with
  | turn t roomFirst =>
    cases t with
    | reader d => exact if_neg hturn
    | writer d => rfl
    | call number => rfl
  | _ => rfl

omit [Transport τ] in
theorem Opens.traced {o : ConnectOptions} {link : τ} (opens : Opens id h o link h') :
    Traced id signs handed h' := by
  intro c hc
  obtain rfl := Option.some.inj (opens.find?_self.symm.trans hc)
  refine ⟨fun _ => trivial, fun _ hreading => ?_, fun _ _ _ hsending => ?_⟩
  · cases hreading
  · cases hsending

omit [Transport τ] in
theorem Spares.traced (spares : Spares id h h') (hc : h.find? id = some c)
    (traced : c.Traced h.config signs handed) : Traced id signs handed h' := by
  intro c' hc'
  obtain ⟨c'', hfind, steady, -⟩ := spares.conn c hc
  obtain rfl : c' = c'' := Option.some.inj (hc'.symm.trans hfind)
  rw [spares.config_eq]
  exact traced.of_same steady.writer_eq steady.reader_eq steady.alive_of

omit [Transport τ] in
/-- Nothing is handed over by what spares a connection. -/
theorem Spares.instants (spares : Spares id h h') {sort : Happening → Bool}
    (hsort : ∀ x : Happening, x.isHanded id = false → sort x = false) (now : Nat) :
    instants sort ((h.newsSince h').map (now, ·)) = [] :=
  instants_eq_nil fun x hx => hsort x (isHanded_of_fromOutside (spares.newsSince x hx))

theorem Moves.traced_writer (moves : Moves id (.writer id) (c.writerTurn h.now h.config) h h')
    (hc : h.find? id = some c) (traced : c.Traced h.config signs handed) :
    Traced id signs (handed ++ instants (Happening.isHanded id) ((h.newsSince h').map (h.now, ·)))
      h' := by
  intro c' hc'
  obtain rfl := Option.some.inj (moves.find?_self.symm.trans hc')
  obtain rfl := id_of_find? hc
  have keeps := Connection.keepsReader_writerTurn h.now h.config c
  rw [moves.config_eq]
  constructor
  · intro halive
    have hwriting := traced.writing (keeps.alive_of halive)
    have hawake : (c.writerTurn h.now h.config).conn.WriterAwake True h.now :=
      Connection.writerAwake_of_writes
        (Connection.writes_writerTurn (keeps.alive_of halive) hwriting) halive fun _ => trivial
    exact hawake.writing
  · intro deadline hreading
    exact traced.reading deadline (keeps.reader_eq ▸ hreading)
  · intro kind limit halive hsending
    have hlives := keeps.alive_of halive
    have htries := Connection.tries_writerTurn h.now h.config hlives (traced.writing hlives)
    obtain ⟨p, hwritten⟩ := htries.written_of_sending hsending halive
    rw [moves.newsSince]
    exact htries.limit_eq hwritten hlives traced

theorem Moves.traced_reader (moves : Moves id (.reader id) (c.readerTurn h.now h.config) h h')
    (traced : c.Traced h.config signs handed) :
    (c.readerTurn h.now h.config).conn.Traced h'.config
      (signs ++ (c.sign? h.now).toList.map (h.now, ·)) handed := by
  have keeps := Connection.keepsWriter_readerTurn h.now h.config c
  rw [moves.config_eq]
  constructor
  · intro halive
    have hwriting := traced.writing (keeps.alive_of halive)
    unfold Connection.Writing at hwriting ⊢
    rwa [keeps.writer_eq]
  · intro deadline hreading
    rcases Connection.reading_of_readerTurn hreading with ⟨s, hsign, rfl⟩ | ⟨hsign, hwas⟩
    · rw [hsign]
      exact ⟨(h.now, s), by simp, rfl⟩
    · rw [hsign]
      simpa using traced.reading deadline hwas
  · intro kind limit halive hsending
    exact traced.sending kind limit (keeps.alive_of halive) (keeps.writer_eq ▸ hsending)

/-- Nothing is handed over in a turn of the reader. -/
theorem Moves.instants_reader (moves : Moves id (.reader id) (c.readerTurn h.now h.config) h h')
    (spares : Spares id h' h'') {sort : Happening → Bool}
    (hsort : ∀ x : Happening, x.isHanded id = false → sort x = false) (now : Nat) :
    instants sort ((h.newsSince h'').map (now, ·)) = [] := by
  have keeps := Connection.keepsWriter_readerTurn h.now h.config c
  rw [moves.newsSince_spares spares, List.map_append, instants_append, spares.instants hsort,
    List.append_nil]
  apply instants_eq_nil
  intro x hx
  obtain ⟨reason, rfl⟩ := keeps.news x (List.mem_reverse.mp hx)
  exact hsort _ rfl

/-- **What an event adds to the past.** -/
theorem traced_step (hallowed : e.Allowed h) (traced : Traced id signs handed h) :
    Traced id (signs ++ (e.sign? id h).toList.map (h.now, ·))
      (handed ++ instants (Happening.isHanded id) ((h.newsSince (h.step e)).map (h.now, ·)))
      (h.step e) := by
  cases passage_step id hallowed with
  | absent fresh gone =>
    intro c hc
    rw [gone] at hc
    cases hc
  | opened fresh opens => exact opens.traced
  | writer found moves again =>
    have hsign : ∀ roomFirst, (Event.turn (.writer id) roomFirst).sign? id h = none := fun _ => rfl
    rw [hsign, Option.toList_none, List.map_nil, List.append_nil]
    exact moves.traced_writer found (traced _ found)
  | @reader h' _ c roomFirst found moves spares again =>
    have hsign : (Event.turn (.reader id) roomFirst).sign? id h = c.sign? h.now := by
      rw [Event.sign?, if_pos rfl, found, Option.bind_some]
    rw [hsign, moves.instants_reader spares fun _ hx => hx, List.append_nil]
    exact spares.traced moves.find?_self (moves.traced_reader (traced _ found))
  | @pass c now wallClock found =>
    have hnews : h.newsSince (h.step (.pass now wallClock)) = [] :=
      newsSince_of_eq (history_moveClock h now)
    have hsign : (Event.pass now wallClock).sign? id h = none := rfl
    rw [hnews, hsign]
    simp only [Option.toList_none, List.map_nil, instants, List.filter_nil, List.append_nil]
    intro c' hc'
    have hsame : (h.step (.pass now wallClock)).find? id = h.find? id := find?_moveClock h now id
    have hconfig : (h.step (.pass now wallClock)).config = h.config := config_moveClock h now
    rw [hconfig]
    exact traced c' (hsame ▸ hc')
  | spared found outside spares =>
    rw [sign?_eq_none outside, spares.instants fun _ hx => hx]
    simp only [Option.toList_none, List.map_nil, List.append_nil]
    exact spares.traced found (traced _ found)

/-! ## The first cause -/

/-- The event `e`, which comes after the events `before`, is the first cause in a run for the end of
the connection `id`. -/
structure FirstCause (id : String) (h : Hub τ) (es before : List (Event τ)) (h' : Hub τ)
    (e : Event τ) (reason : CloseReason) : Prop where
  run : Run h before h'
  among : (before ++ [e]) <+: es
  first : Along (fun h e => ∀ other, ¬ Ends id h e other) h before
  ends : Ends id h' e reason

theorem firstCause_cons_iff {e' : Event τ} (hallowed : e.Allowed h) :
    FirstCause id h (e :: es) before h' e' reason ↔
      before = [] ∧ h' = h ∧ e' = e ∧ Ends id h e reason ∨
      (∀ other, ¬ Ends id h e other) ∧
        ∃ rest, before = e :: rest ∧ FirstCause id (h.step e) es rest h' e' reason := by
  constructor
  · intro cause
    cases before with
    | nil =>
      obtain ⟨run, among, -, ends⟩ := cause
      cases run
      obtain ⟨rfl, -⟩ := List.cons_prefix_cons.mp among
      exact .inl ⟨rfl, rfl, rfl, ends⟩
    | cons e₁ rest =>
      obtain ⟨run, among, first, ends⟩ := cause
      cases run with
      | cons allowed run =>
        obtain ⟨rfl, hrest⟩ := List.cons_prefix_cons.mp among
        exact .inr ⟨first.1, rest, rfl, run, hrest, first.2, ends⟩
  · rintro (⟨rfl, rfl, rfl, ends⟩ | ⟨hno, rest, rfl, run, among, first, ends⟩)
    · exact ⟨.nil _, List.prefix_append [e'] es, trivial, ends⟩
    · exact ⟨.cons hallowed run, List.cons_prefix_cons.mpr ⟨rfl, among⟩, ⟨hno, first⟩, ends⟩

theorem sound_step (hallowed : e.Allowed h) (sound : h.ledger.lives.Sound) :
    (h.step e).ledger.lives.Sound :=
  (Run.cons hallowed (.nil _)).sound_of_sound sound

omit [Transport τ] in
theorem Traced.writing (traced : Traced id signs handed h) : Writing id h :=
  fun c hc => (traced c hc).writing

/-- The last of some instants is at least `span` milliseconds past, and exactly so if `exactly`. -/
def Elapsed (span : Nat) (exactly : Prop) (instants : List Nat) (now : Nat) : Prop :=
  ∃ t ∈ instants.getLast?, t + span ≤ now ∧ (exactly → now = t + span)

end Hub

section Runs

variable {τ : Type} [Transport τ] {config : SocketConfig} {origins : OriginPolicy}
  {handlers : List Handler} {now wallClock : Nat} {h h' start : Hub τ} {e : Event τ}
  {es before : List (Event τ)} {id : String} {reason : CloseReason} {signs' : List (Nat × Sign)}
  {handed : List Nat}

open Connection (ReadFault WriteFault)

theorem Run.history_subset (run : Run h es h') {x : Happening} (hx : x ∈ h.history) :
    x ∈ h'.history := by
  induction run with
  | nil => exact hx
  | @cons h h' e es allowed rest ih => exact ih ((Hub.mem_history_step_iff h e x).mpr (.inl hx))

theorem Run.traced (run : Run h es h') (traced : h.Traced id [] []) :
    h'.Traced id (signs id h es) (instants (Happening.isHanded id) (chronicle h es)) := by
  refine run.induct_end (P := fun es h' => h'.Traced id (signs id h es)
    (instants (Happening.isHanded id) (chronicle h es))) traced ?_
  intro es h' e run allowed ih
  rw [signs_snoc id run, chronicle_snoc run, instants_append]
  exact Hub.traced_step allowed ih

/-- Until there is a cause, a connection is not torn down. -/
theorem Run.not_closed (run : Run h es h') (sound : h.ledger.lives.Sound)
    (traced : h.Traced id signs' handed) (hopen : ∀ reason, .closed id reason ∉ h.history)
    (first : Along (fun h e => ∀ other, ¬ h.Ends id e other) h es) :
    ∀ reason, .closed id reason ∉ h'.history := by
  induction run generalizing signs' handed with
  | nil => exact hopen
  | @cons h h' e es allowed rest ih =>
    have sound' := Hub.sound_step allowed sound
    refine ih sound' (Hub.traced_step allowed traced) ?_ first.2
    intro reason hclosed
    exact first.1 reason (Hub.ends_of_closed allowed sound sound' traced.writing hopen hclosed)

/-- A connection is torn down for the first cause there is. -/
theorem Run.closed_iff (run : Run h es h') (sound : h.ledger.lives.Sound)
    (traced : h.Traced id signs' handed) (hopen : ∀ reason, .closed id reason ∉ h.history) :
    .closed id reason ∈ h'.history ↔
      ∃ before h₁ e, Hub.FirstCause id h es before h₁ e reason := by
  induction run generalizing signs' handed with
  | nil h =>
    constructor
    · exact fun hclosed => absurd hclosed (hopen reason)
    · rintro ⟨before, h₁, e, -, among, -⟩
      simp at among
  | @cons h h' e es allowed rest ih =>
    have sound' := Hub.sound_step allowed sound
    -- either this event is a cause, and the first, or the first cause comes later
    by_cases hend : ∃ r, h.Ends id e r
    · obtain ⟨r, ends⟩ := hend
      have hends : ∀ {other}, h.Ends id e other → .closed id other ∈ h'.history := fun ends =>
        rest.history_subset (Hub.closed_of_ends allowed sound sound' traced.writing hopen ends)
      constructor
      · intro hclosed
        have soundEnd : h'.ledger.lives.Sound := rest.keeps (fun step => step.sound)
          (fun hnew _ => Ledger.sound_enroll hnew) sound'
        obtain rfl := Hub.closed_unique soundEnd (hends ends) hclosed
        exact ⟨[], h, e, (Hub.firstCause_cons_iff allowed).mpr (.inl ⟨rfl, rfl, rfl, ends⟩)⟩
      · rintro ⟨before, h₁, e', cause⟩
        rcases (Hub.firstCause_cons_iff allowed).mp cause with ⟨-, -, -, ends'⟩ | ⟨hno, -⟩
        · exact hends ends'
        · exact absurd ends (hno r)
    · have hno : ∀ other, ¬ h.Ends id e other := fun other ends => hend ⟨other, ends⟩
      have hopen' : ∀ other, .closed id other ∉ (h.step e).history := fun other hclosed =>
        hno other (Hub.ends_of_closed allowed sound sound' traced.writing hopen hclosed)
      rw [ih sound' (Hub.traced_step allowed traced) hopen']
      constructor
      · rintro ⟨before, h₁, e', cause⟩
        exact ⟨e :: before, h₁, e', (Hub.firstCause_cons_iff allowed).mpr
          (.inr ⟨hno, before, rfl, cause⟩)⟩
      · rintro ⟨before, h₁, e', cause⟩
        rcases (Hub.firstCause_cons_iff allowed).mp cause with ⟨-, -, -, ends⟩ | ⟨-, b, -, cause⟩
        · exact absurd ends (hno reason)
        · exact ⟨b, h₁, e', cause⟩

/-- A connection that is torn down for want of a sign of life is alive, and the deadline for which
its reader waits has passed. -/
theorem reading_of_readTimeout (ends : h.Ends id e .readTimeout) :
    ∃ c deadline, h.find? id = some c ∧ c.alive = true ∧ c.reader = .reading deadline ∧
      deadline ≤ h.now := by
  cases ends with
  | @read c deadline a _ _ found reading taken fault =>
    cases fault with
    | timedOut hlate =>
      refine ⟨c, deadline, found, ?_, reading, hlate⟩
      rw [Connection.taken?, reading] at taken
      by_contra hdead
      simp [hdead] at taken
  | write found written fault => cases fault

omit [Transport τ] in
/-- The deadline of a living connection whose tasks are awake has not passed before. -/
theorem Hub.Awake.le_deadline {c : Connection τ} {deadline : Nat} (awake : h.Awake id)
    (hc : h.find? id = some c) (halive : c.alive = true)
    (hreading : c.reader = .reading deadline) : h.now ≤ deadline := by
  have hreader := (awake c hc halive).2
  rw [Connection.ReaderAwake, hreading] at hreader
  exact hreader.1

/-- A read deadline that has passed is counted from the last sign of life. -/
theorem elapsed_of_readTimeout (traced : h.Traced id signs' handed) {exactly : Prop}
    (hexact : exactly → h.Awake id) (ends : h.Ends id e .readTimeout) :
    Hub.Elapsed h.config.readTimeout exactly (signs'.map Prod.fst) h.now := by
  obtain ⟨c, deadline, found, halive, reading, hlate⟩ := reading_of_readTimeout ends
  obtain ⟨s, hs, rfl⟩ := (traced c found).reading deadline reading
  refine ⟨s.1, by simp [Option.mem_def.mp hs], hlate, fun hexactly => ?_⟩
  exact Nat.le_antisymm ((hexact hexactly).le_deadline found halive reading) hlate

/-- A write that has taken too long is the one that was handed over last. -/
theorem elapsed_of_writeTimeout (traced : h.Traced id signs' handed)
    (halive : ∀ c, h.find? id = some c → c.alive = true) {exactly : Prop}
    (hexact : exactly → h.Awake id) (ends : h.Ends id e .writeTimeout) :
    Hub.Elapsed h.config.writeTimeout exactly
      (handed ++ instants (Happening.isHanded id) ((h.newsSince (h.step e)).map (h.now, ·)))
      h.now := by
  cases ends with
  | read found reading taken fault => cases fault
  | @write c p limit _ roomFirst found written fault =>
    cases fault with
    | timedOut hlate =>
      obtain ⟨moves, -⟩ := Hub.moves_writer found roomFirst
      have hlives := halive c found
      have htries := Connection.tries_writerTurn h.now h.config hlives
        ((traced c found).writing hlives)
      obtain rfl := Hub.id_of_find? found
      obtain ⟨t, ht, rfl⟩ := htries.limit_eq written hlives (traced c found)
      rw [Hub.step, moves.newsSince]
      refine ⟨t, ht, hlate, fun hexactly => ?_⟩
      have hwriter := (hexact hexactly c found hlives).1
      exact Nat.le_antisymm (Connection.le_limit_of_written written hwriter) hlate

/-- **The first cause wins.** A connection was torn down for a reason exactly if the first cause for
its end in the run is one for this reason, and there is no other reason then or later, whatever
happens. If it was torn down for want of a sign of life, the last sign is as long past as the read
timeout allows; if it was torn down because a write took too long, the last frame was handed over as
long before as the write timeout allows; exactly as long, if time passes punctually. -/
theorem closed_by_first_cause (hstart : start = Hub.initial config origins handlers now wallClock)
    (run : Run start es h) (id : String) :
    (∀ reason, .closed id reason ∈ h.history ↔
      ∃ before h₁ e, Hub.FirstCause id start es before h₁ e reason) ∧
    ∀ before h₁ e reason, Hub.FirstCause id start es before h₁ e reason →
      (∀ later h', Run h later h' → ∀ other, .closed id other ∈ h'.history ↔ other = reason) ∧
      (reason = .readTimeout → Hub.Elapsed config.readTimeout
        (Along (Hub.Punctual id) start before) ((signs id start before).map Prod.fst) h₁.now) ∧
      (reason = .writeTimeout → Hub.Elapsed config.writeTimeout
        (Along (Hub.Punctual id) start before)
        (instants (Happening.isHanded id) (chronicle start (before ++ [e]))) h₁.now) := by
  subst hstart
  have sound : (Hub.initial config origins handlers now wallClock : Hub τ).ledger.lives.Sound :=
    Lives.sound_empty
  have hnobody : ∀ c, (Hub.initial config origins handlers now wallClock : Hub τ).find? id ≠
      some c := fun c hc => by cases hc
  have traced : (Hub.initial config origins handlers now wallClock : Hub τ).Traced id [] [] :=
    fun c hc => absurd hc (hnobody c)
  have hopen : ∀ reason, .closed id reason ∉
      (Hub.initial config origins handlers now wallClock : Hub τ).history :=
    fun _ => List.not_mem_nil
  have hiff : ∀ reason, .closed id reason ∈ h.history ↔ ∃ before h₁ e,
      Hub.FirstCause id (Hub.initial config origins handlers now wallClock) es before h₁ e reason :=
    fun reason => run.closed_iff sound traced hopen
  refine ⟨hiff, ?_⟩
  intro before h₁ e reason cause
  -- until the first cause the connection was not closed
  have sound₁ := cause.run.sound
  have traced₁ := cause.run.traced traced
  have hopen₁ := cause.run.not_closed sound traced hopen cause.first
  have hconfig : h₁.config = config := cause.run.config_eq
  have hawake : Along (Hub.Punctual id) _ before → h₁.Awake id := fun hpunctual =>
    cause.run.awake hpunctual fun c hc => absurd hc (hnobody c)
  refine ⟨?_, ?_, ?_⟩
  -- and nothing is closed twice
  · intro later h' rest other
    have hclosed := rest.history_subset ((hiff reason).mpr ⟨before, h₁, e, cause⟩)
    constructor
    · exact Hub.closed_unique (run.append rest).sound hclosed
    · rintro rfl
      exact hclosed
  · rintro rfl
    have helapsed := elapsed_of_readTimeout traced₁ hawake cause.ends
    rwa [hconfig] at helapsed
  · rintro rfl
    have helapsed := elapsed_of_writeTimeout traced₁
      (fun c hc => Hub.alive_of_not_closed sound₁ hc hopen₁) hawake cause.ends
    rw [chronicle_snoc cause.run, instants_append]
    rwa [hconfig] at helapsed

end Runs

/-- A peer that takes nothing: a frame is handed over, and is pending until the write timeout. The
connection is removed at the same instant, but later. -/
def pendingThenRemoved : List (Event ScriptedLink) :=
  [.upgrade "a" (.ok { script := .stalled 0 }) {}, .turn (.writer "a") Hub.teardownFirst,
    .turn (.reader "a") Hub.teardownFirst, .turn (.reader "a") Hub.teardownFirst,
    .act "a" (.trySend ⟨.binary, [1]⟩ fun _ => .done), .turn (.writer "a") Hub.teardownFirst,
    .pass 10 0, .turn (.writer "a") Hub.teardownFirst, .remove "a"]

theorem closed_by_first_cause_of_pendingThenRemoved :
    ∃ h before h₁ e, Run (Hub.initial { writeTimeout := 10 } .listed [] 0 0) pendingThenRemoved h ∧
      Hub.FirstCause "a" (Hub.initial { writeTimeout := 10 } .listed [] 0 0) pendingThenRemoved
        before h₁ e .writeTimeout ∧
      Hub.Elapsed 10 (Along (Hub.Punctual "a")
        (Hub.initial { writeTimeout := 10 } .listed [] 0 0) before)
        (instants (Happening.isHanded "a") (chronicle
          (Hub.initial { writeTimeout := 10 } .listed [] 0 0) (before ++ [e]))) h₁.now ∧
      ∀ other, .closed "a" other ∈ h.history ↔ other = .writeTimeout := by
  have run : Run (Hub.initial { writeTimeout := 10 } .listed [] 0 0) pendingThenRemoved _ :=
    .of_allowed (by decide +kernel)
  obtain ⟨hiff, hcause⟩ := closed_by_first_cause rfl run "a"
  obtain ⟨before, h₁, e, cause⟩ := (hiff .writeTimeout).mp (by decide +kernel)
  obtain ⟨honly, -, helapsed⟩ := hcause before h₁ e _ cause
  exact ⟨_, before, h₁, e, run, cause, helapsed rfl, honly [] _ (.nil _)⟩

end Switchboard
