import Mathlib.Algebra.Group.Nat.Defs
import Switchboard.Proofs.Besides
import Switchboard.Proofs.Heartbeat

/-!
# What an upgrade comes to

A configuration that is validated has an interval for heartbeats and room for frames. It may still
ask for more room than any outbox can have, and then every upgrade that leaves the capacity to it
crashes: `upgrade_crashes_iff` says that this is the only way to crash. Otherwise the connection is
registered, its two tasks start with their timers set, and neither of them stops while it is alive.

## Timers

`Connection.deadlines` are the instants that the tasks of a connection have set their timers to.
Each is set to one of the configured intervals from now, so none is ever further away than the
longest of these (`Connection.DueBy`, `Run.dueBy`). The intervals are numbers of 64 bits, the clock
goes up to `clockEnd`, and a deadline lies beyond that only if the clock is close to it by itself.
-/

namespace Switchboard

/-- The first instant that the clock cannot tell: it counts seconds in 63 bits. -/
def clockEnd : Nat := 2 ^ 63 * 1000

/-- The numbers of a configuration have 64 bits. -/
structure SocketConfig.Fits64 (config : SocketConfig) : Prop where
  readBufferSize : config.readBufferSize < 2 ^ 64
  writeBufferSize : config.writeBufferSize < 2 ^ 64
  readTimeout : config.readTimeout < 2 ^ 64
  writeTimeout : config.writeTimeout < 2 ^ 64
  heartbeat : config.heartbeat < 2 ^ 64
  maxMessageSize : config.maxMessageSize < 2 ^ 64
  queueCapacity : config.queueCapacity < 2 ^ 64

/-- No interval of a configuration is longer than `T`. -/
structure SocketConfig.Spans (T : Nat) (config : SocketConfig) : Prop where
  readTimeout : config.readTimeout ≤ T
  writeTimeout : config.writeTimeout ≤ T
  heartbeat : config.heartbeat ≤ T

theorem SocketConfig.queueCapacity_pos_of_validate {config : SocketConfig}
    (hvalid : config.validate = .ok ()) : 0 < config.queueCapacity := by
  unfold validate at hvalid
  split at hvalid
  · cases hvalid
  · rename_i hfault
    unfold fault? at hfault
    grind

/-- Until when a writer waits for its link at most. -/
def WriterPhase.deadline? : WriterPhase → Option Nat
  | .sending _ limit | .sendingClose limit | .closingSink limit => some limit
  | .starting | .idle | .stopped => none

namespace Connection

variable {τ : Type}

/-- The instants that the tasks of a connection have set their timers to. -/
def deadlines (c : Connection τ) : List Nat :=
  c.heartbeat :: (c.writer.deadline?.toList ++ c.reader.deadline?.toList)

/-- Both tasks of a connection serve it. -/
def Served (c : Connection τ) : Prop := c.Writing ∧ c.reader ≠ .stopped

/-- What the writer waits for is due by the instant `B`. -/
structure WritesBy (B : Nat) (c : Connection τ) : Prop where
  heartbeat_le : c.heartbeat ≤ B
  deadline_le : ∀ t ∈ c.writer.deadline?, t ≤ B

/-- What the reader waits for is due by the instant `B`. -/
def ReadsBy (B : Nat) (c : Connection τ) : Prop := ∀ t ∈ c.reader.deadline?, t ≤ B

/-- What the tasks of a connection wait for is due by the instant `B`, and the reader goes on for as
long as it is alive. -/
structure DueBy (B : Nat) (c : Connection τ) : Prop where
  writes : c.WritesBy B
  reads : c.ReadsBy B
  reading : c.alive = true → c.reader ≠ .stopped

variable {c c' : Connection τ} {B B' now limit : Nat} {config : SocketConfig}

theorem WritesBy.of_eq (hby : c.WritesBy B) (hwriter : c'.writer = c.writer)
    (hheartbeat : c'.heartbeat = c.heartbeat) : c'.WritesBy B :=
  ⟨hheartbeat ▸ hby.heartbeat_le, hwriter ▸ hby.deadline_le⟩

/-- A writer that does not wait for its link. -/
theorem WritesBy.of_none (hheartbeat : c.heartbeat ≤ B) (hnone : c.writer.deadline? = none) :
    c.WritesBy B :=
  ⟨hheartbeat, fun t ht => by rw [hnone] at ht; cases ht⟩

/-- A reader that does not wait. -/
theorem ReadsBy.of_none (hnone : c.reader.deadline? = none) : c.ReadsBy B :=
  fun t ht => by rw [hnone] at ht; cases ht

theorem ReadsBy.of_eq (hby : c.ReadsBy B) (hreader : c'.reader = c.reader) : c'.ReadsBy B := by
  rw [ReadsBy, hreader]
  exact hby

theorem DueBy.of_steady (due : c.DueBy B) (steady : c.Steady c') : c'.DueBy B where
  writes := due.writes.of_eq steady.writer_eq steady.heartbeat_eq
  reads := due.reads.of_eq steady.reader_eq
  reading halive := steady.reader_eq ▸ due.reading (steady.alive_of halive)

theorem DueBy.mono (due : c.DueBy B) (hle : B ≤ B') : c.DueBy B' where
  writes := ⟨Nat.le_trans due.writes.heartbeat_le hle,
    fun t ht => Nat.le_trans (due.writes.deadline_le t ht) hle⟩
  reads t ht := Nat.le_trans (due.reads t ht) hle
  reading := due.reading

theorem DueBy.le_of_mem (due : c.DueBy B) {t : Nat} (ht : t ∈ c.deadlines) : t ≤ B := by
  rcases List.mem_cons.mp ht with rfl | ht
  · exact due.writes.heartbeat_le
  · rcases List.mem_append.mp ht with ht | ht
    · exact due.writes.deadline_le t (Option.mem_toList.mp ht)
    · exact due.reads t (Option.mem_toList.mp ht)

variable [Transport τ]

/-! ## Turns of the writer -/

/-- A writer that has stopped waits for no link. -/
theorem writesBy_stopWriter (hheartbeat : c.heartbeat ≤ B) : (c.stopWriter now).WritesBy B :=
  .of_none hheartbeat rfl

theorem writesBy_failWriter (hheartbeat : c.heartbeat ≤ B) (reason : CloseReason) :
    (c.failWriter now reason).conn.WritesBy B := by
  rw [failWriter, conn_torn]
  exact .of_none hheartbeat rfl

theorem writesBy_afterSend (hheartbeat : c.heartbeat ≤ B) (hlimit : limit ≤ B) (kind : FrameKind)
    (p : Progress) : (c.afterSend now kind limit p).conn.WritesBy B := by
  rcases afterSend_cases now c kind limit p with heq | ⟨-, heq⟩ | ⟨reason, -, heq⟩
  · rw [heq]
    exact .of_none hheartbeat rfl
  · rw [heq]
    exact ⟨hheartbeat, fun _ ht => Option.some.inj ht ▸ hlimit⟩
  · rw [heq]
    exact writesBy_failWriter hheartbeat reason

theorem writesBy_sendFrame (hheartbeat : c.heartbeat ≤ B) (hidle : c.writer = .idle)
    (hlimit : now + config.writeTimeout ≤ B) (f : Frame) (cause : Cause) :
    (c.sendFrame now config f cause).conn.WritesBy B := by
  rw [sendFrame]
  split
  · exact writesBy_afterSend (c := { c with link := (Transport.send now f c.link).2 })
      hheartbeat hlimit f.kind _
  · exact .of_none hheartbeat (congrArg WriterPhase.deadline? hidle)

theorem writesBy_finishClose (limit : Nat) (hheartbeat : c.heartbeat ≤ B) {wait : WriterPhase}
    (hwait : ∀ t ∈ wait.deadline?, t ≤ B) (p : Progress) :
    (c.finishClose now limit wait p).conn.WritesBy B := by
  cases p with
  | done => exact writesBy_stopWriter hheartbeat
  | failed e => exact writesBy_stopWriter hheartbeat
  | panicked p => exact writesBy_failWriter hheartbeat .taskFailed
  | pending =>
    rw [finishClose]
    split
    · exact writesBy_stopWriter hheartbeat
    · exact ⟨hheartbeat, hwait⟩

theorem writesBy_closeSink (hheartbeat : c.heartbeat ≤ B) (hlimit : limit ≤ B) :
    (c.closeSink now limit).conn.WritesBy B :=
  have hwait : ∀ t ∈ (WriterPhase.closingSink limit).deadline?, t ≤ B :=
    fun _ ht => Option.some.inj ht ▸ hlimit
  writesBy_finishClose (c := { c with link := (Transport.close now c.link).2 }) limit hheartbeat
    hwait _

theorem writesBy_afterCloseFrame (hheartbeat : c.heartbeat ≤ B) (hlimit : limit ≤ B)
    (p : Progress) : (c.afterCloseFrame now limit p).conn.WritesBy B := by
  have hwait : ∀ t ∈ (WriterPhase.sendingClose limit).deadline?, t ≤ B :=
    fun _ ht => Option.some.inj ht ▸ hlimit
  cases p with
  | done => exact writesBy_closeSink hheartbeat hlimit
  | failed e => exact writesBy_finishClose limit hheartbeat hwait (.failed e)
  | panicked p => exact writesBy_finishClose limit hheartbeat hwait (.panicked p)
  | pending => exact writesBy_finishClose limit hheartbeat hwait .pending

theorem writesBy_idleTurn (hby : c.WritesBy B) (hidle : c.writer = .idle)
    (hlimit : now + config.writeTimeout ≤ B) (hperiod : now + config.heartbeat ≤ B) :
    (c.idleTurn now config).conn.WritesBy B := by
  rw [idleTurn]
  -- a teardown is noticed first, then the next frame, then a heartbeat that is due
  split
  · exact writesBy_afterCloseFrame
      (c := { c with link := (Transport.send now .close c.link).2 }) hby.heartbeat_le hlimit _
  · split
    · rename_i f _ outbox _
      exact writesBy_sendFrame (c := { c with outbox }) hby.heartbeat_le hidle hlimit f .queued
    · split
      · rename_i hdue
        have hnext := Nat.le_trans (nextHeartbeat_le hdue config.heartbeat) hperiod
        exact writesBy_sendFrame (c := { c with
            heartbeat := Hub.nextHeartbeat now c.heartbeat config.heartbeat })
          hnext hidle hlimit .ping .heartbeat
      · exact hby

theorem writesBy_writerTurn (hby : c.WritesBy B) (hlimit : now + config.writeTimeout ≤ B)
    (hperiod : now + config.heartbeat ≤ B) : (c.writerTurn now config).conn.WritesBy B := by
  rw [writerTurn]
  split
  · exact hby
  · exact .of_none hperiod rfl
  · rename_i hidle
    exact writesBy_idleTurn hby hidle hlimit hperiod
  · rename_i kind was hphase
    have hwas : was ≤ B := hby.deadline_le was (by rw [hphase]; rfl)
    exact writesBy_afterSend (c := { c with link := (Transport.resume now c.link).2 })
      hby.heartbeat_le hwas kind _
  · rename_i was hphase
    have hwas : was ≤ B := hby.deadline_le was (by rw [hphase]; rfl)
    exact writesBy_afterCloseFrame (c := { c with link := (Transport.resume now c.link).2 })
      hby.heartbeat_le hwas _
  · rename_i was hphase
    have hwas : was ≤ B := hby.deadline_le was (by rw [hphase]; rfl)
    exact writesBy_closeSink hby.heartbeat_le hwas

/-! ## Turns of the reader -/

/-- A reader either goes on, with a deadline that is due in time, or has stopped and its connection
is dead. -/
theorem reads_takeArrival {deadline : Nat} (hreading : c.reader = .reading deadline)
    (hby : c.ReadsBy B) (htimeout : now + config.readTimeout ≤ B) (a : Arrival) :
    (c.takeArrival now config deadline a).conn.ReadsBy B ∧
      ((c.takeArrival now config deadline a).conn.alive = true →
        (c.takeArrival now config deadline a).conn.reader ≠ .stopped) := by
  have hgoes : c.reader ≠ .stopped := by simp [hreading]
  -- a pong moves the deadline, any other arrival leaves it or ends the connection
  rcases takeArrival_cases now config c deadline a with
    ⟨f, -, -, heq⟩ | ⟨f, -, -, heq⟩ | ⟨-, -, heq⟩ | ⟨reason, -, heq⟩
  · rw [heq]
    exact ⟨fun _ ht => Option.some.inj ht ▸ htimeout, fun _ => ReaderPhase.noConfusion⟩
  · rw [heq]
    exact ⟨hby, fun _ => hgoes⟩
  · rw [heq]
    exact ⟨hby, fun _ => hgoes⟩
  · rw [heq, failReader, conn_torn]
    exact ⟨.of_none rfl, fun halive => absurd halive Bool.false_ne_true⟩

theorem reads_readerTurn (due : c.DueBy B) (htimeout : now + config.readTimeout ≤ B) :
    (c.readerTurn now config).conn.ReadsBy B ∧
      ((c.readerTurn now config).conn.alive = true →
        (c.readerTurn now config).conn.reader ≠ .stopped) := by
  cases hphase : c.reader with
  | stopped =>
    rw [readerTurn, hphase]
    exact ⟨due.reads, due.reading⟩
  | starting =>
    rw [readerTurn, hphase]
    exact ⟨fun _ ht => Option.some.inj ht ▸ htimeout, fun _ => ReaderPhase.noConfusion⟩
  | reading deadline =>
    cases halive : c.alive with
    | true =>
      rw [readerTurn_of_reading halive hphase]
      exact reads_takeArrival (c := { c with link := (Transport.receive now c.link).2 }) hphase
        due.reads htimeout _
    | false =>
      have heq : c.readerTurn now config = { conn := c.stopReader now } := by
        simp [readerTurn, hphase, halive]
      rw [heq]
      exact ⟨.of_none rfl, fun hlives => absurd (halive.symm.trans hlives) (by decide)⟩

theorem dueBy_writerTurn (due : c.DueBy B) (hlimit : now + config.writeTimeout ≤ B)
    (hperiod : now + config.heartbeat ≤ B) : (c.writerTurn now config).conn.DueBy B := by
  have keeps := keepsReader_writerTurn now config c
  exact ⟨writesBy_writerTurn due.writes hlimit hperiod, due.reads.of_eq keeps.reader_eq,
    fun halive => keeps.reader_eq ▸ due.reading (keeps.alive_of halive)⟩

theorem dueBy_readerTurn (due : c.DueBy B) (htimeout : now + config.readTimeout ≤ B) :
    (c.readerTurn now config).conn.DueBy B := by
  have keeps := keepsWriter_readerTurn now config c
  obtain ⟨hreads, hreading⟩ := reads_readerTurn due htimeout
  exact ⟨due.writes.of_eq keeps.writer_eq keeps.heartbeat_eq, hreads, hreading⟩

end Connection

namespace Hub

variable {τ : Type} [Transport τ] {h h' : Hub τ} {id : String} {c : Connection τ} {e : Event τ}
  {o : ConnectOptions} {link : τ} {T : Nat}

/-- No timer of the connection `id` is further away than `T`. -/
def DueWithin (T : Nat) (id : String) (h : Hub τ) : Prop :=
  ∀ c, h.find? id = some c → c.DueBy (h.now + T)

omit [Transport τ] in
/-- A connection that was just opened has set no timer. -/
theorem Opens.dueWithin (opens : Opens id h o link h') : DueWithin T id h' := by
  intro c hc
  obtain rfl := Option.some.inj (opens.find?_self.symm.trans hc)
  exact ⟨.of_none (Nat.zero_le _) rfl, .of_none rfl,
    fun _ => ReaderPhase.noConfusion⟩

theorem dueWithin_step (hspans : h.config.Spans T) (hallowed : e.Allowed h)
    (due : DueWithin T id h) : DueWithin T id (h.step e) := by
  -- only the turns of its own tasks set timers, and each is set to an interval from now
  cases passage_step id hallowed with
  | absent fresh gone =>
    intro c hc
    rw [gone] at hc
    cases hc
  | opened fresh opens => exact opens.dueWithin
  | writer found moves again =>
    intro c' hc'
    obtain rfl := Option.some.inj (moves.find?_self.symm.trans hc')
    rw [moves.now_eq]
    exact Connection.dueBy_writerTurn (due _ found) (Nat.add_le_add_left hspans.writeTimeout _)
      (Nat.add_le_add_left hspans.heartbeat _)
  | reader found moves spares again =>
    intro c' hc'
    obtain ⟨c'', hfind, steady, -⟩ := spares.conn _ moves.find?_self
    obtain rfl := Option.some.inj (hc'.symm.trans hfind)
    rw [spares.now_eq, moves.now_eq]
    exact (Connection.dueBy_readerTurn (due _ found)
      (Nat.add_le_add_left hspans.readTimeout _)).of_steady steady
  | @pass c now wallClock found =>
    intro c' hc'
    have hc : h.find? id = some c' := (find?_moveClock h now id).symm.trans hc'
    have hnow : (h.step (.pass now wallClock)).now = now := now_moveClock h now
    rw [hnow]
    exact (due c' hc).mono (Nat.add_le_add_right hallowed T)
  | spared found outside spares =>
    intro c' hc'
    obtain ⟨c'', hfind, steady, -⟩ := spares.conn _ found
    obtain rfl := Option.some.inj (hc'.symm.trans hfind)
    rw [spares.now_eq]
    exact (due _ found).of_steady steady

end Hub

section Runs

variable {τ : Type} [Transport τ] {config : SocketConfig} {origins : OriginPolicy}
  {handlers : List Handler} {now wallClock : Nat} {h h' : Hub τ} {es es' : List (Event τ)}
  {id : String} {o : ConnectOptions} {T : Nat}

/-- Throughout a run, no timer is ever further away than the longest interval. -/
theorem Run.dueWithin (run : Run h es h') (hspans : h.config.Spans T)
    (due : h.DueWithin T id) : h'.DueWithin T id := by
  induction run with
  | nil => exact due
  | @cons h h' e es allowed rest ih =>
    have hconfig : (h.step e).config = h.config := Run.config_eq (.cons allowed (.nil _))
    exact ih (hconfig.symm ▸ hspans) (Hub.dueWithin_step hspans allowed due)

omit [Transport τ] in
theorem Hub.dueWithin_initial (config : SocketConfig) (origins : OriginPolicy)
    (handlers : List Handler) (now wallClock : Nat) :
    (Hub.initial config origins handlers now wallClock : Hub τ).DueWithin T id :=
  fun _ hc => nomatch hc

end Runs

/-! ## The launch of a connection -/

namespace Hub

variable {τ : Type} [Transport τ] {h h' : Hub τ} {id : String} {o : ConnectOptions} {link : τ}

/-- The task `t` gets its first turn, and the connection `id` comes out of it as `P` says. -/
def StartsWith (t : Task) (id : String) (P : Connection τ → Prop) (h : Hub τ) : Prop :=
  ∀ roomFirst, ∃ c, (h.poll roomFirst t).find? id = some c ∧ P c

/-- An upgrade opened the connection `id`, and its tasks run. -/
structure Launches (id : String) (o : ConnectOptions) (h : Hub τ) (p : Upgrade × Hub τ) :
    Prop where
  answer : p.1 = .opened (Member.ofTexts id o.user o.tag)
  registered : p.2.registry.lookup id = some (Member.ofTexts id o.user o.tag)
  /-- The connection is alive, and its outbox has the configured capacity. -/
  conn : ∃ c, p.2.find? id = some c ∧ c.alive = true ∧
    c.outbox = { capacity := h.config.queueCapacity }
  capacity : 1 ≤ h.config.queueCapacity ∧ h.config.queueCapacity ≤ Outbox.maxCapacity
  period : 0 < h.config.heartbeat
  tasks : .writer id ∈ p.2.ready ∧ .reader id ∈ p.2.ready
  writer : p.2.StartsWith (.writer id) id fun c =>
    c.writer = .idle ∧ c.heartbeat = h.now + h.config.heartbeat
  reader : p.2.StartsWith (.reader id) id fun c =>
    c.reader = .reading (h.now + h.config.readTimeout)
  /-- Whatever happens later, the tasks serve it while it is alive, and the clock can tell the
  instants that they wait for. -/
  later : ∀ {es : List (Event τ)} {h' : Hub τ}, Run p.2 es h' → ∃ c, h'.find? id = some c ∧
    (c.alive = true → c.Served) ∧
      (h'.now + 2 ^ 64 ≤ clockEnd → ∀ t ∈ c.deadlines, t < clockEnd)

/-- The first turns of the tasks of a connection that was just opened. -/
theorem Opens.starts (opens : Opens id h o link h') :
    (h'.StartsWith (.writer id) id fun c =>
      c.writer = .idle ∧ c.heartbeat = h.now + h.config.heartbeat) ∧
    h'.StartsWith (.reader id) id fun c => c.reader = .reading (h.now + h.config.readTimeout) := by
  constructor
  · intro roomFirst
    obtain ⟨moves, -⟩ := moves_writer opens.find?_self roomFirst
    rw [opens.now_eq, opens.config_eq] at moves
    exact ⟨_, moves.find?_self, rfl, rfl⟩
  · intro roomFirst
    obtain ⟨⟨h'', moves, spares⟩, -⟩ := moves_reader opens.find?_self roomFirst
    rw [opens.now_eq, opens.config_eq] at moves
    obtain ⟨c, hc, steady, -⟩ := spares.conn _ moves.find?_self
    exact ⟨c, hc, steady.reader_eq⟩

end Hub

section Runs

variable {τ : Type} [Transport τ] {config : SocketConfig} {origins : OriginPolicy}
  {handlers : List Handler} {now wallClock : Nat} {h : Hub τ} {es : List (Event τ)}
  {id : String} {o : ConnectOptions}

/-- A connection is never forgotten. -/
theorem Run.exists_find? {h h' : Hub τ} {es : List (Event τ)} (run : Run h es h')
    {c : Connection τ} (hc : h.find? id = some c) : ∃ c', h'.find? id = some c' := by
  by_contra hnone
  have hgone : h'.find? id = none := by
    rw [Option.eq_none_iff_forall_ne_some]
    exact fun c' hc' => hnone ⟨c', hc'⟩
  rw [Hub.find?_eq_none_iff, run.members_eq] at hgone
  have habsent : h.find? id = none :=
    Hub.find?_eq_none_iff.mpr fun m hm => hgone m (List.mem_append_left _ hm)
  rw [hc] at habsent
  cases habsent

/-- The tasks of a living connection serve it, and no timer is further away than the longest of the
intervals. -/
theorem Run.served (run : Run (Hub.initial config origins handlers now wallClock) es h)
    {T : Nat} (hspans : config.Spans T) {c : Connection τ} (hc : h.find? id = some c) :
    (c.alive = true → c.Served) ∧ ∀ t ∈ c.deadlines, t ≤ h.now + T := by
  have traced : (Hub.initial config origins handlers now wallClock : Hub τ).Traced id [] [] :=
    fun _ hc => nomatch hc
  have due := run.dueWithin hspans
    (Hub.dueWithin_initial config origins handlers now wallClock) c hc
  exact ⟨fun halive => ⟨(run.traced traced c hc).writing halive, due.reading halive⟩,
    fun t ht => due.le_of_mem ht⟩

/-- An upgrade that finds room opens a connection that runs. -/
theorem Run.launches (run : Run (Hub.initial config origins handlers now wallClock) es h)
    (hvalid : config.validate = .ok ()) (hfits : config.Fits64) (hfresh : h.find? id = none)
    (hdefault : o.capacity = none) (hroom : config.queueCapacity ≤ Outbox.maxCapacity) (link : τ) :
    h.Launches id o (h.accept id link o) := by
  have hconfig : h.config = config := run.config_eq
  have hpos : 1 ≤ config.queueCapacity := SocketConfig.queueCapacity_pos_of_validate hvalid
  have hcapacity : h.capacityFor o = config.queueCapacity := by
    rw [Hub.capacityFor, hdefault, hconfig]
    exact Nat.max_eq_right hpos
  have hfit : h.capacityFor o ≤ Outbox.maxCapacity := hcapacity ▸ hroom
  have opens := Hub.opens_accept hfresh hfit link
  -- what holds in every run holds in those that go on from here
  have hopened : Run (Hub.initial config origins handlers now wallClock)
      (es ++ [.upgrade id (.ok link) o]) (h.accept id link o).2 :=
    run.append (.cons hfresh (.nil _))
  have hspans : config.Spans (2 ^ 64 - 1) := by
    obtain ⟨-, -, hread, hwrite, hbeat, -, -⟩ := hfits
    exact ⟨by omega, by omega, by omega⟩
  obtain ⟨hwriter, hreader⟩ := opens.starts
  refine ⟨Hub.answer_accept hfit link, ?_, ⟨_, opens.find?_self, rfl, ?_⟩, ?_, ?_,
    ⟨opens.writer_ready, opens.reader_ready⟩, hwriter, hreader, ?_⟩
  · exact (Hub.lookup_eq_some_iff hopened.sound).mpr ⟨_, opens.find?_self, rfl, rfl⟩
  · rw [hcapacity, hconfig]
  · rw [hconfig]
    exact ⟨hpos, hroom⟩
  · rw [hconfig]
    exact (SocketConfig.heartbeat_lt_of_validate hvalid).1
  · intro es' h' later
    obtain ⟨c, hc⟩ := later.exists_find? opens.find?_self
    obtain ⟨hserved, hdue⟩ := (hopened.append later).served hspans hc
    refine ⟨c, hc, hserved, fun hclock t ht => ?_⟩
    have hle := hdue t ht
    omega

/-- **Which upgrades crash.** With a configuration that was accepted, an upgrade that leaves the
capacity to it crashes exactly if it asks for more room than an outbox can have, and then changes
nothing. Every other one opens a connection that is registered and runs. -/
theorem upgrade_crashes_iff (hvalid : config.validate = .ok ()) (hfits : config.Fits64)
    (run : Run (Hub.initial config origins handlers now wallClock) es h)
    (hfresh : h.find? id = none) (hdefault : o.capacity = none) (link : τ) :
    ((h.upgrade id (.ok link) o).1 = .crashed ↔ Outbox.maxCapacity < config.queueCapacity) ∧
    (Outbox.maxCapacity < config.queueCapacity → (h.upgrade id (.ok link) o).2 = h) ∧
    (config.queueCapacity ≤ Outbox.maxCapacity →
      h.Launches id o (h.upgrade id (.ok link) o)) := by
  have hcrash : Outbox.maxCapacity < config.queueCapacity →
      h.upgrade id (.ok link) o = (.crashed, h) := fun hlong => by
    have hconfig : h.config = config := run.config_eq
    have hover : Outbox.maxCapacity < h.capacityFor o := by
      rw [Hub.capacityFor, hdefault, hconfig]
      exact Nat.lt_of_lt_of_le hlong (Nat.le_max_right _ _)
    exact Hub.accept_of_over hover link
  have hlaunch := fun hroom => run.launches hvalid hfits hfresh hdefault hroom link
  refine ⟨⟨fun hcrashed => ?_, fun hlong => by rw [hcrash hlong]⟩,
    fun hlong => by rw [hcrash hlong], hlaunch⟩
  by_contra hroom
  have hopened := (hlaunch (Nat.le_of_not_lt hroom)).answer
  have hcrashed : (h.accept id link o).1 = .crashed := hcrashed
  rw [hopened] at hcrashed
  cases hcrashed

end Runs

/-- A configuration like the default one, but with more room than an outbox can have. -/
def tooMuchRoom : SocketConfig := { queueCapacity := 2 ^ 61 }

/-- A link on which every frame is handed over at once. -/
def promptLink : ScriptedLink := { script := .slow 0 }

theorem upgrade_crashes_iff_of_tooMuchRoom :
    tooMuchRoom.validate = .ok () ∧
      ((Hub.initial tooMuchRoom .listed [] 0 0).upgrade "a" (.ok promptLink) {}).1 = .crashed ∧
      (Hub.initial {} .listed [] 0 0).Launches "a" {}
        ((Hub.initial {} .listed [] 0 0).upgrade "a" (.ok promptLink) {}) := by
  have hvalid : tooMuchRoom.validate = .ok () := by decide
  have hfits : tooMuchRoom.Fits64 := by constructor <;> decide
  have hvalid' : ({} : SocketConfig).validate = .ok () := by decide
  have hfits' : ({} : SocketConfig).Fits64 := by constructor <;> decide
  exact ⟨hvalid, (upgrade_crashes_iff hvalid hfits (.nil _) rfl rfl promptLink).1.mpr (by decide),
    (upgrade_crashes_iff hvalid' hfits' (.nil _) rfl rfl promptLink).2.2 (by decide)⟩

end Switchboard
