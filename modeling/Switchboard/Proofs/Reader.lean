import Switchboard.Proofs.CloseReason
import Switchboard.Proofs.Inbox
import Switchboard.Proofs.Receipts

/-!
# A reader follows the rules

What the reader of a connection does in a run is what the rules of reading ask for, given what has
arrived, and when (`reader_follows_rules`): the same frames at the same instants to the handlers,
and the same exit at the same instant for the same reason. A connection that is torn down from
elsewhere cuts this short: its reader exits without a reason of its own, and what it had not read by
then is neither counted nor given to the handlers.

Time has to pass punctually, and what arrives has to be kept in order until it is taken. No item may
come exactly at a deadline, since then either may come first.

## What is kept

`Hub.Follows` says how far the reader has come. While its connection is alive, it has read all but
what has just arrived; the rules say of what it read that it has done what it did, and that it waits
until the deadline that it has. Once the connection is dead, it may still have to notice
(`unaware`), and has exited otherwise.
-/

namespace Switchboard

open Transport (Queued)

namespace Connection

variable {τ : Type}

/-- The instant until which the reader of a connection waits, or would wait if it started now. -/
def deadline (now : Nat) (config : SocketConfig) (c : Connection τ) : Nat :=
  match c.reader with
  | .reading deadline => deadline
  | .starting | .stopped => now + config.readTimeout

theorem deadline_of_reading {c : Connection τ} {d : Nat} (hreading : c.reader = .reading d)
    (now : Nat) (config : SocketConfig) : c.deadline now config = d := by
  rw [deadline, hreading]

variable [Transport τ] [Queued τ] {now d : Nat} {config : SocketConfig} {c : Connection τ}
  {a : Arrival} {rest : List Arrival}

/-- The reader of a living connection exits for a reason of its own. -/
structure Exits (now : Nat) (config : SocketConfig) (c : Connection τ) (reason : CloseReason) :
    Prop where
  dead : (c.readerTurn now config).conn.alive = false
  stopped : (c.readerTurn now config).conn.reader = .stopped
  act : c.readerAct? now config = some (.exited (some reason))
  closed : .closed c.id reason ∈ (c.readerTurn now config).news

omit [Queued τ] in
theorem exits_of_failReader {link : τ} {reason : CloseReason} (halive : c.alive = true)
    (hreading : c.reader = .reading d) (hnone : c.dispatched? now config = none)
    (hturn : c.readerTurn now config = ({ c with link } : Connection τ).failReader now reason) :
    c.Exits now config reason where
  dead := by rw [hturn, failReader, conn_torn]
  stopped := by
    rw [hturn, failReader, conn_torn]
    rfl
  act := readerAct?_of_failReader halive (by simp [hreading]) hnone hturn
  closed := by
    have hstopped : (({ c with link } : Connection τ).stopReader now).alive = true := halive
    rw [hturn, failReader, torn_of_alive hstopped]
    exact List.mem_singleton.mpr rfl

/-- The reader of a living connection takes the next item. -/
theorem readerTurn_of_item (now : Nat) (config : SocketConfig) (halive : c.alive = true)
    (hreading : c.reader = .reading d) (hinbox : Queued.inbox c.link = a :: rest)
    (harrived : a ≠ .pending) :
    (∃ given next link, a.judged config now d = .goOn given next ∧ Queued.inbox link = rest ∧
      (c.readerTurn now config).conn = { c with link, reader := .reading next } ∧
      c.readerAct? now config = given.map .dispatched) ∨
    ∃ reason, a.judged config now d = .over reason ∧ c.Exits now config reason := by
  obtain ⟨ha, hrest⟩ := Queued.receive_cons now c.link a rest hinbox
  have hturn : c.readerTurn now config = _ := readerTurn_of_reading halive hreading
  have hdispatched : c.dispatched? now config = _ := dispatched?_of_reading halive hreading
  rw [ha] at hturn hdispatched
  rcases takeArrival_judged (c := { c with link := (Transport.receive now c.link).2 }) now config
      hreading harrived with
    ⟨next, hjudged, hframe, hgoes⟩ | ⟨reason, hjudged, hnone, hfails⟩
  · refine .inl ⟨forHandlers? config a, next, (Transport.receive now c.link).2, hjudged,
      hrest hframe, by rw [hturn, hgoes], ?_⟩
    rw [readerAct?, hdispatched, hturn, hgoes]
    cases forHandlers? config a with
    | some f => rfl
    | none => exact if_neg (by simp)
  · exact .inr ⟨reason, hjudged, exits_of_failReader halive hreading (hdispatched.trans hnone)
      (hturn.trans hfails)⟩

/-- The reader of a living connection finds nothing to take. -/
theorem readerTurn_of_nothing (now : Nat) (config : SocketConfig) (halive : c.alive = true)
    (hreading : c.reader = .reading d) (hinbox : Queued.inbox c.link = []) :
    (d ≤ now → c.Exits now config .readTimeout) ∧
    (now < d → ∃ link, Queued.inbox link = [] ∧
      (c.readerTurn now config).conn = { c with link } ∧ c.readerAct? now config = none) := by
  obtain ⟨ha, hnil⟩ := Queued.receive_nil now c.link hinbox
  have hturn : c.readerTurn now config = _ := readerTurn_of_reading halive hreading
  have hdispatched : c.dispatched? now config = _ := dispatched?_of_reading halive hreading
  rw [ha] at hturn hdispatched
  constructor
  · intro hlate
    exact exits_of_failReader halive hreading hdispatched (hturn.trans (if_pos hlate))
  · intro hearly
    have hsame : c.readerTurn now config =
        { conn := { c with link := (Transport.receive now c.link).2 } } :=
      hturn.trans (if_neg (Nat.not_le_of_lt hearly))
    refine ⟨_, hnil, by rw [hsame], ?_⟩
    rw [readerAct?, hdispatched, hsame]
    exact if_neg fun h => h.1 h.2

end Connection

namespace Hub

/-! ## Turns that give nothing to the handlers -/

section Quiet

variable {τ : Type} {h : Hub τ} {id : String} {c : Connection τ}

theorem notes_teardown (h : Hub τ) (id : String) (reason : CloseReason) :
    (h.teardown id reason).2.notes = h.notes := by
  rw [teardown]
  split
  · rfl
  · split
    · rfl
    · rename_i c _ _
      obtain ⟨_, hwriter, -⟩ := rouses_wakeWriter
        (h.update id fun c => { c with alive := false }) id
      obtain ⟨_, hreader, -⟩ := rouses_wakeReader
        ((h.update id fun c => { c with alive := false }).wakeWriter id) id
      obtain ⟨_, hcalls, -⟩ := rouses_wakeAll (c.outbox.pending.map fun t => .call t.call)
        (((h.update id fun c => { c with alive := false }).wakeWriter id).wakeReader id)
      dsimp only
      rw [hcalls, hreader, hwriter]
      rfl

variable [Transport τ]

theorem notes_failReader (h : Hub τ) (id : String) (reason : CloseReason) :
    (h.failReader id reason).notes = h.notes := notes_teardown _ _ _

theorem notes_takeFrame {f : Frame}
    (hnone : Connection.forHandlers? h.config (.frame f) = none) :
    (h.takeFrame c f).2.notes = h.notes := by
  cases hkind : f.kind with
  | ping => simp only [takeFrame, hkind]
  | pong =>
    simp only [takeFrame, hkind]
    rfl
  | close =>
    simp only [takeFrame, hkind]
    exact notes_failReader _ _ _
  | text | binary =>
    have hlong : f.payload.length > h.config.maxMessageSize := by
      simpa [Connection.forHandlers?, hkind, FrameKind.isData] using hnone
    simp only [takeFrame, hkind, if_pos hlong]
    exact notes_failReader _ _ _

theorem notes_takeArrival {a : Arrival} (hnone : Connection.forHandlers? h.config a = none)
    (deadline : Nat) : (h.takeArrival c deadline a).2.notes = h.notes := by
  cases a with
  | frame f => exact notes_takeFrame hnone
  | ended => exact notes_failReader _ _ _
  | failed e => exact notes_failReader _ _ _
  | panicked p => exact notes_teardown _ _ _
  | pending =>
    rw [takeArrival]
    split
    · exact notes_failReader _ _ _
    · rfl

/-- A turn of a reader that takes nothing for the handlers notes nothing down. -/
theorem notes_readerTurn (hc : h.find? id = some c)
    (hnone : c.dispatched? h.now h.config = none) : (h.readerTurn id).2.notes = h.notes := by
  rw [readerTurn, hc]
  obtain ⟨member, createdAt, alive, handlers, outbox, writer, heartbeat, reader, link⟩ := c
  cases reader with
  | stopped | starting => rfl
  | reading deadline =>
    cases alive with
    | false => rfl
    | true => exact notes_takeArrival (h := h.update id fun y =>
        { y with link := (Transport.receive h.now link).2 }) hnone deadline

end Quiet

variable {τ : Type} [Transport τ] [Queued τ] {h h' : Hub τ} {id : String} {c c' : Connection τ}
  {e : Event τ} {config : SocketConfig} {start d t : Nat}
  {items seen unread more new : List (Nat × Arrival)} {given last acts : List (Nat × ReaderAct)}

/-- What the reader of a dead connection has done last, if it waited until `d` when it had `more` to
read. -/
inductive Ending (config : SocketConfig) (id : String) (h : Hub τ) (d : Nat)
    (more : List (Nat × Arrival)) : ReaderPhase → List (Nat × ReaderAct) → Prop
  /-- It has not noticed yet that the connection was torn down from elsewhere. -/
  | unaware {phase : ReaderPhase} (runs : phase ≠ .stopped) : Ending config id h d more phase []
  | noticed (t : Nat) : Ending config id h d more .stopped [(t, .exited none)]
  /-- It tore the connection down. -/
  | own {t : Nat} {reason : CloseReason} (past : t ≤ h.now) (closed : .closed id reason ∈ h.history)
      (ends : ∀ now rest, t ≤ now → (∀ x ∈ rest, t ≤ x.1) → Untied config d (more ++ rest) →
        reading config now d (more ++ rest) = [(t, .exited (some reason))]) :
      Ending config id h d more .stopped [(t, .exited (some reason))]

omit [Transport τ] [Queued τ] in
/-- A reader that has not stopped has done nothing last. -/
theorem Ending.eq_nil {phase : ReaderPhase} (ending : Ending config id h d more phase last)
    (hruns : phase ≠ .stopped) : last = [] := by
  cases ending with
  | unaware => rfl
  | noticed | own => exact absurd rfl hruns

omit [Transport τ] [Queued τ] in
theorem Ending.not_stopped {phase : ReaderPhase} (ending : Ending config id h d more phase []) :
    phase ≠ .stopped := by
  cases ending with
  | unaware runs => exact runs

omit [Transport τ] [Queued τ] in
/-- An exit for a reason of its own is what the rules ask for, whatever arrives later. -/
theorem Ending.of_own {phase : ReaderPhase} {reason : CloseReason}
    (ending : Ending config id h d more phase [(t, .exited (some reason))]) :
    t ≤ h.now ∧ .closed id reason ∈ h.history ∧
      ∀ now rest, t ≤ now → (∀ x ∈ rest, t ≤ x.1) → Untied config d (more ++ rest) →
        reading config now d (more ++ rest) = [(t, .exited (some reason))] := by
  cases ending with
  | own past closed ends => exact ⟨past, closed, ends⟩

omit [Transport τ] [Queued τ] in
/-- What is done last is an exit, and gives no frame to the handlers. -/
theorem Ending.exits {phase : ReaderPhase} (ending : Ending config id h d more phase last) :
    (last = [] ∨ ∃ t reason, last = [(t, .exited reason)]) ∧
      (last.filterMap fun x => x.2.frame?) = [] := by
  cases ending with
  | unaware => exact ⟨.inl rfl, rfl⟩
  | noticed t => exact ⟨.inr ⟨t, none, rfl⟩, rfl⟩
  | @own t reason => exact ⟨.inr ⟨t, some reason, rfl⟩, rfl⟩

omit [Transport τ] [Queued τ] in
/-- What arrives later changes nothing. -/
theorem Ending.later {phase : ReaderPhase} (ending : Ending config id h d more phase last)
    (hnow : h.now ≤ h'.now) (hhistory : ∀ x ∈ h.history, x ∈ h'.history)
    (hnew : ∀ x ∈ new, h.now ≤ x.1) : Ending config id h' d (more ++ new) phase last := by
  cases ending with
  | unaware runs => exact .unaware runs
  | noticed t => exact .noticed t
  | @own t reason past closed ends =>
    refine .own (Nat.le_trans past hnow) (hhistory _ closed) fun now rest ht hrest huntied => ?_
    rw [List.append_assoc] at huntied ⊢
    refine ends now (new ++ rest) ht (fun x hx => ?_) huntied
    rcases List.mem_append.mp hx with hx | hx
    · exact Nat.le_trans past (hnew x hx)
    · exact hrest x hx

/-- How the reader of the connection `id` has come along, which waited until `start` at first: items
have arrived, and something was done. -/
inductive Follows (config : SocketConfig) (id : String) (start : Nat) (h : Hub τ) :
    List (Nat × Arrival) → List (Nat × ReaderAct) → Prop
  /-- The connection is alive, and what was not read has just arrived. -/
  | reads {c : Connection τ} {seen unread : List (Nat × Arrival)} {acts : List (Nat × ReaderAct)}
      (found : h.find? id = some c) (alive : c.alive = true)
      (reached : Reached config start seen acts (c.deadline h.now config))
      (unread_eq : Queued.inbox c.link = unread.map Prod.snd) (fresh : ∀ x ∈ unread, x.1 = h.now) :
      Follows config id start h (seen ++ unread) acts
  | dead {c : Connection τ} {d : Nat} {seen more : List (Nat × Arrival)}
      {given last : List (Nat × ReaderAct)} (found : h.find? id = some c) (dead : c.alive = false)
      (reached : Reached config start seen given d)
      (ending : Ending config id h d more c.reader last) :
      Follows config id start h (seen ++ more) (given ++ last)

/-- A reader that goes on may have been told by now that its connection is dead. -/
theorem follows_of_runs (found : h.find? id = some c) (runs : c.reader ≠ .stopped)
    (reached : Reached config start seen acts (c.deadline h.now config))
    (unread_eq : Queued.inbox c.link = unread.map Prod.snd) (fresh : ∀ x ∈ unread, x.1 = h.now) :
    Follows config id start h (seen ++ unread) acts := by
  cases halive : c.alive with
  | true => exact .reads found halive reached unread_eq fresh
  | false =>
    have hdead : Follows config id start h (seen ++ unread) (acts ++ []) :=
      .dead found halive reached (.unaware runs)
    rwa [List.append_nil] at hdead

/-! ## Other events -/

omit [Queued τ] in
/-- Only its own turns move a reader on. -/
theorem reader_step (hallowed : e.Allowed h) (hother : e.reads id = false)
    (hc : h.find? id = some c) : ∃ c', (h.step e).find? id = some c' ∧ c'.reader = c.reader ∧
      (c'.alive = true → c.alive = true) := by
  cases passage_step id hallowed with
  | absent fresh gone => exact nomatch hc.symm.trans fresh
  | opened fresh opens => exact nomatch hc.symm.trans fresh
  | writer found moves again =>
    obtain rfl := Option.some.inj (hc.symm.trans found)
    have keeps := Connection.keepsReader_writerTurn h.now h.config c
    exact ⟨_, moves.find?_self, keeps.reader_eq, keeps.alive_of⟩
  | reader found moves spares again => simp [Event.reads] at hother
  | @pass c later wallClock found =>
    exact ⟨_, (find?_moveClock h later id).trans hc, rfl, fun halive => halive⟩
  | spared found outside spares =>
    obtain ⟨c', hc', steady, -⟩ := spares.conn c hc
    exact ⟨c', hc', steady.reader_eq, steady.alive_of⟩

omit [Queued τ] in
theorem history_subset_step (h : Hub τ) (e : Event τ) : ∀ x ∈ h.history, x ∈ (h.step e).history :=
  fun x hx => (mem_history_step_iff h e x).mpr (.inl hx)

/-- The reader of a living connection that is not to get a turn has read everything, and waits for a
later instant. -/
theorem rests_of_not_ready (hrests : .reader id ∉ h.ready) (awake : Awake id h)
    (alert : h.Alert id) (hc : h.find? id = some c) (halive : c.alive = true) :
    Queued.inbox c.link = [] ∧ ∃ d, c.reader = .reading d ∧ h.now < d := by
  have hreader := (awake c hc halive).2
  rw [Connection.ReaderAwake] at hreader
  cases hphase : c.reader with
  | starting =>
    rw [hphase] at hreader
    exact absurd hreader hrests
  | stopped =>
    rw [hphase] at hreader
    exact hreader.elim
  | reading d =>
    rw [hphase] at hreader
    refine ⟨?_, d, rfl, hreader.2.resolve_left hrests⟩
    by_contra hne
    exact hrests (alert c hc (by simp [hphase]) (.inr ((Queued.hasArrived_iff c.link).mpr hne)))

omit [Queued τ] in
/-- Time passes only while the reader is not to get a turn. -/
theorem not_ready_of_pass (hpunctual : Punctual id h e) (hpass : e.IsPass) :
    .reader id ∉ h.ready := by
  cases e with
  | pass later wallClock => exact hpunctual.2.1
  | _ => cases hpass

theorem Follows.other (follows : Follows config id start h items acts) (hallowed : e.Allowed h)
    (hpunctual : Punctual id h e) (happends : Appends id h e) (awake : Awake id h)
    (alert : h.Alert id) (hother : e.reads id = false) :
    Follows config id start (h.step e) (items ++ (h.arrived id e).map (h.now, ·)) acts := by
  have feeds := feeds_step hallowed happends hother
  have hinbox := inbox_step hother feeds
  have hnew : ∀ x ∈ (h.arrived id e).map (h.now, ·), h.now ≤ x.1 := fun x hx => by
    obtain ⟨a, -, rfl⟩ := List.mem_map.mp hx
    exact Nat.le_refl _
  cases follows with
  | @reads c seen unread acts found alive reached unread_eq fresh =>
    obtain ⟨c', hc', hreader, halive⟩ := reader_step hallowed hother found
    have hruns : c.reader ≠ .stopped := fun hstopped => by
      have hreader := (awake c found alive).2
      rw [Connection.ReaderAwake, hstopped] at hreader
      exact hreader
    -- what arrives comes after what is not read yet
    rw [inbox_of_find? found, inbox_of_find? hc', unread_eq] at hinbox
    rw [List.append_assoc]
    have hunread : Queued.inbox c'.link =
        (unread ++ (h.arrived id e).map (h.now, ·)).map Prod.snd := by
      rw [hinbox, List.map_append, List.map_map]
      exact congrArg _ (List.map_id _).symm
    by_cases hpass : e.IsPass
    · -- nothing is left to be read, and the deadline stands
      obtain ⟨hnil, d, hreading, -⟩ :=
        rests_of_not_ready (not_ready_of_pass hpunctual hpass) awake alert found alive
      have hnone : unread ++ (h.arrived id e).map (h.now, ·) = [] := by
        rw [hnil] at unread_eq
        rw [arrived_of_pass hpass, List.map_eq_nil_iff.mp unread_eq.symm]
        rfl
      rw [hnone] at hunread ⊢
      refine follows_of_runs hc' (hreader ▸ hruns) ?_ hunread fun _ hx => absurd hx List.not_mem_nil
      rw [Connection.deadline_of_reading hreading] at reached
      rwa [Connection.deadline_of_reading (hreader.trans hreading)]
    · have hnow := now_step hpass h
      refine follows_of_runs hc' (hreader ▸ hruns) ?_ hunread fun x hx => ?_
      · rw [hnow, Connection.deadline, hreader]
        exact reached
      · rw [hnow]
        rcases List.mem_append.mp hx with hx | hx
        · exact fresh x hx
        · obtain ⟨a, -, rfl⟩ := List.mem_map.mp hx
          rfl
  | @dead c d seen more given last found dead reached ending =>
    -- who is dead stays so, and so does the way its reader ended
    obtain ⟨c', hc', hreader, halive⟩ := reader_step hallowed hother found
    have hdead : c'.alive = false :=
      Bool.eq_false_iff.mpr fun hlives => Bool.false_ne_true (dead.symm.trans (halive hlives))
    rw [List.append_assoc]
    refine .dead hc' hdead reached ?_
    rw [hreader]
    exact ending.later (now_le_step hallowed) (history_subset_step h e) hnew

/-! ## Turns of the reader -/

omit [Queued τ] in
/-- After a turn of the reader its connection is what the turn made of it, but a handler may have
torn it down. -/
theorem reader_turn (hc : h.find? id = some c) (roomFirst : Nat → Bool) :
    ∃ c', (h.poll roomFirst (.reader id)).find? id = some c' ∧
      c'.reader = (c.readerTurn h.now h.config).conn.reader ∧
      c'.link = (c.readerTurn h.now h.config).conn.link ∧
      (c'.alive = true → (c.readerTurn h.now h.config).conn.alive = true) ∧
      ∀ x ∈ (c.readerTurn h.now h.config).news, x ∈ (h.poll roomFirst (.reader id)).history := by
  obtain ⟨⟨h', moves, spares⟩, -⟩ := moves_reader hc roomFirst
  obtain ⟨c', hc', hlink⟩ := link_poll_reader hc roomFirst
  obtain ⟨y, hy, steady, -⟩ := spares.conn _ moves.find?_self
  obtain rfl := Option.some.inj (hc'.symm.trans hy)
  refine ⟨c', hc', steady.reader_eq, hlink, steady.alive_of, fun x hx => ?_⟩
  obtain ⟨news, heq, -⟩ := spares.history
  rw [heq, moves.history_eq]
  exact List.mem_append_right _ (List.mem_append_left _ hx)

/-- A reader that exits for a reason of its own does so by the rules, if they ask for this exit
whatever arrives later. -/
theorem follows_of_exits {reason : CloseReason} (roomFirst : Nat → Bool)
    (found : h.find? id = some c) (exits : c.Exits h.now h.config reason)
    (reached : Reached h.config start seen acts d)
    (ends : ∀ now rest, h.now ≤ now → (∀ x ∈ rest, h.now ≤ x.1) →
      Untied h.config d (unread ++ rest) →
      reading h.config now d (unread ++ rest) = [(h.now, .exited (some reason))]) :
    Follows h.config id start (h.poll roomFirst (.reader id)) (seen ++ unread)
      (acts ++ (c.readerAct? h.now h.config).toList.map (h.now, ·)) := by
  obtain ⟨c', hc', hreader, -, halive, hnews⟩ := reader_turn found roomFirst
  have hdead : c'.alive = false :=
    Bool.eq_false_iff.mpr fun hlives => Bool.false_ne_true (exits.dead.symm.trans (halive hlives))
  obtain rfl := id_of_find? found
  rw [exits.act]
  refine .dead hc' hdead reached ?_
  rw [hreader, exits.stopped]
  exact .own (Nat.le_of_eq (now_poll h roomFirst _).symm) (hnews _ exits.closed) ends

/-- The first turn of a reader. -/
theorem follows_turn_of_starting (roomFirst : Nat → Bool) (found : h.find? id = some c)
    (hstarting : c.reader = .starting)
    (reached : Reached h.config start seen acts (c.deadline h.now h.config))
    (unread_eq : Queued.inbox c.link = unread.map Prod.snd) (fresh : ∀ x ∈ unread, x.1 = h.now) :
    Follows h.config id start (h.poll roomFirst (.reader id)) (seen ++ unread)
      (acts ++ (c.readerAct? h.now h.config).toList.map (h.now, ·)) := by
  obtain ⟨c', hc', hreader, hlink, -⟩ := reader_turn found roomFirst
  have hturn : c.readerTurn h.now h.config =
      { conn := { c with reader := .reading (h.now + h.config.readTimeout) }, again := true } := by
    rw [Connection.readerTurn, hstarting]
  have hact : c.readerAct? h.now h.config = none := by
    rw [Connection.readerAct?, Connection.dispatched?, Connection.taken?, hstarting, hturn]
    exact if_neg (by simp)
  rw [hturn] at hreader hlink
  rw [hact, Option.toList_none, List.map_nil, List.append_nil]
  refine follows_of_runs hc' (by simp [hreader]) ?_ (hlink ▸ unread_eq) fun x hx => by
    rw [now_poll, fresh x hx]
  rw [Connection.deadline_of_reading hreader]
  rwa [Connection.deadline, hstarting] at reached

/-- A turn of the reader of a living connection that finds nothing to take. -/
theorem follows_turn_of_nothing (roomFirst : Nat → Bool) (found : h.find? id = some c)
    (alive : c.alive = true) (hreading : c.reader = .reading d) (hearly : h.now ≤ d)
    (reached : Reached h.config start seen acts d) (hnil : Queued.inbox c.link = []) :
    Follows h.config id start (h.poll roomFirst (.reader id)) (seen ++ [])
      (acts ++ (c.readerAct? h.now h.config).toList.map (h.now, ·)) := by
  obtain ⟨hlate, hwaits⟩ := Connection.readerTurn_of_nothing h.now h.config alive hreading hnil
  by_cases hdue : d ≤ h.now
  · obtain rfl : d = h.now := Nat.le_antisymm hdue hearly
    exact follows_of_exits roomFirst found (hlate hdue) reached fun now rest ht hrest huntied =>
      reading_late ht huntied hrest
  · obtain ⟨c', hc', hreader, hlink, -⟩ := reader_turn found roomFirst
    obtain ⟨link, hnil, hconn, hact⟩ := hwaits (Nat.lt_of_not_le hdue)
    rw [hconn] at hreader hlink
    rw [hact, Option.toList_none, List.map_nil, List.append_nil acts]
    refine follows_of_runs hc' ?_ ?_ (hlink ▸ hnil) fun _ hx => absurd hx List.not_mem_nil
    · simp [hreader, hreading]
    · rwa [Connection.deadline_of_reading (hreader.trans hreading)]

/-- A turn of the reader of a living connection that takes an item. -/
theorem follows_turn_of_item {a : Arrival} (roomFirst : Nat → Bool) (found : h.find? id = some c)
    (alive : c.alive = true) (hreading : c.reader = .reading d) (hearly : h.now ≤ d)
    (reached : Reached h.config start seen acts d)
    (unread_eq : Queued.inbox c.link = a :: unread.map Prod.snd)
    (fresh : ∀ x ∈ unread, x.1 = h.now) (harrived : a ≠ .pending) :
    Follows h.config id start (h.poll roomFirst (.reader id)) (seen ++ (h.now, a) :: unread)
      (acts ++ (c.readerAct? h.now h.config).toList.map (h.now, ·)) := by
  rcases Connection.readerTurn_of_item h.now h.config alive hreading unread_eq harrived with
    ⟨given, next, link, hjudged, hrest, hconn, hact⟩ | ⟨reason, hjudged, exits⟩
  · obtain ⟨c', hc', hreader, hlink, -⟩ := reader_turn found roomFirst
    have hgoes := reached.goOn hearly hjudged
    rw [hconn] at hreader hlink
    have hacts : (c.readerAct? h.now h.config).toList.map (h.now, ·) =
        given.toList.map fun f => (h.now, ReaderAct.dispatched f) := by
      rw [hact]
      cases given <;> rfl
    rw [hacts, List.append_cons]
    refine follows_of_runs hc' (by simp [hreader]) ?_ (hlink ▸ hrest) fun x hx => by
      rw [now_poll, fresh x hx]
    rwa [Connection.deadline_of_reading hreader]
  · exact follows_of_exits roomFirst found exits reached fun now rest _ _ _ =>
      reading_over hearly hjudged now _

/-- A turn of the reader of a living connection. -/
theorem follows_turn_of_alive (roomFirst : Nat → Bool) (found : h.find? id = some c)
    (alive : c.alive = true)
    (reached : Reached h.config start seen acts (c.deadline h.now h.config))
    (unread_eq : Queued.inbox c.link = unread.map Prod.snd) (fresh : ∀ x ∈ unread, x.1 = h.now)
    (awake : c.ReaderAwake (.reader id ∈ h.ready) h.now) (hitems : ∀ x ∈ unread, x.2 ≠ .pending) :
    Follows h.config id start (h.poll roomFirst (.reader id)) (seen ++ unread)
      (acts ++ (c.readerAct? h.now h.config).toList.map (h.now, ·)) := by
  cases hphase : c.reader with
  | stopped =>
    rw [Connection.ReaderAwake, hphase] at awake
    exact awake.elim
  | starting => exact follows_turn_of_starting roomFirst found hphase reached unread_eq fresh
  | reading d =>
    rw [Connection.ReaderAwake, hphase] at awake
    rw [Connection.deadline_of_reading hphase] at reached
    cases unread with
    | nil => exact follows_turn_of_nothing roomFirst found alive hphase awake.1 reached unread_eq
    | cons x rest =>
      obtain ⟨t, a⟩ := x
      obtain rfl : t = h.now := fresh _ List.mem_cons_self
      exact follows_turn_of_item roomFirst found alive hphase awake.1 reached unread_eq
        (fun x hx => fresh x (List.mem_cons_of_mem _ hx)) (hitems _ List.mem_cons_self)

/-- A turn of the reader of a dead connection. -/
theorem follows_turn_of_dead (roomFirst : Nat → Bool) (found : h.find? id = some c)
    (dead : c.alive = false) (reached : Reached h.config start seen given d)
    (ending : Ending h.config id h d more c.reader last) :
    Follows h.config id start (h.poll roomFirst (.reader id)) (seen ++ more)
      (given ++ last ++ (c.readerAct? h.now h.config).toList.map (h.now, ·)) := by
  obtain ⟨c', hc', hreader, -, halive, -⟩ := reader_turn found roomFirst
  obtain ⟨hturned, hact⟩ := Connection.readerTurn_of_dead h.now h.config dead
  have hdead : c'.alive = false :=
    Bool.eq_false_iff.mpr fun hlives => Bool.false_ne_true (hturned.symm.trans (halive hlives))
  -- what the reader has done last stands if it has stopped
  have hlater : Ending h.config id (h.poll roomFirst (.reader id)) d (more ++ []) c.reader last :=
    ending.later (Nat.le_of_eq (now_poll h roomFirst _).symm)
      (history_subset_step h (.turn (.reader id) roomFirst)) fun _ hx => absurd hx List.not_mem_nil
  rw [List.append_nil] at hlater
  rcases hact with ⟨hact, hstopped⟩ | ⟨hact, hruns, hstopped⟩
  · rw [hact, Option.toList_none, List.map_nil, List.append_nil]
    refine .dead hc' hdead reached ?_
    by_cases hwas : c.reader = .stopped
    · rw [hreader, hstopped.mpr hwas]
      rwa [hwas] at hlater
    · rw [ending.eq_nil hwas]
      exact .unaware fun hnow => hwas (hstopped.mp (hreader.symm.trans hnow))
  · rw [hact, ending.eq_nil hruns, List.append_nil]
    refine .dead hc' hdead reached ?_
    rw [hreader, hstopped]
    exact .noticed h.now

theorem Follows.turn (follows : Follows h.config id start h items acts) (hreads : e.reads id = true)
    (awake : Awake id h) (hitems : ∀ x ∈ items, x.2 ≠ .pending) :
    Follows h.config id start (h.step e) items
      (acts ++ (e.readerAct? id h).toList.map (h.now, ·)) := by
  obtain ⟨roomFirst, rfl⟩ := Event.eq_of_reads hreads
  rw [Event.readerAct?, if_pos rfl]
  cases follows with
  | reads found alive reached unread_eq fresh =>
    rw [found]
    exact follows_turn_of_alive roomFirst found alive reached unread_eq fresh
      (awake _ found alive).2 fun x hx => hitems x (List.mem_append_right _ hx)
  | dead found dead reached ending =>
    rw [found]
    exact follows_turn_of_dead roomFirst found dead reached ending

/-- **Every event** keeps the reader to the rules. -/
theorem Follows.step (follows : Follows h.config id start h items acts) (hallowed : e.Allowed h)
    (hpunctual : Punctual id h e) (happends : Appends id h e) (awake : Awake id h)
    (alert : h.Alert id) (hitems : ∀ x ∈ items, x.2 ≠ .pending) :
    Follows h.config id start (h.step e) (items ++ (h.arrived id e).map (h.now, ·))
      (acts ++ (e.readerAct? id h).toList.map (h.now, ·)) := by
  cases hreads : e.reads id with
  | true =>
    have hnone : h.arrived id e = [] := if_pos hreads
    rw [hnone, List.map_nil, List.append_nil items]
    exact follows.turn hreads awake hitems
  | false =>
    have hnone : e.readerAct? id h = none := by
      cases e with
      | turn t roomFirst =>
        cases t with
        | reader d => exact if_neg (of_decide_eq_false hreads)
        | writer | call => rfl
      | _ => rfl
    rw [hnone, Option.toList_none, List.map_nil, List.append_nil acts]
    exact follows.other hallowed hpunctual happends awake alert hreads

theorem Follows.not_pending (follows : Follows h.config id start h items acts)
    (hitems : ∀ x ∈ items, x.2 ≠ .pending) (hc : h.find? id = some c) (halive : c.alive = true) :
    .pending ∉ Queued.inbox c.link := by
  cases follows with
  | reads found alive reached unread_eq fresh =>
    obtain rfl := Option.some.inj (hc.symm.trans found)
    rw [unread_eq]
    intro hmem
    obtain ⟨x, hx, hpending⟩ := List.mem_map.mp hmem
    exact hitems x (List.mem_append_right _ hx) hpending
  | dead found dead reached ending =>
    obtain rfl := Option.some.inj (hc.symm.trans found)
    rw [halive] at dead
    cases dead

theorem Follows.alert (follows : Follows h.config id start h items acts) (hallowed : e.Allowed h)
    (happends : Appends id h e) (alert : h.Alert id) (hitems : ∀ x ∈ items, x.2 ≠ .pending) :
    (h.step e).Alert id := by
  cases hreads : e.reads id with
  | true => exact alert_of_reads hallowed hreads fun c hc => follows.not_pending hitems hc
  | false => exact (feeds_step hallowed happends hreads).alert alert

theorem Opens.follows {o : ConnectOptions} {link : τ} (opens : Opens id h o link h') :
    Follows h'.config id (h'.now + h'.config.readTimeout) h'
      ((Queued.inbox link).map (h'.now, ·)) [] :=
  .reads opens.find?_self rfl (.nil _ _) (by rw [List.map_map]; exact (List.map_id _).symm)
    fun x hx => by
      obtain ⟨a, -, rfl⟩ := List.mem_map.mp hx
      rfl

omit [Queued τ] in
theorem Opens.alert {o : ConnectOptions} {link : τ} (opens : Opens id h o link h') :
    h'.Alert id := fun _ _ _ _ => opens.reader_ready

theorem Opens.arrived {o : ConnectOptions} {link : τ}
    (opens : Opens id h o link (h.step (.upgrade id (.ok link) o))) (hfresh : h.find? id = none) :
    h.arrived id (.upgrade id (.ok link) o) = Queued.inbox link := by
  rw [Hub.arrived, if_neg (by simp [Event.reads]), inbox_of_find? opens.find?_self, inbox, hfresh]
  rfl

end Hub

/-! ## Runs -/

section Runs

variable {τ : Type} [Transport τ] [Queued τ] {h₀ h h' : Hub τ} {id : String} {es : List (Event τ)}
  {start : Nat} {items : List (Nat × Arrival)} {acts : List (Nat × ReaderAct)}

theorem Run.follows (run : Run h es h') (hpunctual : Along (Hub.Punctual id) h es)
    (happends : Along (Hub.Appends id) h es) (awake : h.Awake id) (alert : h.Alert id)
    (follows : Hub.Follows h.config id start h items acts)
    (hitems : ∀ x ∈ items ++ arrivals id h es, x.2 ≠ .pending) :
    Hub.Follows h.config id start h' (items ++ arrivals id h es) (acts ++ readerActs id h es) ∧
      h'.Awake id ∧ h'.Alert id := by
  induction run generalizing items acts with
  | nil h =>
    rw [arrivals, readerActs, List.append_nil, List.append_nil]
    exact ⟨follows, awake, alert⟩
  | @cons h h' e es allowed rest ih =>
    have hconfig : (h.step e).config = h.config := (Run.cons allowed (.nil _)).config_eq
    have hsofar : ∀ x ∈ items, x.2 ≠ .pending := fun x hx => hitems x (List.mem_append_left _ hx)
    have hstep := follows.step allowed hpunctual.1 happends.1 awake alert hsofar
    rw [arrivals, ← List.append_assoc] at hitems ⊢
    rw [readerActs, ← List.append_assoc]
    rw [← hconfig] at hstep ⊢
    exact ih hpunctual.2 happends.2 (Hub.awake_step allowed hpunctual.1 awake)
      (follows.alert allowed happends.1 alert hsofar) hstep hitems

/-- What the reader of the connection `id` has done after a run with the book `b`, if the rules ask
for `asked` and frames were counted as `counts` before: it gave frames to the handlers, `given`, and
`last` tells of its exit. -/
structure Hub.Obeys (id : String) (asked given last : List (Nat × ReaderAct)) (counts : Tally)
    (b : List Entry) (h : Hub τ) : Prop where
  /-- Up to its exit, the reader gives to the handlers the frames that the rules ask for, in their
  order, each at its instant, and does nothing else. -/
  dispatches : ∀ x ∈ given, ∃ f, x.2 = .dispatched f
  among : given <+: asked
  exits : last = [] ∨ ∃ t reason, last = [(t, .exited reason)]
  /-- While its connection is alive, it does all that the rules ask for, and so it has done all
  unless it is to get a turn. -/
  alive : h.isAlive id = true → last = [] ∧ (.reader id ∉ h.ready → given = asked)
  /-- If it exits for a reason of its own, it has done exactly what the rules ask for. -/
  own : ∀ t reason, last = [(t, .exited (some reason))] →
    given ++ last = asked ∧ .closed id reason ∈ h.history
  /-- Once its connection is dead, it exits in its next turn if it did not, and gives nothing more
  to the handlers. -/
  dead : h.isAlive id = false → .reader id ∉ h.ready → last ≠ []
  after : h.isAlive id = false →
    ∀ later h', Run h later h' → ∀ x ∈ readerActs id h later, x.2 = .exited none
  /-- What the handlers are given is counted before, under its kind, and nothing else is counted. -/
  recorded : b.filterMap (Entry.receipt? id) = given.filterMap fun x => x.2.frame?
  counted : h.metrics.received = counts.receive (receipts b)
  gives : ∀ c f, h.find? id = some c → c.dispatched? h.now h.config = some f →
    h.readerTurn id = (true,
      (h.received c f).dispatch { c with link := (Transport.receive h.now c.link).2 } f)
  /-- A turn in which the reader takes nothing for the handlers calls none of them: it does to the
  connection what that alone decides, asks for no sends, and notes nothing down. -/
  quiet : ∀ c, h.find? id = some c → c.dispatched? h.now h.config = none →
    Hub.Makes id (c.readerTurn h.now h.config) h (h.readerTurn id) ∧
      (h.readerTurn id).2.notes = h.notes

variable {link : τ} {o : ConnectOptions} {config : SocketConfig} {counts : Tally} {b : List Entry}

/-- The reader of a connection that is opened in a run follows the rules for what arrives in it. -/
theorem Run.follows_opened (run : Run h₀ es h)
    (hopens : es.head? = some (.upgrade id (.ok link) o))
    (hfits : h₀.capacityFor o ≤ Outbox.maxCapacity)
    (hpunctual : Along (Hub.Punctual id) h₀ es) (happends : Along (Hub.Appends id) h₀ es)
    (hitems : ∀ x ∈ arrivals id h₀ es, x.2 ≠ .pending) :
    Hub.Follows h₀.config id (h₀.now + h₀.config.readTimeout) h (arrivals id h₀ es)
      (readerActs id h₀ es) ∧ h.Awake id ∧ h.Alert id := by
  obtain ⟨h₁, rest, rfl, rfl, hfresh, opens, run, -⟩ := run.opened hopens hfits
  have harrivals : arrivals id h₀ (.upgrade id (.ok link) o :: rest) =
      (Queued.inbox link).map ((h₀.step (.upgrade id (.ok link) o)).now, ·) ++
        arrivals id (h₀.step (.upgrade id (.ok link) o)) rest := by
    rw [arrivals, opens.arrived hfresh, opens.now_eq]
  have hacts : readerActs id h₀ (.upgrade id (.ok link) o :: rest) =
      readerActs id (h₀.step (.upgrade id (.ok link) o)) rest := rfl
  rw [harrivals] at hitems ⊢
  rw [hacts, ← opens.now_eq, ← opens.config_eq]
  exact run.follows hpunctual.2 happends.2 opens.awake opens.alert opens.follows hitems

/-- A reader that follows the rules and misses nothing obeys them. -/
theorem Hub.Follows.obeys (follows : Hub.Follows config id start h items acts) (awake : h.Awake id)
    (alert : h.Alert id) (huntied : Untied config start items)
    (hrecorded : b.filterMap (Entry.receipt? id) = acts.filterMap fun x => x.2.frame?)
    (hcounted : h.metrics.received = counts.receive (receipts b)) :
    ∃ given last, acts = given ++ last ∧
      h.Obeys id (reading config h.now start items) given last counts b := by
  have hgives : ∀ c f, h.find? id = some c → c.dispatched? h.now h.config = some f →
      h.readerTurn id = (true,
        (h.received c f).dispatch { c with link := (Transport.receive h.now c.link).2 } f) :=
    fun c f hc hf => by
      obtain rfl := Hub.id_of_find? hc
      exact Hub.readerTurn_of_dispatched hc hf
  have hquiet : ∀ c, h.find? id = some c → c.dispatched? h.now h.config = none →
      Hub.Makes id (c.readerTurn h.now h.config) h (h.readerTurn id) ∧
        (h.readerTurn id).2.notes = h.notes := fun c hc hnone => by
    obtain ⟨h', makes, hp⟩ := Hub.reads_readerTurn hc
    rw [hnone] at hp
    obtain rfl : (h.readerTurn id).2 = h' := hp
    exact ⟨makes, Hub.notes_readerTurn hc hnone⟩
  cases follows with
  | @reads c seen unread acts found alive reached unread_eq fresh =>
    have halive : h.isAlive id = true := Hub.isAlive_iff.mpr ⟨c, found, alive⟩
    have hlives : h.isAlive id ≠ false := by simp [halive]
    refine ⟨acts, [], (List.append_nil acts).symm,
      { dispatches := reached.dispatches
        among := reached.among _ _
        exits := .inl rfl
        alive := fun _ => ⟨rfl, fun hrests => ?_⟩
        own := fun t reason hlast => nomatch hlast
        dead := fun hdead => absurd hdead hlives
        after := fun hdead => absurd hdead hlives
        recorded := hrecorded
        counted := hcounted
        gives := hgives
        quiet := hquiet }⟩
    -- a reader that is not to get a turn has read everything, and waits for a later instant
    obtain ⟨hnil, d, hreading, hlater⟩ := Hub.rests_of_not_ready hrests awake alert found alive
    rw [hnil] at unread_eq
    rw [List.map_eq_nil_iff.mp unread_eq.symm, reached.reading_eq,
      Connection.deadline_of_reading hreading, reading_early hlater, List.append_nil]
  | @dead c d seen more given last found dead reached ending =>
    have hdies : h.isAlive id ≠ true := fun halive => by
      obtain ⟨c', hc', halive⟩ := Hub.isAlive_iff.mp halive
      obtain rfl := Option.some.inj (found.symm.trans hc')
      exact absurd (dead.symm.trans halive) Bool.false_ne_true
    refine ⟨given, last, rfl,
      { dispatches := reached.dispatches
        among := reached.among _ _
        exits := ending.exits.1
        alive := fun halive => absurd halive hdies
        own := fun t reason hlast => ?_
        dead := fun _ hrests hlast => hrests (alert c found (fun hstopped => ?_) (.inl dead))
        after := fun _ later h' run => run.acts_of_dead found dead
        recorded := by rw [hrecorded, List.filterMap_append, ending.exits.2, List.append_nil]
        counted := hcounted
        gives := hgives
        quiet := hquiet }⟩
    · subst hlast
      obtain ⟨past, closed, ends⟩ := ending.of_own
      have hrest := ends h.now [] past (fun _ hx => absurd hx List.not_mem_nil)
      rw [List.append_nil] at hrest
      rw [reached.reading_eq, hrest (reached.untied more huntied)]
      exact ⟨rfl, closed⟩
    · subst hlast
      exact ending.not_stopped hstopped

/-- **A reader follows the rules.** Let a connection be opened, and let items arrive, none exactly
at the deadline for which its reader waits then. The reader gives to the handlers the frames that
the rules ask for, each at its instant, and each is counted; it exits as the rules ask, unless the
connection is torn down from elsewhere before. -/
theorem reader_follows_rules (run : Run h₀ es h)
    (hopens : es.head? = some (.upgrade id (.ok link) o))
    (hfits : h₀.capacityFor o ≤ Outbox.maxCapacity)
    (hpunctual : Along (Hub.Punctual id) h₀ es) (happends : Along (Hub.Appends id) h₀ es)
    (hitems : ∀ x ∈ arrivals id h₀ es, x.2 ≠ .pending)
    (huntied : Untied h₀.config (h₀.now + h₀.config.readTimeout) (arrivals id h₀ es)) :
    ∃ given last, readerActs id h₀ es = given ++ last ∧
      h.Obeys id
        (reading h₀.config h.now (h₀.now + h₀.config.readTimeout) (arrivals id h₀ es))
        given last h₀.metrics.received (book h₀ es) := by
  obtain ⟨follows, awake, alert⟩ := run.follows_opened hopens hfits hpunctual happends hitems
  exact follows.obeys awake alert huntied (receipt?_book id h₀ es) run.balances.received

end Runs

/-- The peer sends a frame over a link within the process. -/
def MemoryLink.sends (f : Frame) (m : MemoryLink) : MemoryLink := (m.push (.frame f)).2

/-- A peer that sends data and answers one heartbeat, and is silent from then on. A handler notes
down what it is given. -/
def thenSilent : List (Event MemoryLink) :=
  [.upgrade "a" (.ok {}) { handlers := [Handler.record "heard" "a"] },
    .turn (.writer "a") Hub.teardownFirst, .turn (.writer "a") Hub.teardownFirst,
    .turn (.reader "a") Hub.teardownFirst, .turn (.reader "a") Hub.teardownFirst,
    .pass 30 0, .peer "a" (.sends ⟨.text, [104, 105]⟩), .turn (.reader "a") Hub.teardownFirst,
    .turn (.reader "a") Hub.teardownFirst,
    .pass 60 0, .turn (.writer "a") Hub.teardownFirst, .turn (.writer "a") Hub.teardownFirst,
    .peer "a" (.sends ⟨.pong, []⟩), .peer "a" (.sends ⟨.binary, [0]⟩),
    .turn (.reader "a") Hub.teardownFirst, .turn (.reader "a") Hub.teardownFirst,
    .turn (.reader "a") Hub.teardownFirst,
    .pass 120 0, .turn (.writer "a") Hub.teardownFirst, .turn (.writer "a") Hub.teardownFirst,
    .pass 160 0, .turn (.reader "a") Hub.teardownFirst]

/-- A hub that waits a hundred milliseconds for a sign of life. -/
def hundredPatient : Hub MemoryLink :=
  Hub.initial { heartbeat := 60, readTimeout := 100, maxMessageSize := 2 } .listed [] 0 0

theorem reader_follows_rules_of_thenSilent :
    ∃ given last, readerActs "a" hundredPatient thenSilent = given ++ last ∧
      (thenSilent.foldl Hub.step hundredPatient).Obeys "a"
        [(30, .dispatched ⟨.text, [104, 105]⟩), (60, .dispatched ⟨.binary, [0]⟩),
          (160, .exited (some .readTimeout))]
        given last {} (book hundredPatient thenSilent) ∧
      (thenSilent.foldl Hub.step hundredPatient).notes.reverse =
        [⟨"heard", .frame "a" ⟨.text, [104, 105]⟩⟩, ⟨"heard", .frame "a" ⟨.binary, [0]⟩⟩] := by
  have run : Run hundredPatient thenSilent (thenSilent.foldl Hub.step hundredPatient) :=
    .of_allowed (by decide +kernel)
  have hasked : reading hundredPatient.config (thenSilent.foldl Hub.step hundredPatient).now 100
      (arrivals "a" hundredPatient thenSilent) =
        [(30, .dispatched ⟨.text, [104, 105]⟩), (60, .dispatched ⟨.binary, [0]⟩),
          (160, .exited (some .readTimeout))] := by decide +kernel
  obtain ⟨given, last, hacts, obeys⟩ := reader_follows_rules
    (o := { handlers := [Handler.record "heard" "a"] }) run rfl (by decide) (by decide +kernel)
    (by decide +kernel) (by decide +kernel) (by decide +kernel)
  rw [← hasked]
  exact ⟨given, last, hacts, obeys, by decide +kernel⟩

end Switchboard
