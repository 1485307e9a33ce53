import Mathlib.Data.List.Induction
import Switchboard.Proofs.Spares

/-!
# Time in a run

`chronicle h es` is what happens in a run, each happening with its instant. `signs` tells when the
reader of a connection started and when it read a pong.

## Hypotheses about time

Any amount of time may pass in a run at any point, so that nothing can be said of what a task does
at what instant unless time passes in an orderly way. `Hub.Punctual id` is what that means for the
connection `id`: time passes only while neither of its tasks is ready, and not beyond an instant for
which one of them waits. A hub lets time pass in this way once its tasks are settled
(`punctual_of_settled`). `Hub.Swift id n` says that no write stays pending for more than `n`
milliseconds. Both are about single events; `Along` asks them of all events of a run.

## What is kept

`Hub.Awake id` says of a living connection that whichever of its tasks has something to do is ready,
and that a task that waits for an instant waits for a later one. A punctual run keeps it
(`Run.awake`).
-/

namespace Switchboard

/-! ## Runs from their end -/

section Runs

variable {τ : Type} [Transport τ] {h h' h'' : Hub τ} {e : Event τ} {es es' : List (Event τ)}

/-- Something holds of every event of a run where it happens. -/
def Along (P : Hub τ → Event τ → Prop) : Hub τ → List (Event τ) → Prop
  | _, [] => True
  | h, e :: es => P h e ∧ Along P (h.step e) es

instance Along.decidable {P : Hub τ → Event τ → Prop} [∀ h e, Decidable (P h e)] :
    (h : Hub τ) → (es : List (Event τ)) → Decidable (Along P h es)
  | _, [] => .isTrue trivial
  | h, e :: es =>
    have : Decidable (Along P (h.step e) es) := Along.decidable (h.step e) es
    inferInstanceAs (Decidable (P h e ∧ Along P (h.step e) es))

theorem along_append {P : Hub τ → Event τ → Prop} :
    Along P h (es ++ es') ↔ Along P h es ∧ Along P (es.foldl Hub.step h) es' := by
  induction es generalizing h with
  | nil => simp [Along]
  | cons e rest ih => simp [Along, ih, and_assoc]

instance Event.Allowed.decidable (h : Hub τ) : (e : Event τ) → Decidable (e.Allowed h)
  | .upgrade id _ _ => decidable_of_iff ((h.find? id).isNone = true) Option.isNone_iff_eq_none
  | .pass now _ => inferInstanceAs (Decidable (h.now ≤ now))
  | .upgradeFailed _ | .ask _ | .abandon _ | .remove _ | .request _ _ | .act _ _ | .peer _ _
  | .turn _ _ => .isTrue trivial

namespace Run

/-- Events make up a run if each is allowed where it happens. -/
theorem of_allowed (hes : Along (fun h e => e.Allowed h) h es) :
    Run h es (es.foldl Hub.step h) := by
  induction es generalizing h with
  | nil => exact .nil h
  | cons e rest ih => exact .cons hes.1 (ih hes.2)

theorem eq_foldl (run : Run h es h') : h' = es.foldl Hub.step h := by
  induction run with
  | nil => rfl
  | cons _ _ ih => exact ih

theorem split (run : Run h (es ++ es') h'') : ∃ h', Run h es h' ∧ Run h' es' h'' := by
  induction es generalizing h with
  | nil => exact ⟨h, .nil h, run⟩
  | cons e rest ih =>
    cases run with
    | cons allowed run =>
      obtain ⟨h', first, second⟩ := ih run
      exact ⟨h', .cons allowed first, second⟩

/-- What holds at the beginning of a run and is kept by each of its steps holds at its end, where
the events so far may have a part in it. -/
theorem induct_end {P : List (Event τ) → Hub τ → Prop} (run : Run h es h') (start : P [] h)
    (step : ∀ {es h' e}, Run h es h' → e.Allowed h' → P es h' → P (es ++ [e]) (h'.step e)) :
    P es h' := by
  induction es using List.reverseRecOn generalizing h' with
  | nil =>
    cases run
    exact start
  | append_singleton es e ih =>
    obtain ⟨h₁, first, last⟩ := run.split
    cases last with
    | cons allowed rest =>
      cases rest
      exact step first allowed (ih first)

end Run

end Runs

/-! ## The clock -/

namespace Hub

variable {τ : Type} [Transport τ] {h : Hub τ} {id : String} {c : Connection τ} {e : Event τ}

theorem find?_moveClock (h : Hub τ) (now : Nat) (id : String) :
    (h.moveClock now).find? id = h.find? id := by
  obtain ⟨ready, heq, -⟩ := rouses_moveClock h now
  rw [heq]
  rfl

theorem now_moveClock (h : Hub τ) (now : Nat) : (h.moveClock now).now = now := by
  obtain ⟨ready, heq, -⟩ := rouses_moveClock h now
  rw [heq]

theorem config_moveClock (h : Hub τ) (now : Nat) : (h.moveClock now).config = h.config := by
  obtain ⟨ready, heq, -⟩ := rouses_moveClock h now
  rw [heq]

theorem history_moveClock (h : Hub τ) (now : Nat) : (h.moveClock now).history = h.history := by
  obtain ⟨ready, heq, -⟩ := rouses_moveClock h now
  rw [heq]

/-- A task that waited for an instant is ready when it has come. -/
theorem mem_ready_moveClock (hc : h.find? id = some c) {timer : Nat × Task}
    (htimer : timer ∈ timersOf c) {now : Nat} (hdue : timer.1 ≤ now) :
    timer.2 ∈ (h.moveClock now).ready := by
  refine mem_ready_wakeAll (List.mem_map_of_mem (List.mem_filter.mpr ⟨?_, by simpa using hdue⟩)) _
  exact List.mem_flatMap.mpr ⟨c, List.mem_of_find?_eq_some hc, htimer⟩

theorem now_turn (h : Hub τ) (roomFirst : Nat → Bool) (t : Task) :
    (h.turn roomFirst t).2.now = h.now := by
  cases t with
  | writer d => exact (within_writerTurn h d).now_eq
  | reader d => exact (within_readerTurn h d).now_eq
  | call number => exact (spares_callTurn h roomFirst number "").now_eq

theorem now_poll (h : Hub τ) (roomFirst : Nat → Bool) (t : Task) :
    (h.poll roomFirst t).now = h.now := by
  have hturn := now_turn { h with ready := h.ready.erase t } roomFirst t
  rw [poll]
  dsimp only
  split <;> exact hturn

/-- Only when time passes does the clock move. -/
theorem now_step (hpass : ¬ e.IsPass) (h : Hub τ) : (h.step e).now = h.now := by
  by_cases hturn : e.IsTurnOf ""
  · rcases isTurnOf_cases hturn with ⟨roomFirst, rfl⟩ | ⟨roomFirst, rfl⟩
    · exact now_poll h roomFirst _
    · exact now_poll h roomFirst _
  · exact (spares_step hturn hpass h).now_eq

theorem now_step_pass (h : Hub τ) (now wallClock : Nat) :
    (h.step (.pass now wallClock)).now = now := now_moveClock h now

/-- Time does not go back. -/
theorem now_le_step (hallowed : e.Allowed h) : h.now ≤ (h.step e).now := by
  by_cases hpass : e.IsPass
  · cases e with
    | pass now wallClock =>
      rw [now_step_pass]
      exact hallowed
    | _ => cases hpass
  · exact Nat.le_of_eq (now_step hpass h).symm

end Hub

theorem Run.now_le {τ : Type} [Transport τ] {h h' : Hub τ} {es : List (Event τ)}
    (run : Run h es h') : h.now ≤ h'.now := by
  induction run with
  | nil => exact Nat.le_refl _
  | cons allowed _ ih => exact Nat.le_trans (Hub.now_le_step allowed) ih

/-! ## What happened when -/

/-- The instants of those happenings of a chronicle that are of some sort, the first first. -/
def instants (p : Happening → Bool) (chronicle : List (Nat × Happening)) : List Nat :=
  (chronicle.filter fun x => p x.2).map Prod.fst

theorem instants_append (p : Happening → Bool) (first second : List (Nat × Happening)) :
    instants p (first ++ second) = instants p first ++ instants p second := by
  rw [instants, List.filter_append, List.map_append]
  rfl

theorem instants_eq_nil {p : Happening → Bool} {now : Nat} {news : List Happening}
    (hnews : ∀ x ∈ news, p x = false) : instants p (news.map (now, ·)) = [] := by
  rw [instants, List.map_eq_nil_iff, List.filter_eq_nil_iff]
  intro x hx
  obtain ⟨y, hy, rfl⟩ := List.mem_map.mp hx
  simp [hnews y hy]

/-- A frame is handed over to the link of a connection. -/
def Happening.isHanded (id : String) : Happening → Bool
  | .handed d _ _ => d = id
  | _ => false

/-- A heartbeat is handed over to the link of a connection. -/
def Happening.isBeat (id : String) : Happening → Bool
  | .handed d _ .heartbeat => d = id
  | _ => false

/-- A frame of the outbox is handed over to the link of a connection. -/
def Happening.isQueued (id : String) : Happening → Bool
  | .handed d _ .queued => d = id
  | _ => false

/-- Nothing is handed over to the link of a connection while its tasks do nothing. -/
theorem isHanded_of_fromOutside {id : String} {x : Happening}
    (hx : x.id = id → x.fromOutside = true) : x.isHanded id = false := by
  cases x with
  | handed d f cause =>
    by_cases hd : d = id
    · exact absurd (hx hd) (by simp [Happening.fromOutside])
    · simp [Happening.isHanded, hd]
  | entered | closed | removal => rfl

theorem isBeat_of_isHanded {id : String} {x : Happening} (hx : x.isHanded id = false) :
    x.isBeat id = false := by
  cases x with
  | handed d f cause => cases cause <;> first | exact hx | rfl
  | entered | closed | removal => rfl

theorem isQueued_of_isHanded {id : String} {x : Happening} (hx : x.isHanded id = false) :
    x.isQueued id = false := by
  cases x with
  | handed d f cause => cases cause <;> first | exact hx | rfl
  | entered | closed | removal => rfl

/-- A sign of life that the reader of a connection takes for one. -/
inductive Sign where
  /-- The reader started. -/
  | started
  | pong
  deriving DecidableEq, Repr

namespace Hub

variable {τ : Type}

/-- What is new in the history of a hub, the first first. -/
def newsSince (h h' : Hub τ) : List Happening :=
  (h'.history.take (h'.history.length - h.history.length)).reverse

theorem newsSince_eq {h h' : Hub τ} {news : List Happening}
    (heq : h'.history = news ++ h.history) : h.newsSince h' = news.reverse := by
  rw [newsSince, heq, List.length_append, Nat.add_sub_cancel, List.take_left]

theorem newsSince_of_eq {h h' : Hub τ} (heq : h'.history = h.history) : h.newsSince h' = [] :=
  newsSince_eq (show h'.history = [] ++ h.history from heq)

theorem Moves.newsSince {id : String} {t : Task} {r : Turned τ} {h h' : Hub τ}
    (moves : Moves id t r h h') : h.newsSince h' = r.news.reverse := newsSince_eq moves.history_eq

/-- Nothing is handed over to the link of a connection by what spares it. -/
theorem Spares.newsSince {id : String} {h h' : Hub τ} (spares : Spares id h h') :
    ∀ x ∈ h.newsSince h', x.id = id → x.fromOutside = true := by
  obtain ⟨news, heq, hnews⟩ := spares.history
  rw [newsSince_eq heq]
  exact fun x hx => hnews x (List.mem_reverse.mp hx)

/-- What is new after a turn of the reader is what the turn made happen, and then what the handlers
did. -/
theorem Moves.newsSince_spares {id : String} {t : Task} {r : Turned τ} {h h' h'' : Hub τ}
    (moves : Moves id t r h h') (spares : Spares id h' h'') :
    h.newsSince h'' = r.news.reverse ++ h'.newsSince h'' := by
  obtain ⟨news, heq, -⟩ := spares.history
  have heq' : h''.history = (news ++ r.news) ++ h.history := by
    rw [heq, moves.history_eq, List.append_assoc]
  rw [newsSince_eq heq', newsSince_eq heq, List.reverse_append]

end Hub

namespace Connection

variable {τ : Type} [Transport τ]

/-- The sign of life that the reader of a connection gets in a turn. -/
def sign? (now : Nat) (c : Connection τ) : Option Sign :=
  match c.reader with
  | .starting => some .started
  | _ => match c.taken? now with
    | some (.frame f) => if f.kind = .pong then some .pong else none
    | _ => none

end Connection

section Chronicle

variable {τ : Type} [Transport τ]

/-- What happens in a run, and when; the first first. -/
def chronicle : Hub τ → List (Event τ) → List (Nat × Happening)
  | _, [] => []
  | h, e :: es => (h.newsSince (h.step e)).map (h.now, ·) ++ chronicle (h.step e) es

/-- The sign of life that a connection gets in an event. -/
def Event.sign? (id : String) (h : Hub τ) : Event τ → Option Sign
  | .turn (.reader d) _ => if d = id then (h.find? id).bind (Connection.sign? h.now) else none
  | _ => none

/-- The signs of life that a connection gets in a run, and when; the first first. -/
def signs (id : String) : Hub τ → List (Event τ) → List (Nat × Sign)
  | _, [] => []
  | h, e :: es => ((e.sign? id h).toList.map (h.now, ·)) ++ signs id (h.step e) es

theorem chronicle_append (h : Hub τ) (es es' : List (Event τ)) :
    chronicle h (es ++ es') = chronicle h es ++ chronicle (es.foldl Hub.step h) es' := by
  induction es generalizing h with
  | nil => rfl
  | cons e rest ih => simp [chronicle, ih]

theorem signs_append (id : String) (h : Hub τ) (es es' : List (Event τ)) :
    signs id h (es ++ es') = signs id h es ++ signs id (es.foldl Hub.step h) es' := by
  induction es generalizing h with
  | nil => rfl
  | cons e rest ih => simp [signs, ih]

theorem chronicle_snoc {h h' : Hub τ} {es : List (Event τ)} (run : Run h es h') (e : Event τ) :
    chronicle h (es ++ [e]) =
      chronicle h es ++ (h'.newsSince (h'.step e)).map (h'.now, ·) := by
  rw [chronicle_append, ← run.eq_foldl, chronicle, chronicle, List.append_nil]

theorem signs_snoc (id : String) {h h' : Hub τ} {es : List (Event τ)} (run : Run h es h')
    (e : Event τ) :
    signs id h (es ++ [e]) = signs id h es ++ (e.sign? id h').toList.map (h'.now, ·) := by
  rw [signs_append, ← run.eq_foldl, signs, signs, List.append_nil]

/-! ## The order of instants -/

/-- Nothing of what happened in a run is later than its end. -/
theorem Run.instants_le {τ : Type} [Transport τ] {h h' : Hub τ} {es : List (Event τ)}
    (run : Run h es h') (p : Happening → Bool) : ∀ t ∈ instants p (chronicle h es), t ≤ h'.now := by
  refine run.induct_end (P := fun es h' => ∀ t ∈ instants p (chronicle h es), t ≤ h'.now)
    (fun t ht => absurd ht List.not_mem_nil) ?_
  intro es h' e run allowed ih t ht
  have hlater := Hub.now_le_step allowed
  rw [chronicle_snoc run, instants_append] at ht
  rcases List.mem_append.mp ht with ht | ht
  · exact Nat.le_trans (ih t ht) hlater
  · obtain ⟨x, hx, rfl⟩ := List.mem_map.mp ht
    obtain ⟨y, -, rfl⟩ := List.mem_map.mp (List.mem_filter.mp hx).1
    exact hlater

end Chronicle

/-! ## Tasks that have something to do are ready -/

namespace Connection

variable {τ : Type} {c c' : Connection τ} {now : Nat} {ready ready' : Prop}

/-- The writer of a living connection is ready if it has something to do, and waits for a later
instant otherwise. -/
def WriterAwake (ready : Prop) (now : Nat) (c : Connection τ) : Prop :=
  match c.writer with
  | .starting => ready
  | .idle => ready ∨ c.outbox.queued = [] ∧ now < c.heartbeat
  | .sending _ limit => now ≤ limit ∧ (ready ∨ now < limit)
  | .sendingClose _ | .closingSink _ | .stopped => False

/-- The reader of a living connection is ready if it has something to do, and waits for a later
instant otherwise. -/
def ReaderAwake (ready : Prop) (now : Nat) (c : Connection τ) : Prop :=
  match c.reader with
  | .starting => ready
  | .reading deadline => now ≤ deadline ∧ (ready ∨ now < deadline)
  | .stopped => False

theorem WriterAwake.writing (awake : c.WriterAwake ready now) : c.Writing := by
  rw [WriterAwake] at awake
  rw [Writing]
  cases hwriter : c.writer with
  | starting | idle | sending => trivial
  | sendingClose limit => rw [hwriter] at awake; exact awake
  | closingSink limit => rw [hwriter] at awake; exact awake
  | stopped => rw [hwriter] at awake; exact awake

/-- A writer that is where it was and as ready is awake, if a frame that is new has made it ready.
-/
theorem WriterAwake.mono (awake : c.WriterAwake ready now) (hready : ready → ready')
    (hwriter : c'.writer = c.writer) (hheartbeat : c'.heartbeat = c.heartbeat)
    (hqueued : c.writer = .idle → ready' ∨ c'.outbox.queued = c.outbox.queued) :
    c'.WriterAwake ready' now := by
  rw [WriterAwake] at awake ⊢
  rw [hwriter]
  cases hphase : c.writer with
  | starting =>
    rw [hphase] at awake
    exact hready awake
  | idle =>
    rw [hphase] at awake
    rcases awake with hwas | ⟨hempty, hearly⟩
    · exact .inl (hready hwas)
    · rcases hqueued hphase with hnow | hsame
      · exact .inl hnow
      · exact .inr ⟨hsame.trans hempty, hheartbeat ▸ hearly⟩
  | sending kind limit =>
    rw [hphase] at awake
    exact ⟨awake.1, awake.2.imp_left hready⟩
  | sendingClose limit => rw [hphase] at awake; exact awake
  | closingSink limit => rw [hphase] at awake; exact awake
  | stopped => rw [hphase] at awake; exact awake

theorem ReaderAwake.mono (awake : c.ReaderAwake ready now) (hready : ready → ready')
    (hreader : c'.reader = c.reader) : c'.ReaderAwake ready' now := by
  rw [ReaderAwake] at awake ⊢
  rw [hreader]
  cases hphase : c.reader with
  | starting =>
    rw [hphase] at awake
    exact hready awake
  | reading deadline =>
    rw [hphase] at awake
    exact ⟨awake.1, awake.2.imp_left hready⟩
  | stopped => rw [hphase] at awake; exact awake

variable [Transport τ]

/-- A write that does not end its connection leaves the writer awake. -/
theorem writerAwake_afterSend (kind : FrameKind) (limit : Nat) (p : Progress)
    (halive : (c.afterSend now kind limit p).conn.alive = true)
    (hagain : (c.afterSend now kind limit p).again = true → ready) :
    (c.afterSend now kind limit p).conn.WriterAwake ready now := by
  rcases afterSend_cases now c kind limit p with heq | ⟨hlimit, heq⟩ | ⟨reason, -, heq⟩
  · rw [heq] at hagain ⊢
    exact .inl (hagain rfl)
  · rw [heq]
    exact ⟨Nat.le_of_lt hlimit, .inr hlimit⟩
  · rw [heq, failWriter, conn_torn] at halive
    cases halive

theorem writerAwake_of_writes {config : SocketConfig} {r : Turned τ}
    (writes : c.Writes now config r) (halive : r.conn.alive = true)
    (hagain : r.again = true → ready) :
    r.conn.WriterAwake ready now := by
  cases writes with
  | start => exact .inl (hagain rfl)
  | rest idle empty early =>
    rw [WriterAwake, idle]
    exact .inr ⟨empty, early⟩
  | drop idle =>
    rw [WriterAwake]
    dsimp only
    rw [idle]
    exact .inl (hagain rfl)
  | queued => exact writerAwake_afterSend _ _ _ halive hagain
  | heartbeat => exact writerAwake_afterSend _ _ _ halive hagain
  | resume => exact writerAwake_afterSend _ _ _ halive hagain

theorem readerAwake_takeArrival {config : SocketConfig} {deadline : Nat} (a : Arrival)
    (hreading : c.reader = .reading deadline) (hle : now ≤ deadline)
    (halive : (c.takeArrival now config deadline a).conn.alive = true)
    (hagain : (c.takeArrival now config deadline a).again = true → ready) :
    (c.takeArrival now config deadline a).conn.ReaderAwake ready now := by
  rcases takeArrival_cases now config c deadline a with
    ⟨f, -, -, heq⟩ | ⟨f, -, -, heq⟩ | ⟨-, hearly, heq⟩ | ⟨reason, -, heq⟩
  · rw [heq] at hagain ⊢
    exact ⟨Nat.le_add_right _ _, .inl (hagain rfl)⟩
  · rw [heq] at hagain ⊢
    rw [ReaderAwake, hreading]
    exact ⟨hle, .inl (hagain rfl)⟩
  · rw [heq, ReaderAwake, hreading]
    exact ⟨hle, .inr hearly⟩
  · rw [heq, failReader, conn_torn] at halive
    cases halive

theorem readerAwake_readerTurn {config : SocketConfig} {was : Prop} (awake : c.ReaderAwake was now)
    (halive : c.alive = true) (halive' : (c.readerTurn now config).conn.alive = true)
    (hagain : (c.readerTurn now config).again = true → ready) :
    (c.readerTurn now config).conn.ReaderAwake ready now := by
  cases hphase : c.reader with
  | starting =>
    have heq : c.readerTurn now config =
        { conn := { c with reader := .reading (now + config.readTimeout) }, again := true } := by
      rw [readerTurn, hphase]
    rw [heq] at hagain ⊢
    exact ⟨Nat.le_add_right _ _, .inl (hagain rfl)⟩
  | reading deadline =>
    rw [ReaderAwake, hphase] at awake
    rw [readerTurn_of_reading halive hphase] at halive' hagain ⊢
    exact readerAwake_takeArrival _ hphase awake.1 halive' hagain
  | stopped =>
    rw [ReaderAwake, hphase] at awake
    cases awake

/-- Time passes while neither task is ready, up to an instant for which one waits. A task that waits
for just this instant has to be made ready. -/
theorem WriterAwake.pass (awake : c.WriterAwake ready now) (hidle : ¬ ready) {later : Nat}
    (htimers : ∀ timer ∈ Hub.timersOf c, now < timer.1 → later ≤ timer.1)
    (hdue : ∀ timer ∈ Hub.timersOf c, timer.1 ≤ later → timer.2 = .writer c.id → ready') :
    c.WriterAwake ready' later := by
  have hwait : ∀ t, (t, Task.writer c.id) ∈ Hub.timersOf c → now < t →
      later ≤ t ∧ (ready' ∨ later < t) := fun t hmem hearly => by
    have hle : later ≤ t := htimers _ hmem hearly
    refine ⟨hle, ?_⟩
    rcases Nat.lt_or_eq_of_le hle with hlt | heq
    · exact .inr hlt
    · exact .inl (hdue _ hmem (Nat.le_of_eq heq.symm) rfl)
  rw [WriterAwake] at awake ⊢
  cases hphase : c.writer with
  | starting =>
    rw [hphase] at awake
    exact absurd awake hidle
  | idle =>
    rw [hphase] at awake
    obtain ⟨hempty, hearly⟩ := awake.resolve_left hidle
    exact (hwait _ (by simp [Hub.timersOf, hphase]) hearly).2.imp_right fun hlt => ⟨hempty, hlt⟩
  | sending kind limit =>
    rw [hphase] at awake
    exact hwait _ (by simp [Hub.timersOf, hphase]) (awake.2.resolve_left hidle)
  | sendingClose limit => rw [hphase] at awake; exact awake
  | closingSink limit => rw [hphase] at awake; exact awake
  | stopped => rw [hphase] at awake; exact awake

theorem ReaderAwake.pass (awake : c.ReaderAwake ready now) (hidle : ¬ ready) {later : Nat}
    (htimers : ∀ timer ∈ Hub.timersOf c, now < timer.1 → later ≤ timer.1)
    (hdue : ∀ timer ∈ Hub.timersOf c, timer.1 ≤ later → timer.2 = .reader c.id → ready') :
    c.ReaderAwake ready' later := by
  rw [ReaderAwake] at awake ⊢
  cases hphase : c.reader with
  | starting =>
    rw [hphase] at awake
    exact absurd awake hidle
  | reading deadline =>
    rw [hphase] at awake
    have hmem : (deadline, Task.reader c.id) ∈ Hub.timersOf c := by simp [Hub.timersOf, hphase]
    have hle : later ≤ deadline := htimers _ hmem (awake.2.resolve_left hidle)
    refine ⟨hle, ?_⟩
    rcases Nat.lt_or_eq_of_le hle with hlt | heq
    · exact .inr hlt
    · exact .inl (hdue _ hmem (Nat.le_of_eq heq.symm) rfl)
  | stopped => rw [hphase] at awake; exact awake

end Connection

namespace Hub

variable {τ : Type} [Transport τ]

/-! ## Orderly time -/

/-- If time passes in an event, then neither task of the connection `id` is ready, and it does not
pass beyond an instant for which one of them waits. -/
def Punctual (id : String) (h : Hub τ) : Event τ → Prop
  | .pass now _ => .writer id ∉ h.ready ∧ .reader id ∉ h.ready ∧
    ∀ c ∈ h.find? id, ∀ timer ∈ timersOf c, h.now < timer.1 → now ≤ timer.1
  | _ => True

instance Punctual.decidable (id : String) (h : Hub τ) : (e : Event τ) → Decidable (Punctual id h e)
  | .pass now _ => inferInstanceAs (Decidable (.writer id ∉ h.ready ∧ .reader id ∉ h.ready ∧
    ∀ c ∈ h.find? id, ∀ timer ∈ timersOf c, h.now < timer.1 → now ≤ timer.1))
  | .upgrade _ _ _ | .upgradeFailed _ | .ask _ | .abandon _ | .remove _ | .request _ _ | .act _ _
  | .peer _ _ | .turn _ _ => .isTrue trivial

end Hub

/-- The instant until which a write may stay pending, if one does. -/
def WriterPhase.limit? : WriterPhase → Option Nat
  | .sending _ limit => some limit
  | _ => none

namespace Hub

variable {τ : Type} [Transport τ]

/-- If time passes in an event, then it does not pass beyond the instant `n` milliseconds after the
connection `id` began the write that is pending, if one is. -/
def Swift (id : String) (n : Nat) (h : Hub τ) : Event τ → Prop
  | .pass now _ => ∀ c ∈ h.find? id, ∀ limit ∈ c.writer.limit?,
    now + h.config.writeTimeout ≤ limit + n
  | _ => True

instance Swift.decidable (id : String) (n : Nat) (h : Hub τ) :
    (e : Event τ) → Decidable (Swift id n h e)
  | .pass now _ => inferInstanceAs (Decidable (∀ c ∈ h.find? id, ∀ limit ∈ c.writer.limit?,
    now + h.config.writeTimeout ≤ limit + n))
  | .upgrade _ _ _ | .upgradeFailed _ | .ask _ | .abandon _ | .remove _ | .request _ _ | .act _ _
  | .peer _ _ | .turn _ _ => .isTrue trivial

variable {h h' : Hub τ} {id : String} {c c' : Connection τ} {e : Event τ} {es : List (Event τ)}

/-- A hub without ready tasks that lets time pass, but no further than to the next instant for which
a task waits, does so punctually for every connection. -/
theorem punctual_of_settled (hready : h.ready = []) {now : Nat} (wallClock : Nat)
    (hnext : ∀ t ∈ h.nextInstant?, now ≤ t) (id : String) :
    Punctual id h (.pass now wallClock) := by
  refine ⟨by simp [hready], by simp [hready], fun c hc timer htimer hlater => ?_⟩
  have hmem : timer.1 ∈ (h.timers.map Prod.fst).filter fun t => decide (h.now < t) := by
    refine List.mem_filter.mpr ⟨List.mem_map_of_mem ?_, by simpa using hlater⟩
    exact List.mem_flatMap.mpr ⟨c, List.mem_of_find?_eq_some hc, htimer⟩
  cases hmin : h.nextInstant? with
  | none =>
    rw [nextInstant?, List.min?_eq_none_iff] at hmin
    rw [hmin] at hmem
    cases hmem
  | some t =>
    have hle : now ≤ t := hnext t hmin
    exact Nat.le_trans hle ((List.min?_eq_some_iff.mp hmin).2 _ hmem)

/-! ## Punctual runs keep both tasks awake -/

/-- The tasks of the connection `id`, if it is alive, miss nothing. -/
def Awake (id : String) (h : Hub τ) : Prop :=
  ∀ c, h.find? id = some c → c.alive = true →
    c.WriterAwake (.writer id ∈ h.ready) h.now ∧ c.ReaderAwake (.reader id ∈ h.ready) h.now

theorem Moves.awake_writer (moves : Moves id (.writer id) (c.writerTurn h.now h.config) h h')
    (hagain : (c.writerTurn h.now h.config).again = true → .writer id ∈ h'.ready)
    (hc : h.find? id = some c) (awake : Awake id h) : Awake id h' := by
  have keeps := Connection.keepsReader_writerTurn h.now h.config c
  intro c' hc' halive'
  obtain rfl : (c.writerTurn h.now h.config).conn = c' :=
    Option.some.inj (moves.find?_self.symm.trans hc')
  have halive := keeps.alive_of halive'
  obtain ⟨hwriter, hreader⟩ := awake c hc halive
  have writes : c.Writes h.now h.config (c.writerTurn h.now h.config) :=
    Connection.writes_writerTurn halive hwriter.writing
  rw [moves.now_eq]
  exact ⟨Connection.writerAwake_of_writes writes halive' hagain,
    hreader.mono (moves.ready_of_ne _ (by simp)) keeps.reader_eq⟩

theorem Moves.awake_reader {h'' : Hub τ}
    (moves : Moves id (.reader id) (c.readerTurn h.now h.config) h h') (spares : Spares id h' h'')
    (hagain : (c.readerTurn h.now h.config).again = true → .reader id ∈ h''.ready)
    (hc : h.find? id = some c) (awake : Awake id h) : Awake id h'' := by
  have keeps := Connection.keepsWriter_readerTurn h.now h.config c
  intro c' hc' halive'
  obtain ⟨c'', hfind, steady, hidle⟩ := spares.conn _ moves.find?_self
  obtain rfl : c' = c'' := Option.some.inj (hc'.symm.trans hfind)
  have halive'' := steady.alive_of halive'
  have halive := keeps.alive_of halive''
  obtain ⟨hwriter, hreader⟩ := awake c hc halive
  rw [spares.now_eq, moves.now_eq]
  constructor
  · have hready : .writer id ∈ h.ready → .writer id ∈ h'.ready := moves.ready_of_ne _ (by simp)
    have hturned : (c.readerTurn h.now h.config).conn.WriterAwake (.writer id ∈ h'.ready) h.now :=
      hwriter.mono hready keeps.writer_eq keeps.heartbeat_eq fun _ => .inr (by rw [keeps.outbox_eq])
    exact hturned.mono spares.writer_ready steady.writer_eq steady.heartbeat_eq hidle
  · have hturned := Connection.readerAwake_readerTurn hreader halive halive'' hagain
    exact hturned.mono (fun hready => hready) steady.reader_eq

theorem awake_pass {now wallClock : Nat} (hpunctual : Punctual id h (.pass now wallClock))
    (awake : Awake id h) : Awake id (h.step (.pass now wallClock)) := by
  obtain ⟨hwriterIdle, hreaderIdle, htimers⟩ := hpunctual
  intro c hc halive
  have hc : h.find? id = some c := (find?_moveClock h now id).symm.trans hc
  obtain rfl := id_of_find? hc
  obtain ⟨hwriter, hreader⟩ := awake c hc halive
  have hnow : (h.step (.pass now wallClock)).now = now := now_moveClock h now
  rw [hnow]
  exact ⟨hwriter.pass hwriterIdle (htimers c hc) fun timer htimer hle heq =>
      heq ▸ mem_ready_moveClock hc htimer hle,
    hreader.pass hreaderIdle (htimers c hc) fun timer htimer hle heq =>
      heq ▸ mem_ready_moveClock hc htimer hle⟩

omit [Transport τ] in
theorem Spares.awake (spares : Spares id h h') (hc : h.find? id = some c) (awake : Awake id h) :
    Awake id h' := by
  intro c' hc' halive'
  obtain ⟨c'', hfind, steady, hidle⟩ := spares.conn c hc
  obtain rfl : c' = c'' := Option.some.inj (hc'.symm.trans hfind)
  obtain ⟨hwriter, hreader⟩ := awake c hc (steady.alive_of halive')
  rw [spares.now_eq]
  exact ⟨hwriter.mono spares.writer_ready steady.writer_eq steady.heartbeat_eq hidle,
    hreader.mono spares.reader_ready steady.reader_eq⟩

omit [Transport τ] in
theorem Opens.awake {o : ConnectOptions} {link : τ} (opens : Opens id h o link h') :
    Awake id h' := by
  intro c hc _
  obtain rfl := Option.some.inj (opens.find?_self.symm.trans hc)
  exact ⟨opens.writer_ready, opens.reader_ready⟩

theorem awake_step (hallowed : e.Allowed h) (hpunctual : Punctual id h e) (awake : Awake id h) :
    Awake id (h.step e) := by
  cases passage_step id hallowed with
  | absent fresh hnone =>
    intro c hc
    rw [hnone] at hc
    cases hc
  | opened fresh opens => exact opens.awake
  | writer found moves again => exact moves.awake_writer again found awake
  | reader found moves spares again => exact moves.awake_reader spares again found awake
  | pass found => exact awake_pass hpunctual awake
  | spared found outside spares => exact spares.awake found awake

end Hub

theorem Run.awake {τ : Type} [Transport τ] {h h' : Hub τ} {es : List (Event τ)} (run : Run h es h')
    {id : String} (hpunctual : Along (Hub.Punctual id) h es) (awake : h.Awake id) :
    h'.Awake id := by
  induction run with
  | nil => exact awake
  | cons allowed _ ih => exact ih hpunctual.2 (Hub.awake_step allowed hpunctual.1 awake)

/-- The opening of a connection is the beginning of its life. -/
theorem Run.opened {τ : Type} [Transport τ] {h₀ h : Hub τ} {es : List (Event τ)} {id : String}
    {link : τ} {o : ConnectOptions} (run : Run h₀ es h)
    (hopens : es.head? = some (.upgrade id (.ok link) o))
    (hfits : h₀.capacityFor o ≤ Outbox.maxCapacity) :
    ∃ h₁ rest, es = .upgrade id (.ok link) o :: rest ∧ h₁ = h₀.step (.upgrade id (.ok link) o) ∧
      h₀.find? id = none ∧ Hub.Opens id h₀ o link h₁ ∧ Run h₁ rest h ∧
      chronicle h₀ es = chronicle h₁ rest := by
  obtain ⟨rest, rfl⟩ := List.head?_eq_some_iff.mp hopens
  cases run with
  | cons allowed run =>
    have opens : Hub.Opens id h₀ o link (h₀.step (.upgrade id (.ok link) o)) :=
      Hub.opens_accept allowed hfits link
    refine ⟨_, rest, rfl, rfl, allowed, opens, run, ?_⟩
    rw [chronicle, Hub.newsSince_of_eq opens.history_eq, List.map_nil, List.nil_append]

end Switchboard
