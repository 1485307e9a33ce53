import Switchboard.Proofs.Parting

/-!
# What reaches the sink after a teardown, and for how long

`farewell_of_teardown` follows a connection from its teardown to any later state of any run. If its
writer tore it down, over a write that failed, timed out or panicked, the sink was let go of in the
same turn and nothing is done with it since (`BrokenOff`). If anybody else did, what is done since
is a `Parting`: the frame that was in flight, if one was, is gone on with; no other frame is begun
but one close frame, and this only if the frame in flight went through; what was queued stays queued
(`TakenLeave`).

## Hypotheses about time

For how long this can go on is told of runs that are punctual since the teardown (`Hub.Punctual`):
no time passes while the writer is ready, nor beyond an instant for which it waits. What came before
the teardown need not have been punctual.

## Shape of the proof

The run since the teardown is repeated with all links watched. `Hub.Leaving` is what holds of it
throughout; every event keeps it (`Hub.leaving_step`). The writer of a dead connection that waits
for something to do is ready, so that time passes only while it waits for a limit, and then not
beyond it (`Hub.timely_pass`).
-/

namespace Switchboard

/-! ## While the connection is leaving -/

namespace Hub

section Passing

variable {τ : Type} [Transport τ] {h : Hub τ} {id : String} {c : Connection τ} {W B : Nat}

/-- Time that passes punctually leaves the writer of a dead connection in time. -/
theorem timely_pass (heedful : h.Heedful) (hc : h.find? id = some c) (hdead : c.alive = false)
    {later wallClock : Nat} (hpunctual : Punctual id h (.pass later wallClock))
    (timely : Timely W B h.now c.writer) : Timely W B later c.writer := by
  by_cases hphase : c.writer = .stopped
  · rw [hphase]
    trivial
  · have hdone : ¬ c.Due h.now .write := fun due =>
      hpunctual.1 (heedful.issues id .write ⟨c, hc, due⟩)
    obtain ⟨limit, htimer, hearly, -, hin⟩ := Connection.waits_of_not_due hdead hphase hdone timely
    exact hin.mono (hpunctual.2.2 c hc _ htimer hearly)

end Passing

variable {τ : Type} [Transport τ] {h : Hub (Watched τ)} {id : String}
  {c : Connection (Watched τ)} {e : Event τ} {W B : Nat} {inFlight : Option Nat} {punctual : Prop}

/-- The connection `id` was torn down and watched since then. If the run was punctual, its writer is
done by the instant `B`. -/
structure Leaving (id : String) (W B : Nat) (inFlight : Option Nat) (punctual : Prop)
    (h : Hub (Watched τ)) (c : Connection (Watched τ)) : Prop where
  found : h.find? id = some c
  dead : c.alive = false
  parting : Parting W inFlight c.link.acts c.writer
  inTime : punctual → Timely W B h.now c.writer ∧ ∀ x ∈ c.link.acts, x.1 ≤ B

omit [Transport τ] in
theorem Leaving.mono {punctual' : Prop} (leaving : Leaving id W B inFlight punctual h c)
    (hpunctual : punctual' → punctual) : Leaving id W B inFlight punctual' h c :=
  { leaving with inTime := fun hp => leaving.inTime (hpunctual hp) }

theorem leaving_writer (leaving : Leaving id W B inFlight punctual h c)
    (hW : h.config.writeTimeout = W) (roomFirst : Nat → Bool) :
    Leaving id W B inFlight punctual (h.poll roomFirst (.writer id))
      (c.writerTurn h.now h.config).conn := by
  subst hW
  obtain ⟨moves, -⟩ := moves_writer leaving.found roomFirst
  have proceeds := Connection.proceeds_writerTurn h.now leaving.dead leaving.parting
  refine ⟨moves.find?_self, proceeds.dead, proceeds.parting, fun hpunctual => ?_⟩
  obtain ⟨timely, hacts⟩ := leaving.inTime hpunctual
  rw [moves.now_eq]
  refine ⟨Connection.timely_writerTurn leaving.dead timely, fun x hx => ?_⟩
  by_cases hphase : c.writer = .stopped
  · rw [Connection.writerTurn, hphase] at hx
    exact hacts x hx
  · rcases proceeds.instant x hx with hx | hnow
    · exact hacts x hx
    · rw [hnow]
      exact timely.le hphase

theorem leaving_step (leaving : Leaving id W B inFlight punctual h c)
    (hW : h.config.writeTimeout = W) (heedful : h.Heedful) (hallowed : e.watched.Allowed h) :
    ∃ c', Leaving id W B inFlight (punctual ∧ Punctual id h e.watched) (h.step e.watched) c' := by
  rcases sameSink_step leaving.found hallowed with ⟨⟨roomFirst, rfl⟩, -⟩ | ⟨-, c', hfind, same⟩
  · exact ⟨_, (leaving_writer leaving hW roomFirst).mono And.left⟩
  · have hdead : c'.alive = false := by
      by_contra halive
      have halive := same.alive_of (by simpa using halive)
      rw [leaving.dead] at halive
      cases halive
    have hparting := leaving.parting
    rw [← same.writer_eq, ← same.acts_eq] at hparting
    refine ⟨c', hfind, hdead, hparting, fun hpunctual => ?_⟩
    obtain ⟨timely, hacts⟩ := leaving.inTime hpunctual.1
    rw [same.writer_eq, same.acts_eq]
    refine ⟨?_, hacts⟩
    by_cases hpass : e.watched.IsPass
    · cases e with
      | pass later wallClock =>
        rw [Event.watched, now_step_pass]
        exact timely_pass heedful leaving.found leaving.dead hpunctual.2 timely
      | _ => cases hpass
    · rw [now_step hpass]
      exact timely

end Hub

section Watching

variable {τ : Type} [Transport τ] {h h₁ : Hub (Watched τ)} {id : String}
  {c₁ : Connection (Watched τ)} {es : List (Event τ)} {W B : Nat} {inFlight : Option Nat}
  {punctual : Prop}

theorem Run.leaving (run : Run h₁ (es.map Event.watched) h)
    (leaving : Hub.Leaving id W B inFlight punctual h₁ c₁) (hW : h₁.config.writeTimeout = W)
    (inOrder : h₁.InOrder) (heedful : h₁.Heedful) :
    ∃ c, Hub.Leaving id W B inFlight
      (punctual ∧ Along (Hub.Punctual id) h₁ (es.map Event.watched)) h c := by
  induction es generalizing h₁ c₁ punctual with
  | nil =>
    cases run
    exact ⟨c₁, leaving.mono And.left⟩
  | cons e rest ih =>
    cases run with
    | cons allowed run =>
      have hconfig : (h₁.step e.watched).config = h₁.config :=
        Run.config_eq (.cons allowed (.nil _))
      obtain ⟨c₂, leaving⟩ := Hub.leaving_step leaving hW heedful allowed
      obtain ⟨c, leaving⟩ := ih run leaving (hconfig ▸ hW) (Hub.inOrder_step inOrder _)
        (Hub.heedful_step inOrder heedful _)
      exact ⟨c, leaving.mono fun hp => ⟨⟨hp.1, hp.2.1⟩, hp.2.2⟩⟩

/-- Nothing is done with the sink of a writer that has stopped. -/
theorem Run.silent (run : Run h₁ (es.map Event.watched) h) (hc : h₁.find? id = some c₁)
    (hstopped : c₁.writer = .stopped) :
    ∃ c, h.find? id = some c ∧ c.writer = .stopped ∧ c.link.acts = c₁.link.acts := by
  induction es generalizing h₁ c₁ with
  | nil =>
    cases run
    exact ⟨c₁, hc, hstopped, rfl⟩
  | cons e rest ih =>
    cases run with
    | cons allowed run =>
      rcases Hub.sameSink_step hc allowed with ⟨-, hfind⟩ | ⟨-, c₂, hfind, same⟩
      · rw [Connection.writerTurn, hstopped] at hfind
        exact ih run hfind hstopped
      · obtain ⟨c, hc', hwriter, hacts⟩ := ih run hfind (same.writer_eq.trans hstopped)
        exact ⟨c, hc', hwriter, hacts.trans same.acts_eq⟩

end Watching

/-! ## What has become of it -/

/-- The last instant at which there can be something to do for a writer whose connection is torn
down at the instant `T`. -/
def lastInstant (T W : Nat) : (inFlight : Option Nat) → Nat
  | none => T + W
  | some _ => T + 2 * W

section Statement

variable {τ : Type} [Transport τ]

/-- The writer of a connection is done by the instant `B`; `since` is what is done with its sink
since the teardown. -/
structure InTime (id : String) (B : Nat) (h : Hub τ) (c : Connection τ)
    (since : List (Nat × SinkAct)) : Prop where
  /-- Everything that is done with the sink is done by then, -/
  byThen : ∀ x ∈ since, x.1 ≤ B
  /-- the last of which is that the writer lets go of it, -/
  released : c.writer = .stopped → ∃ t, t ≤ B ∧ (t, .release) ∈ since
  /-- and until the writer has ended it is ready or waits for an instant that is no later. -/
  waits : c.writer ≠ .stopped → h.now ≤ B ∧ (.writer id ∈ h.ready ∨
    ∃ t, (t, .writer id) ∈ Hub.timersOf c ∧ h.now < t ∧ t ≤ B)

/-- The writer itself made `c₁` of `c₀` at the instant `T`; later this has become `c`. What is done
with the sink is `during` in the teardown and `since` after it. -/
structure BrokenOff (T : Nat) (config : SocketConfig) (c₀ c₁ c : Connection τ)
    (during since : List (Nat × SinkAct)) : Prop where
  /-- A write failed, timed out or panicked, and the writer let go of the sink. -/
  broken : ∃ p limit reason a, c₀.written? T config = some (p, limit) ∧
    Connection.WriteFault (limit ≤ T) p reason ∧ a.progress? = some p ∧
    during = [(T, a), (T, .release)]
  ended : c₁.writer = .stopped ∧ c.writer = .stopped
  silent : since = []

/-- Somebody else made `c₁` of `c₀` at the instant `T`, and a hub `h₁`; later this has become `c` in
a hub `h`. What is done with the sink is `during` in the teardown and `since` after it. -/
structure TakenLeave (id : String) (T W : Nat) (punctual : Prop) (h₁ h : Hub τ)
    (c₀ c₁ c : Connection τ) (during since : List (Nat × SinkAct)) : Prop where
  /-- The teardown itself does not touch the sink. -/
  undisturbed : c₁.writer = c₀.writer ∧ during = []
  /-- What was queued stays queued. -/
  unwritten : handed id h.history = handed id h₁.history ∧ c₁.outbox.queued <+: c.outbox.queued
  parting : Parting W c₁.writer.limit? since c.writer
  frames : framesOf since = [] ∨ framesOf since = [.close]
  inTime : punctual → InTime id (lastInstant T W c₁.writer.limit?) h c since

end Statement

/-! ## What watching shows -/

section Watching

variable {τ : Type} [Transport τ]

theorem Connection.written?_unwatched (now : Nat) (config : SocketConfig)
    (c : Connection (Watched τ)) : c.unwatched.written? now config = c.written? now config := by
  rw [written?, written?, show c.unwatched.writer = c.writer from rfl]
  cases c.writer <;> rfl

variable {h₀ h : Hub τ} {id : String} {c₀ c₁ c : Connection τ} {e : Event τ} {W B : Nat}
  {inFlight : Option Nat} {punctual : Prop}

/-- What is done with the sink in one event. -/
theorem sinkActs_singleton (hallowed : e.Allowed h₀) (hc₀ : h₀.find? id = some c₀)
    (hc₁ : (h₀.step e).find? id = some c₁) :
    ∃ c', c'.unwatched = c₁ ∧ sinkActs id h₀ [e] = c'.link.acts ∧
      (e.IsWriterTurnOf id ∧ c' = (c₀.watched.writerTurn h₀.now h₀.config).conn ∨
        ¬ e.IsWriterTurnOf id ∧ c₀.watched.SameSink c') := by
  have hfound : h₀.watched.find? id = some c₀.watched := by
    rw [Hub.find?_watched, hc₀]
    rfl
  have hallowed : e.watched.Allowed h₀.watched :=
    Hub.allowed_watched (by rwa [Hub.unwatched_watched])
  have run : Run h₀.watched ([e].map Event.watched) (h₀.watched.step e.watched) :=
    .cons hallowed (.nil _)
  have hseen : ∀ c', (h₀.watched.step e.watched).find? id = some c' →
      c'.unwatched = c₁ ∧ sinkActs id h₀ [e] = c'.link.acts := by
    intro c' hc'
    refine ⟨?_, sinkActs_eq run hc'⟩
    have hsame := Hub.find?_unwatched (h₀.watched.step e.watched) id
    rw [Hub.unwatched_step, Hub.unwatched_watched, hc₁, hc'] at hsame
    exact (Option.some.inj hsame).symm
  rcases Hub.sameSink_step hfound hallowed with ⟨hturn, hc'⟩ | ⟨hturn, c', hc', same⟩
  · exact ⟨_, (hseen _ hc').1, (hseen _ hc').2, .inl ⟨hturn, rfl⟩⟩
  · exact ⟨c', (hseen c' hc').1, (hseen c' hc').2, .inr ⟨hturn, same⟩⟩

omit [Transport τ] in
/-- How a parting begins: the writer of the connection is where the writer of a living one is. -/
theorem leaving_watched (hc : h.find? id = some c) (hdead : c.alive = false)
    (hwriting : c.Writing) (hlimit : ∀ limit ∈ c.writer.limit?, limit ≤ h.now + W) :
    Hub.Leaving id W (lastInstant h.now W c.writer.limit?) c.writer.limit? True h.watched
      c.watched := by
  rw [Connection.Writing] at hwriting
  have hfound : h.watched.find? id = some c.watched := by
    rw [Hub.find?_watched, hc]
    rfl
  refine ⟨hfound, hdead, ?_, fun _ => ⟨?_, fun _ hx => absurd hx List.not_mem_nil⟩⟩
  · change Parting W c.writer.limit? [] c.writer
    cases hphase : c.writer with
    | starting => exact .starting .nothing
    | idle => exact .cleared .nothing
    | sending kind limit => exact .writing rfl .begun kind
    | _ =>
      rw [hphase] at hwriting
      cases hwriting
  · change Timely W (lastInstant h.now W c.writer.limit?) h.now c.writer
    cases hphase : c.writer with
    | starting => exact Nat.le_refl _
    | idle => exact Nat.le_refl _
    | sending kind limit =>
      have hlimit := hlimit limit (by rw [hphase]; rfl)
      rw [Timely, WriterPhase.limit?, lastInstant]
      omega
    | _ =>
      rw [hphase] at hwriting
      cases hwriting

theorem Hub.Leaving.isInTime {w : Hub (Watched τ)} {c : Connection (Watched τ)}
    (leaving : Hub.Leaving id W B inFlight punctual w c) (heedful : w.Heedful)
    (hpunctual : punctual) : InTime id B w.unwatched c.unwatched c.link.acts := by
  obtain ⟨timely, hacts⟩ := leaving.inTime hpunctual
  refine ⟨hacts, fun hstopped => ?_, fun hphase => ⟨timely.le hphase, ?_⟩⟩
  · have parting := leaving.parting
    rw [show c.writer = .stopped from hstopped] at parting
    obtain ⟨t, ht⟩ := parting.released
    exact ⟨t, hacts _ ht, ht⟩
  · by_cases due : c.Due w.now .write
    · exact .inl (heedful.issues id .write ⟨c, leaving.found, due⟩)
    · obtain ⟨limit, htimer, hearly, hlimit, -⟩ :=
        Connection.waits_of_not_due leaving.dead hphase due timely
      rw [Hub.id_of_find? leaving.found, ← Hub.timersOf_mapLink Watched.faithful_link] at htimer
      exact .inr ⟨limit, htimer, hearly, hlimit⟩

end Watching

section Runs

variable {τ : Type} [Transport τ] {config : SocketConfig} {origins : OriginPolicy}
  {handlers : List Handler} {now wallClock : Nat} {start h₀ h : Hub τ} {id : String}
  {es es' : List (Event τ)} {e : Event τ} {c₀ c₁ : Connection τ}

/-- The passing of time tears no connection down. -/
theorem not_isPass_of_torn (hc₀ : h₀.find? id = some c₀) (halive : c₀.alive = true)
    (hc₁ : (h₀.step e).find? id = some c₁) (hdead : c₁.alive = false) : ¬ e.IsPass := by
  intro hpass
  cases e with
  | pass now wallClock =>
    obtain rfl := Option.some.inj (((Hub.find?_moveClock h₀ now id).trans hc₀).symm.trans hc₁)
    rw [halive] at hdead
    cases hdead
  | _ => cases hpass

/-- A write that is pending began no later than now. -/
theorem Run.limit_le (run : Run start es h₀) (traced : start.Traced id [] [])
    (hc₀ : h₀.find? id = some c₀) (halive : c₀.alive = true) :
    ∀ limit ∈ c₀.writer.limit?, limit ≤ h₀.now + h₀.config.writeTimeout := by
  intro limit hlimit
  cases hphase : c₀.writer with
  | sending kind limit' =>
    rw [hphase] at hlimit
    obtain rfl := Option.some.inj hlimit
    obtain ⟨t, ht, rfl⟩ := (run.traced traced c₀ hc₀).sending kind _ halive hphase
    have hle := run.instants_le _ t (List.mem_of_getLast? ht)
    omega
  | _ =>
    rw [hphase] at hlimit
    cases hlimit

/-- No frame leaves the outbox of a dead connection. -/
theorem Run.unwritten {h h' : Hub τ} (run : Run h es h') {c c' : Connection τ}
    (hc : h.find? id = some c) (hdead : c.alive = false) (hc' : h'.find? id = some c') :
    handed id h'.history = handed id h.history ∧ c.outbox.queued <+: c'.outbox.queued := by
  have balances := run.balances
  have hnone : takings id (book h es) = [] :=
    List.filterMap_eq_nil_iff.mpr fun x hx => (balances.late id c hc hdead x hx).1
  have hhanded := balances.handed id
  have hqueued := balances.queued id
  rw [hnone, List.nil_append, Hub.queued, Hub.queued, hc, hc'] at hqueued
  rw [hnone, List.filter_nil, List.append_nil] at hhanded
  exact ⟨hhanded, _, hqueued⟩

/-- After a turn in which the writer tore its connection down. -/
theorem Run.brokenOff (later : Run (h₀.step e) es' h) (halive : c₀.alive = true)
    (hwriting : c₀.Writing) (hc₁ : (h₀.step e).find? id = some c₁) (hdead : c₁.alive = false)
    (hturn : (c₀.watched.writerTurn h₀.now h₀.config).conn.unwatched = c₁)
    (hseen : sinkActs id h₀ [e] = (c₀.watched.writerTurn h₀.now h₀.config).conn.link.acts) :
    ∃ c, h.find? id = some c ∧
      BrokenOff h₀.now h₀.config c₀ c₁ c (sinkActs id h₀ [e]) (sinkActs id (h₀.step e) es') := by
  subst hturn
  obtain ⟨p, limit, reason, a, hwritten, fault, ha, hstopped, hacts⟩ :=
    Connection.broken_writerTurn (c := c₀.watched) halive hwriting hdead
  rw [← Connection.written?_unwatched] at hwritten
  have later' : Run (h₀.step e).watched.unwatched es' h := by rwa [Hub.unwatched_watched]
  obtain ⟨w, run, rfl⟩ := later'.watched
  have hfound := Hub.find?_watched (h₀.step e) id
  rw [hc₁] at hfound
  obtain ⟨c, hc, hwriter, hsilent⟩ := run.silent hfound hstopped
  have hfind : w.unwatched.find? id = some c.unwatched := by
    rw [Hub.find?_unwatched, hc]
    rfl
  exact ⟨c.unwatched, hfind, ⟨p, limit, reason, a, hwritten, fault, ha, hseen.trans hacts⟩,
    ⟨hstopped, hwriter⟩, (sinkActs_eq run hc).trans hsilent⟩

/-- After a teardown in which the writer of the connection had no part. -/
theorem Run.takenLeave (later : Run (h₀.step e) es' h) (allowed : e.Allowed h₀)
    (hc₀ : h₀.find? id = some c₀) (halive : c₀.alive = true) (hwriting : c₀.Writing)
    (hlimit : ∀ limit ∈ c₀.writer.limit?, limit ≤ h₀.now + h₀.config.writeTimeout)
    (hc₁ : (h₀.step e).find? id = some c₁) (hdead : c₁.alive = false)
    (hsame : c₁.writer = c₀.writer) (hseen : sinkActs id h₀ [e] = []) (inOrder : h₀.InOrder)
    (heedful : h₀.Heedful) :
    ∃ c, h.find? id = some c ∧ TakenLeave id h₀.now h₀.config.writeTimeout
      (Along (Hub.Punctual id) (h₀.step e) es') (h₀.step e) h c₀ c₁ c (sinkActs id h₀ [e])
      (sinkActs id (h₀.step e) es') := by
  have hnow : (h₀.step e).now = h₀.now :=
    Hub.now_step (not_isPass_of_torn hc₀ halive hc₁ hdead) h₀
  have hconfig : (h₀.step e).config = h₀.config := Run.config_eq (.cons allowed (.nil _))
  have heedful := (Hub.heedful_step inOrder heedful e).watched
  have inOrder := (Hub.inOrder_step inOrder e).watched
  rw [← hsame, ← hnow] at hlimit
  rw [Connection.Writing, ← hsame] at hwriting
  have later' : Run (h₀.step e).watched.unwatched es' h := by rwa [Hub.unwatched_watched]
  obtain ⟨w, run, rfl⟩ := later'.watched
  obtain ⟨c, leaving⟩ := run.leaving (leaving_watched hc₁ hdead hwriting hlimit)
    (congrArg SocketConfig.writeTimeout hconfig) inOrder heedful
  have hfind : w.unwatched.find? id = some c.unwatched := by
    rw [Hub.find?_unwatched, leaving.found]
    rfl
  rw [← hnow]
  refine ⟨c.unwatched, hfind, ⟨hsame, hseen⟩, later.unwritten hc₁ hdead hfind, ?_, ?_,
    fun hpunctual => ?_⟩
  · rw [sinkActs_eq run leaving.found]
    exact leaving.parting
  · rw [sinkActs_eq run leaving.found]
    exact leaving.parting.framesOf_eq
  · rw [sinkActs_eq run leaving.found]
    refine leaving.isInTime (run.heedful inOrder heedful) ⟨trivial, along_punctual_watched ?_⟩
    rwa [Hub.unwatched_watched]

/-- **No more than a farewell.** When a connection is torn down by its own writer, the sink is let
go of at that instant, after the write that was the cause, and nothing is done with it any more.
When it is torn down by anybody else, what was queued stays queued, and all that is still done with
the sink is this: a write that was pending is gone on with; unless that fails, panics or takes too
long, one empty close frame is attempted and, when it is handed over, closing the sink, both within
one write timeout; then the sink is let go of. If time passes punctually, all this is over two write
timeouts after the teardown at the latest, and one write timeout after it if no write was pending.
-/
theorem farewell_of_teardown (hstart : start = Hub.initial config origins handlers now wallClock)
    (run : Run start es h₀) (hc₀ : h₀.find? id = some c₀) (halive : c₀.alive = true)
    (allowed : e.Allowed h₀) (hc₁ : (h₀.step e).find? id = some c₁) (hdead : c₁.alive = false)
    (later : Run (h₀.step e) es' h) :
    ∃ c, h.find? id = some c ∧
      (e.IsWriterTurnOf id → BrokenOff h₀.now config c₀ c₁ c (sinkActs id h₀ [e])
        (sinkActs id (h₀.step e) es')) ∧
      (¬ e.IsWriterTurnOf id → TakenLeave id h₀.now config.writeTimeout
        (Along (Hub.Punctual id) (h₀.step e) es') (h₀.step e) h c₀ c₁ c (sinkActs id h₀ [e])
        (sinkActs id (h₀.step e) es')) := by
  obtain rfl : h₀.config = config := by rw [run.config_eq, hstart]; rfl
  have inOrder : start.InOrder := hstart ▸ Hub.inOrder_initial _ origins handlers now wallClock
  have heedful : start.Heedful := hstart ▸ Hub.heedful_initial _ origins handlers now wallClock
  have traced : start.Traced id [] [] := fun c hc => by
    subst hstart
    cases hc
  have hwriting : c₀.Writing := (run.traced traced c₀ hc₀).writing halive
  obtain ⟨c', hsame, hseen, ⟨hturn, rfl⟩ | ⟨hturn, same⟩⟩ := sinkActs_singleton allowed hc₀ hc₁
  · obtain ⟨c, hc, brokenOff⟩ := later.brokenOff halive hwriting hc₁ hdead hsame hseen
    exact ⟨c, hc, fun _ => brokenOff, fun hno => absurd hturn hno⟩
  · subst hsame
    obtain ⟨c, hc, takenLeave⟩ := later.takenLeave allowed hc₀ halive hwriting
      (run.limit_le traced hc₀ halive) hc₁ hdead same.writer_eq (hseen.trans same.acts_eq)
      (run.inOrder inOrder) (run.heedful inOrder heedful)
    exact ⟨c, hc, fun hown => absurd hown hturn, fun _ => takenLeave⟩

end Runs

/-- Of two frames for a link that takes four milliseconds for each, the first is in flight and the
second is queued. -/
def sendsTwoSlowly : List (Event ScriptedLink) :=
  [.upgrade "a" (.ok { script := .slow 4 }) {}, .turn (.writer "a") Hub.teardownFirst,
    .turn (.reader "a") Hub.teardownFirst, .turn (.reader "a") Hub.teardownFirst,
    .ask (.toHandle "a" ⟨.binary, [1]⟩), .turn (.call 0) Hub.teardownFirst,
    .turn (.writer "a") Hub.teardownFirst, .ask (.toHandle "a" ⟨.binary, [2]⟩),
    .turn (.call 1) Hub.teardownFirst, .pass 7 0]

/-- What follows when the connection is removed then: the first frame goes through, and the writer
says goodbye. -/
def thenParts : List (Event ScriptedLink) :=
  [.turn (.reader "a") Hub.teardownFirst, .pass 9 0, .turn (.writer "a") Hub.teardownFirst,
    .turn (.writer "a") Hub.teardownFirst, .pass 13 0, .turn (.writer "a") Hub.teardownFirst]

/-- The hub in which the connection is removed. -/
def twoSent : Hub ScriptedLink :=
  sendsTwoSlowly.foldl Hub.step (.initial { writeTimeout := 10 } .listed [] 5 0)

theorem farewell_of_teardown_of_thenParts :
    ∃ h c, Run (twoSent.step (.remove "a")) thenParts h ∧ h.find? "a" = some c ∧
      c.writer = .stopped ∧ [⟨.binary, [2]⟩] <+: c.outbox.queued ∧
      InTime "a" 27 h c [(9, .resume .done), (9, .send .close .pending), (13, .resume .done),
        (13, .close .done), (13, .release)] := by
  have run : Run (Hub.initial { writeTimeout := 10 } .listed [] 5 0) sendsTwoSlowly twoSent :=
    .of_allowed (by decide +kernel)
  have later : Run (twoSent.step (.remove "a")) thenParts _ := .of_allowed (by decide +kernel)
  have hbefore : (twoSent.find? "a").map (·.alive) = some true := by decide +kernel
  have hafter : ((twoSent.step (.remove "a")).find? "a").map
      (fun c => (c.alive, c.writer.limit?, c.outbox.queued)) =
        some (false, some 15, [⟨.binary, [2]⟩]) := by decide +kernel
  have hend : ((thenParts.foldl Hub.step (twoSent.step (.remove "a"))).find? "a").map (·.writer) =
      some .stopped := by decide +kernel
  have hacts : sinkActs "a" (twoSent.step (.remove "a")) thenParts =
      [(9, .resume .done), (9, .send .close .pending), (13, .resume .done), (13, .close .done),
        (13, .release)] := by decide +kernel
  obtain ⟨c₀, hc₀, halive⟩ := Option.map_eq_some_iff.mp hbefore
  obtain ⟨c₁, hc₁, hseen⟩ := Option.map_eq_some_iff.mp hafter
  obtain ⟨hdead, hseen⟩ := Prod.mk.inj hseen
  obtain ⟨hlimit, hqueued⟩ := Prod.mk.inj hseen
  obtain ⟨c, hc, -, htaken⟩ :=
    farewell_of_teardown (e := .remove "a") rfl run hc₀ halive trivial hc₁ hdead later
  have taken := htaken fun ⟨_, heq⟩ => by cases heq
  have inTime := taken.inTime (by decide +kernel)
  rw [hlimit, hacts] at inTime
  rw [hc] at hend
  exact ⟨_, c, later, hc, Option.some.inj hend, hqueued ▸ taken.unwritten.2, inTime⟩

end Switchboard
