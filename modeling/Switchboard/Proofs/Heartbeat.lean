import Switchboard.Proofs.CloseReason

/-!
# Heartbeats

The writer of a connection hands over a heartbeat when one is due and no frame is in the outbox. A
heartbeat is due a period after the last, or after the writer started. What keeps it waiting then is
the write that is under way and the frames of the outbox, which go before it: `beat_not_later` says
by how much at most, if no write takes longer than `n` milliseconds and time passes punctually.
Frames that are handed over while a heartbeat is due are counted in this bound, and there may be any
number of them.

If writes take no time, then heartbeats are handed over at the multiples of the period, counted from
the start (`Connection.Paced.exists_beats`).

## What is kept

`Connection.Paced` ties the phase of the writer to the heartbeats and frames that were handed over:
it says how late it may be when the writer waits, and when a pending write began.
-/

namespace Switchboard

/-- The instant from which the next heartbeat is counted: that of the last, or that of the start. -/
def lastBeat (start : Nat) (beats : List Nat) : Nat := beats.getLast?.getD start

/-- The first `count` multiples of a period, counted from a start. -/
def multiples (start period count : Nat) : List Nat :=
  (List.range count).map fun k => start + (k + 1) * period

theorem multiples_succ (start period count : Nat) :
    multiples start period (count + 1) =
      multiples start period count ++ [start + (count + 1) * period] := by
  rw [multiples, List.range_succ, List.map_append]
  rfl

theorem lastBeat_snoc (start : Nat) (beats : List Nat) (beat : Nat) :
    lastBeat start (beats ++ [beat]) = beat := by
  simp [lastBeat]

theorem mem_multiples (start period : Nat) {k count : Nat} (hk : k < count) :
    start + (k + 1) * period ∈ multiples start period count :=
  List.mem_map.mpr ⟨k, List.mem_range.mpr hk, rfl⟩

theorem lastBeat_multiples (start period count : Nat) :
    lastBeat start (multiples start period count) = start + count * period := by
  cases count with
  | zero => simp [lastBeat, multiples]
  | succ count => rw [multiples_succ, lastBeat_snoc]

namespace Connection

variable {τ : Type} [Transport τ] {n now start : Nat} {config : SocketConfig}
  {c c' : Connection τ} {r : Turned τ} {beats queued : List Nat}

/-- How late it may be in each phase of the writer of a living connection: a heartbeat is due at
`due`, and `overtaking` frames were handed over since. -/
def InTime (n : Nat) (config : SocketConfig) (now due overtaking : Nat) (c : Connection τ) : Prop :=
  match c.writer with
  | .starting => now + config.heartbeat = due
  | .idle => c.heartbeat ≤ due ∧ now ≤ due + (overtaking + 1) * n
  | .sending _ limit => c.heartbeat ≤ due ∧ ∃ began, limit = began + config.writeTimeout ∧
    began ≤ now ∧ now ≤ began + n ∧ began ≤ due + overtaking * n
  | .sendingClose _ | .closingSink _ | .stopped => False

/-- The next heartbeat of a living connection is due at a multiple of the period, and all before it
were handed over. -/
structure Regular (config : SocketConfig) (now start : Nat) (beats : List Nat) (c : Connection τ) :
    Prop where
  beats_eq : ∃ m, beats = multiples start config.heartbeat m
  beat_le : lastBeat start beats ≤ now
  heartbeat_eq : c.writer ≠ .starting → c.heartbeat = lastBeat start beats + config.heartbeat

/-- The writer of a living connection keeps pace: it is not later than what was handed over
explains, and heartbeats are regular if writes take no time. -/
structure Paced (n : Nat) (config : SocketConfig) (now start : Nat) (beats queued : List Nat)
    (c : Connection τ) : Prop where
  inTime : c.InTime n config now (lastBeat start beats + config.heartbeat)
    (queued.countP fun t => lastBeat start beats + config.heartbeat ≤ t)
  regular : n = 0 → c.Regular config now start beats

omit [Transport τ] in
theorem InTime.le {due overtaking : Nat} (inTime : c.InTime n config now due overtaking) :
    now ≤ due + (overtaking + 1) * n := by
  unfold InTime at inTime
  have hsucc : (overtaking + 1) * n = overtaking * n + n := Nat.succ_mul overtaking n
  cases hphase : c.writer with
  | starting =>
    rw [hphase] at inTime
    dsimp only at inTime
    omega
  | idle =>
    rw [hphase] at inTime
    exact inTime.2
  | sending kind limit =>
    rw [hphase] at inTime
    obtain ⟨-, began, -, -, hnow, hbegan⟩ := inTime
    omega
  | sendingClose | closingSink | stopped =>
    rw [hphase] at inTime
    exact False.elim inTime

omit [Transport τ] in
/-- Only the phase of the writer and its next heartbeat matter. -/
theorem Paced.of_same (paced : c.Paced n config now start beats queued)
    (hwriter : c'.writer = c.writer) (hheartbeat : c'.heartbeat = c.heartbeat) :
    c'.Paced n config now start beats queued where
  inTime := by
    have inTime := paced.inTime
    unfold InTime at inTime ⊢
    rwa [hwriter, hheartbeat]
  regular hn := by
    obtain ⟨hbeats, hle, heq⟩ := paced.regular hn
    exact ⟨hbeats, hle, fun hstarted => hheartbeat.trans (heq (hwriter ▸ hstarted))⟩

/-! ## Turns of the writer -/

theorem afterSend_of_alive {kind : FrameKind} {limit : Nat} {p : Progress}
    (halive : (c.afterSend now kind limit p).conn.alive = true) :
    (c.afterSend now kind limit p).conn = { c with writer := .idle } ∨
      (c.afterSend now kind limit p).conn = { c with writer := .sending kind limit } := by
  rcases afterSend_cases now c kind limit p with heq | ⟨-, heq⟩ | ⟨reason, -, heq⟩
  · rw [heq]
    exact .inl rfl
  · rw [heq]
    exact .inr rfl
  · rw [heq, failWriter, conn_torn] at halive
    cases halive

/-- A write that began in time leaves the writer in time. -/
theorem inTime_afterSend {kind : FrameKind} {limit due overtaking began : Nat} {p : Progress}
    (hheartbeat : c.heartbeat ≤ due) (hlimit : limit = began + config.writeTimeout)
    (hbegan : began ≤ now) (hnow : now ≤ began + n) (hdue : began ≤ due + overtaking * n)
    (halive : (c.afterSend now kind limit p).conn.alive = true) :
    (c.afterSend now kind limit p).conn.InTime n config now due overtaking := by
  rcases afterSend_of_alive halive with heq | heq
  · rw [heq]
    refine ⟨hheartbeat, ?_⟩
    rw [Nat.succ_mul]
    omega
  · rw [heq]
    exact ⟨hheartbeat, began, hlimit, hbegan, hnow, hdue⟩

theorem regular_afterSend {kind : FrameKind} {limit : Nat} {p : Progress}
    (hbeats : ∃ m, beats = multiples start config.heartbeat m) (hle : lastBeat start beats ≤ now)
    (heq : c.heartbeat = lastBeat start beats + config.heartbeat)
    (halive : (c.afterSend now kind limit p).conn.alive = true) :
    (c.afterSend now kind limit p).conn.Regular config now start beats := by
  refine ⟨hbeats, hle, fun _ => ?_⟩
  rcases afterSend_of_alive halive with hconn | hconn
  · rw [hconn]
    exact heq
  · rw [hconn]
    exact heq

omit [Transport τ] in
theorem nextHeartbeat_le {due : Nat} (hdue : due ≤ now) (period : Nat) :
    Hub.nextHeartbeat now due period ≤ now + period := by
  unfold Hub.nextHeartbeat
  split <;> omega

omit [Transport τ] in
/-- A writer that waits for something to do is in time for the next write, which counts if a
heartbeat is due. -/
theorem InTime.next {due overtaking : Nat} (inTime : c.InTime n config now due overtaking)
    (hidle : c.writer = .idle) :
    c.heartbeat ≤ due ∧ now ≤ due + (overtaking + if due ≤ now then 1 else 0) * n := by
  unfold InTime at inTime
  rw [hidle] at inTime
  refine ⟨inTime.1, ?_⟩
  split
  · exact inTime.2
  · omega

omit [Transport τ] in
/-- A heartbeat that is due when writes take no time is due now. -/
theorem Paced.due_eq (paced : c.Paced 0 config now start beats queued) (hidle : c.writer = .idle)
    (hdue : c.heartbeat ≤ now) : now = lastBeat start beats + config.heartbeat := by
  have hle := paced.inTime.le
  have heq := (paced.regular rfl).heartbeat_eq (by simp [hidle])
  omega

omit [Transport τ] in
/-- A heartbeat that is handed over when writes take no time is the next multiple of the period, and
the one after it is due a period later. -/
theorem Paced.beat (paced : c.Paced 0 config now start beats queued) (hidle : c.writer = .idle)
    (hdue : c.heartbeat ≤ now) :
    (∃ m, beats ++ [now] = multiples start config.heartbeat m) ∧
      Hub.nextHeartbeat now c.heartbeat config.heartbeat = now + config.heartbeat := by
  have hnow := paced.due_eq hidle hdue
  obtain ⟨⟨m, hbeats⟩, -, heq⟩ := paced.regular rfl
  have hheartbeat : c.heartbeat = now := (heq (by simp [hidle])).trans hnow.symm
  constructor
  · refine ⟨m + 1, ?_⟩
    rw [hbeats, lastBeat_multiples] at hnow
    rw [multiples_succ, ← hbeats, hnow, Nat.succ_mul, Nat.add_assoc]
  · rw [hheartbeat, Hub.nextHeartbeat, if_neg (by omega)]

/-- **The writer keeps pace.** -/
theorem Paced.writes (paced : c.Paced n config now start beats queued)
    (writes : c.Writes now config r) (halive : r.conn.alive = true) :
    r.conn.Paced n config now start
      (beats ++ instants (Happening.isBeat c.id) (r.news.reverse.map (now, ·)))
      (queued ++ instants (Happening.isQueued c.id) (r.news.reverse.map (now, ·))) := by
  have inTime := paced.inTime
  cases writes with
  | start starting =>
    -- The first heartbeat is a whole interval away from now.
    unfold InTime at inTime
    rw [starting] at inTime
    simp only [List.reverse_nil, List.map_nil, instants, List.filter_nil, List.append_nil]
    constructor
    · exact ⟨Nat.le_of_eq inTime, by dsimp only at inTime; omega⟩
    · intro hn
      obtain ⟨hbeats, hle, -⟩ := paced.regular hn
      exact ⟨hbeats, hle, fun _ => inTime⟩
  | rest idle empty early =>
    simpa [instants] using paced
  | drop idle taken unsendable =>
    simp only [List.reverse_nil, List.map_nil, instants, List.filter_nil, List.append_nil]
    exact paced.of_same rfl rfl
  | @queued f t o idle taken sendable =>
    -- A frame from the queue is handed over now, before a heartbeat that may be due.
    rw [instants_after_afterSend fun _ _ => rfl, instants_after_afterSend fun _ _ => rfl]
    have hbeat : instants (Happening.isBeat c.id) ([.handed c.id f .queued].reverse.map (now, ·)) =
        [] := rfl
    have hqueued : instants (Happening.isQueued c.id)
        ([.handed c.id f .queued].reverse.map (now, ·)) = [now] := by
      simp [instants, Happening.isQueued]
    obtain ⟨hheartbeat, hnow⟩ := inTime.next idle
    rw [hbeat, hqueued, List.append_nil]
    constructor
    · rw [List.countP_append, List.countP_singleton]
      exact inTime_afterSend hheartbeat rfl (Nat.le_refl now) (Nat.le_add_right now n)
        (by simpa using hnow) halive
    · intro hn
      obtain ⟨hbeats, hle, heq⟩ := paced.regular hn
      exact regular_afterSend hbeats hle (heq (by simp [idle])) halive
  | heartbeat idle empty due =>
    -- A heartbeat is handed over now, and the next one is due after it.
    rw [instants_after_afterSend fun _ _ => rfl, instants_after_afterSend fun _ _ => rfl]
    have hbeat : instants (Happening.isBeat c.id)
        ([.handed c.id .ping .heartbeat].reverse.map (now, ·)) = [now] := by
      simp [instants, Happening.isBeat]
    have hqueued : instants (Happening.isQueued c.id)
        ([.handed c.id .ping .heartbeat].reverse.map (now, ·)) = [] := rfl
    rw [hbeat, hqueued, List.append_nil]
    constructor
    · rw [lastBeat_snoc]
      exact inTime_afterSend (nextHeartbeat_le due _) rfl (Nat.le_refl now)
        (Nat.le_add_right now n) (by omega) halive
    · rintro rfl
      obtain ⟨hbeats, hnext⟩ := paced.beat idle due
      refine regular_afterSend hbeats (Nat.le_of_eq (lastBeat_snoc _ _ _)) ?_ halive
      rw [lastBeat_snoc]
      exact hnext
  | @resume kind limit sending =>
    -- Nothing is handed over: a write goes on that began `n` ago at most, or it ends.
    unfold InTime at inTime
    rw [sending] at inTime
    obtain ⟨hheartbeat, began, hlimit, hbegan, hnow, hdue⟩ := inTime
    rw [instants_afterSend fun _ _ => rfl, instants_afterSend fun _ _ => rfl, List.append_nil,
      List.append_nil]
    constructor
    · exact inTime_afterSend hheartbeat hlimit hbegan hnow hdue halive
    · intro hn
      obtain ⟨hbeats, hle, heq⟩ := paced.regular hn
      exact regular_afterSend hbeats hle (heq (by simp [sending])) halive

end Connection

/-! ## Runs -/

namespace Hub

variable {τ : Type} [Transport τ] {h h' : Hub τ} {id : String} {n start : Nat}
  {beats queued : List Nat} {c : Connection τ} {e : Event τ}

/-- The connection `id` is there, and keeps pace while it is alive. -/
def Paced (id : String) (n start : Nat) (beats queued : List Nat) (h : Hub τ) : Prop :=
  ∃ c, h.find? id = some c ∧ (c.alive = true → c.Paced n h.config h.now start beats queued)

omit [Transport τ] in
theorem Spares.paced (spares : Spares id h h') (hc : h.find? id = some c)
    (paced : c.alive = true → c.Paced n h.config h.now start beats queued) :
    Paced id n start beats queued h' := by
  obtain ⟨c', hc', steady, -⟩ := spares.conn c hc
  refine ⟨c', hc', fun halive => ?_⟩
  rw [spares.now_eq, spares.config_eq]
  exact (paced (steady.alive_of halive)).of_same steady.writer_eq steady.heartbeat_eq

omit [Transport τ] in
theorem Opens.paced {o : ConnectOptions} {link : τ} (opens : Opens id h o link h') :
    Paced id n h'.now [] [] h' := by
  refine ⟨_, opens.find?_self, fun _ => ⟨rfl, fun _ => ⟨⟨0, rfl⟩, Nat.le_refl _, ?_⟩⟩⟩
  exact fun hstarted => absurd rfl hstarted

/-- Time that passes punctually, and while no write is pending for more than `n` milliseconds,
leaves the writer in time. -/
theorem paced_pass {later wallClock : Nat} (hallowed : h.now ≤ later)
    (hpunctual : Punctual id h (.pass later wallClock))
    (hswift : Swift id n h (.pass later wallClock)) (awake : Awake id h) (hc : h.find? id = some c)
    (halive : c.alive = true) (paced : c.Paced n h.config h.now start beats queued) :
    c.Paced n h.config later start beats queued := by
  obtain ⟨hidle, -, htimers⟩ := hpunctual
  have hwriter := (awake c hc halive).1
  have inTime := paced.inTime
  unfold Connection.InTime at inTime
  unfold Connection.WriterAwake at hwriter
  constructor
  · unfold Connection.InTime
    cases hphase : c.writer with
    | starting =>
      rw [hphase] at hwriter
      exact absurd hwriter hidle
    | idle =>
      rw [hphase] at hwriter inTime
      obtain ⟨-, hearly⟩ := hwriter.resolve_left hidle
      -- the heartbeat is still to come, and punctual time does not pass over it
      have htimer : later ≤ c.heartbeat :=
        htimers c hc (c.heartbeat, .writer c.id) (by simp [timersOf, hphase]) hearly
      exact ⟨inTime.1, Nat.le_trans htimer (Nat.le_trans inTime.1 (Nat.le_add_right _ _))⟩
    | sending kind limit =>
      rw [hphase] at inTime
      obtain ⟨hheartbeat, began, hlimit, hbegan, -, hdue⟩ := inTime
      have hlater : later + h.config.writeTimeout ≤ limit + n :=
        hswift c hc limit (by rw [hphase]; rfl)
      exact ⟨hheartbeat, began, hlimit, by omega, by omega, hdue⟩
    | sendingClose | closingSink | stopped =>
      rw [hphase] at inTime
      exact False.elim inTime
  · intro hn
    obtain ⟨hbeats, hle, heq⟩ := paced.regular hn
    exact ⟨hbeats, Nat.le_trans hle hallowed, heq⟩

/-- **Every event leaves a connection in pace.** -/
theorem paced_step (hallowed : e.Allowed h) (hpunctual : Punctual id h e) (hswift : Swift id n h e)
    (awake : Awake id h) (paced : Paced id n start beats queued h) :
    Paced id n start
      (beats ++ instants (Happening.isBeat id) ((h.newsSince (h.step e)).map (h.now, ·)))
      (queued ++ instants (Happening.isQueued id) ((h.newsSince (h.step e)).map (h.now, ·)))
      (h.step e) := by
  obtain ⟨c₀, hc₀, hpaced⟩ := paced
  -- only a turn of the writer hands frames over
  cases passage_step id hallowed with
  | absent fresh gone =>
    rw [fresh] at hc₀
    cases hc₀
  | opened fresh opens =>
    rw [fresh] at hc₀
    cases hc₀
  | writer found moves again =>
    obtain rfl := Option.some.inj (hc₀.symm.trans found)
    obtain rfl := id_of_find? found
    refine ⟨_, moves.find?_self, fun halive => ?_⟩
    have hlives := (Connection.keepsReader_writerTurn h.now h.config c₀).alive_of halive
    have writes : c₀.Writes h.now h.config (c₀.writerTurn h.now h.config) :=
      Connection.writes_writerTurn hlives (awake c₀ found hlives).1.writing
    rw [moves.now_eq, moves.config_eq, moves.newsSince]
    exact (hpaced hlives).writes writes halive
  | reader found moves spares again =>
    obtain rfl := Option.some.inj (hc₀.symm.trans found)
    rw [moves.instants_reader spares fun _ => isBeat_of_isHanded,
      moves.instants_reader spares fun _ => isQueued_of_isHanded, List.append_nil, List.append_nil]
    refine spares.paced moves.find?_self fun halive => ?_
    have keeps := Connection.keepsWriter_readerTurn h.now h.config c₀
    rw [moves.now_eq, moves.config_eq]
    exact (hpaced (keeps.alive_of halive)).of_same keeps.writer_eq keeps.heartbeat_eq
  | @pass c later wallClock found =>
    obtain rfl := Option.some.inj (hc₀.symm.trans found)
    have hnews : h.newsSince (h.step (.pass later wallClock)) = [] :=
      newsSince_of_eq (history_moveClock h later)
    have hnow : (h.step (.pass later wallClock)).now = later := now_moveClock h later
    have hconfig : (h.step (.pass later wallClock)).config = h.config := config_moveClock h later
    have hsame : (h.step (.pass later wallClock)).find? id = h.find? id :=
      find?_moveClock h later id
    rw [hnews]
    simp only [List.map_nil, instants, List.filter_nil, List.append_nil]
    refine ⟨c₀, hsame.trans found, fun halive => ?_⟩
    rw [hnow, hconfig]
    exact paced_pass hallowed hpunctual hswift awake found halive (hpaced halive)
  | spared found outside spares =>
    obtain rfl := Option.some.inj (hc₀.symm.trans found)
    rw [spares.instants fun _ => isBeat_of_isHanded, spares.instants fun _ => isQueued_of_isHanded,
      List.append_nil, List.append_nil]
    exact spares.paced found hpaced

end Hub

section Runs

variable {τ : Type} [Transport τ] {h h' : Hub τ} {id : String} {n : Nat} {es : List (Event τ)}

theorem Run.paced (run : Run h es h') (hpunctual : Along (Hub.Punctual id) h es)
    (hswift : Along (Hub.Swift id n) h es) (awake : h.Awake id)
    (paced : h.Paced id n h.now [] []) :
    h'.Paced id n h.now (instants (Happening.isBeat id) (chronicle h es))
      (instants (Happening.isQueued id) (chronicle h es)) := by
  suffices hall : Along (Hub.Punctual id) h es → Along (Hub.Swift id n) h es → h'.Awake id ∧
      h'.Paced id n h.now (instants (Happening.isBeat id) (chronicle h es))
        (instants (Happening.isQueued id) (chronicle h es)) from (hall hpunctual hswift).2
  refine run.induct_end (P := fun es h' => Along (Hub.Punctual id) h es →
    Along (Hub.Swift id n) h es → h'.Awake id ∧
      h'.Paced id n h.now (instants (Happening.isBeat id) (chronicle h es))
        (instants (Happening.isQueued id) (chronicle h es))) (fun _ _ => ⟨awake, paced⟩) ?_
  intro es h' e run allowed ih hpunctual hswift
  rw [along_append, ← run.eq_foldl] at hpunctual hswift
  obtain ⟨hawake, hpaced⟩ := ih hpunctual.1 hswift.1
  refine ⟨Hub.awake_step allowed hpunctual.2.1 hawake, ?_⟩
  rw [chronicle_snoc run, instants_append, instants_append]
  exact Hub.paced_step allowed hpunctual.2.1 hswift.2.1 hawake hpaced

end Runs

section Laws

variable {τ : Type} [Transport τ] {h₀ h : Hub τ} {id : String} {n : Nat} {es : List (Event τ)}
  {link : τ} {o : ConnectOptions} {config : SocketConfig} {origins : OriginPolicy}
  {handlers : List Handler} {now wallClock : Nat} {earlier : List (Event τ)}

/-- The instant at which the next heartbeat of a connection is due after a run that opens it. -/
def dueBeat (id : String) (h : Hub τ) (es : List (Event τ)) : Nat :=
  lastBeat h.now (instants (Happening.isBeat id) (chronicle h es)) + h.config.heartbeat

/-- A heartbeat is handed over when it is due and no frame is in the outbox. -/
theorem Connection.Writes.of_beat {config : SocketConfig} {c : Connection τ} {r : Turned τ}
    {f : Frame} (writes : c.Writes now config r) (hbeat : .handed c.id f .heartbeat ∈ r.news) :
    c.outbox.queued = [] ∧ c.heartbeat ≤ now := by
  cases writes with
  | start | rest | drop => cases hbeat
  | queued idle taken sendable =>
    rcases List.mem_append.mp hbeat with hmem | hmem
    · obtain ⟨reason, heq⟩ := closed_of_mem_afterSend hmem
      cases heq
    · simp at hmem
  | heartbeat idle empty due => exact ⟨empty, due⟩
  | resume sending =>
    obtain ⟨reason, heq⟩ := closed_of_mem_afterSend hbeat
    cases heq

theorem Hub.of_beat {e : Event τ} {f : Frame} (hallowed : e.Allowed h) (awake : h.Awake id)
    {c : Connection τ} (hc : h.find? id = some c) (halive : c.alive = true)
    (hbeat : .handed id f .heartbeat ∈ h.newsSince (h.step e)) :
    c.outbox.queued = [] ∧ c.heartbeat ≤ h.now := by
  cases passage_step id hallowed with
  | absent fresh gone =>
    rw [fresh] at hc
    cases hc
  | opened fresh opens =>
    rw [fresh] at hc
    cases hc
  | writer found moves again =>
    obtain rfl := Option.some.inj (hc.symm.trans found)
    obtain rfl := id_of_find? hc
    have writes : c.Writes h.now h.config (c.writerTurn h.now h.config) :=
      Connection.writes_writerTurn halive (awake c hc halive).1.writing
    rw [moves.newsSince, List.mem_reverse] at hbeat
    exact writes.of_beat hbeat
  | reader found moves spares again =>
    obtain rfl := Option.some.inj (hc.symm.trans found)
    rw [moves.newsSince_spares spares, List.mem_append, List.mem_reverse] at hbeat
    rcases hbeat with hbeat | hbeat
    · obtain ⟨reason, heq⟩ :=
        (Connection.keepsWriter_readerTurn h.now h.config c).news _ hbeat
      cases heq
    · have hfrom := spares.newsSince _ hbeat rfl
      simp [Happening.fromOutside] at hfrom
  | @pass c later wallClock found =>
    have hnews : h.newsSince (h.step (.pass later wallClock)) = [] :=
      newsSince_of_eq (history_moveClock h later)
    rw [hnews] at hbeat
    cases hbeat
  | spared found outside spares =>
    have hfrom := spares.newsSince _ hbeat rfl
    simp [Happening.fromOutside] at hfrom

/-- A living connection that was opened in a run keeps pace, counted from its opening. -/
theorem Run.paced_opened (run : Run h₀ es h)
    (hopens : es.head? = some (.upgrade id (.ok link) o))
    (hfits : h₀.capacityFor o ≤ Outbox.maxCapacity)
    (hpunctual : Along (Hub.Punctual id) h₀ es) (hswift : Along (Hub.Swift id n) h₀ es)
    (halive : h.isAlive id = true) :
    h.Awake id ∧ ∃ c, h.find? id = some c ∧ c.alive = true ∧
      c.Paced n h₀.config h.now h₀.now (instants (Happening.isBeat id) (chronicle h₀ es))
        (instants (Happening.isQueued id) (chronicle h₀ es)) := by
  obtain ⟨h₁, rest, rfl, rfl, -, opens, run, hchronicle⟩ := run.opened hopens hfits
  obtain ⟨c, hc, hpaced⟩ := run.paced hpunctual.2 hswift.2 opens.awake opens.paced
  obtain ⟨c', hc', halive⟩ := Hub.isAlive_iff.mp halive
  obtain rfl := Option.some.inj (hc.symm.trans hc')
  refine ⟨run.awake hpunctual.2 opens.awake, c, hc, halive, ?_⟩
  have hconfig : h.config = h₀.config := run.config_eq.trans opens.config_eq
  have paced := hpaced halive
  rwa [hconfig, opens.now_eq, ← hchronicle] at paced

/-- **Heartbeats wait for the outbox.** Let no write take longer than `n` milliseconds. The next
heartbeat of a living connection is not handed over before it is due, nor while there is a frame in
the outbox. Until it is handed over, no more time passes beyond the instant at which it is due than
`n` milliseconds for the write that was under way then, and `n` more for each frame of the outbox
that was handed over since. -/
theorem beat_not_later (run : Run h₀ es h) (hopens : es.head? = some (.upgrade id (.ok link) o))
    (hfits : h₀.capacityFor o ≤ Outbox.maxCapacity)
    (hpunctual : Along (Hub.Punctual id) h₀ es) (hswift : Along (Hub.Swift id n) h₀ es)
    (halive : h.isAlive id = true) :
    h.now ≤ dueBeat id h₀ es +
        ((instants (Happening.isQueued id) (chronicle h₀ es)).countP
          (dueBeat id h₀ es ≤ ·) + 1) * n ∧
      ∀ (e : Event τ) (f : Frame), e.Allowed h →
        .handed id f .heartbeat ∈ h.newsSince (h.step e) →
        ∃ c, h.find? id = some c ∧ c.outbox.queued = [] ∧ c.heartbeat ≤ h.now := by
  obtain ⟨awake, c, hc, hlives, paced⟩ := run.paced_opened hopens hfits hpunctual hswift halive
  exact ⟨paced.inTime.le, fun e f hallowed hbeat =>
    ⟨c, hc, Hub.of_beat hallowed awake hc hlives hbeat⟩⟩

/-- A configuration with which connections can be run leaves time for a sign of life. -/
theorem SocketConfig.heartbeat_lt_of_validate (hvalid : config.validate = .ok ()) :
    0 < config.heartbeat ∧ config.heartbeat < config.readTimeout := by
  unfold validate at hvalid
  cases hfault : config.fault? with
  | some fault =>
    rw [hfault] at hvalid
    cases hvalid
  | none =>
    unfold fault? at hfault
    split at hfault
    · cases hfault
    · split at hfault
      · cases hfault
      · omega

omit [Transport τ] in
/-- While writes take no time, the beats are multiples of the period, and none that is past was left
out. -/
theorem Connection.Paced.exists_beats {c : Connection τ} {start : Nat} {beats queued : List Nat}
    (paced : c.Paced 0 config now start beats queued) :
    ∃ m, beats = multiples start config.heartbeat m ∧
      start + m * config.heartbeat ≤ now ∧ now ≤ start + (m + 1) * config.heartbeat := by
  have hle := paced.inTime.le
  obtain ⟨⟨m, hbeats⟩, hbeat, -⟩ := paced.regular rfl
  rw [hbeats, lastBeat_multiples] at hle hbeat
  refine ⟨m, hbeats, hbeat, ?_⟩
  rw [Nat.succ_mul]
  omega

omit [Transport τ] in
theorem Connection.Paced.mem_beats {c : Connection τ} {start : Nat} {beats queued : List Nat}
    (paced : c.Paced 0 config now start beats queued) {k : Nat}
    (hpast : start + (k + 1) * config.heartbeat < now) :
    start + (k + 1) * config.heartbeat ∈ beats := by
  obtain ⟨m, rfl, -, huntil⟩ := paced.exists_beats
  apply mem_multiples
  by_contra hlate
  have hmul : (m + 1) * config.heartbeat ≤ (k + 1) * config.heartbeat :=
    Nat.mul_le_mul_right _ (by omega)
  omega

end Laws

/-- A link that takes fifty milliseconds for each frame, and four frames at once. The first
heartbeat is due at 120, and the fourth frame is handed over after that. -/
def fourFrames : List (Event ScriptedLink) :=
  [.upgrade "a" (.ok { script := .slow 50 }) {}, .turn (.writer "a") Hub.teardownFirst,
    .turn (.reader "a") Hub.teardownFirst, .turn (.reader "a") Hub.teardownFirst,
    .act "a" (.trySend ⟨.binary, [1]⟩ fun _ => .trySend ⟨.binary, [2]⟩ fun _ =>
      .trySend ⟨.binary, [3]⟩ fun _ => .trySend ⟨.binary, [4]⟩ fun _ => .done),
    .turn (.writer "a") Hub.teardownFirst,
    .pass 50 0, .turn (.writer "a") Hub.teardownFirst, .turn (.writer "a") Hub.teardownFirst,
    .pass 100 0, .turn (.writer "a") Hub.teardownFirst, .turn (.writer "a") Hub.teardownFirst,
    .pass 150 0, .turn (.writer "a") Hub.teardownFirst, .turn (.writer "a") Hub.teardownFirst,
    .pass 200 0]

/-- A hub whose writes may take longer than those of the link. -/
def fiftyAtMost : Hub ScriptedLink :=
  Hub.initial { heartbeat := 120, readTimeout := 1000, writeTimeout := 60 } .listed [] 0 0

theorem beat_not_later_of_fourFrames :
    (fourFrames.foldl Hub.step fiftyAtMost).now = 200 ∧
      instants (Happening.isBeat "a") (chronicle fiftyAtMost fourFrames) = [] ∧
      200 ≤ dueBeat "a" fiftyAtMost fourFrames +
        ((instants (Happening.isQueued "a") (chronicle fiftyAtMost fourFrames)).countP
          (dueBeat "a" fiftyAtMost fourFrames ≤ ·) + 1) * 50 := by
  have run : Run fiftyAtMost fourFrames (fourFrames.foldl Hub.step fiftyAtMost) :=
    .of_allowed (by decide +kernel)
  have hswift : Along (Hub.Swift "a" 50) fiftyAtMost fourFrames := by decide +kernel
  have hlate := beat_not_later (o := {}) run rfl (by decide) (by decide +kernel) hswift
    (by decide +kernel)
  exact ⟨by decide +kernel, by decide +kernel, hlate.1⟩

end Switchboard
