import Switchboard.Proofs.CloseReason
import Switchboard.Proofs.Faithful
import Switchboard.Proofs.Heedful

/-!
# What is done with a sink

`Watched τ` is a transport that behaves as `τ` and notes, with the instant and what came of it, each
frame that begins to be handed over to its sink, each attempt to go on with one, each attempt to
close the sink, and that the sink was let go of. A run can be repeated with all links watched, and
nothing else of it changes (`Run.watched`). What the notes say of the sink of a connection then is
what was done with it in the run: `sinkActs`.

## Shape of the proof

That watching changes nothing is a case of `Faithful`. The sink of a connection belongs to its
writer: in every event the connection gets a turn of its writer, or its notes and its writer are
what they were (`Hub.sameSink_step`).
-/

namespace Switchboard

/-- What is done with the sink of a link. -/
inductive SinkAct where
  /-- A frame begins to be handed over. -/
  | send (f : Frame) (p : Progress)
  | resume (p : Progress)
  | close (p : Progress)
  | release
  deriving DecidableEq, Repr

/-- What comes of an attempt. -/
def SinkAct.progress? : SinkAct → Option Progress
  | .send _ p | .resume p | .close p => some p
  | .release => none

/-- A link, and what was done with its sink when, the first first. -/
structure Watched (τ : Type) where
  link : τ
  acts : List (Nat × SinkAct) := []
  deriving DecidableEq, Repr

namespace Watched

variable {τ : Type}

/-- Note an attempt and what came of it. -/
def note (w : Watched τ) (now : Nat) (act : Progress → SinkAct) (r : Progress × τ) :
    Progress × Watched τ :=
  (r.1, { link := r.2, acts := w.acts ++ [(now, act r.1)] })

instance [Transport τ] : Transport (Watched τ) where
  send now f w := w.note now (.send f) (Transport.send now f w.link)
  resume now w := w.note now .resume (Transport.resume now w.link)
  close now w := w.note now .close (Transport.close now w.link)
  receive now w :=
    let (a, link) := Transport.receive now w.link
    (a, { w with link })
  hasArrived w := Transport.hasArrived w.link
  wakeAt w := Transport.wakeAt w.link
  releaseSink now w :=
    { link := Transport.releaseSink now w.link, acts := w.acts ++ [(now, .release)] }
  releaseStream now w := { w with link := Transport.releaseStream now w.link }

theorem faithful_link [Transport τ] : Faithful (link : Watched τ → τ) where
  send _ _ _ := rfl
  resume _ _ := rfl
  close _ _ := rfl
  receive _ _ := rfl
  hasArrived _ := rfl
  wakeAt _ := rfl
  releaseSink _ _ := rfl
  releaseStream _ _ := rfl

end Watched

namespace Event

variable {τ : Type}

/-- The event, where links are watched. -/
def watched : Event τ → Event (Watched τ)
  | .upgrade id made o => .upgrade id (made.map fun link => { link }) o
  | .upgradeFailed reason => .upgradeFailed reason
  | .ask r => .ask r
  | .abandon number => .abandon number
  | .remove id => .remove id
  | .request s r => .request s r
  | .act id script => .act id script
  | .peer id deed => .peer id fun w => { w with link := deed w.link }
  | .turn t roomFirst => .turn t roomFirst
  | .pass now wallClock => .pass now wallClock

/-- The event is a turn of the writer of a connection. -/
def IsWriterTurnOf (id : String) (e : Event τ) : Prop :=
  ∃ roomFirst, e = .turn (.writer id) roomFirst

theorem isWriterTurnOf_watched {id : String} {e : Event τ} :
    e.watched.IsWriterTurnOf id ↔ e.IsWriterTurnOf id := by
  constructor
  · rintro ⟨roomFirst, heq⟩
    cases e <;> cases heq
    exact ⟨roomFirst, rfl⟩
  · rintro ⟨roomFirst, rfl⟩
    exact ⟨roomFirst, rfl⟩

end Event

/-! ## A run again, with all links watched -/

/-- The connection with its link watched from now on. -/
def Connection.watched {τ : Type} (c : Connection τ) : Connection (Watched τ) :=
  c.mapLink fun link => { link }

/-- The connection with its link watched no more. -/
def Connection.unwatched {τ : Type} (c : Connection (Watched τ)) : Connection τ :=
  c.mapLink Watched.link

namespace Hub

variable {τ : Type}

/-- The hub with all its links watched from now on. -/
def watched (h : Hub τ) : Hub (Watched τ) := h.mapLinks fun link => { link }

/-- The hub with no link watched any more. -/
def unwatched (h : Hub (Watched τ)) : Hub τ := h.mapLinks Watched.link

theorem find?_watched (h : Hub τ) (id : String) :
    h.watched.find? id = (h.find? id).map Connection.watched := find?_mapLinks _ h id

theorem find?_unwatched (h : Hub (Watched τ)) (id : String) :
    h.unwatched.find? id = (h.find? id).map Connection.unwatched := find?_mapLinks _ h id

theorem unwatched_watched (h : Hub τ) : h.watched.unwatched = h := by
  have hconnections : (h.connections.map (Connection.mapLink fun link => { link })).map
      (Connection.mapLink (Watched.link : Watched τ → τ)) = h.connections := by
    rw [List.map_map]
    exact List.map_id _
  rw [unwatched, watched, mapLinks, mapLinks]
  dsimp only
  rw [hconnections]

variable [Transport τ]

theorem unwatched_step (h : Hub (Watched τ)) (e : Event τ) :
    (h.step e.watched).unwatched = h.unwatched.step e := by
  have faithful : Faithful (Watched.link : Watched τ → τ) := Watched.faithful_link
  symm
  cases e with
  | upgrade id made o =>
    have hmade : (made.map fun link => ({ link } : Watched τ)).map Watched.link = made := by
      cases made <;> rfl
    have hupgrade := upgrade_mapLinks Watched.link h id (made.map fun link => { link }) o
    rw [hmade] at hupgrade
    exact congrArg Prod.snd hupgrade
  | upgradeFailed reason => rfl
  | ask r => exact congrArg Prod.snd (startCall_mapLinks Watched.link h r)
  | abandon n => exact abandon_mapLinks Watched.link h n
  | remove id => exact congrArg Prod.snd (remove_mapLinks Watched.link h id)
  | request s r =>
    have hhandle := Http.Api.handle_mapLinks Watched.link h s r
    rw [Event.watched, step, step, unwatched, hhandle]
    generalize Http.Api.handle s h r = handled
    obtain ⟨outcome, h'⟩ := handled
    cases outcome with
    | answer response => rfl
    | send order missing => exact congrArg Prod.snd (startCall_mapLinks Watched.link h' order)
    | connect response user tag => rfl
  | act id script => exact congrArg Prod.snd (runScript_mapLinks Watched.link id script h)
  | peer id deed => exact peerActs_mapLinks faithful h id fun _ => rfl
  | turn t roomFirst => exact poll_mapLinks faithful h roomFirst t
  | pass now wallClock =>
    exact congrArg (fun h : Hub τ => { h with wallClock }) (moveClock_mapLinks faithful h now)

omit [Transport τ] in
theorem allowed_watched {h : Hub (Watched τ)} {e : Event τ} (hallowed : e.Allowed h.unwatched) :
    e.watched.Allowed h := by
  cases e with
  | upgrade id made o =>
    have hfresh := (find?_unwatched h id).symm.trans hallowed
    exact Option.map_eq_none_iff.mp hfresh
  | pass now wallClock => exact hallowed
  | _ => trivial

theorem punctual_watched {h : Hub (Watched τ)} {id : String} {e : Event τ}
    (hpunctual : Punctual id h.unwatched e) : Punctual id h e.watched := by
  cases e with
  | pass now wallClock =>
    refine ⟨hpunctual.1, hpunctual.2.1, fun c hc timer htimer => ?_⟩
    rw [← timersOf_mapLink Watched.faithful_link] at htimer
    refine hpunctual.2.2 c.unwatched ?_ timer htimer
    rw [find?_unwatched, hc]
    rfl
  | _ => trivial

omit [Transport τ] in
theorem pending_watched (h : Hub τ) (id : String) : h.watched.pending id = h.pending id := by
  rw [pending, pending, find?_watched, Option.map_map]
  rfl

omit [Transport τ] in
theorem InOrder.watched {h : Hub τ} (inOrder : h.InOrder) : h.watched.InOrder where
  lined := {
    mem_iff := fun id t => by
      rw [pending_watched]
      exact inOrder.lined.mem_iff id t
    once := fun id => by
      rw [pending_watched]
      exact inOrder.lined.once id
    places := inOrder.lined.places }
  waits := inOrder.waits

omit [Transport τ] in
theorem Heedful.watched {h : Hub τ} (heedful : h.Heedful) : h.watched.Heedful where
  issues id x := by
    rintro ⟨c, hc, due⟩
    rw [find?_watched] at hc
    obtain ⟨c', hc', rfl⟩ := Option.map_eq_some_iff.mp hc
    refine heedful.issues id x ⟨c', hc', ?_⟩
    cases x <;> exact due
  asked := heedful.asked

end Hub

/-- A run is the same with all links watched. -/
theorem Run.watched {τ : Type} [Transport τ] {h' : Hub τ} {es : List (Event τ)}
    {h : Hub (Watched τ)} (run : Run h.unwatched es h') :
    ∃ w, Run h (es.map Event.watched) w ∧ w.unwatched = h' := by
  induction es generalizing h with
  | nil =>
    cases run
    exact ⟨h, .nil h, rfl⟩
  | cons e rest ih =>
    cases run with
    | cons allowed run =>
      rw [← Hub.unwatched_step] at run
      obtain ⟨w, run, heq⟩ := ih run
      exact ⟨w, .cons (Hub.allowed_watched allowed) run, heq⟩

theorem along_punctual_watched {τ : Type} [Transport τ] {id : String} {es : List (Event τ)}
    {h : Hub (Watched τ)} (hpunctual : Along (Hub.Punctual id) h.unwatched es) :
    Along (Hub.Punctual id) h (es.map Event.watched) := by
  induction es generalizing h with
  | nil => trivial
  | cons e rest ih =>
    refine ⟨Hub.punctual_watched hpunctual.1, ih ?_⟩
    rw [Hub.unwatched_step]
    exact hpunctual.2

/-- What is done with the sink of a connection in a run, and when; the first first. -/
def sinkActs {τ : Type} [Transport τ] (id : String) (h : Hub τ) (es : List (Event τ)) :
    List (Nat × SinkAct) :=
  (((es.map Event.watched).foldl Hub.step h.watched).find? id).elim [] fun c => c.link.acts

theorem sinkActs_eq {τ : Type} [Transport τ] {id : String} {h : Hub τ} {es : List (Event τ)}
    {w : Hub (Watched τ)} {c : Connection (Watched τ)}
    (run : Run h.watched (es.map Event.watched) w) (hc : w.find? id = some c) :
    sinkActs id h es = c.link.acts := by
  rw [sinkActs, ← run.eq_foldl, hc]
  rfl

/-! ## What does not concern the sink -/

namespace Connection

variable {τ : Type}

/-- A connection after something that did not concern its sink. -/
structure SameSink (c c' : Connection (Watched τ)) : Prop where
  writer_eq : c'.writer = c.writer
  acts_eq : c'.link.acts = c.link.acts
  alive_of : c'.alive = true → c.alive = true

variable [Transport τ]

theorem acts_takeArrival (now : Nat) (config : SocketConfig) (c : Connection (Watched τ))
    (deadline : Nat) (a : Arrival) :
    (c.takeArrival now config deadline a).conn.link.acts = c.link.acts := by
  rcases takeArrival_cases now config c deadline a with
    ⟨f, -, -, heq⟩ | ⟨f, -, -, heq⟩ | ⟨-, -, heq⟩ | ⟨reason, -, heq⟩
  · rw [heq]
  · rw [heq]
  · rw [heq]
  · rw [heq, failReader, conn_torn]
    rfl

/-- The reader has its stream and leaves the sink alone. -/
theorem acts_readerTurn (now : Nat) (config : SocketConfig) (c : Connection (Watched τ)) :
    (c.readerTurn now config).conn.link.acts = c.link.acts := by
  rw [readerTurn]
  split
  · rfl
  · rfl
  · split
    · rfl
    · exact acts_takeArrival now config { c with link := (Transport.receive now c.link).2 } _ _

end Connection

namespace Hub

section Dispatch

variable {τ : Type} {h : Hub τ} {id : String} {c : Connection τ}

/-- What handlers do leaves links alone. -/
theorem link_dispatch (hc : h.find? id = some c) (d : Connection τ) (f : Frame) :
    ∃ c', (h.dispatch d f).find? id = some c' ∧ c'.link = c.link := by
  have balances : Balances (fun _ => False) _ h (h.dispatch d f) := balances_dispatch h d f
  obtain ⟨c', hc', -, hlink⟩ := balances.conn id c hc
  exact ⟨c', hc', hlink fun hno => hno⟩

end Dispatch

variable {τ : Type} [Transport τ] {h : Hub (Watched τ)} {id : String}
  {c : Connection (Watched τ)} {e : Event τ}

theorem find?_poll (h : Hub τ) (roomFirst : Nat → Bool) (t : Task) (id : String) :
    (h.poll roomFirst t).find? id =
      (({ h with ready := h.ready.erase t } : Hub τ).turn roomFirst t).2.find? id := by
  rw [poll]
  dsimp only
  split <;> rfl

theorem acts_reader (hc : h.find? id = some c) (roomFirst : Nat → Bool) :
    ∃ c', (h.poll roomFirst (.reader id)).find? id = some c' ∧ c'.link.acts = c.link.acts := by
  obtain ⟨h', makes, hp⟩ :=
    reads_readerTurn (h := { h with ready := h.ready.erase (.reader id) }) hc
  have hacts := Connection.acts_readerTurn h.now h.config c
  rw [find?_poll, show Hub.turn _ roomFirst (.reader id) = readerTurn _ id from rfl, hp]
  cases c.dispatched? h.now h.config with
  | none => exact ⟨_, makes.gets.find?_self, hacts⟩
  | some f =>
    obtain ⟨c', hc', hlink⟩ := link_dispatch makes.gets.find?_self _ f
    exact ⟨c', hc', hlink ▸ hacts⟩

theorem acts_peer (hc : h.find? id = some c) (deed : τ → τ) :
    ∃ c', (h.step (Event.peer id deed).watched).find? id = some c' ∧
      c'.link.acts = c.link.acts := by
  rw [Event.watched, step, peerActs]
  simp only [hc]
  have hgets := (gets_setLink hc { c.link with link := deed c.link.link }).rouse
    (rouses_wakeBlockedWriter _ id)
  exact ⟨_, hgets.find?_self, rfl⟩

/-- Only the writer of a connection has to do with its sink. -/
theorem acts_step (hc : h.find? id = some c) (hturn : ¬ e.IsWriterTurnOf id) :
    ∃ c', (h.step e.watched).find? id = some c' ∧ c'.link.acts = c.link.acts := by
  by_cases htouches : e.watched.Touches id
  · cases e with
    | peer d deed =>
      rcases htouches with hfalse | ⟨act, heq⟩
      · cases hfalse
      · obtain rfl : d = id := (Event.peer.inj heq).1
        exact acts_peer hc deed
    | turn t roomFirst =>
      rcases htouches with hown | ⟨act, heq⟩
      · rcases isTurnOf_cases hown with ⟨_, heq⟩ | ⟨_, heq⟩
        · obtain ⟨rfl, -⟩ := Event.turn.inj heq
          exact absurd ⟨roomFirst, rfl⟩ hturn
        · obtain ⟨rfl, -⟩ := Event.turn.inj heq
          exact acts_reader hc roomFirst
      · cases heq
    | _ =>
      rcases htouches with hfalse | ⟨act, heq⟩
      · cases hfalse
      · cases heq
  · obtain ⟨c', hc', -, hlink⟩ := (balances_step h e.watched).conn id c hc
    exact ⟨c', hc', congrArg Watched.acts (hlink htouches)⟩

/-- In every event the writer of a connection gets a turn, or its sink is not concerned. -/
theorem sameSink_step (hc : h.find? id = some c) (hallowed : e.watched.Allowed h) :
    e.IsWriterTurnOf id ∧ (h.step e.watched).find? id = some (c.writerTurn h.now h.config).conn ∨
      ¬ e.IsWriterTurnOf id ∧ ∃ c', (h.step e.watched).find? id = some c' ∧ c.SameSink c' := by
  by_cases hturn : e.IsWriterTurnOf id
  · obtain ⟨roomFirst, rfl⟩ := hturn
    exact .inl ⟨⟨roomFirst, rfl⟩, (moves_writer hc roomFirst).1.find?_self⟩
  refine .inr ⟨hturn, ?_⟩
  obtain ⟨c', hc', hacts⟩ := acts_step hc hturn
  rw [← Event.isWriterTurnOf_watched] at hturn
  suffices hsteady : c'.writer = c.writer ∧ (c'.alive = true → c.alive = true) from
    ⟨c', hc', hsteady.1, hacts, hsteady.2⟩
  have passage := passage_step id hallowed
  generalize h.step e.watched = h' at passage hc'
  generalize e.watched = e' at passage hturn
  cases passage with
  | absent fresh gone =>
    rw [hc] at fresh
    cases fresh
  | opened fresh opens =>
    rw [hc] at fresh
    cases fresh
  | @writer _ _ roomFirst => exact absurd ⟨roomFirst, rfl⟩ hturn
  | reader found moves spares again =>
    obtain rfl := Option.some.inj (hc.symm.trans found)
    obtain ⟨c'', hfind, steady, -⟩ := spares.conn _ moves.find?_self
    obtain rfl := Option.some.inj (hc'.symm.trans hfind)
    have keeps := Connection.keepsWriter_readerTurn h.now h.config c
    exact ⟨steady.writer_eq.trans keeps.writer_eq,
      fun halive => keeps.alive_of (steady.alive_of halive)⟩
  | @pass _ now wallClock =>
    obtain rfl := Option.some.inj (((find?_moveClock h now id).trans hc).symm.trans hc')
    exact ⟨rfl, fun halive => halive⟩
  | spared found outside spares =>
    obtain ⟨c'', hfind, steady, -⟩ := spares.conn c hc
    obtain rfl := Option.some.inj (hc'.symm.trans hfind)
    exact ⟨steady.writer_eq, steady.alive_of⟩

end Hub

end Switchboard
