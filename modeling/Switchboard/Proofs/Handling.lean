import Switchboard.Proofs.Reader
import Switchboard.Proofs.Rota

/-!
# Every frame to every handler

In a run, connections are opened with lists of handlers, scripts are run by those who have a
connection at hand, and readers give frames to handlers. These are the `Episode`s of a run: what
handlers did is told by them and by nothing else.

`dispatched_to_snapshot` says of the episodes of every run: a frame goes, once each and in order, to
the handlers that the connection had when its dispatch began, which are those that it was opened
with, changed by all actions before in the order in which they were taken. Whatever a handler does,
those after it are called; a panic is counted and does nothing else. Only a removal by one of the
handlers tears the connection down, and then no other frame is dispatched.

## Shape of the proof

What a single dispatch does is `Hub.Invokes`. The handlers of all connections and the number of
panics are the rota of a hub, and an event changes it as its episode says (`Hub.rota_step`). The
rest is about lists: `exists_split_of_episodes` finds the event of an episode.
-/

namespace Switchboard

/-- Something that happened in which handlers had a part. -/
inductive Episode where
  /-- A connection was opened. -/
  | opened (member : Member) (handlers : List Handler)
  /-- A script was run on behalf of a connection by someone who had it at hand. -/
  | scripted (id : String) (actions : List Action) (panic? : Option Panic)
  /-- The reader of a connection gave a frame to the handlers. -/
  | dispatched (id : String) (frame : Frame) (invocations : List Invocation)

namespace Episode

/-- What was done on behalf of the connection `id`. -/
def actions (id : String) : Episode → List Action
  | .opened _ _ => []
  | .scripted d as _ => if d = id then as else []
  | .dispatched d _ is => if d = id then is.flatMap Invocation.actions else []

/-- The frame that was given to the handlers of the connection `id`. -/
def frame? (id : String) : Episode → Option Frame
  | .dispatched d f _ => if d = id then some f else none
  | _ => none

/-- The calls of handlers. -/
def invocations : Episode → List Invocation
  | .dispatched _ _ is => is
  | _ => []

end Episode

/-- The rota after an episode. -/
def Rota.after (r : Rota) : Episode → Rota
  | .opened m handlers => r.enroll m handlers
  | .scripted id as _ => as.foldl (amend id) r
  | .dispatched id _ is => is.foldl (call id) r

/-- The rota after some episodes. -/
def Rota.afterAll (r : Rota) (log : List Episode) : Rota := log.foldl Rota.after r

theorem Rota.panics_after (r : Rota) (x : Episode) :
    (r.after x).panics = r.panics + panicked x.invocations := by
  cases x with
  | opened m handlers => rfl
  | scripted id as p => exact panics_foldl_amend id as r
  | dispatched id f is => exact panics_foldl_call id is r

theorem Rota.panics_afterAll (r : Rota) (log : List Episode) :
    (r.afterAll log).panics = r.panics + panicked (log.flatMap Episode.invocations) := by
  induction log generalizing r with
  | nil => rfl
  | cons x rest ih =>
    have hrest : (r.afterAll (x :: rest)).panics = ((r.after x).afterAll rest).panics := rfl
    have hsplit : panicked ((x :: rest).flatMap Episode.invocations) =
        panicked x.invocations +
          panicked (rest.flatMap Episode.invocations) := by
      rw [List.flatMap_cons]
      exact List.countP_append
    rw [hrest, ih, panics_after, hsplit, Nat.add_assoc]

namespace Hub

variable {τ : Type}

/-! ## Removal by handlers -/

theorem isAlive_update {h : Hub τ} {id d : String} {f : Connection τ → Connection τ}
    (hf : ∀ c : Connection τ, ((f c).member, (f c).alive) = (c.member, c.alive)) :
    (h.update id f).isAlive d = h.isAlive d := by
  rw [isAlive, isAlive, find?_update fun c => (Prod.mk.inj (hf c)).1]
  split
  · cases h.find? d with
    | none => rfl
    | some c => exact (Prod.mk.inj (hf c)).2
  · rfl

theorem Rouses.isAlive_eq {h h' : Hub τ} (rouses : h.Rouses h') (id : String) :
    h'.isAlive id = h.isAlive id := by
  obtain ⟨ready, rfl, -⟩ := rouses
  rfl

theorem isAlive_trySend (h : Hub τ) (id : String) (f : Frame) (d : String) :
    (h.trySend id f).2.isAlive d = h.isAlive d := by
  have hput : (h.update id fun c => { c with outbox := c.outbox.put f }).isAlive d = h.isAlive d :=
    isAlive_update fun _ => rfl
  rw [trySend]
  split
  · split
    · exact ((rouses_wakeWriter _ id).isAlive_eq d).trans hput
    · rfl
  · rfl

/-- A removal that counts finds its connection alive, and no removal leaves it otherwise than dead
if it counts, and as it was if it does not. -/
theorem isAlive_remove (h : Hub τ) (id : String) :
    (h.remove id).2.isAlive id = (h.isAlive id && !(h.remove id).1) ∧
      ((h.remove id).1 = true → h.isAlive id = true) := by
  rw [remove]
  cases hm : h.registry.lookup id with
  | none => exact ⟨(Bool.and_true _).symm, fun hfalse => absurd hfalse Bool.false_ne_true⟩
  | some m =>
    obtain rfl : m.id = id := by simpa using List.find?_some hm
    rcases teardown_cases h m.id .removed with ⟨c, -, hc, halive, hwon, -⟩ | hnothing
    · have hdead := (teardown_of_alive_torn hc halive .removed).find?_self hc
      dsimp only
      rw [hwon]
      refine ⟨?_, fun _ => isAlive_iff.mpr ⟨c, hc, halive⟩⟩
      change ((h.teardown m.id .removed).2.find? m.id).any Connection.alive = _
      rw [hdead]
      exact (Bool.and_false _).symm
    · dsimp only
      rw [hnothing]
      exact ⟨(Bool.and_true _).symm, fun hfalse => absurd hfalse Bool.false_ne_true⟩

variable {h h' : Hub τ} {id : String} {a : Action} {as : List Action} {is : List Invocation}

/-- Of all actions only a removal that counts changes whether a connection is alive. -/
theorem Answers.isAlive_iff (answers : h.Answers id a) :
    ((h.afterAction id a).isAlive id = true ↔ h.isAlive id = true ∧ a ≠ .removed true) ∧
      (a = .removed true → h.isAlive id = true) := by
  have hsame : ∀ {b : Bool}, b = h.isAlive id → a ≠ .removed true →
      (b = true ↔ h.isAlive id = true ∧ a ≠ .removed true) ∧
        (a = .removed true → h.isAlive id = true) := fun hb ha =>
    ⟨by rw [hb, and_iff_left ha], fun hremoved => absurd hremoved ha⟩
  cases a with
  | offered f sent => exact hsame (isAlive_trySend h id f id) nofun
  | asked f => exact hsame ((rouses_wake (h.addCall (.toHandle id f)).2 _).isAlive_eq id) nofun
  | added hs => exact hsame (isAlive_update fun _ => rfl) nofun
  | replaced hs => exact hsame (isAlive_update fun _ => rfl) nofun
  | noted n => exact hsame rfl nofun
  | logged e => exact hsame rfl nofun
  | removed won =>
    obtain ⟨halive, hwon⟩ := isAlive_remove h id
    obtain rfl : (h.remove id).1 = won := answers
    refine ⟨?_, fun hremoved => hwon (Action.removed.inj hremoved)⟩
    change (h.remove id).2.isAlive id = true ↔ _
    rw [halive, Bool.and_eq_true, Bool.not_eq_true', ne_eq, Action.removed.injEq, Bool.not_eq_true]

theorem Acts.isAlive_iff (acts : Acts id h as h') :
    (h'.isAlive id = true ↔ h.isAlive id = true ∧ .removed true ∉ as) ∧
      (.removed true ∈ as → h.isAlive id = true) := by
  induction acts with
  | nil => simp
  | cons answers _ ih =>
    obtain ⟨hfirst, hremoved⟩ := answers.isAlive_iff
    obtain ⟨hrest, hremoved'⟩ := ih
    rw [hrest, hfirst, List.mem_cons, not_or, ne_comm, and_assoc]
    refine ⟨Iff.rfl, fun hmem => ?_⟩
    rcases hmem with hmem | hmem
    · exact hremoved hmem.symm
    · exact (hfirst.mp (hremoved' hmem)).1

theorem isAlive_afterCall (h : Hub τ) (id : String) (index : Nat) (p? : Option Panic) (d : String) :
    (h.afterCall id index p?).isAlive d = h.isAlive d := by
  cases p? <;> rfl

/-- Of all that handlers can do, panics included, only a removal that counts tears their connection
down. -/
theorem Invokes.isAlive_iff {member : Member} {f : Frame} {index : Nat}
    (invokes : Invokes member f index h is h') :
    (h'.isAlive member.id = true ↔
        h.isAlive member.id = true ∧ .removed true ∉ is.flatMap Invocation.actions) := by
  induction invokes with
  | nil => simp
  | cons _ acts _ ih =>
    rw [ih, isAlive_afterCall, acts.isAlive_iff.1, List.flatMap_cons, List.mem_append, not_or,
      and_assoc]

end Hub

/-! ## Episodes of a run -/

namespace Hub

variable {τ : Type} [Transport τ]

/-- The calls of handlers that the reader of the connection `c` makes with a frame that it took. -/
def dispatchCalls (h : Hub τ) (c : Connection τ) (f : Frame) : List Invocation :=
  invocations c.member f 0 c.handlers
    (({ h with ready := h.ready.erase (.reader c.id) } : Hub τ).received c f)

/-- The episode that an event is, if it is one. -/
def episode? (h : Hub τ) : Event τ → Option Episode
  | .upgrade id (.ok _) o =>
    if h.capacityFor o > Outbox.maxCapacity then none
    else some (.opened (Member.ofTexts id o.user o.tag) o.handlers)
  | .act id script => some (.scripted id (scriptActions id script h) (runScript id script h).1)
  | .turn (.reader id) _ => (h.find? id).bind fun c =>
    (c.dispatched? h.now h.config).map fun f => .dispatched id f (h.dispatchCalls c f)
  | _ => none

/-- The reader of the connection `id` takes a frame and gives it to the handlers, one call after
another, and is ready for more. -/
def Dispatches (id : String) (f : Frame) (is : List Invocation) (h h' : Hub τ) : Prop :=
  ∃ c h₁, h.find? id = some c ∧ c.alive = true ∧ c.dispatched? h.now h.config = some f ∧
    is.map Invocation.handler = c.handlers ∧
    Invokes c.member f 0 (({ h with ready := h.ready.erase (.reader id) } : Hub τ).received c f)
      is h₁ ∧
    h' = { h₁ with ready := .reader id :: h₁.ready }

variable {h : Hub τ} {e : Event τ} {id : String} {f : Frame} {is : List Invocation}

theorem alive_of_dispatched {c : Connection τ} (hf : c.dispatched? h.now h.config = some f) :
    c.alive = true := by
  cases halive : c.alive with
  | true => rfl
  | false =>
    rw [Connection.dispatched?_of_dead halive] at hf
    cases hf

theorem dispatches_turn {c : Connection τ} (hc : h.find? id = some c)
    (hf : c.dispatched? h.now h.config = some f) (roomFirst : Nat → Bool) :
    Dispatches id f (h.dispatchCalls c f) h (h.poll roomFirst (.reader id)) := by
  obtain rfl := id_of_find? hc
  have hturn : ({ h with ready := h.ready.erase (.reader c.id) } : Hub τ).turn roomFirst
      (.reader c.id) = _ :=
    readerTurn_of_dispatched (h := { h with ready := h.ready.erase (.reader c.id) }) hc hf
  refine ⟨c, _, hc, alive_of_dispatched hf, hf, map_handler_invocations ..,
    invokes_runHandlers .., ?_⟩
  rw [poll_eq h roomFirst (.reader c.id) hturn]
  rfl

theorem dispatches_of_episode? (he : h.episode? e = some (.dispatched id f is)) :
    Dispatches id f is h (h.step e) := by
  cases e with
  | turn t roomFirst =>
    cases t with
    | reader d =>
      obtain ⟨c, hc, hmap⟩ := Option.bind_eq_some_iff.mp he
      obtain ⟨g, hg, heq⟩ := Option.map_eq_some_iff.mp hmap
      obtain ⟨rfl, rfl, rfl⟩ := Episode.dispatched.inj heq
      exact dispatches_turn hc hg roomFirst
    | writer d => cases he
    | call number => cases he
  | upgrade d made o =>
    cases made with
    | error e => cases he
    | ok link =>
      rw [episode?] at he
      split at he <;> cases he
  | _ => cases he

theorem acts_of_episode? {as : List Action} {p? : Option Panic}
    (he : h.episode? e = some (.scripted id as p?)) :
    ∃ script, e = .act id script ∧ Acts id h as (h.step e) := by
  cases e with
  | act d script =>
    obtain ⟨rfl, rfl, rfl⟩ := Episode.scripted.inj (Option.some.inj he)
    exact ⟨script, rfl, (acts_runScript d script h).2⟩
  | turn t roomFirst =>
    cases t with
    | reader d =>
      obtain ⟨c, -, hmap⟩ := Option.bind_eq_some_iff.mp he
      obtain ⟨g, -, heq⟩ := Option.map_eq_some_iff.mp hmap
      cases heq
    | writer d => cases he
    | call number => cases he
  | upgrade d made o =>
    cases made with
    | error e => cases he
    | ok link =>
      rw [episode?] at he
      split at he <;> cases he
  | _ => cases he

/-- While handlers run, only a removal by one of them that counts tears their connection down. -/
theorem Dispatches.isAlive_iff {h' : Hub τ} (dispatches : Dispatches id f is h h') :
    h'.isAlive id = true ↔ ∀ i ∈ is, .removed true ∉ i.actions := by
  obtain ⟨c, h₁, hc, halive, -, -, invokes, rfl⟩ := dispatches
  obtain rfl := id_of_find? hc
  have hbefore : (({ h with ready := h.ready.erase (.reader c.id) } : Hub τ).received c f).isAlive
      c.id = true :=
    Eq.trans (isAlive_update fun _ => rfl) (isAlive_iff.mpr ⟨c, hc, halive⟩)
  change h₁.isAlive c.member.id = true ↔ _
  refine invokes.isAlive_iff.trans ?_
  simp only [List.mem_flatMap, not_exists, not_and]
  exact and_iff_right hbefore

theorem rota_upgrade (h : Hub τ) (id : String) (link : τ) (o : ConnectOptions) :
    (h.step (.upgrade id (.ok link) o)).rota =
      h.rota.afterAll (h.episode? (.upgrade id (.ok link) o)).toList := by
  rw [episode?]
  by_cases hfit : h.capacityFor o > Outbox.maxCapacity
  · have hcrash : (h.accept id link o).2 = h := by
      rw [accept]
      exact congrArg Prod.snd (if_pos hfit)
    rw [if_pos hfit]
    exact congrArg rota hcrash
  · rw [if_neg hfit]
    exact rota_accept (by omega) id link

theorem rota_poll (h : Hub τ) (roomFirst : Nat → Bool) (t : Task) :
    (h.poll roomFirst t).rota =
      (({ h with ready := h.ready.erase t } : Hub τ).turn roomFirst t).2.rota := by
  rw [poll_eq h roomFirst t rfl]
  split <;> rfl

/-- A turn of a reader is an episode if it hands a frame to the handlers. -/
theorem rota_reader_turn (h : Hub τ) (id : String) (roomFirst : Nat → Bool) :
    (h.step (.turn (.reader id) roomFirst)).rota =
      h.rota.afterAll (h.episode? (.turn (.reader id) roomFirst)).toList := by
  rw [episode?]
  cases hc : h.find? id with
  | none =>
    have hnone : ({ h with ready := h.ready.erase (.reader id) } : Hub τ).find? id = none := hc
    refine (rota_poll h roomFirst _).trans ?_
    rw [turn, readerTurn, hnone]
    rfl
  | some c =>
    rw [Option.bind_some]
    cases hf : c.dispatched? h.now h.config with
    | none =>
      exact (rota_poll h roomFirst _).trans
        (rota_readerTurn (h := { h with ready := h.ready.erase (.reader id) }) hc hf)
    | some f =>
      obtain ⟨c', h₁, hc', -, -, -, invokes, heq⟩ := dispatches_turn hc hf roomFirst
      obtain rfl := Option.some.inj (hc.symm.trans hc')
      obtain rfl := id_of_find? hc
      rw [step, heq]
      refine invokes.rota_eq.trans (congrArg (List.foldl _ · _) ?_)
      exact rota_update fun _ => rfl

/-- **An event changes the rota** as its episode says. -/
theorem rota_step (h : Hub τ) (e : Event τ) :
    (h.step e).rota = h.rota.afterAll (h.episode? e).toList := by
  -- Connections are enrolled, scripts and dispatched frames act; nothing else is an episode.
  cases e with
  | upgrade id made o =>
    cases made with
    | error e => rfl
    | ok link => exact rota_upgrade h id link o
  | upgradeFailed reason => rfl
  | ask r => exact rota_startCall h r
  | abandon number => exact rota_abandon h number
  | remove id => exact rota_remove h id
  | request s r =>
    obtain ⟨errand, hasks⟩ := Http.exists_asks_gauged τ r
    obtain ⟨metrics, log, heq, active, users, rfl⟩ := hasks s h
    rw [heq]
    exact rota_errand errand h
  | act id script => exact (acts_runScript id script h).2.rota_eq
  | peer id act => exact rota_peerActs h id _
  | turn t roomFirst =>
    cases t with
    | writer id => exact (rota_poll h roomFirst _).trans (rota_writerTurn _ id)
    | call number => exact (rota_poll h roomFirst _).trans (rota_callTurn _ roomFirst number)
    | reader id => exact rota_reader_turn h id roomFirst
  | pass now wallClock =>
    exact (rouses_moveClock h now).rota_eq

end Hub

/-- The episodes of a run, the first first. -/
def episodes {τ : Type} [Transport τ] : Hub τ → List (Event τ) → List Episode
  | _, [] => []
  | h, e :: es => (h.episode? e).toList ++ episodes (h.step e) es

section Runs

variable {τ : Type} [Transport τ] {h h' : Hub τ} {es : List (Event τ)}

/-- Every episode of a run has its event. -/
theorem Run.exists_split_of_episodes (run : Run h es h') {before after : List Episode} {x : Episode}
    (heq : episodes h es = before ++ x :: after) :
    ∃ es₁ e es₂ g, es = es₁ ++ e :: es₂ ∧ Run h es₁ g ∧ g.episode? e = some x ∧
      Run (g.step e) es₂ h' ∧ episodes h es₁ = before ∧ episodes (g.step e) es₂ = after := by
  induction run generalizing before with
  | nil => exact absurd heq (by simp [episodes])
  | @cons h h' e es allowed rest ih =>
    rw [episodes] at heq
    cases hx : h.episode? e with
    | none =>
      rw [hx] at heq
      obtain ⟨es₁, e', es₂, g, rfl, first, he, second, hbefore, hafter⟩ := ih heq
      refine ⟨e :: es₁, e', es₂, g, rfl, .cons allowed first, he, second, ?_, hafter⟩
      rw [episodes, hx, ← hbefore]
      rfl
    | some y =>
      rw [hx, Option.toList_some, List.singleton_append] at heq
      cases before with
      | nil =>
        obtain ⟨rfl, hafter⟩ := List.cons.inj heq
        exact ⟨[], e, es, h, rfl, .nil h, hx, rest, rfl, hafter⟩
      | cons z before =>
        obtain ⟨rfl, hrest⟩ := List.cons.inj heq
        obtain ⟨es₁, e', es₂, g, rfl, first, he, second, hbefore, hafter⟩ := ih hrest
        refine ⟨e :: es₁, e', es₂, g, rfl, .cons allowed first, he, second, ?_, hafter⟩
        rw [episodes, hx, ← hbefore]
        rfl

/-- The rota at the end of a run is what its episodes made of that at the beginning. -/
theorem Run.rota_eq (run : Run h es h') : h'.rota = h.rota.afterAll (episodes h es) := by
  induction run with
  | nil => rfl
  | @cons h h' e es _ _ ih =>
    rw [ih, Hub.rota_step, episodes, Rota.afterAll, Rota.afterAll, Rota.afterAll, List.foldl_append]

/-- The frames that handlers were given are those that the reader gave them. -/
theorem Hub.frame?_episode? (id : String) (h : Hub τ) (e : Event τ) :
    (h.episode? e).toList.filterMap (Episode.frame? id) =
      (e.readerAct? id h).toList.filterMap ReaderAct.frame? := by
  cases e with
  | turn t roomFirst =>
    cases t with
    | reader d =>
      rw [Hub.episode?, Event.readerAct?]
      by_cases hd : d = id
      · subst hd
        rw [if_pos rfl]
        cases h.find? d with
        | none => rfl
        | some c =>
          rw [Option.bind_some, Option.bind_some, Connection.readerAct?]
          cases c.dispatched? h.now h.config with
          | some f => simp [Episode.frame?, ReaderAct.frame?]
          | none =>
            dsimp only
            split <;> rfl
      · rw [if_neg hd]
        cases h.find? d with
        | none => rfl
        | some c =>
          rw [Option.bind_some]
          cases c.dispatched? h.now h.config with
          | some f => simp [Episode.frame?, hd]
          | none => rfl
    | writer | call => rfl
  | upgrade d made o =>
    cases made with
    | error e => rfl
    | ok link =>
      rw [Hub.episode?]
      split <;> rfl
  | _ => rfl

theorem filterMap_frame?_episodes (id : String) (h : Hub τ) (es : List (Event τ)) :
    (episodes h es).filterMap (Episode.frame? id) =
      (readerActs id h es).filterMap fun x => x.2.frame? := by
  induction es generalizing h with
  | nil => rfl
  | cons e rest ih =>
    rw [episodes, readerActs, List.filterMap_append, List.filterMap_append, ih, h.frame?_episode?,
      List.filterMap_map]
    rfl

/-- The handlers of a dead connection are given nothing. -/
theorem Run.frame?_of_dead (run : Run h es h') {id : String} {c : Connection τ}
    (hc : h.find? id = some c) (hdead : c.alive = false) :
    ∀ x ∈ episodes h es, x.frame? id = none := by
  have hnothing : (episodes h es).filterMap (Episode.frame? id) = [] := by
    rw [filterMap_frame?_episodes, List.filterMap_eq_nil_iff]
    intro x hx
    rw [run.acts_of_dead hc hdead x hx]
    rfl
  exact List.filterMap_eq_nil_iff.mp hnothing

/-- A removal that counts leaves a dead connection. -/
theorem Hub.dead_of_removed {e : Event τ} {x : Episode} {id : String} (hx : h.episode? e = some x)
    (hremoved : .removed true ∈ x.actions id) :
    ∃ c, (h.step e).find? id = some c ∧ c.alive = false := by
  -- the connection was alive, so it is there after the event
  have hdies : h.isAlive id = true ∧ (h.step e).isAlive id ≠ true := by
    cases x with
    | opened m handlers => cases hremoved
    | dispatched d f is =>
      rw [Episode.actions] at hremoved
      split at hremoved
      · rename_i hd
        subst hd
        obtain ⟨i, hi, hmem⟩ := List.mem_flatMap.mp hremoved
        have hstays := (Hub.dispatches_of_episode? hx).isAlive_iff
        obtain ⟨c, _, hc, halive, -⟩ := Hub.dispatches_of_episode? hx
        exact ⟨Hub.isAlive_iff.mpr ⟨c, hc, halive⟩, fun hlives => hstays.mp hlives i hi hmem⟩
      · cases hremoved
    | scripted d as p =>
      rw [Episode.actions] at hremoved
      split at hremoved
      · rename_i hd
        subst hd
        obtain ⟨script, rfl, hacts⟩ := Hub.acts_of_episode? hx
        obtain ⟨hafter, hbefore⟩ := hacts.isAlive_iff
        exact ⟨hbefore hremoved, fun hlives => (hafter.mp hlives).2 hremoved⟩
      · cases hremoved
  obtain ⟨c, hc, -⟩ := Hub.isAlive_iff.mp hdies.1
  obtain ⟨c', hc', -⟩ := (Hub.balances_step h e).conn id c hc
  refine ⟨c', hc', ?_⟩
  cases halive : c'.alive with
  | false => rfl
  | true => exact absurd (Hub.isAlive_iff.mpr ⟨c', hc', halive⟩) hdies.2

/-! ## What every run has to show -/

/-- The handlers of all connections get what they are to get, and what they do has its effect, in a
run with the events `es`. -/
structure Attended (h : Hub τ) (es : List (Event τ)) (h' : Hub τ) : Prop where
  /-- Each dispatched frame is given, once each and in order, to the handlers that the connection
  had when the dispatch began. -/
  snapshot : ∀ {before after id f is},
    episodes h es = before ++ .dispatched id f is :: after →
      (h.rota.afterAll before).handlers? id = some (is.map Invocation.handler)
  /-- In the event of a dispatch the calls are made one after another, each as the handler's script
  goes on, and then the reader goes on; of all that handlers do only a removal that counts tears the
  connection down. -/
  performed : ∀ {before after id f is},
    episodes h es = before ++ .dispatched id f is :: after →
      ∃ es₁ e es₂ g, es = es₁ ++ e :: es₂ ∧ Run h es₁ g ∧ episodes h es₁ = before ∧
        g.Dispatches id f is (g.step e) ∧
        ((g.step e).isAlive id = true ↔ ∀ i ∈ is, .removed true ∉ i.actions)
  /-- The dispatched frames are those that the reader takes for the handlers. -/
  frames : ∀ id, (episodes h es).filterMap (Episode.frame? id) =
    (readerActs id h es).filterMap fun x => x.2.frame?
  /-- The handlers of a connection at the end are what was made of them, action by action. -/
  handlers : ∀ {id c}, h'.find? id = some c →
    (h.rota.afterAll (episodes h es)).handlers? id = some c.handlers
  /-- The calls that panicked are counted. -/
  counted : h'.metrics.handlerPanics =
    h.metrics.handlerPanics + panicked ((episodes h es).flatMap Episode.invocations)
  /-- Once the connection has been removed on its own behalf, no frame is dispatched. -/
  final : ∀ {before after x id}, episodes h es = before ++ x :: after →
    .removed true ∈ x.actions id → ∀ y ∈ after, y.frame? id = none

/-- **Every frame to every handler of the snapshot.** In every run, every dispatched frame is given
once each and in order to the handlers that the connection had when the dispatch began: those that
it was opened with, changed by all actions of scripts until then in the order in which they were
taken. Neither a panic nor a change of the list nor a removal keeps the handlers that follow from
being called. Each panic is counted and leaves the connection alive; when a handler has removed the
connection, no other frame is dispatched. -/
theorem dispatched_to_snapshot (run : Run h es h') : Attended h es h' where
  snapshot {before after id f is} heq := by
    obtain ⟨es₁, e, es₂, g, -, first, he, -, hbefore, -⟩ := run.exists_split_of_episodes heq
    obtain ⟨c, _, hc, -, -, hmap, -⟩ := Hub.dispatches_of_episode? he
    rw [← hbefore, ← first.rota_eq, Hub.handlers?_rota, hc, Option.map_some, hmap]
  performed {before after id f is} heq := by
    obtain ⟨es₁, e, es₂, g, hes, first, he, -, hbefore, -⟩ := run.exists_split_of_episodes heq
    have dispatches := Hub.dispatches_of_episode? he
    exact ⟨es₁, e, es₂, g, hes, first, hbefore, dispatches, dispatches.isAlive_iff⟩
  frames id := filterMap_frame?_episodes id h es
  handlers {id c} hc := by
    rw [← run.rota_eq, Hub.handlers?_rota, hc, Option.map_some]
  counted := by
    have hpanics := congrArg Rota.panics run.rota_eq
    rwa [Rota.panics_afterAll] at hpanics
  final {before after x id} heq hremoved := by
    obtain ⟨es₁, e, es₂, g, -, -, he, second, -, hafter⟩ := run.exists_split_of_episodes heq
    obtain ⟨c, hc, hdead⟩ := Hub.dead_of_removed he hremoved
    rw [← hafter]
    exact second.frame?_of_dead hc hdead

end Runs

/-- A peer that sends three frames to handlers of which one panics at the first frame, one adds
another handler at each, and one removes the connection at the second. -/
def unrulyHandlers : List (Event MemoryLink) :=
  [.upgrade "a" (.ok {}) { handlers := [Handler.onPayload [1] (Handler.panic fun _ => .other),
      Handler.add [Handler.record "heard" "added"],
      Handler.onPayload [2] (Handler.removeSelf "heard"), Handler.record "heard" "kept"] },
    .peer "a" (.sends ⟨.binary, [1]⟩), .peer "a" (.sends ⟨.binary, [2]⟩),
    .peer "a" (.sends ⟨.binary, [3]⟩), .turn (.reader "a") Hub.teardownFirst,
    .turn (.reader "a") Hub.teardownFirst, .turn (.reader "a") Hub.teardownFirst,
    .turn (.reader "a") Hub.teardownFirst]

/-- A hub without connections. -/
def unattended : Hub MemoryLink := Hub.initial {} .listed [] 0 0

/-- The handler that was added at the first frame gets the second, after the connection was removed;
the third is never dispatched. -/
theorem dispatched_to_snapshot_of_unrulyHandlers :
    Attended unattended unrulyHandlers (unrulyHandlers.foldl Hub.step unattended) ∧
      (episodes unattended unrulyHandlers).filterMap (Episode.frame? "a") =
        [⟨.binary, [1]⟩, ⟨.binary, [2]⟩] ∧
      (unrulyHandlers.foldl Hub.step unattended).notes.reverse =
        [⟨"heard", .frame "kept" ⟨.binary, [1]⟩⟩, ⟨"heard", .removed true⟩,
          ⟨"heard", .frame "kept" ⟨.binary, [2]⟩⟩, ⟨"heard", .frame "added" ⟨.binary, [2]⟩⟩] ∧
      (unrulyHandlers.foldl Hub.step unattended).metrics.handlerPanics = 1 := by
  have run : Run unattended unrulyHandlers (unrulyHandlers.foldl Hub.step unattended) :=
    .of_allowed (by decide +kernel)
  have attended := dispatched_to_snapshot run
  refine ⟨attended, ?_, by decide +kernel, by decide +kernel⟩
  rw [attended.frames]
  decide +kernel

end Switchboard
