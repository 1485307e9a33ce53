import Switchboard.Http.Api
import Switchboard.Proofs.Turns

/-!
# Runs of a hub

A run is a sequence of events: connections are opened, sends asked for and abandoned, connections
removed, requests answered; peers act on their links, tasks get turns in any order, ready or not,
and time passes. Between two events of a run the hub is in a state that is seen from outside.

`Run.keeps` is the induction by which everything is proved that holds throughout a run: a law of the
ledger that its steps keep, and the opening of a connection too, holds in every state.
-/

namespace Switchboard

/-- Something that happens to a hub at one instant. -/
inductive Event (τ : Type) where
  /-- A connection is opened under an id over the transport that was made, if one was. -/
  | upgrade (id : String) (made : Except Error τ) (o : ConnectOptions)
  /-- A response was written, but no transport could be made then. -/
  | upgradeFailed (reason : String)
  | ask (r : SendOrder)
  | abandon (number : Nat)
  | remove (id : String)
  /-- A request is answered, or its send asked for. The connection it may open is opened by an event
  of its own. -/
  | request (s : Http.Server) (r : Http.Request)
  /-- A script is run on behalf of a connection by someone who has it at hand. -/
  | act (id : String) (script : Script)
  /-- The peer of a connection acts on their link. -/
  | peer (id : String) (act : τ → τ)
  /-- A task gets a turn; `roomFirst` tells what each send of a call is to notice first. -/
  | turn (t : Task) (roomFirst : Nat → Bool)
  | pass (now wallClock : Nat)

namespace Event

variable {τ : Type}

/-- Whether an event can happen to a hub: ids are fresh, and time does not go back. -/
def Allowed (h : Hub τ) : Event τ → Prop
  | .upgrade id _ _ => h.find? id = none
  | .pass now _ => h.now ≤ now
  | _ => True

/-- The member that an event registers: that of an upgrade over a transport that was made, unless no
outbox can have the capacity asked for. -/
def opening? (config : SocketConfig) : Event τ → Option Member
  | .upgrade id (.ok _) o =>
    if max 1 (o.capacity.getD config.queueCapacity) > Outbox.maxCapacity then none
    else some (Member.ofTexts id o.user o.tag)
  | _ => none

end Event

namespace Hub

variable {τ : Type} [Transport τ]

/-- A hub without connections. -/
def initial (config : SocketConfig) (origins : OriginPolicy) (serverHandlers : List Handler)
    (now wallClock : Nat) : Hub τ :=
  { config, origins, serverHandlers, now, wallClock }

/-- The hub after an event. -/
def step (h : Hub τ) : Event τ → Hub τ
  | .upgrade id made o => (h.upgrade id made o).2
  | .upgradeFailed reason => h.upgradeFailed reason
  | .ask r => (h.startCall r).2
  | .abandon number => h.abandon number
  | .remove id => (h.remove id).2
  | .request s r =>
    match Http.Api.handle s h r with
    | (.send order _, h) => (h.startCall order).2
    | (_, h) => h
  | .act id script => (runScript id script h).2
  | .peer id act => (h.peerActs id fun link => ((), act link)).2
  | .turn t roomFirst => h.poll roomFirst t
  | .pass now wallClock => { h.moveClock now with wallClock }

end Hub

/-- A run: events one after another, each allowed where it happens. -/
inductive Run {τ : Type} [Transport τ] : Hub τ → List (Event τ) → Hub τ → Prop where
  | nil (h : Hub τ) : Run h [] h
  | cons {h h' : Hub τ} {e : Event τ} {es : List (Event τ)} (allowed : e.Allowed h)
      (rest : Run (h.step e) es h') : Run h (e :: es) h'

/-- The members that the events of a run register, in order. -/
def openings {τ : Type} (config : SocketConfig) (es : List (Event τ)) : List Member :=
  es.filterMap (Event.opening? config)

/-! ## Requests -/

namespace Http.Api

variable {τ : Type}

theorem leadsTo_deleteConnection (s : Server) (h : Hub τ) (id : String) :
    h.LeadsTo (deleteConnection s h id).2 := by
  have hremove := Hub.leadsTo_remove h id
  rw [deleteConnection]
  generalize h.remove id = removed at hremove ⊢
  obtain ⟨won, h'⟩ := removed
  dsimp only
  split
  · exact hremove.trans (.of_eq rfl)
  · exact hremove.trans (.of_eq rfl)

theorem leadsTo_getConnection (s : Server) (h : Hub τ) (id : String) :
    h.LeadsTo (getConnection s h id).2 := by
  rw [getConnection]
  split
  · exact .refl h
  · exact .of_eq rfl

theorem leadsTo_getUser (s : Server) (h : Hub τ) (user : String) :
    h.LeadsTo (getUser s h user).2 := by
  rw [getUser]
  split
  · exact .refl h
  · exact .of_eq rfl

theorem leadsTo_socket (h : Hub τ) (t : Target) (r : Request) : h.LeadsTo (socket h t r).2 := by
  rw [socket]
  split
  · exact .refl h
  · dsimp only
    split
    · exact .of_eq rfl
    · split
      · exact .of_eq rfl
      · exact .refl h

theorem leadsTo_withPart {h : Hub τ} {part : List Char} {next : String → Outcome × Hub τ}
    (hnext : ∀ text, h.LeadsTo (next text).2) : h.LeadsTo (withPart h part next).2 := by
  rw [withPart]
  split
  · exact hnext _
  · exact .refl h

theorem leadsTo_sendOutcome (h : Hub τ) (r : Request) (order : Frame → SendOrder)
    (missing : String) : h.LeadsTo (sendOutcome h r order missing).2 := by
  rw [sendOutcome]
  split <;> exact .refl h

theorem leadsTo_atRoute (s : Server) (h : Hub τ) (t : Target) (r : Request) (route : Route) :
    h.LeadsTo (atRoute s h t r route).2 := by
  cases route with
  | socket => exact leadsTo_socket h t r
  | health => exact .refl h
  | stats => exact .refl h
  | metrics => exact .of_eq rfl
  | connection part =>
    refine leadsTo_withPart fun id => ?_
    split
    · exact leadsTo_deleteConnection s h id
    · exact leadsTo_getConnection s h id
  | connectionMessages part => exact leadsTo_withPart fun id => leadsTo_sendOutcome h r _ id
  | userConnections part => exact leadsTo_withPart fun user => leadsTo_getUser s h user
  | userMessages part => exact leadsTo_withPart fun user => leadsTo_sendOutcome h r _ user
  | broadcast => exact leadsTo_sendOutcome h r _ ""

theorem leadsTo_handle (s : Server) (h : Hub τ) (r : Request) : h.LeadsTo (handle s h r).2 := by
  rw [handle]
  dsimp only
  split
  · exact .refl h
  · split
    · exact .refl h
    · split
      · exact .refl h
      · split
        · exact leadsTo_atRoute s h _ r _
        · exact .refl h

end Http.Api

/-! ## Events and the ledger -/

namespace Hub

variable {τ : Type}

theorem ledger_accept {h : Hub τ} {o : ConnectOptions} (hfit : h.capacityFor o ≤ Outbox.maxCapacity)
    (id : String) (link : τ) :
    (h.accept id link o).2.ledger =
      h.ledger.enroll (Member.ofTexts id o.user o.tag) (h.capacityFor o) := by
  rw [accept]
  dsimp only
  rw [if_neg (by omega), ledger_logAbout]
  -- the hub with the new connection, its two tasks woken; the ledger does not show that they are
  generalize hw : (({ h with
      connections := h.connections ++
        [{ member := Member.ofTexts id o.user o.tag, link, createdAt := h.wallClock
           handlers := o.handlers, outbox := { capacity := h.capacityFor o } }]
      registry := h.registry.insert (Member.ofTexts id o.user o.tag) } : Hub τ).wake
        (.writer id)).wake (.reader id) = woken
  have hl : woken.ledger = { h.ledger with
      accounts := h.ledger.accounts ++
        [{ member := Member.ofTexts id o.user o.tag, outbox := { capacity := h.capacityFor o } }]
      registry := h.registry.insert (Member.ofTexts id o.user o.tag) } := by
    rw [← hw, ledger_wake, ledger_wake]
    simp only [ledger, List.map_append, List.map_cons, List.map_nil, Connection.account]
  change { woken.ledger with opened := woken.ledger.opened + 1 } = _
  rw [hl]
  rfl

theorem opening?_upgrade (h : Hub τ) (id : String) (link : τ) (o : ConnectOptions) :
    (Event.upgrade id (.ok link) o).opening? h.config =
      if h.capacityFor o > Outbox.maxCapacity then none
      else some (Member.ofTexts id o.user o.tag) := rfl

variable [Transport τ]

/-- An event that registers nobody leads to the hub after it. -/
theorem leadsTo_step {h : Hub τ} {e : Event τ} (he : e.opening? h.config = none) :
    h.LeadsTo (h.step e) := by
  cases e with
  | upgrade id made o =>
    cases made with
    | error e => exact leadsTo_upgradeFailed h e.message
    | ok link =>
      rw [opening?_upgrade] at he
      change h.LeadsTo (h.accept id link o).2
      -- an upgrade over a transport registers nobody only if its capacity cannot be had
      rw [accept]
      dsimp only
      split
      · exact .refl h
      · rename_i hfit
        simp [hfit] at he
  | upgradeFailed reason => exact leadsTo_upgradeFailed h reason
  | ask r => exact leadsTo_startCall h r
  | abandon number => exact leadsTo_abandon h number
  | remove id => exact leadsTo_remove h id
  | request s r =>
    have hhandle := Http.Api.leadsTo_handle s h r
    rw [step]
    generalize Http.Api.handle s h r = handled at hhandle ⊢
    obtain ⟨outcome, h'⟩ := handled
    cases outcome with
    | answer response => exact hhandle
    | send order missing => exact hhandle.trans (leadsTo_startCall h' order)
    | connect response user tag => exact hhandle
  | act id script => exact leadsTo_runScript id script h
  | peer id act => exact .of_eq (ledger_peerActs h id _)
  | turn t roomFirst => exact leadsTo_poll h roomFirst t
  | pass now wallClock => exact .of_eq (ledger_moveClock h now)

/-- An event that registers a member opens its connection, and changes nothing else of the ledger.
-/
theorem ledger_step_of_opening {h : Hub τ} {e : Event τ} {m : Member}
    (he : e.opening? h.config = some m) (hallowed : e.Allowed h) :
    h.ledger.find? m.id = none ∧
      ∃ capacity, 1 ≤ capacity ∧ (h.step e).ledger = h.ledger.enroll m capacity := by
  cases e with
  | upgrade id made o =>
    cases made with
    | error e => simp [Event.opening?] at he
    | ok link =>
      rw [opening?_upgrade] at he
      by_cases hfit : h.capacityFor o > Outbox.maxCapacity
      · simp [hfit] at he
      · obtain rfl : Member.ofTexts id o.user o.tag = m := by simpa [hfit] using he
        have hpos : 1 ≤ h.capacityFor o := Nat.le_max_left _ _
        refine ⟨?_, h.capacityFor o, hpos, ledger_accept (by omega) id link⟩
        rw [find?_ledger]
        change (h.find? id).map _ = none
        rw [show h.find? id = none from hallowed, Option.map_none]
  | _ => simp [Event.opening?] at he

end Hub

/-! ## What a run keeps -/

namespace Run

variable {τ : Type} [Transport τ] {h h' h'' : Hub τ} {es es' : List (Event τ)}

theorem append (first : Run h es h') (second : Run h' es' h'') : Run h (es ++ es') h'' := by
  induction first with
  | nil => exact second
  | cons allowed _ ih => exact .cons allowed (ih second)

/-- Events that are allowed wherever they happen make up a run from every hub. -/
theorem of_always_allowed (hes : ∀ e ∈ es, ∀ h : Hub τ, e.Allowed h) (h : Hub τ) :
    Run h es (es.foldl Hub.step h) := by
  induction es generalizing h with
  | nil => exact .nil h
  | cons e rest ih =>
    exact .cons (hes e List.mem_cons_self h)
      (ih (fun e he => hes e (List.mem_cons_of_mem _ he)) (h.step e))

/-- What steps and openings keep holds at the end of a run if it does at the beginning. -/
theorem keeps {P : Ledger → Prop} (hstep : ∀ {l l' : Ledger}, Ledger.Step l l' → P l → P l')
    (henroll : ∀ {l : Ledger} {m : Member} {capacity : Nat}, l.find? m.id = none → 1 ≤ capacity →
      P l → P (l.enroll m capacity))
    (run : Run h es h') (hP : P h.ledger) : P h'.ledger := by
  induction run with
  | nil => exact hP
  | @cons h h' e es allowed rest ih =>
    apply ih
    -- an event is a sequence of steps, or the opening of one connection and nothing else
    cases he : e.opening? h.config with
    | none => exact Ledger.Steps.keeps hstep (Hub.leadsTo_step he) hP
    | some m =>
      obtain ⟨hfresh, capacity, hpos, hl⟩ := Hub.ledger_step_of_opening he allowed
      rw [hl]
      exact henroll hfresh hpos hP

theorem config_eq (run : Run h es h') : h'.config = h.config :=
  run.keeps (P := fun l => l.config = h.config) (fun step hl => step.config_eq.trans hl)
    (fun _ _ hl => hl) rfl

/-- The connections of a hub are those that its run opened, in this order. -/
theorem members_eq (run : Run h es h') :
    h'.ledger.members = h.ledger.members ++ openings h.config es := by
  induction run with
  | nil => simp [openings]
  | @cons h h' e es allowed rest ih =>
    have hconfig : (h.step e).config = h.config :=
      config_eq (.cons allowed (.nil _))
    rw [ih, hconfig]
    cases he : e.opening? h.config with
    | none =>
      have hsame : (h.step e).ledger.members = h.ledger.members :=
        Ledger.Steps.keeps (P := fun l => l.members = h.ledger.members)
          (fun step hl => step.members_eq.trans hl) (Hub.leadsTo_step he) rfl
      rw [hsame, openings, openings, List.filterMap_cons_none he]
    | some m =>
      obtain ⟨-, capacity, -, hl⟩ := Hub.ledger_step_of_opening he allowed
      rw [hl, Ledger.members_enroll, openings, openings, List.filterMap_cons_some he]
      simp

end Run

end Switchboard
