import Switchboard.Hub.Clock
import Switchboard.Hub.Manage
import Mathlib.Logic.Relation

/-!
# The ledger of a hub

Most of what a hub holds has no part in what becomes of its connections and frames: phases, clocks,
links, logs, ready tasks. `Hub.ledger` leaves that out. What is left is a machine of its own, whose
steps are few: `Ledger.Step` lists them, each with the guard under which the hub takes it. Opening a
connection is not among them (`Ledger.enroll`), so that steps never change who there is.

A law about connections, counters and frames is proved of the ledger, one case for each step, and
holds of the hub because whatever the hub does is a sequence of steps of its ledger.
-/

namespace Switchboard

/-- What a ledger holds of a connection. -/
structure Account where
  member : Member
  alive : Bool := true
  outbox : Outbox
  deriving DecidableEq, Repr, Inhabited

/-- The id of a connection. -/
def Account.id (a : Account) : String := a.member.id

/-- The part of a hub's state that the fate of connections and frames depends on. -/
structure Ledger where
  config : SocketConfig
  accounts : List Account := []
  registry : Registry := {}
  calls : List Call := []
  opened : Nat := 0
  closed : Tally := {}
  lifetimes : List Binary64 := []
  upgradeFailures : Nat := 0
  history : List Happening := []

/-- The frame that is to be sent. -/
def SendOrder.frame : SendOrder → Frame
  | .toHandle _ f | .toConnection _ f | .toUser _ f | .toAll f => f

/-- The frame that a call may still put into outboxes, if it is not over. -/
def Call.frame? : Call → Option Frame
  | .requested r => some r.frame
  | .waiting f _ _ => some f
  | .finished _ | .abandoned => none

namespace Ledger

/-- What the ledger holds of the connection with an id. -/
def find? (l : Ledger) (id : String) : Option Account := l.accounts.find? fun a => a.id = id

/-- Change what the ledger holds of the connection with an id. -/
def update (l : Ledger) (id : String) (f : Account → Account) : Ledger :=
  { l with accounts := l.accounts.map fun a => if a.id = id then f a else a }

/-- Change the outbox of a connection. -/
def mapOutbox (l : Ledger) (id : String) (f : Outbox → Outbox) : Ledger :=
  l.update id fun a => { a with outbox := f a.outbox }

/-- Record that something happened. -/
def record (l : Ledger) (x : Happening) : Ledger := { l with history := x :: l.history }

/-- Put a frame into the outbox of a connection, in the way of `put`. -/
def enter (l : Ledger) (id : String) (f : Frame) (s : Sender) (put : Outbox → Outbox) : Ledger :=
  (l.mapOutbox id put).record (.entered id f s)

/-- Open a connection. -/
def enroll (l : Ledger) (m : Member) (capacity : Nat) : Ledger :=
  { l with
    accounts := l.accounts ++ [{ member := m, outbox := { capacity } }]
    registry := l.registry.insert m
    opened := l.opened + 1 }

/-- Tear a connection down. -/
def close (l : Ledger) (id : String) (reason : CloseReason) (lifetime : Binary64) : Ledger :=
  { l.update id fun a => { a with alive := false } with
    registry := (l.registry.remove id).2
    closed := l.closed.bump reason.name
    lifetimes := lifetime :: l.lifetimes
    history := .closed id reason :: l.history }

/-- How far the call with a number has come: nothing if it was not asked for; else its frame while
it is under way, and none once it is over. -/
def standing (l : Ledger) (number : Nat) : Option (Option Frame) :=
  (l.calls[number]?).map Call.frame?

/-- Whether a sender may put a frame into an outbox: its call, if it has one, is under way with this
frame. -/
def Sends (l : Ledger) (f : Frame) : Sender → Prop
  | .offer => True
  | .call t => l.standing t.call = some (some f)

/-- What may happen to a ledger while no connection is opened. -/
inductive Step : Ledger → Ledger → Prop
  /-- An upgrade failed. -/
  | refuse {l : Ledger} : Step l { l with upgradeFailures := l.upgradeFailures + 1 }
  /-- A connection was torn down, not by a removal. -/
  | close {l : Ledger} {id : String} {a : Account} {reason : CloseReason} {lifetime : Binary64}
      (found : l.find? id = some a) (alive : a.alive = true) (fault : reason ≠ .removed) :
      Step l (l.close id reason lifetime)
  /-- A connection was removed. -/
  | remove {l : Ledger} {id : String} {a : Account} {lifetime : Binary64}
      (found : l.find? id = some a) (alive : a.alive = true) :
      Step l ((l.close id .removed lifetime).record (.removal id true))
  /-- A removal came to nothing. -/
  | decline {l : Ledger} {id : String} : Step l (l.record (.removal id false))
  /-- A frame was put into a free slot. -/
  | put {l : Ledger} {id : String} {a : Account} {f : Frame} {s : Sender}
      (found : l.find? id = some a) (alive : a.alive = true) (room : a.outbox.hasRoom = true)
      (sends : l.Sends f s) : Step l (l.enter id f s fun o => o.put f)
  /-- A frame was put into the slot kept for it. -/
  | redeem {l : Ledger} {id : String} {a : Account} {f : Frame} {t : Ticket}
      (found : l.find? id = some a) (granted : a.outbox.isGranted t = true)
      (sends : l.Sends f (.call t)) : Step l (l.enter id f (.call t) fun o => o.redeem t f)
  /-- A send went in line. -/
  | join {l : Ledger} {id : String} {a : Account} {t : Ticket}
      (found : l.find? id = some a) (alive : a.alive = true) (full : a.outbox.hasRoom = false) :
      Step l (l.mapOutbox id fun o => o.join t)
  /-- A send was given up. -/
  | withdraw {l : Ledger} {id : String} {a : Account} {t : Ticket} (found : l.find? id = some a) :
      Step l (l.mapOutbox id fun _ => (a.outbox.withdraw t).2)
  /-- A frame left the outbox and was handed over to the link. -/
  | pass {l : Ledger} {id : String} {a : Account} {f : Frame} {t : Option Ticket} {o : Outbox}
      (found : l.find? id = some a) (alive : a.alive = true)
      (taken : a.outbox.take = some (f, t, o)) (sendable : f.isSendable = true) :
      Step l ((l.mapOutbox id fun _ => o).record (.handed id f .queued))
  /-- A frame left the outbox that cannot be put on the wire. -/
  | shed {l : Ledger} {id : String} {a : Account} {f : Frame} {t : Option Ticket} {o : Outbox}
      (found : l.find? id = some a) (alive : a.alive = true)
      (taken : a.outbox.take = some (f, t, o)) (unsendable : f.isSendable = false) :
      Step l (l.mapOutbox id fun _ => o)
  /-- A heartbeat was handed over to the link. -/
  | beat {l : Ledger} {id : String} : Step l (l.record (.handed id .ping .heartbeat))
  /-- The writer's own closing frame was handed over to the link. -/
  | part {l : Ledger} {id : String} : Step l (l.record (.handed id .close .farewell))
  /-- A send was asked for. -/
  | ask {l : Ledger} {r : SendOrder} : Step l { l with calls := l.calls ++ [.requested r] }
  /-- A call got on, with the same frame if it is not over. -/
  | proceed {l : Ledger} {number : Nat} {old new : Call} {f : Frame}
      (found : l.calls[number]? = some old) (isOpen : old.frame? = some f)
      (same : ∀ g, new.frame? = some g → g = f) :
      Step l { l with calls := l.calls.set number new }

/-- Steps, one after another. -/
abbrev Steps : Ledger → Ledger → Prop := Relation.ReflTransGen Step

/-- What every step keeps is kept by any number of them. -/
theorem Steps.keeps {P : Ledger → Prop} (hstep : ∀ {l l' : Ledger}, Step l l' → P l → P l')
    {l l' : Ledger} (steps : Steps l l') (h : P l) : P l' := by
  induction steps with
  | refl => exact h
  | tail _ step ih => exact hstep step ih

/-! ## Who there is -/

/-- The members of all connections, in the order in which they were opened. -/
def members (l : Ledger) : List Member := l.accounts.map Account.member

theorem map_accounts_update {l : Ledger} {id : String} {f : Account → Account} (g : Account → α)
    (hf : ∀ a, g (f a) = g a) : (l.update id f).accounts.map g = l.accounts.map g := by
  simp only [update, List.map_map]
  refine List.map_congr_left fun a _ => ?_
  change g (if a.id = id then f a else a) = g a
  split
  · exact hf a
  · rfl

theorem members_enroll (l : Ledger) (m : Member) (capacity : Nat) :
    (l.enroll m capacity).members = l.members ++ [m] := by
  simp [enroll, members]

@[simp] theorem members_record (l : Ledger) (x : Happening) :
    (l.record x).members = l.members := rfl

@[simp] theorem members_mapOutbox (l : Ledger) (id : String) (f : Outbox → Outbox) :
    (l.mapOutbox id f).members = l.members := map_accounts_update Account.member fun _ => rfl

@[simp] theorem members_enter (l : Ledger) (id : String) (f : Frame) (s : Sender)
    (put : Outbox → Outbox) : (l.enter id f s put).members = l.members :=
  members_mapOutbox l id put

@[simp] theorem members_close (l : Ledger) (id : String) (reason : CloseReason)
    (lifetime : Binary64) : (l.close id reason lifetime).members = l.members := by
  have hmap : (l.update id fun a => { a with alive := false }).accounts.map Account.member =
      l.accounts.map Account.member := map_accounts_update _ fun _ => rfl
  exact hmap

/-- Steps change neither who there is nor how the hub is run. -/
theorem Step.members_eq {l l' : Ledger} (step : Step l l') : l'.members = l.members := by
  cases step with
  | refuse | decline | beat | part | ask | proceed => rfl
  | close | remove | put | redeem | join | withdraw | pass | shed => simp

theorem Step.config_eq {l l' : Ledger} (step : Step l l') : l'.config = l.config := by
  cases step <;> rfl

end Ledger

/-! ## From a hub to its ledger -/

/-- What a ledger holds of a connection. -/
def Connection.account (c : Connection τ) : Account := ⟨c.member, c.alive, c.outbox⟩

namespace Hub

variable {τ : Type}

/-- The ledger of a hub. -/
def ledger (h : Hub τ) : Ledger where
  config := h.config
  accounts := h.connections.map Connection.account
  registry := h.registry
  calls := h.calls
  opened := h.metrics.opened
  closed := h.metrics.closed
  lifetimes := h.metrics.lifetimes
  upgradeFailures := h.metrics.upgradeFailures
  history := h.history

theorem find?_ledger (h : Hub τ) (id : String) :
    h.ledger.find? id = (h.find? id).map Connection.account := by
  rw [Ledger.find?, find?, ledger, List.find?_map]
  rfl

theorem find?_ledger_of_some {h : Hub τ} {id : String} {c : Connection τ}
    (hc : h.find? id = some c) : h.ledger.find? id = some c.account := by
  rw [find?_ledger, hc, Option.map_some]

theorem id_of_find? {h : Hub τ} {id : String} {c : Connection τ} (hc : h.find? id = some c) :
    c.id = id := by
  simpa using List.find?_some hc

/-- A change of a connection is one of its account. -/
theorem ledger_update {h : Hub τ} {id : String} {f : Connection τ → Connection τ}
    {g : Account → Account} (hfg : ∀ c : Connection τ, (f c).account = g c.account) :
    (h.update id f).ledger = h.ledger.update id g := by
  simp only [ledger, update, Ledger.update, List.map_map, Ledger.mk.injEq, true_and, and_true]
  refine List.map_congr_left fun c _ => ?_
  change (if c.member.id = id then f c else c).account =
    if c.member.id = id then g c.account else c.account
  split
  · exact hfg c
  · rfl

/-- A change that the account of a connection does not show. -/
theorem ledger_update_aside {h : Hub τ} {id : String} {f : Connection τ → Connection τ}
    (hf : ∀ c : Connection τ, (f c).account = c.account) : (h.update id f).ledger = h.ledger := by
  rw [ledger_update (g := fun a => a) hf]
  simp only [Ledger.update, ite_self, List.map_id']

@[simp] theorem ledger_wake (h : Hub τ) (t : Task) : (h.wake t).ledger = h.ledger := by
  rw [wake]
  split <;> rfl

@[simp] theorem ledger_wakeAll (ts : List Task) (h : Hub τ) : (h.wakeAll ts).ledger = h.ledger := by
  induction ts generalizing h with
  | nil => rfl
  | cons t rest ih => exact (ih (h.wake t)).trans (ledger_wake h t)

@[simp] theorem ledger_wakeWriter (h : Hub τ) (id : String) :
    (h.wakeWriter id).ledger = h.ledger := by
  rw [wakeWriter]
  split
  · split
    · exact ledger_wake _ _
    · rfl
  · rfl

@[simp] theorem ledger_wakeReader (h : Hub τ) (id : String) :
    (h.wakeReader id).ledger = h.ledger := by
  rw [wakeReader]
  split
  · split
    · rfl
    · exact ledger_wake _ _
  · rfl

@[simp] theorem ledger_logEvent (h : Hub τ) (e : LogEvent) : (h.logEvent e).ledger = h.ledger := rfl

@[simp] theorem ledger_logAbout (h : Hub τ) (id : String) (level : Level) (message : String)
    (fields : List (String × LogValue)) : (h.logAbout id level message fields).ledger = h.ledger :=
  rfl

@[simp] theorem ledger_addNote (h : Hub τ) (n : Note) : (h.addNote n).ledger = h.ledger := rfl

@[simp] theorem ledger_record (h : Hub τ) (x : Happening) :
    (h.record x).ledger = h.ledger.record x := rfl

@[simp] theorem ledger_setReady (h : Hub τ) (ts : List Task) :
    ({ h with ready := ts } : Hub τ).ledger = h.ledger := rfl

@[simp] theorem ledger_dropFrame (h : Hub τ) : h.dropFrame.ledger = h.ledger := rfl

@[simp] theorem ledger_countSent (h : Hub τ) (target : String) :
    (h.count fun m => m.countSent target).ledger = h.ledger := rfl

@[simp] theorem ledger_countReceived (h : Hub τ) (kind : FrameKind) :
    (h.count fun m => m.countReceived kind).ledger = h.ledger := rfl

@[simp] theorem ledger_countHandlerPanic (h : Hub τ) :
    (h.count Metrics.countHandlerPanic).ledger = h.ledger := rfl

end Hub

end Switchboard
