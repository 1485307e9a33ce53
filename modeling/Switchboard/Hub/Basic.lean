import Switchboard.Config
import Switchboard.Connection
import Switchboard.Metrics
import Switchboard.Transport

/-!
# The state of a hub

A `Hub` holds every connection that was ever opened, the registry of those that are alive, the sends
under way, counters, log and notes, and a clock. What remains to be done at the current instant is
in `ready`: the tasks that were started or woken, in that order.

The operations of this module change one part of the state each; the rest of the hub is put together
from them.

## History

`history` tells what has happened to the connections: which frames entered their outboxes and were
handed over to their links, that they were torn down and why, and how their removals were answered.
The hub writes it and never reads it, so that a run can be spoken of in terms of its last state.
-/

namespace Switchboard

/-- A task that may be given a turn. -/
inductive Task where
  | writer (id : String)
  | reader (id : String)
  | call (number : Nat)
  deriving DecidableEq, Repr, Inhabited

/-- What a send is asked to do. -/
inductive SendOrder where
  /-- Send to a connection at hand, registered or not. -/
  | toHandle (id : String) (frame : Frame)
  /-- Send to the connection registered under an id. -/
  | toConnection (id : String) (frame : Frame)
  /-- Send to all connections of a user. -/
  | toUser (user : String) (frame : Frame)
  /-- Send to all connections. -/
  | toAll (frame : Frame)
  deriving DecidableEq, Repr, Inhabited

/-- What a finished send reports. -/
inductive Reply where
  | sent
  | found (registered : Bool)
  | targeted (count : Nat)
  deriving DecidableEq, Repr, Inhabited

/-- How far a send has come. -/
inductive Call where
  /-- It has not run yet. -/
  | requested (r : SendOrder)
  /-- The frame is still to be put into some outboxes: the connection and the place of each. -/
  | waiting (frame : Frame) (places : List (String × Nat)) (reply : Reply)
  | finished (reply : Reply)
  /-- Whoever asked for it no longer waits. -/
  | abandoned
  deriving DecidableEq, Repr, Inhabited

/-- Who puts a frame into an outbox. -/
inductive Sender where
  /-- An offer, which does not wait. -/
  | offer
  /-- A send, at once or after it waited. -/
  | call (t : Ticket)
  deriving DecidableEq, Repr, Inhabited

/-- Why a frame is handed over to a link. -/
inductive Cause where
  /-- It left the outbox. -/
  | queued
  | heartbeat
  /-- The connection was torn down. -/
  | farewell
  deriving DecidableEq, Repr, Inhabited

/-- What happened to a connection. -/
inductive Happening where
  | entered (id : String) (frame : Frame) (sender : Sender)
  | handed (id : String) (frame : Frame) (cause : Cause)
  | closed (id : String) (reason : CloseReason)
  /-- A removal was asked for, and this did or did not tear the connection down. -/
  | removal (id : String) (won : Bool)
  deriving DecidableEq, Repr, Inhabited

/-- A hub of connections over transports of type `τ`. -/
structure Hub (τ : Type) where
  config : SocketConfig
  origins : OriginPolicy := .listed
  /-- The handlers of connections that are opened by request. -/
  serverHandlers : List Handler := Handler.defaults
  /-- The instant, in milliseconds. -/
  now : Nat := 0
  /-- The wall-clock time, in milliseconds; it does not pass with `now`. -/
  wallClock : Nat := 0
  /-- All connections, in the order in which they were opened. -/
  connections : List (Connection τ) := []
  registry : Registry := {}
  /-- All sends, in the order in which they were asked for. -/
  calls : List Call := []
  /-- The tasks that are ready, the first first. -/
  ready : List Task := []
  metrics : Metrics := {}
  /-- The events, the latest first. -/
  log : List LogEvent := []
  /-- The notes, the latest first. -/
  notes : List Note := []
  /-- What happened, the latest first. -/
  history : List Happening := []

namespace Hub

variable {τ : Type}

/-- The connection with an id, alive or not. -/
def find? (h : Hub τ) (id : String) : Option (Connection τ) :=
  h.connections.find? fun c => c.id = id

/-- Whether the connection with an id is alive. -/
def isAlive (h : Hub τ) (id : String) : Bool :=
  (h.find? id).any Connection.alive

/-- Change the connection with an id. -/
def update (h : Hub τ) (id : String) (f : Connection τ → Connection τ) : Hub τ :=
  { h with connections := h.connections.map fun c => if c.id = id then f c else c }

/-- Make a task ready. -/
def wake (h : Hub τ) (t : Task) : Hub τ :=
  if h.ready.contains t then h else { h with ready := h.ready ++ [t] }

/-- Make tasks ready, one after another. -/
def wakeAll (h : Hub τ) (ts : List Task) : Hub τ := ts.foldl wake h

/-- Count something. -/
def count (h : Hub τ) (f : Metrics → Metrics) : Hub τ := { h with metrics := f h.metrics }

/-- Log an event. -/
def logEvent (h : Hub τ) (e : LogEvent) : Hub τ := { h with log := e :: h.log }

/-- Log an event about a connection. -/
def logAbout (h : Hub τ) (id : String) (level : Level) (message : String)
    (fields : List (String × LogValue)) : Hub τ :=
  h.logEvent ⟨level, message, ("connection_id", .text id) :: fields⟩

/-- Write a note. -/
def addNote (h : Hub τ) (n : Note) : Hub τ := { h with notes := n :: h.notes }

/-- Record that something happened. -/
def record (h : Hub τ) (x : Happening) : Hub τ := { h with history := x :: h.history }

/-- Add a send to those asked for: its number and the hub after. -/
def addCall (h : Hub τ) (r : SendOrder) : Nat × Hub τ :=
  (h.calls.length, { h with calls := h.calls ++ [.requested r] })

/-- Set how far a send has come. -/
def setCall (h : Hub τ) (number : Nat) (c : Call) : Hub τ :=
  { h with calls := h.calls.set number c }

/-- Wake a connection's writer if it waits for something to do. -/
def wakeWriter (h : Hub τ) (id : String) : Hub τ :=
  match h.find? id with
  | some c => if c.writer = .idle then h.wake (.writer id) else h
  | none => h

/-- Wake a connection's reader if it waits. -/
def wakeReader (h : Hub τ) (id : String) : Hub τ :=
  match h.find? id with
  | some c => if c.reader = .stopped then h else h.wake (.reader id)
  | none => h

/-- Tear a connection down for a reason, if it is alive: whether it was, and the hub after. From
then on it is in no index, its tasks and those that wait to send to it are ready to find out. -/
def teardown (h : Hub τ) (id : String) (reason : CloseReason) : Bool × Hub τ :=
  match h.find? id with
  | none => (false, h)
  | some c =>
    if !c.alive then (false, h)
    else
      let lifetime := (Binary64.ofNat (h.wallClock - c.createdAt)).div (.ofNat 1000)
      let h := h.update id fun c => { c with alive := false }
      let h := h.wakeWriter id
      let h := h.wakeReader id
      let h := h.wakeAll (c.outbox.pending.map fun t => .call t.call)
      let h := { h with registry := (h.registry.remove id).2 }
      let h := h.count fun m => m.countClosed reason lifetime
      let h := h.record (.closed id reason)
      let h := h.logAbout id .info "Connection unregistered"
        [("user_id", .text (c.member.user.getD "")), ("reason", .text reason.name)]
      (true, h)

end Hub

end Switchboard
