import Switchboard.Hub.Reader
import Switchboard.Hub.Writer

/-!
# Turns and time

`Hub.turn` gives one task a turn; any ready task may be next, and a turn given to a task that is not
ready changes nothing that matters. A hub runs its tasks first come, first served: `runNext` gives
the first ready task a turn and lets it keep its place while it can go on. `settle` runs them until
none is ready.

Time passes only when no task is ready. `advance` moves the clock to a later instant, stopping at
every instant at which a task waits to go on.
-/

namespace Switchboard.Hub

variable {τ : Type} [Transport τ]

/-- A turn of a task: whether it could go on at once, and the hub after. A send that finds both room
and its connection torn down notices the room first if `roomFirst` says so of its place. -/
def turn (h : Hub τ) (roomFirst : Nat → Bool) : Task → Bool × Hub τ
  | .writer id => h.writerTurn id
  | .reader id => h.readerTurn id
  | .call number => (false, h.callTurn roomFirst number)

/-- Give a ready task a turn; it keeps the first place while it can go on. -/
def poll (h : Hub τ) (roomFirst : Nat → Bool) (t : Task) : Hub τ :=
  let (again, h) := { h with ready := h.ready.erase t }.turn roomFirst t
  if again then { h with ready := t :: h.ready } else h

/-- Every send notices the teardown first. -/
def teardownFirst : Nat → Bool := fun _ => false

/-- Give a ready task a turn in which sends notice a teardown first. -/
def run (h : Hub τ) (t : Task) : Hub τ := h.poll teardownFirst t

/-- Give the first ready task a turn. -/
def runNext (h : Hub τ) : Hub τ :=
  match h.ready with
  | [] => h
  | t :: _ => h.run t

/-- Run tasks until none is ready, for `fuel` turns at most. -/
def settleFor : (fuel : Nat) → Hub τ → Hub τ
  | 0, h => h
  | fuel + 1, h => if h.ready.isEmpty then h else settleFor fuel h.runNext

/-- More turns than any run at one instant takes. -/
def turnBound : Nat := 100000000

/-- Run tasks until none is ready. -/
def settle (h : Hub τ) : Hub τ := settleFor turnBound h

/-- The instants for which the tasks of a connection wait, with the tasks. -/
def timersOf (c : Connection τ) : List (Nat × Task) :=
  let pending := (Transport.wakeAt c.link).toList.map fun t => (t, Task.writer c.id)
  let writer := match c.writer with
    | .idle => [(c.heartbeat, Task.writer c.id)]
    | .sending _ limit | .sendingClose limit | .closingSink limit =>
      (limit, Task.writer c.id) :: pending
    | .starting | .stopped => []
  let reader := match c.reader with
    | .reading deadline => [(deadline, Task.reader c.id)]
    | .starting | .stopped => []
  writer ++ reader

/-- The instants for which tasks wait, with the tasks. -/
def timers (h : Hub τ) : List (Nat × Task) := h.connections.flatMap timersOf

/-- The next instant, later than now, for which a task waits. -/
def nextInstant? (h : Hub τ) : Option Nat :=
  ((h.timers.map Prod.fst).filter fun t => decide (h.now < t)).min?

/-- Move the clock to an instant and make the tasks ready that waited for it. -/
def moveClock (h : Hub τ) (t : Nat) : Hub τ :=
  let due := h.timers.filter fun timer => decide (timer.1 ≤ t)
  { h with now := t }.wakeAll (due.map Prod.snd)

/-- Move the clock to an instant by way of those for which tasks wait, `fuel` of them at most. -/
def advanceFor : (fuel : Nat) → Hub τ → (target : Nat) → Hub τ
  | 0, h, target => (h.moveClock target).settle
  | fuel + 1, h, target =>
    match h.nextInstant? with
    | some t => if t ≤ target then advanceFor fuel (h.moveClock t).settle target
      else (h.moveClock target).settle
    | none => (h.moveClock target).settle

/-- Let `span` milliseconds pass. -/
def advance (h : Hub τ) (span : Nat) : Hub τ :=
  advanceFor (span + 1) h.settle (h.now + span)

/-- Wait for a call, `fuel` turns at most: other ready tasks go first, and time passes if there is
none. -/
def awaitFor : (fuel : Nat) → Hub τ → (number : Nat) → Hub τ
  | 0, h, _ => h
  | fuel + 1, h, number =>
    if (h.reply? number).isSome then h
    else
      match h.ready.find? fun t => t ≠ .call number with
      | some t => awaitFor fuel (h.run t) number
      | none =>
        if h.ready.isEmpty then
          match h.nextInstant? with
          | some t => awaitFor fuel (h.moveClock t) number
          | none => h
        else awaitFor fuel (h.run (.call number)) number

/-- Ask for a send and wait for it; it gets its first turn before any other task. -/
def call (h : Hub τ) (r : SendOrder) : Option Reply × Hub τ :=
  let (number, h) := h.addCall r
  let h := awaitFor turnBound (h.callTurn teardownFirst number) number
  (h.reply? number, h)

end Switchboard.Hub
