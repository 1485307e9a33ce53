import Switchboard.Hub.Basic

/-!
# Sending

`Hub.trySend` offers a frame to a connection and takes no for an answer. A `Call` is a send that may
have to wait: to a connection at hand, to one found by id, to all of a user's or to all. Its targets
are fixed when it first gets a turn, when each either takes its copy of the frame at once, drops it
because the connection is dead, or puts the send in line for room. A call is finished once none of
its sends waits any more, and it may be abandoned before.

A waiting send may find, at one turn, that a slot is kept for it and that the connection was torn
down. The turn is told which of the two each of its sends is to notice first. Once the writer has
stopped, nothing can be put into the outbox any more.

The first turn of a send to many is one turn here however many they are. A runtime that bounds what
a task may do at one go, say 128 operations, makes several polls of it, which follow one another
within one instant; the turn stands for all of them.
-/

namespace Switchboard.Hub

variable {τ : Type}

/-- Put a frame into the outbox of a connection, into a free slot or, as `put` says, one that was
kept. -/
def enter (h : Hub τ) (id : String) (f : Frame) (s : Sender) (put : Outbox → Outbox) : Hub τ :=
  ((h.update id fun c => { c with outbox := put c.outbox }).record (.entered id f s)).wakeWriter id

/-- Put a frame into a free slot of the outbox of a connection. -/
def putFrame (h : Hub τ) (id : String) (f : Frame) (s : Sender) : Hub τ :=
  h.enter id f s fun o => o.put f

/-- Drop a frame. -/
def dropFrame (h : Hub τ) : Hub τ := h.count Metrics.countDropped

/-- Offer a frame to a connection: whether it was alive and had room. -/
def trySend (h : Hub τ) (id : String) (f : Frame) : Bool × Hub τ :=
  match h.find? id with
  | some c =>
    if c.alive && c.outbox.hasRoom then (true, h.putFrame id f .offer) else (false, h.dropFrame)
  | none => (false, h.dropFrame)

/-- Begin to send a frame to a connection: whether the send has to wait, and the hub after. -/
def beginSend (h : Hub τ) (id : String) (f : Frame) (t : Ticket) : Bool × Hub τ :=
  match h.find? id with
  | none => (false, h.dropFrame)
  | some c =>
    if !c.alive then (false, h.dropFrame)
    else if c.outbox.hasRoom then (false, h.putFrame id f (.call t))
    else (true, h.update id fun c => { c with outbox := c.outbox.join t })

/-- Put the frame of a waiting send into the slot that was kept for it. -/
def redeemFrame (h : Hub τ) (id : String) (f : Frame) (t : Ticket) : Hub τ :=
  h.enter id f (.call t) fun o => o.redeem t f

/-- Take a waiting send out of line; whoever gets its slot is woken. -/
def withdrawSend (h : Hub τ) (id : String) (t : Ticket) : Hub τ :=
  match h.find? id with
  | none => h
  | some c =>
    let (granted, outbox) := c.outbox.withdraw t
    let h := h.update id fun c => { c with outbox := outbox }
    h.wakeAll (granted.toList.map fun t => .call t.call)

/-- Go on with a waiting send: whether it still has to wait, and the hub after. -/
def resumeSend (h : Hub τ) (roomFirst : Bool) (id : String) (f : Frame) (t : Ticket) :
    Bool × Hub τ :=
  match h.find? id with
  | none => (false, h)
  | some c =>
    if c.outbox.isGranted t && (c.alive || roomFirst && c.writer ≠ .stopped) then
      (false, h.redeemFrame id f t)
    else if !c.alive then (false, (h.withdrawSend id t).dropFrame)
    else (true, h)

/-- Begin the sends of a call, in the order of its targets: those that have to wait. -/
def beginSends (number : Nat) (f : Frame) :
    List (String × Nat) → Hub τ → List (String × Nat) × Hub τ
  | [], h => ([], h)
  | (id, place) :: rest, h =>
    let (waits, h) := h.beginSend id f ⟨number, place⟩
    let (left, h) := beginSends number f rest h
    (if waits then (id, place) :: left else left, h)

/-- Go on with the waiting sends of a call: those that still have to wait. `roomFirst` tells of each
place whether its send notices room before the teardown. -/
def resumeSends (roomFirst : Nat → Bool) (number : Nat) (f : Frame) :
    List (String × Nat) → Hub τ → List (String × Nat) × Hub τ
  | [], h => ([], h)
  | (id, place) :: rest, h =>
    let (waits, h) := h.resumeSend (roomFirst place) id f ⟨number, place⟩
    let (left, h) := resumeSends roomFirst number f rest h
    (if waits then (id, place) :: left else left, h)

/-- Record that a call waits for the given sends, or is finished if there are none. -/
def settleCall (h : Hub τ) (number : Nat) (f : Frame) (left : List (String × Nat)) (r : Reply) :
    Hub τ :=
  h.setCall number (if left.isEmpty then .finished r else .waiting f left r)

/-- Send a frame to each of some connections, in order. -/
def sendToEach (h : Hub τ) (number : Nat) (f : Frame) (ids : List String) (r : Reply) : Hub τ :=
  let (left, h) := beginSends number f (ids.zipIdx) h
  h.settleCall number f left r

/-- Send a frame to the members that a fan-out found. -/
def fanOut (h : Hub τ) (number : Nat) (target : String) (members : List Member) (f : Frame) :
    Hub τ :=
  if members.isEmpty then h.setCall number (.finished (.targeted 0))
  else
    let h := h.count fun m => m.countSent target
    h.sendToEach number f (members.map Member.id) (.targeted members.length)

/-- Run a request for the first time. -/
def beginCall (h : Hub τ) (number : Nat) (r : SendOrder) : Hub τ :=
  match r with
  | .toHandle id f => h.sendToEach number f [id] .sent
  | .toConnection id f =>
    match h.registry.lookup id with
    | none => h.dropFrame.setCall number (.finished (.found false))
    | some m =>
      let h := h.count fun m => m.countSent "connection"
      h.sendToEach number f [m.id] (.found true)
  | .toUser user f => h.fanOut number "user" ((h.registry.lookupUser user).getD []) f
  | .toAll f => h.fanOut number "broadcast" h.registry.all f

/-- A turn of a call. -/
def callTurn (h : Hub τ) (roomFirst : Nat → Bool) (number : Nat) : Hub τ :=
  match h.calls[number]? with
  | some (.requested r) => h.beginCall number r
  | some (.waiting f places r) =>
    let (left, h) := resumeSends roomFirst number f places h
    h.settleCall number f left r
  | _ => h

/-- Ask for a send: its number, and the hub in which it is ready to run. -/
def startCall (h : Hub τ) (r : SendOrder) : Nat × Hub τ :=
  let (number, h) := h.addCall r
  (number, h.wake (.call number))

/-- Take the waiting sends of a call out of line. -/
def withdrawSends (number : Nat) : List (String × Nat) → Hub τ → Hub τ
  | [], h => h
  | (id, place) :: rest, h => withdrawSends number rest (h.withdrawSend id ⟨number, place⟩)

/-- Whoever asked for a send no longer waits for it: what is not done of it is left undone. -/
def abandon (h : Hub τ) (number : Nat) : Hub τ :=
  match h.calls[number]? with
  | some (.requested _) => h.setCall number .abandoned
  | some (.waiting _ places _) => (withdrawSends number places h).setCall number .abandoned
  | _ => h

/-- What a call reported, if it is finished. -/
def reply? (h : Hub τ) (number : Nat) : Option Reply :=
  match h.calls[number]? with
  | some (.finished r) => some r
  | _ => none

end Switchboard.Hub
