import Switchboard.Frame

/-!
# The queue of frames to be written

An outbox holds at most `capacity` frames. A send that finds it full waits in line with a `Ticket`;
each slot that becomes free goes to the first in line, for whom it is kept until the frame is put
in. An offer does not wait and takes a slot only if one is free and nobody is in line.

Frames leave in the order in which they were put in.

No operation lets more slots be used than there are: the lemmas `used_…` say for each of them that
an outbox that keeps its capacity goes on doing so.
-/

namespace Switchboard

/-- A waiting send: the call it belongs to and its place among the sends of that call. -/
structure Ticket where
  call : Nat
  place : Nat
  deriving DecidableEq, Repr, Inhabited

/-- A bounded queue of frames with sends waiting for room. -/
structure Outbox where
  capacity : Nat
  /-- The frames, the next to leave first. -/
  queued : List Frame := []
  /-- Waiting sends for whom a slot is kept. -/
  granted : List Ticket := []
  /-- Waiting sends without a slot, the first in line first. -/
  waiting : List Ticket := []
  deriving DecidableEq, Repr, Inhabited

namespace Outbox

/-- The largest capacity that an outbox can have. -/
def maxCapacity : Nat := Nat.pow 2 61 - 1

/-- The number of slots in use or kept for someone. -/
def used (o : Outbox) : Nat := o.queued.length + o.granted.length

/-- Whether a slot is free and nobody is in line. -/
def hasRoom (o : Outbox) : Bool := decide (o.used < o.capacity) && o.waiting.isEmpty

/-- Put a frame at the end. -/
def put (o : Outbox) (f : Frame) : Outbox := { o with queued := o.queued ++ [f] }

/-- Put a send in line. -/
def join (o : Outbox) (t : Ticket) : Outbox := { o with waiting := o.waiting ++ [t] }

/-- Give a free slot to the first in line, if there are both. -/
def grant (o : Outbox) : Option Ticket × Outbox :=
  match o.waiting with
  | [] => (none, o)
  | t :: rest =>
    if o.used < o.capacity then (some t, { o with granted := o.granted ++ [t], waiting := rest })
    else (none, o)

/-- Whether a slot is kept for a send. -/
def isGranted (o : Outbox) (t : Ticket) : Bool := o.granted.contains t

/-- Put the frame of a send into the slot kept for it. -/
def redeem (o : Outbox) (t : Ticket) (f : Frame) : Outbox :=
  { o with granted := o.granted.erase t, queued := o.queued ++ [f] }

/-- Give a send up. If a slot was kept for it, that goes to the first in line. -/
def withdraw (o : Outbox) (t : Ticket) : Option Ticket × Outbox :=
  { o with granted := o.granted.erase t, waiting := o.waiting.erase t }.grant

/-- The sends in line and those for whom a slot is kept. -/
def pending (o : Outbox) : List Ticket := o.granted ++ o.waiting

/-- Take the first frame, giving its slot to the first in line. -/
def take (o : Outbox) : Option (Frame × Option Ticket × Outbox) :=
  match o.queued with
  | [] => none
  | f :: rest =>
    let (granted, o) := { o with queued := rest }.grant
    some (f, granted, o)

/-! ## Slots -/

theorem used_put_le {o : Outbox} (hroom : o.hasRoom = true) (f : Frame) :
    (o.put f).used ≤ (o.put f).capacity := by
  obtain ⟨hfree, -⟩ := Bool.and_eq_true_iff.mp hroom
  have hused : (o.put f).used = o.used + 1 := by
    simp only [used, put, List.length_append, List.length_singleton]
    omega
  rw [hused]
  exact of_decide_eq_true hfree

theorem used_redeem {o : Outbox} {t : Ticket} (hgranted : o.isGranted t = true) (f : Frame) :
    (o.redeem t f).used = o.used := by
  have hmem : t ∈ o.granted := by simpa [isGranted] using hgranted
  have hpos : 0 < o.granted.length := List.length_pos_of_mem hmem
  rw [used, used, redeem, List.length_append, List.length_singleton,
    List.length_erase_of_mem hmem]
  omega

theorem queued_grant (o : Outbox) : o.grant.2.queued = o.queued := by
  rw [grant]
  split
  · rfl
  · split <;> rfl

theorem capacity_grant (o : Outbox) : o.grant.2.capacity = o.capacity := by
  rw [grant]
  split
  · rfl
  · split <;> rfl

/-- A slot is only given away if one is free. -/
theorem used_grant_le {o : Outbox} (h : o.used ≤ o.capacity) : o.grant.2.used ≤ o.capacity := by
  rw [grant]
  split
  · exact h
  · split
    · rename_i hfree
      simp only [used, List.length_append, List.length_singleton] at hfree ⊢
      omega
    · exact h

theorem queued_withdraw (o : Outbox) (t : Ticket) : (o.withdraw t).2.queued = o.queued :=
  queued_grant _

theorem capacity_withdraw (o : Outbox) (t : Ticket) : (o.withdraw t).2.capacity = o.capacity :=
  capacity_grant _

theorem used_withdraw_le {o : Outbox} (h : o.used ≤ o.capacity) (t : Ticket) :
    (o.withdraw t).2.used ≤ o.capacity := by
  refine used_grant_le (o := { o with
    granted := o.granted.erase t, waiting := o.waiting.erase t }) ?_
  have herase : (o.granted.erase t).length ≤ o.granted.length := List.length_erase_le
  simp only [used] at h ⊢
  omega

/-- The first frame leaves, and its slot is given away. -/
theorem take_eq_some {o o' : Outbox} {f : Frame} {t : Option Ticket}
    (h : o.take = some (f, t, o')) :
    ∃ rest, o.queued = f :: rest ∧ o' = ({ o with queued := rest } : Outbox).grant.2 := by
  rw [take] at h
  split at h
  · cases h
  · rename_i rest hqueued
    obtain ⟨rfl, hrest⟩ := Prod.mk.inj (Option.some.inj h)
    exact ⟨rest, hqueued, (Prod.mk.inj hrest).2.symm⟩

theorem queued_of_take {o o' : Outbox} {f : Frame} {t : Option Ticket}
    (h : o.take = some (f, t, o')) : o.queued = f :: o'.queued := by
  obtain ⟨rest, hqueued, rfl⟩ := take_eq_some h
  rw [hqueued, queued_grant]

theorem capacity_of_take {o o' : Outbox} {f : Frame} {t : Option Ticket}
    (h : o.take = some (f, t, o')) : o'.capacity = o.capacity := by
  obtain ⟨rest, -, rfl⟩ := take_eq_some h
  exact capacity_grant _

theorem used_of_take_le {o o' : Outbox} {f : Frame} {t : Option Ticket}
    (h : o.take = some (f, t, o')) (hused : o.used ≤ o.capacity) : o'.used ≤ o.capacity := by
  obtain ⟨rest, hqueued, rfl⟩ := take_eq_some h
  refine used_grant_le (o := { o with queued := rest }) ?_
  simp only [used, hqueued, List.length_cons] at hused ⊢
  omega

end Outbox

end Switchboard
