import Switchboard.Proofs.Spares

/-!
# What becomes of frames, entry by entry

A copy of a frame is offered to a connection by a script, which does not wait, or by a send, which
may. What comes of it is decided at few places of the code, and each decision is an `Entry`: the
offer is taken or comes to nothing, a send that had to wait comes to an end, the writer takes a
frame off the outbox, the reader takes a frame for the handlers.

`book h es` is what is entered in a run. It walks through the code as it runs and asks at each
decision what the hub holds then: whether the connection is alive, whether there is room, whether a
slot is kept. It does not look at counters, nor at what the hub records of its past; that these
agree with it is proved (`Hub.Balances`).

## Copies

A copy that a send offers is known by its ticket, which no other copy has. A copy that enters the
outbox is known by its place in the order in which copies enter, since they leave in the same order.
-/

namespace Switchboard

/-- What comes of an offer. -/
inductive Trial where
  | entered
  /-- The connection was dead. -/
  | refused
  /-- No slot was free. -/
  | crowded
  deriving DecidableEq, Repr

/-- What comes of a send to one connection when it begins. -/
inductive Start where
  | entered
  /-- The connection was dead. -/
  | refused
  | waits
  deriving DecidableEq, Repr

/-- How a send that had to wait came to its end. -/
inductive Ending where
  | entered
  /-- The connection was torn down. -/
  | givenUp
  /-- Whoever asked for the send no longer waited. -/
  | abandoned
  deriving DecidableEq, Repr

/-- A decision about a frame. -/
inductive Entry where
  /-- A frame was to be sent to the connection registered under an id, and there was none. -/
  | unknown (id : String) (frame : Frame)
  /-- A frame was offered to a connection. -/
  | tried (id : String) (frame : Frame) (outcome : Trial)
  /-- A send of a frame to a connection began. -/
  | sent (id : String) (frame : Frame) (ticket : Ticket) (outcome : Start)
  /-- A send of a frame to a connection had to wait and came to its end. -/
  | ended (id : String) (frame : Frame) (ticket : Ticket) (outcome : Ending)
  /-- The writer of a connection took a frame off the outbox. -/
  | taken (id : String) (frame : Frame)
  /-- The reader of a connection took a frame for the handlers. -/
  | received (id : String) (frame : Frame)
  deriving DecidableEq, Repr

/-- Why a frame is counted as dropped. -/
inductive Loss where
  /-- Nobody was registered under the id that it was to be sent to. -/
  | unknown
  /-- The connection was dead when the frame was offered. -/
  | refused
  /-- No slot was free for an offer. -/
  | crowded
  /-- The connection was torn down while the send waited. -/
  | givenUp
  /-- It left the outbox and cannot be put on the wire. -/
  | unsendable
  deriving DecidableEq, Repr

namespace Entry

/-- Why the frame of an entry is counted as dropped, if it is. -/
def loss? : Entry → Option Loss
  | .unknown _ _ => some .unknown
  | .tried _ _ .refused | .sent _ _ _ .refused => some .refused
  | .tried _ _ .crowded => some .crowded
  | .ended _ _ _ .givenUp => some .givenUp
  | .taken _ f => if f.isSendable then none else some .unsendable
  | _ => none

/-- The copy that an entry puts into the outbox of a connection. -/
def intake? (id : String) : Entry → Option (Frame × Sender)
  | .tried d f .entered => if d = id then some (f, .offer) else none
  | .sent d f t .entered | .ended d f t .entered => if d = id then some (f, .call t) else none
  | _ => none

/-- The frame that an entry takes off the outbox of a connection. -/
def taken? (id : String) : Entry → Option Frame
  | .taken d f => if d = id then some f else none
  | _ => none

/-- The frame that an entry gives to handlers. -/
def received? : Entry → Option Frame
  | .received _ f => some f
  | _ => none

end Entry

/-- The losses of a sort in a book. -/
def losses (l : Loss) (b : List Entry) : Nat := (b.filterMap Entry.loss?).count l

/-- The copies that entered the outbox of a connection, the first first. -/
def intake (id : String) (b : List Entry) : List (Frame × Sender) := b.filterMap (Entry.intake? id)

/-- The frames that were taken off the outbox of a connection, the first first. -/
def takings (id : String) (b : List Entry) : List Frame := b.filterMap (Entry.taken? id)

/-- The frames that were given to handlers, the first first. -/
def receipts (b : List Entry) : List Frame := b.filterMap Entry.received?

/-! ## Entries of a run -/

namespace Hub

variable {τ : Type}

/-- What comes of offering a frame to a connection. -/
def tryEntry (h : Hub τ) (id : String) (f : Frame) : Entry :=
  match h.find? id with
  | some c => .tried id f <|
    if !c.alive then .refused else if c.outbox.hasRoom then .entered else .crowded
  | none => .tried id f .refused

/-- What comes of beginning to send a frame to a connection. -/
def sendEntry (h : Hub τ) (id : String) (f : Frame) (t : Ticket) : Entry :=
  match h.find? id with
  | some c => .sent id f t <|
    if !c.alive then .refused else if c.outbox.hasRoom then .entered else .waits
  | none => .sent id f t .refused

/-- How a send that had to wait ends in a turn, if it does. -/
def resumed? (h : Hub τ) (roomFirst : Bool) (id : String) (f : Frame) (t : Ticket) :
    Option Entry :=
  match h.find? id with
  | none => none
  | some c =>
    if c.outbox.isGranted t && (c.alive || roomFirst && c.writer ≠ .stopped) then
      some (.ended id f t .entered)
    else if !c.alive then some (.ended id f t .givenUp)
    else none

/-- What comes of beginning the sends of a call, one after another. -/
def sendEntries (number : Nat) (f : Frame) : List (String × Nat) → Hub τ → List Entry
  | [], _ => []
  | (id, place) :: rest, h =>
    h.sendEntry id f ⟨number, place⟩ ::
      sendEntries number f rest (h.beginSend id f ⟨number, place⟩).2

/-- Which waiting sends of a call end in a turn. -/
def resumeEntries (roomFirst : Nat → Bool) (number : Nat) (f : Frame) :
    List (String × Nat) → Hub τ → List Entry
  | [], _ => []
  | (id, place) :: rest, h =>
    (h.resumed? (roomFirst place) id f ⟨number, place⟩).toList ++
      resumeEntries roomFirst number f rest (h.resumeSend (roomFirst place) id f ⟨number, place⟩).2

/-- What comes of beginning to send to the members that a fan-out found. -/
def fanEntries (h : Hub τ) (number : Nat) (target : String) (members : List Member) (f : Frame) :
    List Entry :=
  sendEntries number f (members.map Member.id).zipIdx (h.count fun m => m.countSent target)

/-- What comes of the first turn of a call. -/
def firstEntries (h : Hub τ) (number : Nat) : SendOrder → List Entry
  | .toHandle id f => sendEntries number f [(id, 0)] h
  | .toConnection id f =>
    match h.registry.lookup id with
    | none => [.unknown id f]
    | some m => sendEntries number f [(m.id, 0)] (h.count fun m => m.countSent "connection")
  | .toUser user f => h.fanEntries number "user" ((h.registry.lookupUser user).getD []) f
  | .toAll f => h.fanEntries number "broadcast" h.registry.all f

/-- What comes of a turn of a call. -/
def callEntries (h : Hub τ) (roomFirst : Nat → Bool) (number : Nat) : List Entry :=
  match h.calls[number]? with
  | some (.requested r) => h.firstEntries number r
  | some (.waiting f places _) => resumeEntries roomFirst number f places h
  | _ => []

/-- The waiting sends of a call that come to nothing if it is abandoned. -/
def abandonEntries (h : Hub τ) (number : Nat) : List Entry :=
  match h.calls[number]? with
  | some (.waiting f places _) =>
    places.map fun x => .ended x.1 f ⟨number, x.2⟩ .abandoned
  | _ => []

/-- What comes of the offers of a script. -/
def scriptEntries (id : String) : Script → Hub τ → List Entry
  | .done, _ | .panic _, _ => []
  | .trySend f next, h =>
    h.tryEntry id f :: scriptEntries id (next (h.trySend id f).1) (h.trySend id f).2
  | .startSend f next, h => scriptEntries id next (h.startCall (.toHandle id f)).2
  | .addHandlers hs next, h => scriptEntries id next (h.addHandlers id hs)
  | .setHandlers hs next, h => scriptEntries id next (h.setHandlers id hs)
  | .remove next, h => scriptEntries id (next (h.remove id).1) (h.remove id).2
  | .note n next, h => scriptEntries id next (h.addNote n)
  | .log e next, h => scriptEntries id next (h.logEvent e)

/-- What comes of the offers of handlers, `index` being the place of the first of them. -/
def handlerEntries (member : Member) (f : Frame) : (index : Nat) → List Handler → Hub τ → List Entry
  | _, [], _ => []
  | index, handler :: rest, h =>
    scriptEntries member.id (handler member f) h ++
      handlerEntries member f (index + 1) rest (runHandlers member f index [handler] h)

/-- What comes of the offers of the handlers of a connection. -/
def dispatchEntries (h : Hub τ) (c : Connection τ) (f : Frame) : List Entry :=
  handlerEntries c.member f 0 c.handlers h

end Hub

/-- The frame that the writer of a connection takes off the outbox in a turn. -/
def Connection.takes? (c : Connection τ) : Option Frame :=
  if c.alive && c.writer = .idle then c.outbox.queued.head? else none

namespace Hub

variable {τ : Type} [Transport τ]

/-- What the writer of a connection takes off the outbox in a turn. -/
def writerEntries (h : Hub τ) (id : String) : List Entry :=
  (((h.find? id).bind Connection.takes?).map (Entry.taken id)).toList

/-- The hub in which the handlers of a connection get a frame that its reader took. -/
def received (h : Hub τ) (c : Connection τ) (f : Frame) : Hub τ :=
  (h.update c.id fun c' => { c' with link := (Transport.receive h.now c.link).2 }).count
    fun m => m.countReceived f.kind

/-- What the reader of a connection takes for the handlers in a turn, and what comes of their
offers. -/
def readerEntries (h : Hub τ) (id : String) : List Entry :=
  match h.find? id with
  | none => []
  | some c =>
    match c.dispatched? h.now h.config with
    | none => []
    | some f => .received id f ::
      (h.received c f).dispatchEntries { c with link := (Transport.receive h.now c.link).2 } f

/-- What is entered in a turn of a task. -/
def turnEntries (h : Hub τ) (roomFirst : Nat → Bool) : Task → List Entry
  | .writer id => h.writerEntries id
  | .reader id => h.readerEntries id
  | .call number => h.callEntries roomFirst number

/-- What is entered in an event. -/
def entries (h : Hub τ) : Event τ → List Entry
  | .abandon number => h.abandonEntries number
  | .act id script => scriptEntries id script h
  | .turn t roomFirst => ({ h with ready := h.ready.erase t } : Hub τ).turnEntries roomFirst t
  | _ => []

end Hub

/-- What is entered in a run. -/
def book {τ : Type} [Transport τ] : Hub τ → List (Event τ) → List Entry
  | _, [] => []
  | h, e :: es => h.entries e ++ book (h.step e) es

/-! ## Scripts make offers only -/

namespace Hub

variable {τ : Type}

theorem exists_tryEntry_eq (h : Hub τ) (id : String) (f : Frame) :
    ∃ o, h.tryEntry id f = .tried id f o := by
  rw [tryEntry]
  cases h.find? id <;> exact ⟨_, rfl⟩

theorem eq_tried_of_mem_scriptEntries (id : String) (script : Script) (h : Hub τ) :
    ∀ x ∈ scriptEntries id script h, ∃ f o, x = .tried id f o := by
  fun_induction scriptEntries id script h with
  | case1 | case2 => exact fun _ hx => absurd hx List.not_mem_nil
  | case3 f next h ih =>
    intro x hx
    rcases List.mem_cons.mp hx with rfl | hx
    · exact ⟨f, h.exists_tryEntry_eq id f⟩
    · exact ih x hx
  | case4 _ _ _ ih | case5 _ _ _ ih | case6 _ _ _ ih | case7 _ _ ih | case8 _ _ _ ih
  | case9 _ _ _ ih => exact ih

theorem eq_tried_of_mem_handlerEntries (member : Member) (f : Frame) (index : Nat)
    (handlers : List Handler) (h : Hub τ) :
    ∀ x ∈ handlerEntries member f index handlers h, ∃ g o, x = .tried member.id g o := by
  induction handlers generalizing index h with
  | nil => exact fun _ hx => absurd hx List.not_mem_nil
  | cons handler rest ih =>
    intro x hx
    rcases List.mem_append.mp hx with hx | hx
    · exact eq_tried_of_mem_scriptEntries _ _ _ x hx
    · exact ih _ _ x hx

end Hub

end Switchboard
