import Switchboard.Proofs.Within

/-!
# What a turn makes of its connection

The two tasks of a connection act on it alone, and what they make of it depends on nothing but the
connection itself, the instant and the configuration. `Connection.writerTurn` and
`Connection.readerTurn` say what that is: the connection after the turn, whether the task can go on
at once, and what happened. `Hub.makes_writerTurn` and `Hub.readerTurn_eq` say that the turns of a
hub do this to their connection, and nothing to the others.

The reader gives a data frame to the handlers at the end of its turn. What they do then is made of
deeds; `Connection.readerTurn` stops short of it, and `Connection.dispatched?` tells the frame.
-/

namespace Switchboard

/-- What a turn of a task makes of its connection. -/
structure Turned (τ : Type) where
  conn : Connection τ
  /-- Whether the task can go on at once. -/
  again : Bool := false
  /-- What happened, the latest first. -/
  news : List Happening := []

/-- What was made of a connection to which something happened before. -/
def Turned.after (r : Turned τ) (news : List Happening) : Turned τ :=
  { r with news := r.news ++ news }

namespace Connection

variable {τ : Type}

/-- A teardown, if the connection is alive. -/
def torn (c : Connection τ) (reason : CloseReason) : Turned τ :=
  if c.alive then { conn := { c with alive := false }, news := [.closed c.id reason] }
  else { conn := c }

theorem again_torn (c : Connection τ) (reason : CloseReason) : (c.torn reason).again = false := by
  rw [torn]
  split <;> rfl

theorem torn_of_alive {c : Connection τ} (halive : c.alive = true) (reason : CloseReason) :
    c.torn reason = { conn := { c with alive := false }, news := [.closed c.id reason] } :=
  if_pos halive

theorem conn_torn (c : Connection τ) (reason : CloseReason) :
    (c.torn reason).conn = { c with alive := false } := by
  rw [torn]
  split
  · rfl
  · rename_i hdead
    have hdead : c.alive = false := by simpa using hdead
    rw [← hdead]

theorem closed_of_mem_torn {c : Connection τ} {reason : CloseReason} {x : Happening}
    (hx : x ∈ (c.torn reason).news) : x = .closed c.id reason := by
  rw [torn] at hx
  split at hx
  · exact List.mem_singleton.mp hx
  · cases hx

variable [Transport τ]

/-! ## The writer -/

/-- The connection once its writer has stopped. -/
def stopWriter (now : Nat) (c : Connection τ) : Connection τ :=
  { c with writer := .stopped, link := Transport.releaseSink now c.link }

/-- The writer stops and tears the connection down. -/
def failWriter (now : Nat) (c : Connection τ) (reason : CloseReason) : Turned τ :=
  (c.stopWriter now).torn reason

/-- What becomes of a connection whose link says how far handing over a frame has come. -/
def afterSend (now : Nat) (c : Connection τ) (kind : FrameKind) (limit : Nat) :
    Progress → Turned τ
  | .done => { conn := { c with writer := .idle }, again := true }
  | .failed _ => c.failWriter now .writeError
  | .panicked _ => c.failWriter now .taskFailed
  | .pending =>
    if limit ≤ now then c.failWriter now .writeTimeout
    else { conn := { c with writer := .sending kind limit } }

/-- What becomes of a connection that is to send a frame. -/
def sendFrame (now : Nat) (config : SocketConfig) (c : Connection τ) (f : Frame) (cause : Cause) :
    Turned τ :=
  if f.isSendable then
    let (p, link) := Transport.send now f c.link
    (({ c with link } : Connection τ).afterSend now f.kind (now + config.writeTimeout) p).after
      [.handed c.id f cause]
  else { conn := c, again := true }

/-- What becomes of a connection whose link says how far the close frame, or closing, has come. -/
def finishClose (now : Nat) (c : Connection τ) (limit : Nat) (wait : WriterPhase) :
    Progress → Turned τ
  | .done | .failed _ => { conn := c.stopWriter now }
  | .panicked _ => c.failWriter now .taskFailed
  | .pending =>
    if limit ≤ now then { conn := c.stopWriter now } else { conn := { c with writer := wait } }

/-- What becomes of a connection whose sink is to be closed. -/
def closeSink (now : Nat) (c : Connection τ) (limit : Nat) : Turned τ :=
  let (p, link) := Transport.close now c.link
  ({ c with link } : Connection τ).finishClose now limit (.closingSink limit) p

/-- What becomes of a connection whose link says how far the close frame has come. -/
def afterCloseFrame (now : Nat) (c : Connection τ) (limit : Nat) : Progress → Turned τ
  | .done => c.closeSink now limit
  | p => c.finishClose now limit (.sendingClose limit) p

/-- What becomes of a connection whose writer waits for something to do. -/
def idleTurn (now : Nat) (config : SocketConfig) (c : Connection τ) : Turned τ :=
  if !c.alive then
    let (p, link) := Transport.send now .close c.link
    (({ c with link } : Connection τ).afterCloseFrame now (now + config.writeTimeout) p).after
      [.handed c.id .close .farewell]
  else
    match c.outbox.take with
    | some (f, _, outbox) => ({ c with outbox } : Connection τ).sendFrame now config f .queued
    | none =>
      if c.heartbeat ≤ now then
        let next := Hub.nextHeartbeat now c.heartbeat config.heartbeat
        ({ c with heartbeat := next } : Connection τ).sendFrame now config .ping .heartbeat
      else { conn := c }

/-- What a turn of the writer makes of its connection. -/
def writerTurn (now : Nat) (config : SocketConfig) (c : Connection τ) : Turned τ :=
  match c.writer with
  | .stopped => { conn := c }
  | .starting =>
    { conn := { c with writer := .idle, heartbeat := now + config.heartbeat }, again := true }
  | .idle => c.idleTurn now config
  | .sending kind limit =>
    let (p, link) := Transport.resume now c.link
    ({ c with link } : Connection τ).afterSend now kind limit p
  | .sendingClose limit =>
    let (p, link) := Transport.resume now c.link
    ({ c with link } : Connection τ).afterCloseFrame now limit p
  | .closingSink limit => c.closeSink now limit

/-! ## The reader -/

/-- The connection once its reader has stopped. -/
def stopReader (now : Nat) (c : Connection τ) : Connection τ :=
  { c with reader := .stopped, link := Transport.releaseStream now c.link }

/-- The reader stops and tears the connection down. -/
def failReader (now : Nat) (c : Connection τ) (reason : CloseReason) : Turned τ :=
  (c.stopReader now).torn reason

/-- What becomes of a connection for which a frame has arrived. -/
def takeFrame (now : Nat) (config : SocketConfig) (c : Connection τ) (f : Frame) : Turned τ :=
  match f.kind with
  | .pong => { conn := { c with reader := .reading (now + config.readTimeout) }, again := true }
  | .ping => { conn := c, again := true }
  | .close => c.failReader now .peerClosed
  | .text | .binary =>
    if f.payload.length > config.maxMessageSize then c.failReader now .frameTooLarge
    else { conn := c, again := true }

/-- What becomes of a connection for which something has arrived. -/
def takeArrival (now : Nat) (config : SocketConfig) (c : Connection τ) (deadline : Nat) :
    Arrival → Turned τ
  | .frame f => c.takeFrame now config f
  | .ended => c.failReader now .peerClosed
  | .failed _ => c.failReader now .readError
  | .panicked _ => c.failReader now .taskFailed
  | .pending => if deadline ≤ now then c.failReader now .readTimeout else { conn := c }

/-- What a turn of the reader makes of its connection before the handlers get a frame. -/
def readerTurn (now : Nat) (config : SocketConfig) (c : Connection τ) : Turned τ :=
  match c.reader with
  | .stopped => { conn := c }
  | .starting =>
    { conn := { c with reader := .reading (now + config.readTimeout) }, again := true }
  | .reading deadline =>
    if !c.alive then { conn := c.stopReader now }
    else
      let (a, link) := Transport.receive now c.link
      ({ c with link } : Connection τ).takeArrival now config deadline a

/-- What the reader of a connection takes in a turn. -/
def taken? (now : Nat) (c : Connection τ) : Option Arrival :=
  match c.reader with
  | .reading _ => if c.alive then some (Transport.receive now c.link).1 else none
  | _ => none

/-- The frame for the handlers among what arrives. -/
def forHandlers? (config : SocketConfig) : Arrival → Option Frame
  | .frame f => if f.kind.isData && f.payload.length ≤ config.maxMessageSize then some f else none
  | _ => none

/-- The frame that the reader of a connection gives to the handlers in a turn. -/
def dispatched? (now : Nat) (config : SocketConfig) (c : Connection τ) : Option Frame :=
  (c.taken? now).bind (forHandlers? config)

/-! ## What a turn can come to -/

/-- What the link says of a write is the end of its connection. `late` says that the write has taken
too long. -/
inductive WriteFault (late : Prop) : Progress → CloseReason → Prop
  | failed (e : Error) : WriteFault late (.failed e) .writeError
  | panicked (p : Panic) : WriteFault late (.panicked p) .taskFailed
  | timedOut (h : late) : WriteFault late .pending .writeTimeout

/-- What arrives is the end of its connection. `late` says that the deadline for a sign of life has
passed, and `limit` is the greatest length of a data frame. -/
inductive ReadFault (limit : Nat) (late : Prop) : Arrival → CloseReason → Prop
  | closed {f : Frame} (h : f.kind = .close) : ReadFault limit late (.frame f) .peerClosed
  | tooLong {f : Frame} (data : f.kind.isData = true) (long : limit < f.payload.length) :
      ReadFault limit late (.frame f) .frameTooLarge
  | ended : ReadFault limit late .ended .peerClosed
  | failed (e : Error) : ReadFault limit late (.failed e) .readError
  | panicked (p : Panic) : ReadFault limit late (.panicked p) .taskFailed
  | timedOut (h : late) : ReadFault limit late .pending .readTimeout

section Faults

variable {now limit : Nat} {config : SocketConfig} {c : Connection τ} {kind : FrameKind}
  {p : Progress} {reason : CloseReason}

theorem afterSend_of_fault (fault : WriteFault (limit ≤ now) p reason) :
    c.afterSend now kind limit p = c.failWriter now reason := by
  cases fault with
  | failed e => rfl
  | panicked p => rfl
  | timedOut h => exact if_pos h

/-- A write is over, goes on, or ends its connection. -/
theorem afterSend_cases (now : Nat) (c : Connection τ) (kind : FrameKind) (limit : Nat)
    (p : Progress) :
    c.afterSend now kind limit p = { conn := { c with writer := .idle }, again := true } ∨
    now < limit ∧ c.afterSend now kind limit p =
      { conn := { c with writer := .sending kind limit } } ∨
    ∃ reason, WriteFault (limit ≤ now) p reason ∧
      c.afterSend now kind limit p = c.failWriter now reason := by
  cases p with
  | done => exact .inl rfl
  | failed e => exact .inr (.inr ⟨_, .failed e, rfl⟩)
  | panicked p => exact .inr (.inr ⟨_, .panicked p, rfl⟩)
  | pending =>
    by_cases hlate : limit ≤ now
    · exact .inr (.inr ⟨_, .timedOut hlate, if_pos hlate⟩)
    · exact .inr (.inl ⟨Nat.lt_of_not_le hlate, if_neg hlate⟩)

theorem takeArrival_of_fault {deadline : Nat} {a : Arrival}
    (fault : ReadFault config.maxMessageSize (deadline ≤ now) a reason) :
    c.takeArrival now config deadline a = c.failReader now reason := by
  cases fault with
  | @closed f h => simp [takeArrival, takeFrame, h]
  | @tooLong f data long =>
    revert data
    cases hkind : f.kind <;> simp [takeArrival, takeFrame, hkind, FrameKind.isData, long]
  | ended => rfl
  | failed e => rfl
  | panicked p => rfl
  | timedOut h => exact if_pos h

/-- What arrives is a pong, or another frame that is no fault, or nothing in time, or a fault. -/
theorem takeArrival_cases (now : Nat) (config : SocketConfig) (c : Connection τ) (deadline : Nat)
    (a : Arrival) :
    (∃ f, a = .frame f ∧ f.kind = .pong ∧ c.takeArrival now config deadline a =
      { conn := { c with reader := .reading (now + config.readTimeout) }, again := true }) ∨
    (∃ f, a = .frame f ∧ f.kind ≠ .pong ∧
      c.takeArrival now config deadline a = { conn := c, again := true }) ∨
    (a = .pending ∧ now < deadline ∧ c.takeArrival now config deadline a = { conn := c }) ∨
    ∃ reason, ReadFault config.maxMessageSize (deadline ≤ now) a reason ∧
      c.takeArrival now config deadline a = c.failReader now reason := by
  have hfault : ∀ {reason}, ReadFault config.maxMessageSize (deadline ≤ now) a reason →
      ∃ reason, ReadFault config.maxMessageSize (deadline ≤ now) a reason ∧
        c.takeArrival now config deadline a = c.failReader now reason :=
    fun fault => ⟨_, fault, takeArrival_of_fault fault⟩
  cases a with
  | frame f =>
    cases hkind : f.kind with
    | pong => exact .inl ⟨f, rfl, hkind, by simp [takeArrival, takeFrame, hkind]⟩
    | ping =>
      exact .inr (.inl ⟨f, rfl, by simp [hkind], by simp [takeArrival, takeFrame, hkind]⟩)
    | close => exact .inr (.inr (.inr (hfault (.closed hkind))))
    | text =>
      by_cases hlong : config.maxMessageSize < f.payload.length
      · exact .inr (.inr (.inr (hfault (.tooLong (by rw [hkind]; rfl) hlong))))
      · exact .inr (.inl ⟨f, rfl, by simp [hkind], by simp [takeArrival, takeFrame, hkind, hlong]⟩)
    | binary =>
      by_cases hlong : config.maxMessageSize < f.payload.length
      · exact .inr (.inr (.inr (hfault (.tooLong (by rw [hkind]; rfl) hlong))))
      · exact .inr (.inl ⟨f, rfl, by simp [hkind], by simp [takeArrival, takeFrame, hkind, hlong]⟩)
  | ended => exact .inr (.inr (.inr (hfault .ended)))
  | failed e => exact .inr (.inr (.inr (hfault (.failed e))))
  | panicked p => exact .inr (.inr (.inr (hfault (.panicked p))))
  | pending =>
    by_cases hlate : deadline ≤ now
    · exact .inr (.inr (.inr (hfault (.timedOut hlate))))
    · exact .inr (.inr (.inl ⟨rfl, Nat.lt_of_not_le hlate, if_neg hlate⟩))

theorem readerTurn_of_reading {deadline : Nat} (halive : c.alive = true)
    (hreading : c.reader = .reading deadline) :
    c.readerTurn now config =
      takeArrival now config { c with link := (Transport.receive now c.link).2 } deadline
        (Transport.receive now c.link).1 := by
  rw [readerTurn]
  split
  · rename_i hreader
    rw [hreading] at hreader
    cases hreader
  · rename_i hreader
    rw [hreading] at hreader
    cases hreader
  · rename_i deadline' hreader
    obtain rfl : deadline = deadline' := ReaderPhase.reading.inj (hreading.symm.trans hreader)
    rw [if_neg (by simp [halive])]

/-- The reader of a connection leaves its writer alone, and what it makes happen is a teardown. -/
structure KeepsWriter (c : Connection τ) (r : Turned τ) : Prop where
  member_eq : r.conn.member = c.member
  writer_eq : r.conn.writer = c.writer
  heartbeat_eq : r.conn.heartbeat = c.heartbeat
  outbox_eq : r.conn.outbox = c.outbox
  alive_of : r.conn.alive = true → c.alive = true
  news : ∀ x ∈ r.news, ∃ reason, x = .closed c.id reason

theorem keepsWriter_takeArrival (now : Nat) (config : SocketConfig) (c : Connection τ)
    (deadline : Nat) (a : Arrival) : c.KeepsWriter (c.takeArrival now config deadline a) := by
  rcases takeArrival_cases now config c deadline a with
    ⟨f, -, -, heq⟩ | ⟨f, -, -, heq⟩ | ⟨-, -, heq⟩ | ⟨reason, -, heq⟩
  · rw [heq]
    exact ⟨rfl, rfl, rfl, rfl, fun halive => halive, fun _ hx => absurd hx List.not_mem_nil⟩
  · rw [heq]
    exact ⟨rfl, rfl, rfl, rfl, fun halive => halive, fun _ hx => absurd hx List.not_mem_nil⟩
  · rw [heq]
    exact ⟨rfl, rfl, rfl, rfl, fun halive => halive, fun _ hx => absurd hx List.not_mem_nil⟩
  · rw [heq, failReader]
    refine ⟨?_, ?_, ?_, ?_, ?_, fun x hx => ?_⟩
    · rw [conn_torn]
      rfl
    · rw [conn_torn]
      rfl
    · rw [conn_torn]
      rfl
    · rw [conn_torn]
      rfl
    · rw [conn_torn]
      exact fun hfalse => absurd hfalse Bool.false_ne_true
    · have hclosed := closed_of_mem_torn hx
      exact ⟨reason, hclosed⟩

theorem keepsWriter_readerTurn (now : Nat) (config : SocketConfig) (c : Connection τ) :
    c.KeepsWriter (c.readerTurn now config) := by
  rw [readerTurn]
  split
  · exact ⟨rfl, rfl, rfl, rfl, fun halive => halive, fun _ hx => absurd hx List.not_mem_nil⟩
  · exact ⟨rfl, rfl, rfl, rfl, fun halive => halive, fun _ hx => absurd hx List.not_mem_nil⟩
  · split
    · exact ⟨rfl, rfl, rfl, rfl, fun halive => halive, fun _ hx => absurd hx List.not_mem_nil⟩
    · have keeps := keepsWriter_takeArrival now config
        { c with link := (Transport.receive now c.link).2 } ‹_› (Transport.receive now c.link).1
      exact ⟨keeps.member_eq, keeps.writer_eq, keeps.heartbeat_eq, keeps.outbox_eq,
        keeps.alive_of, keeps.news⟩

/-- The writer of a connection leaves its reader alone. -/
structure KeepsReader (c : Connection τ) (r : Turned τ) : Prop where
  member_eq : r.conn.member = c.member
  reader_eq : r.conn.reader = c.reader
  alive_of : r.conn.alive = true → c.alive = true

theorem keepsReader_failWriter (now : Nat) (c : Connection τ) (reason : CloseReason) :
    c.KeepsReader (c.failWriter now reason) := by
  rw [failWriter]
  refine ⟨?_, ?_, ?_⟩
  · rw [conn_torn]
    rfl
  · rw [conn_torn]
    rfl
  · rw [conn_torn]
    exact fun hfalse => absurd hfalse Bool.false_ne_true

theorem keepsReader_afterSend (now : Nat) (c : Connection τ) (kind : FrameKind) (limit : Nat)
    (p : Progress) : c.KeepsReader (c.afterSend now kind limit p) := by
  rcases afterSend_cases now c kind limit p with heq | ⟨-, heq⟩ | ⟨reason, -, heq⟩
  · rw [heq]
    exact ⟨rfl, rfl, fun halive => halive⟩
  · rw [heq]
    exact ⟨rfl, rfl, fun halive => halive⟩
  · rw [heq]
    exact keepsReader_failWriter now c reason

theorem keepsReader_sendFrame (now : Nat) (config : SocketConfig) (c : Connection τ) (f : Frame)
    (cause : Cause) : c.KeepsReader (c.sendFrame now config f cause) := by
  rw [sendFrame]
  split
  · have keeps := keepsReader_afterSend now { c with link := (Transport.send now f c.link).2 }
      f.kind (now + config.writeTimeout) (Transport.send now f c.link).1
    exact ⟨keeps.member_eq, keeps.reader_eq, keeps.alive_of⟩
  · exact ⟨rfl, rfl, fun halive => halive⟩

theorem keepsReader_finishClose (now : Nat) (c : Connection τ) (limit : Nat) (wait : WriterPhase)
    (p : Progress) : c.KeepsReader (c.finishClose now limit wait p) := by
  cases p with
  | done => exact ⟨rfl, rfl, fun halive => halive⟩
  | failed e => exact ⟨rfl, rfl, fun halive => halive⟩
  | panicked p => exact keepsReader_failWriter now c .taskFailed
  | pending =>
    rw [finishClose]
    split <;> exact ⟨rfl, rfl, fun halive => halive⟩

theorem keepsReader_closeSink (now : Nat) (c : Connection τ) (limit : Nat) :
    c.KeepsReader (c.closeSink now limit) := by
  have keeps := keepsReader_finishClose now { c with link := (Transport.close now c.link).2 } limit
    (.closingSink limit) (Transport.close now c.link).1
  exact ⟨keeps.member_eq, keeps.reader_eq, keeps.alive_of⟩

theorem keepsReader_afterCloseFrame (now : Nat) (c : Connection τ) (limit : Nat) (p : Progress) :
    c.KeepsReader (c.afterCloseFrame now limit p) := by
  cases p with
  | done => exact keepsReader_closeSink now c limit
  | failed e => exact keepsReader_finishClose now c limit (.sendingClose limit) (.failed e)
  | panicked p => exact keepsReader_finishClose now c limit (.sendingClose limit) (.panicked p)
  | pending => exact keepsReader_finishClose now c limit (.sendingClose limit) .pending

theorem keepsReader_idleTurn (now : Nat) (config : SocketConfig) (c : Connection τ) :
    c.KeepsReader (c.idleTurn now config) := by
  rw [idleTurn]
  split
  · have keeps := keepsReader_afterCloseFrame now
      { c with link := (Transport.send now .close c.link).2 } (now + config.writeTimeout)
      (Transport.send now .close c.link).1
    exact ⟨keeps.member_eq, keeps.reader_eq, keeps.alive_of⟩
  · split
    · rename_i f t outbox _
      have keeps := keepsReader_sendFrame now config { c with outbox } f .queued
      exact ⟨keeps.member_eq, keeps.reader_eq, keeps.alive_of⟩
    · split
      · have keeps := keepsReader_sendFrame now config
          { c with heartbeat := Hub.nextHeartbeat now c.heartbeat config.heartbeat }
          .ping .heartbeat
        exact ⟨keeps.member_eq, keeps.reader_eq, keeps.alive_of⟩
      · exact ⟨rfl, rfl, fun halive => halive⟩

theorem keepsReader_writerTurn (now : Nat) (config : SocketConfig) (c : Connection τ) :
    c.KeepsReader (c.writerTurn now config) := by
  rw [writerTurn]
  split
  · exact ⟨rfl, rfl, fun halive => halive⟩
  · exact ⟨rfl, rfl, fun halive => halive⟩
  · exact keepsReader_idleTurn now config c
  · have keeps := keepsReader_afterSend now { c with link := (Transport.resume now c.link).2 } ‹_›
      ‹_› (Transport.resume now c.link).1
    exact ⟨keeps.member_eq, keeps.reader_eq, keeps.alive_of⟩
  · have keeps := keepsReader_afterCloseFrame now
      { c with link := (Transport.resume now c.link).2 } ‹_› (Transport.resume now c.link).1
    exact ⟨keeps.member_eq, keeps.reader_eq, keeps.alive_of⟩
  · exact keepsReader_closeSink now c _

end Faults

/-- A turn of the writer of a living connection: it starts, finds nothing to do, drops a frame, or
hands over a frame of the outbox or a heartbeat, or goes on handing over. -/
inductive Writes (now : Nat) (config : SocketConfig) (c : Connection τ) : Turned τ → Prop
  | start (starting : c.writer = .starting) : Writes now config c
      { conn := { c with writer := .idle, heartbeat := now + config.heartbeat }, again := true }
  | rest (idle : c.writer = .idle) (empty : c.outbox.queued = []) (early : now < c.heartbeat) :
      Writes now config c { conn := c }
  | drop {f : Frame} {t : Option Ticket} {o : Outbox} (idle : c.writer = .idle)
      (taken : c.outbox.take = some (f, t, o)) (unsendable : f.isSendable = false) :
      Writes now config c { conn := { c with outbox := o }, again := true }
  | queued {f : Frame} {t : Option Ticket} {o : Outbox} (idle : c.writer = .idle)
      (taken : c.outbox.take = some (f, t, o)) (sendable : f.isSendable = true) :
      Writes now config c ((afterSend now
        { c with outbox := o, link := (Transport.send now f c.link).2 } f.kind
        (now + config.writeTimeout) (Transport.send now f c.link).1).after
          [.handed c.id f .queued])
  | heartbeat (idle : c.writer = .idle) (empty : c.outbox.queued = []) (due : c.heartbeat ≤ now) :
      Writes now config c ((afterSend now
        { c with
          heartbeat := Hub.nextHeartbeat now c.heartbeat config.heartbeat
          link := (Transport.send now .ping c.link).2 } Frame.ping.kind
        (now + config.writeTimeout) (Transport.send now .ping c.link).1).after
          [.handed c.id .ping .heartbeat])
  | resume {kind : FrameKind} {limit : Nat} (sending : c.writer = .sending kind limit) :
      Writes now config c (afterSend now { c with link := (Transport.resume now c.link).2 } kind
        limit (Transport.resume now c.link).1)

theorem queued_eq_nil_of_take {o : Outbox} (htake : o.take = none) : o.queued = [] := by
  rw [Outbox.take] at htake
  split at htake
  · assumption
  · cases htake

theorem writes_idleTurn {now : Nat} {config : SocketConfig} {c : Connection τ}
    (halive : c.alive = true) (hidle : c.writer = .idle) :
    Writes now config c (c.idleTurn now config) := by
  rw [idleTurn, if_neg (by simp [halive])]
  cases htake : c.outbox.take with
  | some taken =>
    obtain ⟨f, granted, outbox⟩ := taken
    dsimp only
    rw [sendFrame]
    split
    · rename_i hsend
      exact .queued hidle htake hsend
    · rename_i hsend
      exact .drop hidle htake (by simpa using hsend)
  | none =>
    have hempty := queued_eq_nil_of_take htake
    dsimp only
    split
    · rename_i hdue
      rw [sendFrame, if_pos (by decide)]
      exact .heartbeat hidle hempty hdue
    · rename_i hearly
      exact .rest hidle hempty (Nat.lt_of_not_le hearly)

/-- The writer of a connection has no part yet in its end. -/
def Writing (c : Connection τ) : Prop :=
  match c.writer with
  | .starting | .idle | .sending _ _ => True
  | .sendingClose _ | .closingSink _ | .stopped => False

theorem writes_writerTurn {now : Nat} {config : SocketConfig} {c : Connection τ}
    (halive : c.alive = true) (hwriting : c.Writing) :
    Writes now config c (c.writerTurn now config) := by
  rw [Writing] at hwriting
  rw [writerTurn]
  split
  · rename_i hwriter
    simp [hwriter] at hwriting
  · rename_i hwriter
    exact .start hwriter
  · rename_i hwriter
    exact writes_idleTurn halive hwriter
  · rename_i hwriter
    exact .resume hwriter
  · rename_i hwriter
    simp [hwriter] at hwriting
  · rename_i hwriter
    simp [hwriter] at hwriting

end Connection

namespace Hub

variable {τ : Type} {h h' h'' : Hub τ} {id : String} {c c' : Connection τ}
  {news news' : List Happening} {r : Turned τ} {p : Bool × Hub τ}

/-! ## From a connection to its hub -/

/-- What was done for the connection `id` made `c` of it and left the calls as they are; `news` is
what happened. -/
structure Gets (id : String) (c : Connection τ) (news : List Happening) (h h' : Hub τ) : Prop where
  within : Within id h h'
  find?_self : h'.find? id = some c
  calls_eq : h'.calls = h.calls
  history_eq : h'.history = news ++ h.history

theorem Gets.refl (hc : h.find? id = some c) : Gets id c [] h h := ⟨.refl id h, hc, rfl, rfl⟩

theorem Gets.trans (first : Gets id c news h h') (second : Gets id c' news' h' h'') :
    Gets id c' (news' ++ news) h h'' where
  within := first.within.trans second.within
  find?_self := second.find?_self
  calls_eq := second.calls_eq.trans first.calls_eq
  history_eq := by rw [second.history_eq, first.history_eq, List.append_assoc]

theorem Rouses.gets (rouses : h.Rouses h') (hc : h.find? id = some c) : Gets id c [] h h' := by
  have hwithin := rouses.within id
  obtain ⟨ready, rfl, -⟩ := rouses
  exact ⟨hwithin, hc, rfl, rfl⟩

/-- Being ready belongs to no connection. -/
theorem Gets.rouse (gets : Gets id c news h h') (rouses : h'.Rouses h'') : Gets id c news h h'' :=
  gets.trans (rouses.gets gets.find?_self)

theorem gets_update (hc : h.find? id = some c) (f : Connection τ → Connection τ)
    (hf : ∀ c, (f c).member = c.member) : Gets id (f c) [] h (h.update id f) :=
  ⟨within_update hf, find?_update_self hc hf, rfl, rfl⟩

theorem gets_aside (hc : h.find? id = some c) (metrics : Metrics) (log : List LogEvent)
    (notes : List Note) : Gets id c [] h { h with metrics, log, notes } :=
  ⟨within_aside id h metrics log notes, hc, rfl, rfl⟩

theorem gets_logAbout (hc : h.find? id = some c) (about : String) (level : Level)
    (message : String) (fields : List (String × LogValue)) :
    Gets id c [] h (h.logAbout about level message fields) := gets_aside hc _ _ _

theorem gets_record (hc : h.find? id = some c) {x : Happening} (hx : x.id = id) :
    Gets id c [x] h (h.record x) := by
  subst hx
  exact ⟨within_record h x, hc, rfl, rfl⟩

theorem gets_teardown (hc : h.find? c.id = some c) (reason : CloseReason) :
    Gets c.id (c.torn reason).conn (c.torn reason).news h (h.teardown c.id reason).2 := by
  rw [Connection.torn]
  by_cases halive : c.alive = true
  · have torn := teardown_of_alive_torn hc halive reason
    rw [if_pos halive]
    exact ⟨torn.within, torn.find?_self hc, torn.calls_eq, torn.history_eq⟩
  · have hdead : ∀ c', h.find? c.id = some c' → c'.alive = false := fun c' hc' => by
      obtain rfl : c = c' := Option.some.inj (hc.symm.trans hc')
      simpa using halive
    rw [if_neg halive, teardown_of_not_alive hdead]
    exact .refl hc

/-- A turn does to the connection `id` what `r` says. -/
structure Makes (id : String) (r : Turned τ) (h : Hub τ) (p : Bool × Hub τ) : Prop where
  again_eq : p.1 = r.again
  gets : Gets id r.conn r.news h p.2

theorem Makes.refl (hc : h.find? id = some c) : Makes id { conn := c } h (false, h) :=
  ⟨rfl, .refl hc⟩

theorem Makes.after (first : Gets id c news h h') (second : Makes id r h' p) :
    Makes id (r.after news) h p :=
  ⟨second.again_eq, first.trans second.gets⟩

/-- What follows a change by which nothing happened. -/
theorem Makes.aside (first : Gets id c [] h h') (second : Makes id r h' p) : Makes id r h p := by
  refine ⟨second.again_eq, ?_⟩
  have hgets := first.trans second.gets
  rwa [List.append_nil] at hgets

theorem makes_update (hc : h.find? id = some c) (f : Connection τ → Connection τ)
    (hf : ∀ c, (f c).member = c.member) (again : Bool) :
    Makes id { conn := f c, again } h (again, h.update id f) :=
  ⟨rfl, gets_update hc f hf⟩

variable [Transport τ]

/-! ## The writer -/

theorem gets_setLink (hc : h.find? id = some c) (link : τ) :
    Gets id { c with link } [] h (h.setLink id link) := by
  have hupdate := gets_update hc (fun c => { c with link := link }) fun _ => rfl
  rw [setLink]
  split
  · exact hupdate.rouse (rouses_wakeReader _ id)
  · exact hupdate

theorem gets_hand (hc : h.find? c.id = some c) (f : Frame) (cause : Cause) :
    Gets c.id { c with link := (Transport.send h.now f c.link).2 } [.handed c.id f cause] h
      (h.hand c.id f cause c.link).2 := by
  have hlink := gets_setLink hc (Transport.send h.now f c.link).2
  exact hlink.trans (gets_record hlink.find?_self rfl)

theorem makes_failWriter (hc : h.find? c.id = some c) (reason : CloseReason) :
    Makes c.id (c.failWriter h.now reason) h (false, h.failWriter c.id reason) := by
  have hstop : Gets c.id (c.stopWriter h.now) [] h (h.stopWriter c.id) :=
    gets_update hc (Connection.stopWriter h.now) fun _ => rfl
  exact .aside hstop ⟨(Connection.again_torn _ reason).symm,
    gets_teardown (c := c.stopWriter h.now) hstop.find?_self reason⟩

theorem makes_panicWriter (hc : h.find? c.id = some c) (p : Panic) :
    Makes c.id (c.failWriter h.now .taskFailed) h (false, h.panicWriter c.id p) := by
  have hstop : Gets c.id (c.stopWriter h.now) [] h (h.stopWriter c.id) :=
    gets_update hc (Connection.stopWriter h.now) fun _ => rfl
  have hlog := hstop.trans (gets_logAbout hstop.find?_self c.id .error
    "Connection I/O task panicked" [("task", .text "writer"), ("panic", .text p.detail)])
  exact .aside hlog ⟨(Connection.again_torn _ .taskFailed).symm,
    gets_teardown (c := c.stopWriter h.now) hlog.find?_self .taskFailed⟩

theorem makes_afterSend (hc : h.find? c.id = some c) (kind : FrameKind) (limit : Nat)
    (p : Progress) :
    Makes c.id (c.afterSend h.now kind limit p) h (h.afterSend c.id kind limit p) := by
  cases p with
  | done => exact makes_update hc (fun c => { c with writer := .idle }) (fun _ => rfl) true
  | failed e =>
    have hlog := gets_logAbout hc c.id .warn "WebSocket send error"
      [("error", .text e.message), ("kind", .text kind.title)]
    exact .aside hlog (makes_failWriter hlog.find?_self .writeError)
  | panicked p => exact makes_panicWriter hc p
  | pending =>
    rw [Connection.afterSend, afterSend]
    split
    · have hlog := gets_logAbout hc c.id .warn "WebSocket send timed out"
        [("timeout_ms", .number h.config.writeTimeout), ("kind", .text kind.title)]
      exact .aside hlog (makes_failWriter hlog.find?_self .writeTimeout)
    · exact makes_update hc (fun c => { c with writer := .sending kind limit }) (fun _ => rfl) false

theorem makes_sendFrame (hc : h.find? c.id = some c) (f : Frame) (cause : Cause) :
    Makes c.id (c.sendFrame h.now h.config f cause) h (h.sendFrame c f cause) := by
  rw [Connection.sendFrame, sendFrame]
  split
  · have hhand := gets_hand hc f cause
    generalize hh' : (h.hand c.id f cause c.link).2 = h' at hhand
    have hsplit : h.hand c.id f cause c.link = ((Transport.send h.now f c.link).1, h') :=
      Prod.ext rfl hh'
    have hsend := makes_afterSend (c := { c with link := (Transport.send h.now f c.link).2 })
      hhand.find?_self f.kind (h'.now + h'.config.writeTimeout) (Transport.send h.now f c.link).1
    rw [hsplit]
    dsimp only
    rw [hhand.within.now_eq, hhand.within.config_eq] at hsend ⊢
    exact .after hhand hsend
  · exact ⟨rfl, gets_aside hc _ _ _⟩

theorem makes_stopWriter (hc : h.find? id = some c) :
    Makes id { conn := c.stopWriter h.now } h (false, h.stopWriter id) :=
  makes_update hc (Connection.stopWriter h.now) (fun _ => rfl) false

theorem makes_finishClose (hc : h.find? c.id = some c) (limit : Nat) (wait : WriterPhase)
    (p : Progress) :
    Makes c.id (c.finishClose h.now limit wait p) h (h.finishClose c.id limit p wait) := by
  cases p with
  | done => exact makes_stopWriter hc
  | failed e =>
    have hlog := gets_logAbout hc c.id .debug "Close frame not delivered"
      [("error", .text e.message)]
    exact .aside hlog (makes_stopWriter hlog.find?_self)
  | panicked p => exact makes_panicWriter hc p
  | pending =>
    rw [Connection.finishClose, finishClose]
    split
    · have hlog := gets_logAbout hc c.id .debug "Close frame timed out" []
      exact .aside hlog (makes_stopWriter hlog.find?_self)
    · exact makes_update hc (fun c => { c with writer := wait }) (fun _ => rfl) false

theorem makes_closeSink (hc : h.find? c.id = some c) (limit : Nat) :
    Makes c.id (c.closeSink h.now limit) h (h.closeSink c.id limit) := by
  rw [Connection.closeSink, closeSink, hc]
  have hlink := gets_setLink hc (Transport.close h.now c.link).2
  have hclose := makes_finishClose (c := { c with link := (Transport.close h.now c.link).2 })
    hlink.find?_self limit (.closingSink limit) (Transport.close h.now c.link).1
  rw [hlink.within.now_eq] at hclose
  exact .aside hlink hclose

theorem makes_afterCloseFrame (hc : h.find? c.id = some c) (limit : Nat) (p : Progress) :
    Makes c.id (c.afterCloseFrame h.now limit p) h (h.afterCloseFrame c.id limit p) := by
  cases p with
  | done => exact makes_closeSink hc limit
  | failed e => exact makes_finishClose hc limit (.sendingClose limit) (.failed e)
  | panicked p => exact makes_finishClose hc limit (.sendingClose limit) (.panicked p)
  | pending => exact makes_finishClose hc limit (.sendingClose limit) .pending

theorem makes_idleTurn (hc : h.find? c.id = some c) :
    Makes c.id (c.idleTurn h.now h.config) h (h.idleWriterTurn c) := by
  rw [Connection.idleTurn, idleWriterTurn]
  split
  · have hhand := gets_hand hc .close .farewell
    have hclose := makes_afterCloseFrame
      (c := { c with link := (Transport.send h.now .close c.link).2 }) hhand.find?_self
      (h.now + h.config.writeTimeout) (Transport.send h.now .close c.link).1
    rw [hhand.within.now_eq] at hclose
    exact .after hhand hclose
  · -- a frame of the outbox comes before a heartbeat
    cases htake : c.outbox.take with
    | some taken =>
      obtain ⟨f, granted, outbox⟩ := taken
      have htaken := (gets_update hc (fun c => { c with outbox := outbox }) fun _ => rfl).rouse
        (rouses_wakeAll (granted.toList.map fun t => .call t.call) _)
      have hsend := makes_sendFrame (c := { c with outbox }) htaken.find?_self f .queued
      rw [htaken.within.now_eq, htaken.within.config_eq] at hsend
      exact .aside htaken hsend
    | none =>
      dsimp only
      split
      · have hnext := gets_update hc (fun c' =>
          { c' with heartbeat := nextHeartbeat h.now c.heartbeat h.config.heartbeat }) fun _ => rfl
        exact .aside hnext (makes_sendFrame
          (c := { c with heartbeat := nextHeartbeat h.now c.heartbeat h.config.heartbeat })
          hnext.find?_self .ping .heartbeat)
      · exact .refl hc

theorem makes_resumeSend (hc : h.find? c.id = some c) (kind : FrameKind) (limit : Nat) :
    Makes c.id (({ c with link := (Transport.resume h.now c.link).2 } : Connection τ).afterSend
      h.now kind limit (Transport.resume h.now c.link).1) h
      ((h.setLink c.id (Transport.resume h.now c.link).2).afterSend c.id kind limit
        (Transport.resume h.now c.link).1) := by
  have hlink := gets_setLink hc (Transport.resume h.now c.link).2
  have hsend := makes_afterSend (c := { c with link := (Transport.resume h.now c.link).2 })
    hlink.find?_self kind limit (Transport.resume h.now c.link).1
  rw [hlink.within.now_eq] at hsend
  exact .aside hlink hsend

theorem makes_resumeClose (hc : h.find? c.id = some c) (limit : Nat) :
    Makes c.id
      (({ c with link := (Transport.resume h.now c.link).2 } : Connection τ).afterCloseFrame
        h.now limit (Transport.resume h.now c.link).1) h
      ((h.setLink c.id (Transport.resume h.now c.link).2).afterCloseFrame c.id limit
        (Transport.resume h.now c.link).1) := by
  have hlink := gets_setLink hc (Transport.resume h.now c.link).2
  have hclose := makes_afterCloseFrame (c := { c with link := (Transport.resume h.now c.link).2 })
    hlink.find?_self limit (Transport.resume h.now c.link).1
  rw [hlink.within.now_eq] at hclose
  exact .aside hlink hclose

/-- **A turn of the writer** makes of its connection what the connection alone decides. -/
theorem makes_writerTurn (hc : h.find? id = some c) :
    Makes id (c.writerTurn h.now h.config) h (h.writerTurn id) := by
  obtain rfl := id_of_find? hc
  rw [writerTurn, hc]
  obtain ⟨member, createdAt, alive, handlers, outbox, writer, heartbeat, reader, link⟩ := c
  cases writer with
  | stopped => exact .refl hc
  | starting =>
    exact makes_update hc
      (fun c => { c with writer := .idle, heartbeat := h.now + h.config.heartbeat })
      (fun _ => rfl) true
  | idle => exact makes_idleTurn hc
  | sending kind limit => exact makes_resumeSend hc kind limit
  | sendingClose limit => exact makes_resumeClose hc limit
  | closingSink limit => exact makes_closeSink hc limit

/-! ## The reader -/

theorem makes_failReader (hc : h.find? c.id = some c) (reason : CloseReason) :
    Makes c.id (c.failReader h.now reason) h (false, h.failReader c.id reason) := by
  have hstop : Gets c.id (c.stopReader h.now) [] h (h.stopReader c.id) :=
    gets_update hc (Connection.stopReader h.now) fun _ => rfl
  exact .aside hstop ⟨(Connection.again_torn _ reason).symm,
    gets_teardown (c := c.stopReader h.now) hstop.find?_self reason⟩

/-- A turn of the reader does to the connection `id` what `r` says, and gives the handlers the frame
`given`, if there is one. -/
def Reads (id : String) (r : Turned τ) (given : Option Frame) (h : Hub τ) (p : Bool × Hub τ) :
    Prop :=
  ∃ h', Makes id r h (p.1, h') ∧ p.2 = given.elim h' (h'.dispatch r.conn)

omit [Transport τ] in
theorem Makes.reads (makes : Makes id r h p) : Reads id r none h p := ⟨p.2, makes, rfl⟩

omit [Transport τ] in
theorem Reads.aside {given : Option Frame} (first : Gets id c [] h h')
    (second : Reads id r given h' p) : Reads id r given h p := by
  obtain ⟨h'', makes, hp⟩ := second
  exact ⟨h'', .aside first makes, hp⟩

theorem reads_takeData (hc : h.find? c.id = some c) (halive : c.alive = true) {f : Frame}
    (hdata : f.kind.isData = true) :
    Reads c.id (c.takeFrame h.now h.config f) (Connection.forHandlers? h.config (.frame f)) h
      (h.takeFrame c f) := by
  have hkind : f.kind = .text ∨ f.kind = .binary := by
    revert hdata
    cases f.kind <;> decide
  rw [Connection.forHandlers?, hdata, Bool.true_and]
  -- both kinds of data are treated alike
  rcases hkind with hkind | hkind <;>
    · simp only [Connection.takeFrame, takeFrame, hkind]
      split
      · rename_i hlong
        have hlog := gets_logAbout hc c.id .warn "Inbound frame exceeds max message size"
          [("len", .number f.payload.length), ("max", .number h.config.maxMessageSize)]
        rw [if_neg (by simpa using hlong)]
        exact .aside hlog (makes_failReader hlog.find?_self .frameTooLarge).reads
      · rename_i hfits
        rw [if_pos (by simpa using hfits)]
        exact ⟨_, ⟨rfl, gets_aside hc _ _ _⟩, rfl⟩

theorem reads_takeFrame (hc : h.find? c.id = some c) (halive : c.alive = true) (f : Frame) :
    Reads c.id (c.takeFrame h.now h.config f) (Connection.forHandlers? h.config (.frame f)) h
      (h.takeFrame c f) := by
  cases hkind : f.kind with
  | pong =>
    simp only [Connection.takeFrame, takeFrame, Connection.forHandlers?, hkind]
    exact (makes_update hc
      (fun c => { c with reader := .reading (h.now + h.config.readTimeout) }) (fun _ => rfl)
      true).reads
  | ping =>
    simp only [Connection.takeFrame, takeFrame, Connection.forHandlers?, hkind]
    exact Makes.reads ⟨rfl, .refl hc⟩
  | close =>
    simp only [Connection.takeFrame, takeFrame, Connection.forHandlers?, hkind]
    have hlog := gets_logAbout hc c.id .debug "Received close frame" []
    exact .aside hlog (makes_failReader hlog.find?_self .peerClosed).reads
  | text => exact reads_takeData hc halive (by rw [hkind]; rfl)
  | binary => exact reads_takeData hc halive (by rw [hkind]; rfl)

theorem reads_takeArrival (hc : h.find? c.id = some c) (halive : c.alive = true) (deadline : Nat)
    (a : Arrival) :
    Reads c.id (c.takeArrival h.now h.config deadline a) (Connection.forHandlers? h.config a) h
      (h.takeArrival c deadline a) := by
  cases a with
  | frame f => exact reads_takeFrame hc halive f
  | ended => exact (makes_failReader hc .peerClosed).reads
  | failed e =>
    have hlog := gets_logAbout hc c.id .warn "WebSocket receive error" [("error", .text e.message)]
    exact .aside hlog (makes_failReader hlog.find?_self .readError).reads
  | panicked p =>
    have hstop : Gets c.id (c.stopReader h.now) [] h (h.stopReader c.id) :=
      gets_update hc (Connection.stopReader h.now) fun _ => rfl
    have hlog := hstop.trans (gets_logAbout hstop.find?_self c.id .error
      "Connection I/O task panicked" [("task", .text "reader"), ("panic", .text p.detail)])
    exact .aside hlog (Makes.reads ⟨(Connection.again_torn _ .taskFailed).symm,
      gets_teardown (c := c.stopReader h.now) hlog.find?_self .taskFailed⟩)
  | pending =>
    rw [Connection.takeArrival, takeArrival]
    split
    · have hlog := gets_logAbout hc c.id .warn "No pong within read deadline"
        [("timeout_ms", .number h.config.readTimeout)]
      exact .aside hlog (makes_failReader hlog.find?_self .readTimeout).reads
    · exact (Makes.refl hc).reads

theorem within_writerTurn (h : Hub τ) (id : String) : Within id h (h.writerTurn id).2 := by
  cases hc : h.find? id with
  | none =>
    rw [writerTurn, hc]
    exact .refl id h
  | some c => exact (makes_writerTurn hc).gets.within

/-- **A turn of the reader** makes of its connection what the connection alone decides, and gives
the handlers the frame that it took for them. -/
theorem reads_readerTurn (hc : h.find? id = some c) :
    Reads id (c.readerTurn h.now h.config) (c.dispatched? h.now h.config) h (h.readerTurn id) := by
  obtain rfl := id_of_find? hc
  rw [readerTurn, hc]
  obtain ⟨member, createdAt, alive, handlers, outbox, writer, heartbeat, reader, link⟩ := c
  cases reader with
  | stopped => exact (Makes.refl hc).reads
  | starting =>
    exact (makes_update hc
      (fun c => { c with reader := .reading (h.now + h.config.readTimeout) }) (fun _ => rfl)
      true).reads
  | reading deadline =>
    cases alive with
    | false => exact (makes_update hc (Connection.stopReader h.now) (fun _ => rfl) false).reads
    | true =>
      have hlink := gets_update hc (fun c => { c with link := (Transport.receive h.now link).2 })
        fun _ => rfl
      have htake := reads_takeArrival (c := ⟨member, createdAt, true, handlers, outbox, writer,
        heartbeat, .reading deadline, (Transport.receive h.now link).2⟩) hlink.find?_self rfl
        deadline (Transport.receive h.now link).1
      exact .aside hlink htake

/-- A data frame that is not too long goes to the handlers. -/
theorem takeFrame_of_fits {f : Frame} (halive : c.alive = true)
    (hdata : f.kind.isData = true) (hfits : ¬ f.payload.length > h.config.maxMessageSize) :
    h.takeFrame c f = (true, (h.count fun m => m.countReceived f.kind).dispatch c f) := by
  have hkind : f.kind = .text ∨ f.kind = .binary := by
    revert hdata
    cases f.kind <;> decide
  -- both kinds of data are treated alike
  rcases hkind with hkind | hkind <;>
    · simp only [takeFrame, hkind]
      rw [if_neg hfits, if_pos halive]

/-- A turn of a reader that takes a frame for the handlers. -/
theorem readerTurn_of_dispatched {f : Frame} (hc : h.find? id = some c)
    (hf : c.dispatched? h.now h.config = some f) :
    h.readerTurn id = (true, ((h.update id fun y =>
      { y with link := (Transport.receive h.now c.link).2 }).count
        fun m => m.countReceived f.kind).dispatch
          { c with link := (Transport.receive h.now c.link).2 } f) := by
  obtain ⟨a, ha, hfor⟩ := Option.bind_eq_some_iff.mp hf
  unfold Connection.taken? at ha
  unfold readerTurn
  rw [hc]
  dsimp only
  split at ha
  · rename_i deadline hreading
    split at ha
    · rename_i halive
      obtain rfl := Option.some.inj ha
      rw [hreading]
      dsimp only
      rw [if_neg (by simp [halive])]
      cases harrival : (Transport.receive h.now c.link).1 with
      | frame g =>
        rw [harrival, Connection.forHandlers?] at hfor
        split at hfor
        · rename_i hdata
          obtain rfl := Option.some.inj hfor
          obtain ⟨hdata, hfits⟩ := Bool.and_eq_true_iff.mp hdata
          exact takeFrame_of_fits halive hdata (Nat.not_lt_of_le (of_decide_eq_true hfits))
        · cases hfor
      | _ =>
        rw [harrival] at hfor
        cases hfor
    · cases ha
  · cases ha

theorem within_readerTurn (h : Hub τ) (id : String) : Within id h (h.readerTurn id).2 := by
  cases hc : h.find? id with
  | none =>
    rw [readerTurn, hc]
    exact .refl id h
  | some c =>
    obtain ⟨h', makes, hp⟩ := reads_readerTurn hc
    have hmember : (c.readerTurn h.now h.config).conn.id = id := id_of_find? makes.gets.find?_self
    rw [hp]
    cases c.dispatched? h.now h.config with
    | none => exact makes.gets.within
    | some f =>
      have hdeeds := deeds_dispatch h' (c.readerTurn h.now h.config).conn f
      rw [hmember] at hdeeds
      exact makes.gets.within.trans hdeeds.within

end Hub

end Switchboard
