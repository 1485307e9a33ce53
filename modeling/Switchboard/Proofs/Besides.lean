import Switchboard.Proofs.Tandem
import Switchboard.Proofs.Timing

/-!
# A run as the other connections see it

`Besides c shared h es xs` says what a run is to the connections besides `c`: `xs` is the list of
its events that concern one of them. All other events of the run are `c`'s own (`Event.IsOwn`): what
is done to `c`, whatever it is; turns from which nothing comes to the others; and the passing of
time, as long as none of the others' tasks and sends has something to do (`Hub.RestsBesides`).

A `Concern` names a send by its place among the sends that are not for `c` alone; `shared` holds
their numbers in the order in which they were asked for. What is done to a connection from outside
has its instant. A turn has none: the list tells only in which order tasks got their turns.

Nothing but time that passes too early is left out of this (`Event.own_or_concerns`).
-/

namespace Switchboard

variable {τ : Type}

/-! ## Rest -/

namespace Hub

/-- Nothing comes to the connections besides `c` of a turn of a send: it has begun, and is stuck at
all of them for which it waits. -/
def CallRests (c : String) (h : Hub τ) (n : Nat) : Prop :=
  match h.calls[n]? with
  | some (.requested _) => False
  | some (.waiting _ places _) => ∀ x ∈ places, x.1 ≠ c → h.Stuck n x
  | _ => True

/-- A send has begun and waits for no connection but `c`. -/
def CallOver (c : String) (h : Hub τ) (n : Nat) : Prop :=
  match h.calls[n]? with
  | some (.requested _) => False
  | some (.waiting _ places _) => ∀ x ∈ places, x.1 = c
  | _ => True

/-- What a waiting send is to notice first at the places besides `c`. -/
def rooms (c : String) (h : Hub τ) (n : Nat) (roomFirst : Nat → Bool) : List Bool :=
  match h.calls[n]? with
  | some (.waiting _ places _) => roomsBesides c roomFirst places
  | _ => []

/-- The numbers of the sends that one hub was asked for after another. -/
def newCalls (h h' : Hub τ) : List Nat :=
  List.range' h.calls.length (h'.calls.length - h.calls.length)

variable [Transport τ]

/-- At an instant, no task and no send of the connections besides `c` has anything to do. -/
structure RestsBesides (c : String) (shared : List Nat) (h : Hub τ) (now : Nat) : Prop where
  writer : ∀ d x, d ≠ c → h.find? d = some x → x.WriterRests now h.config
  reader : ∀ d x, d ≠ c → h.find? d = some x → x.ReaderRests now h.config
  call : ∀ n ∈ shared, h.CallRests c n

end Hub

/-! ## Own affairs and concerns -/

variable [Transport τ]

/-- What an event comes to, if a request is taken for what it asks for. -/
inductive Event.ComesTo : Event τ → Event τ → Prop
  | self (e : Event τ) : ComesTo e e
  | send {s : Http.Server} {r : Http.Request} {order : SendOrder}
      (asks : r.Asks τ (.send order)) : ComesTo (.request s r) (.ask order)
  | remove {s : Http.Server} {r : Http.Request} {id : String} (asks : r.Asks τ (.remove id)) :
      ComesTo (.request s r) (.remove id)

/-- An event that has nothing to do with the connections besides `c`. -/
inductive Event.IsOwn (c : String) (shared : List Nat) (h : Hub τ) : Event τ → Prop
  | upgrade (made : Except Error τ) (o : ConnectOptions) : IsOwn c shared h (.upgrade c made o)
  | upgradeFailed (reason : String) : IsOwn c shared h (.upgradeFailed reason)
  | ask {r : SendOrder} (own : r.IsFor c) : IsOwn c shared h (.ask r)
  | abandon {n : Nat} (own : n ∉ shared ∨ h.CallOver c n) : IsOwn c shared h (.abandon n)
  | remove : IsOwn c shared h (.remove c)
  /-- A request that only wants to know something. -/
  | look {s : Http.Server} {r : Http.Request} (asks : r.Asks τ .look) :
      IsOwn c shared h (.request s r)
  | act (script : Script) : IsOwn c shared h (.act c script)
  | peer (act : τ → τ) : IsOwn c shared h (.peer c act)
  | writer {d : String} (roomFirst : Nat → Bool)
      (rests : d = c ∨ ∀ x, h.find? d = some x → x.WriterRests h.now h.config) :
      IsOwn c shared h (.turn (.writer d) roomFirst)
  | reader {d : String} (roomFirst : Nat → Bool)
      (rests : d = c ∨ ∀ x, h.find? d = some x → x.ReaderRests h.now h.config) :
      IsOwn c shared h (.turn (.reader d) roomFirst)
  | call {n : Nat} (roomFirst : Nat → Bool) (rests : n ∉ shared ∨ h.CallRests c n) :
      IsOwn c shared h (.turn (.call n) roomFirst)
  /-- Time passes over no instant at which the others have something to do. -/
  | pass {now : Nat} (wallClock : Nat)
      (rests : ∀ t, h.now ≤ t → t < now → h.RestsBesides c shared t) :
      IsOwn c shared h (.pass now wallClock)

/-- Something is done from outside that is not for `c` alone. -/
inductive Event.IsOutside (c : String) : Event τ → Prop
  | ask {r : SendOrder} (other : ¬ r.IsFor c) : IsOutside c (.ask r)
  | remove {d : String} (ne : d ≠ c) : IsOutside c (.remove d)
  | act {d : String} (ne : d ≠ c) (script : Script) : IsOutside c (.act d script)
  | peer {d : String} (ne : d ≠ c) (act : τ → τ) : IsOutside c (.peer d act)

/-- What an event is to the connections besides one. -/
inductive Concern (τ : Type) where
  /-- A connection is opened, or could not be, at an instant and a wall-clock time. -/
  | opened (now wallClock : Nat) (id : String) (made : Except Error τ) (o : ConnectOptions)
  /-- Something is done from outside, at an instant. -/
  | outside (now : Nat) (e : Event τ)
  /-- The `k`-th send is given up, at an instant. -/
  | abandoned (now k : Nat)
  /-- The writer of a connection does something in a turn. -/
  | writer (id : String)
  /-- The reader of a connection does something in a turn. -/
  | reader (id : String)
  /-- The `k`-th send gets on in a turn; `rooms` tells what it is to notice first, at each
  place. -/
  | call (k : Nat) (rooms : List Bool)

/-- What an event is to the connections besides `c`. -/
inductive Event.Concerns (c : String) (shared : List Nat) (h : Hub τ) :
    Event τ → Concern τ → Prop
  | opened {now wallClock : Nat} {id : String} (ne : id ≠ c) (hnow : h.now = now)
      (hwall : h.wallClock = wallClock) (made : Except Error τ) (o : ConnectOptions) :
      Concerns c shared h (.upgrade id made o) (.opened now wallClock id made o)
  | outside {now : Nat} {e : Event τ} (hnow : h.now = now) (outside : e.IsOutside c) :
      Concerns c shared h e (.outside now e)
  | abandoned {now n k : Nat} (hnow : h.now = now) (hk : shared[k]? = some n) :
      Concerns c shared h (.abandon n) (.abandoned now k)
  | writer {d : String} {x : Connection τ} (roomFirst : Nat → Bool) (ne : d ≠ c)
      (found : h.find? d = some x) (busy : ¬ x.WriterRests h.now h.config) :
      Concerns c shared h (.turn (.writer d) roomFirst) (.writer d)
  | reader {d : String} {x : Connection τ} (roomFirst : Nat → Bool) (ne : d ≠ c)
      (found : h.find? d = some x) (busy : ¬ x.ReaderRests h.now h.config) :
      Concerns c shared h (.turn (.reader d) roomFirst) (.reader d)
  | call {n k : Nat} {rooms : List Bool} (roomFirst : Nat → Bool) (hk : shared[k]? = some n)
      (busy : ¬ h.CallRests c n) (hrooms : h.rooms c n roomFirst = rooms) :
      Concerns c shared h (.turn (.call n) roomFirst) (.call k rooms)

/-- What the events of a run are to the connections besides `c`. -/
inductive Besides (c : String) : List Nat → Hub τ → List (Event τ) → List (Concern τ) → Prop
  | nil (shared : List Nat) (h : Hub τ) : Besides c shared h [] []
  | own {shared : List Nat} {h : Hub τ} {e e' : Event τ} {es : List (Event τ)}
      {xs : List (Concern τ)} (comes : e.ComesTo e') (own : e'.IsOwn c shared h)
      (rest : Besides c shared (h.step e) es xs) : Besides c shared h (e :: es) xs
  | concern {shared : List Nat} {h : Hub τ} {e e' : Event τ} {es : List (Event τ)} {x : Concern τ}
      {xs : List (Concern τ)} (comes : e.ComesTo e') (concerns : e'.Concerns c shared h x)
      (rest : Besides c (shared ++ h.newCalls (h.step e)) (h.step e) es xs) :
      Besides c shared h (e :: es) (x :: xs)

theorem Event.ComesTo.step_eq {e e' : Event τ} (comes : e.ComesTo e') (h : Hub τ) :
    ∃ metrics log, h.step e = { h.step e' with metrics, log } := by
  cases comes with
  | self e => exact ⟨_, _, rfl⟩
  | send asks => exact asks _ h
  | remove asks => exact asks _ h

/-- A turn is `c`'s own if it is one of its tasks, or if nothing can come of it. -/
theorem Event.turn_own_or_concerns (c : String) (shared : List Nat) (h : Hub τ) (t : Task)
    (roomFirst : Nat → Bool) :
    (Event.turn t roomFirst : Event τ).IsOwn c shared h ∨
      ∃ x, (Event.turn t roomFirst : Event τ).Concerns c shared h x := by
  cases t with
  | writer d =>
    by_cases hrests : d = c ∨ ∀ x, h.find? d = some x → x.WriterRests h.now h.config
    · exact .inl (.writer roomFirst hrests)
    · obtain ⟨hd, hbusy⟩ := not_or.mp hrests
      obtain ⟨x, hx, hbusy⟩ : ∃ x, h.find? d = some x ∧ ¬ x.WriterRests h.now h.config := by
        simpa using hbusy
      exact .inr ⟨_, .writer roomFirst hd hx hbusy⟩
  | reader d =>
    by_cases hrests : d = c ∨ ∀ x, h.find? d = some x → x.ReaderRests h.now h.config
    · exact .inl (.reader roomFirst hrests)
    · obtain ⟨hd, hbusy⟩ := not_or.mp hrests
      obtain ⟨x, hx, hbusy⟩ : ∃ x, h.find? d = some x ∧ ¬ x.ReaderRests h.now h.config := by
        simpa using hbusy
      exact .inr ⟨_, .reader roomFirst hd hx hbusy⟩
  | call n =>
    by_cases hrests : n ∉ shared ∨ h.CallRests c n
    · exact .inl (.call roomFirst hrests)
    · obtain ⟨hn, hbusy⟩ := not_or.mp hrests
      obtain ⟨k, hk⟩ := List.mem_iff_getElem?.mp (not_not.mp hn)
      exact .inr ⟨_, .call roomFirst hk hbusy rfl⟩

/-- Every event is `c`'s own or a concern of the others, unless time passes over an instant at which
they have something to do. -/
theorem Event.own_or_concerns (c : String) (shared : List Nat) (h : Hub τ) (e : Event τ)
    (prompt : ∀ now wallClock, e = .pass now wallClock →
      ∀ t, h.now ≤ t → t < now → h.RestsBesides c shared t) :
    ∃ e', e.ComesTo e' ∧ (e'.IsOwn c shared h ∨ ∃ x, e'.Concerns c shared h x) := by
  have hask : ∀ r : SendOrder, (Event.ask r : Event τ).IsOwn c shared h ∨
      ∃ x, (Event.ask r : Event τ).Concerns c shared h x := by
    intro r
    by_cases hr : r.IsFor c
    · exact .inl (.ask hr)
    · exact .inr ⟨_, .outside rfl (.ask hr)⟩
  have hremove : ∀ id, (Event.remove id : Event τ).IsOwn c shared h ∨
      ∃ x, (Event.remove id : Event τ).Concerns c shared h x := by
    intro id
    by_cases hid : id = c
    · subst hid
      exact .inl .remove
    · exact .inr ⟨_, .outside rfl (.remove hid)⟩
  -- What names a connection is told apart by whether it names `c`, a call by whether it is shared.
  cases e with
  | upgrade id made o =>
    refine ⟨_, .self _, ?_⟩
    by_cases hid : id = c
    · subst hid
      exact .inl (.upgrade made o)
    · exact .inr ⟨_, .opened hid rfl rfl made o⟩
  | upgradeFailed reason => exact ⟨_, .self _, .inl (.upgradeFailed reason)⟩
  | ask r => exact ⟨_, .self _, hask r⟩
  | abandon n =>
    refine ⟨_, .self _, ?_⟩
    by_cases hn : n ∈ shared
    · obtain ⟨k, hk⟩ := List.mem_iff_getElem?.mp hn
      exact .inr ⟨_, .abandoned rfl hk⟩
    · exact .inl (.abandon (.inl hn))
  | remove id => exact ⟨_, .self _, hremove id⟩
  | request s r =>
    obtain ⟨errand, asks⟩ := Http.exists_asks τ r
    cases errand with
    | look => exact ⟨_, .self _, .inl (.look asks)⟩
    | remove id => exact ⟨_, .remove asks, hremove id⟩
    | send order => exact ⟨_, .send asks, hask order⟩
  | act id script =>
    refine ⟨_, .self _, ?_⟩
    by_cases hid : id = c
    · subst hid
      exact .inl (.act script)
    · exact .inr ⟨_, .outside rfl (.act hid script)⟩
  | peer id act =>
    refine ⟨_, .self _, ?_⟩
    by_cases hid : id = c
    · subst hid
      exact .inl (.peer act)
    · exact .inr ⟨_, .outside rfl (.peer hid act)⟩
  | turn t roomFirst => exact ⟨_, .self _, Event.turn_own_or_concerns c shared h t roomFirst⟩
  | pass now wallClock => exact ⟨_, .self _, .inl (.pass wallClock (prompt now wallClock rfl))⟩

/-! ## Telling rest from work -/

/-- A task that can go on at once has done something. -/
theorem Event.Concerns.writer_of_again {c d : String} {shared : List Nat} {h : Hub τ} (ne : d ≠ c)
    (again : (h.find? d).any (fun x => (x.writerTurn h.now h.config).again) = true)
    (roomFirst : Nat → Bool) :
    Event.Concerns c shared h (.turn (.writer d) roomFirst) (.writer d) := by
  obtain ⟨x, hx, hagain⟩ := (Option.any_eq_true _ _).mp again
  refine .writer roomFirst ne hx fun rests => ?_
  rw [rests] at hagain
  cases hagain

theorem Event.Concerns.reader_of_again {c d : String} {shared : List Nat} {h : Hub τ} (ne : d ≠ c)
    (again : (h.find? d).any (fun x => (x.readerTurn h.now h.config).again) = true)
    (roomFirst : Nat → Bool) :
    Event.Concerns c shared h (.turn (.reader d) roomFirst) (.reader d) := by
  obtain ⟨x, hx, hagain⟩ := (Option.any_eq_true _ _).mp again
  refine .reader roomFirst ne hx fun rests => ?_
  rw [rests.1] at hagain
  cases hagain

/-- A send that has not begun does so in its turn. -/
theorem Event.Concerns.call_of_requested {c : String} {shared : List Nat} {h : Hub τ} {n k : Nat}
    {r : SendOrder} (hk : shared[k]? = some n) (hx : h.calls[n]? = some (.requested r))
    (roomFirst : Nat → Bool) :
    Event.Concerns c shared h (.turn (.call n) roomFirst) (.call k []) := by
  refine .call roomFirst hk (fun rests => ?_) ?_
  · rwa [Hub.CallRests, hx] at rests
  · rw [Hub.rooms, hx]

/-- The instant at which a reader gives up, if it waits. -/
def ReaderPhase.deadline? : ReaderPhase → Option Nat
  | .reading deadline => some deadline
  | _ => none

/-- A connection that is alive and both of whose tasks wait for a later instant. -/
structure Connection.Waits (now : Nat) (x : Connection τ) : Prop where
  alive : x.alive = true
  writer : x.writer = .idle
  queued : x.outbox.queued = []
  heartbeat : now < x.heartbeat
  reader : ∃ deadline ∈ x.reader.deadline?, now < deadline
  pending : Transport.receive now x.link = (.pending, x.link)

instance Connection.Waits.decidable [DecidableEq τ] (now : Nat) (x : Connection τ) :
    Decidable (x.Waits now) :=
  decidable_of_iff (x.alive = true ∧ x.writer = .idle ∧ x.outbox.queued = [] ∧ now < x.heartbeat ∧
      (∃ deadline ∈ x.reader.deadline?, now < deadline) ∧
      Transport.receive now x.link = (.pending, x.link))
    ⟨fun ⟨h₁, h₂, h₃, h₄, h₅, h₆⟩ => ⟨h₁, h₂, h₃, h₄, h₅, h₆⟩,
      fun ⟨h₁, h₂, h₃, h₄, h₅, h₆⟩ => ⟨h₁, h₂, h₃, h₄, h₅, h₆⟩⟩

theorem Connection.Waits.writerRests {now : Nat} {x : Connection τ} (waits : x.Waits now)
    (config : SocketConfig) : x.WriterRests now config := by
  have htake : x.outbox.take = none := by
    unfold Outbox.take
    rw [waits.queued]
  unfold WriterRests writerTurn
  rw [waits.writer]
  dsimp only
  unfold idleTurn
  rw [waits.alive, htake]
  exact if_neg (Nat.not_le_of_lt waits.heartbeat)

theorem Connection.Waits.readerRests {now : Nat} {x : Connection τ} (waits : x.Waits now)
    (config : SocketConfig) : x.ReaderRests now config := by
  obtain ⟨deadline, hdeadline, hlater⟩ := waits.reader
  have hreader : x.reader = .reading deadline := by
    cases hphase : x.reader with
    | reading instant =>
      rw [hphase] at hdeadline
      rw [Option.some.inj hdeadline]
    | _ =>
      rw [hphase] at hdeadline
      cases hdeadline
  constructor
  · rw [readerTurn_of_reading waits.alive hreader, waits.pending]
    exact if_neg (Nat.not_le_of_lt hlater)
  · unfold dispatched? taken?
    rw [hreader]
    dsimp only
    rw [if_pos waits.alive, waits.pending]
    rfl

omit [Transport τ] in
theorem Hub.callRests_of_finished {h : Hub τ} {n : Nat} {reply : Reply}
    (hx : h.calls[n]? = some (.finished reply)) (c : String) : h.CallRests c n := by
  rw [CallRests, hx]
  trivial

omit [Transport τ] in
/-- A send that waits for `c` only rests. -/
theorem Hub.callRests_of_waiting {c : String} {h : Hub τ} {n : Nat} {f : Frame}
    {places : List (String × Nat)} {reply : Reply}
    (hx : h.calls[n]? = some (.waiting f places reply)) (own : ∀ x ∈ places, x.1 = c) :
    h.CallRests c n := by
  rw [CallRests, hx]
  exact fun x hx hne => absurd (own x hx) hne

theorem Hub.restsBesides_of_waits {c : String} {shared : List Nat} {h : Hub τ} {now : Nat}
    (conns : ∀ x ∈ h.connections, x.id ≠ c → x.Waits now) (calls : ∀ n ∈ shared, h.CallRests c n) :
    h.RestsBesides c shared now := by
  have hfind : ∀ d x, d ≠ c → h.find? d = some x → x.Waits now := by
    intro d x hd hx
    refine conns x (List.mem_of_find?_eq_some hx) fun hid => hd ?_
    exact (id_of_find? hx).symm.trans hid
  refine ⟨fun d x hd hx => ?_, fun d x hd hx => ?_, calls⟩
  · exact (hfind d x hd hx).writerRests h.config
  · exact (hfind d x hd hx).readerRests h.config

end Switchboard
