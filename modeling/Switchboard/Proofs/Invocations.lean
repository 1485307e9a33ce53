import Switchboard.Proofs.Receipts

/-!
# Calls of handlers

A script does one thing after another, and what it does next may depend on the answers it gets.
`Script.Course` lists the courses that it can take, whatever the answers; `Hub.Acts` says that a hub
gave the answers and did what was asked. A handler's call is an `Invocation`: the handler, what its
script did, and what it panicked with, if it did.

`Hub.Invokes` says what it is for handlers to be called with a frame, one after another: each takes
a course of its script in the hub that the one before left behind, and a panic is counted and logged
and nothing else. It knows nothing of the list that is being worked off; that the dispatch of a
frame calls the handlers of the list in this way, each once and in order, is
`Hub.invokes_runHandlers`.
-/

namespace Switchboard

/-- A thing that a script does, with the answer that it gets. -/
inductive Action where
  | offered (frame : Frame) (sent : Bool)
  | asked (frame : Frame)
  | added (handlers : List Handler)
  | replaced (handlers : List Handler)
  | removed (won : Bool)
  | noted (note : Note)
  | logged (event : LogEvent)

/-- What an action makes of the handlers of its connection. -/
def Action.amend (handlers : List Handler) : Action → List Handler
  | .added more => handlers ++ more
  | .replaced others => others
  | _ => handlers

/-- A course that a script takes if it gets the answers that go with it: what it does, and what it
panics with at the end, if it does. -/
inductive Script.Course : Script → List Action → Option Panic → Prop
  | done : Course .done [] none
  | panic (p : Panic) : Course (.panic p) [] (some p)
  | trySend {f : Frame} {next : Bool → Script} {as : List Action} {p? : Option Panic} (sent : Bool)
      (rest : Course (next sent) as p?) : Course (.trySend f next) (.offered f sent :: as) p?
  | startSend {f : Frame} {next : Script} {as : List Action} {p? : Option Panic}
      (rest : Course next as p?) : Course (.startSend f next) (.asked f :: as) p?
  | addHandlers {hs : List Handler} {next : Script} {as : List Action} {p? : Option Panic}
      (rest : Course next as p?) : Course (.addHandlers hs next) (.added hs :: as) p?
  | setHandlers {hs : List Handler} {next : Script} {as : List Action} {p? : Option Panic}
      (rest : Course next as p?) : Course (.setHandlers hs next) (.replaced hs :: as) p?
  | remove {next : Bool → Script} {as : List Action} {p? : Option Panic} (won : Bool)
      (rest : Course (next won) as p?) : Course (.remove next) (.removed won :: as) p?
  | note {n : Note} {next : Script} {as : List Action} {p? : Option Panic}
      (rest : Course next as p?) : Course (.note n next) (.noted n :: as) p?
  | log {e : LogEvent} {next : Script} {as : List Action} {p? : Option Panic}
      (rest : Course next as p?) : Course (.log e next) (.logged e :: as) p?

/-- A call of a handler. -/
structure Invocation where
  handler : Handler
  /-- What its script did, the first first. -/
  actions : List Action
  panic? : Option Panic

/-- How many of some calls panicked. -/
def panicked (is : List Invocation) : Nat := is.countP fun i => i.panic?.isSome

namespace Hub

variable {τ : Type}

/-- The hub after an action on behalf of the connection `id`. -/
def afterAction (id : String) (h : Hub τ) : Action → Hub τ
  | .offered f _ => (h.trySend id f).2
  | .asked f => (h.startCall (.toHandle id f)).2
  | .added hs => h.addHandlers id hs
  | .replaced hs => h.setHandlers id hs
  | .removed _ => (h.remove id).2
  | .noted n => h.addNote n
  | .logged e => h.logEvent e

/-- The hub gives the answer that goes with an action. -/
def Answers (id : String) (h : Hub τ) : Action → Prop
  | .offered f sent => (h.trySend id f).1 = sent
  | .removed won => (h.remove id).1 = won
  | _ => True

/-- Actions on behalf of the connection `id`, one after another, lead from one hub to another. -/
inductive Acts (id : String) : Hub τ → List Action → Hub τ → Prop
  | nil (h : Hub τ) : Acts id h [] h
  | cons {h h' : Hub τ} {a : Action} {as : List Action} (answers : h.Answers id a)
      (rest : Acts id (h.afterAction id a) as h') : Acts id h (a :: as) h'

/-- The hub after a handler has returned or panicked, `index` being its place. -/
def afterCall (h : Hub τ) (id : String) (index : Nat) : Option Panic → Hub τ
  | none => h
  | some p =>
    (h.count Metrics.countHandlerPanic).logAbout id .error "Message handler panicked"
      [("handler_index", .number index), ("panic", .text p.detail)]

/-- Handlers of a connection are called with a frame one after another, `index` being the place of
the first of them. -/
inductive Invokes (member : Member) (f : Frame) :
    (index : Nat) → Hub τ → List Invocation → Hub τ → Prop
  | nil (index : Nat) (h : Hub τ) : Invokes member f index h [] h
  | cons {index : Nat} {h h₁ h' : Hub τ} {i : Invocation} {is : List Invocation}
      (course : (i.handler member f).Course i.actions i.panic?)
      (acts : Acts member.id h i.actions h₁)
      (rest : Invokes member f (index + 1) (h₁.afterCall member.id index i.panic?) is h') :
      Invokes member f index h (i :: is) h'

/-! ## What scripts and handlers do -/

/-- What a script does in a hub. -/
def scriptActions (id : String) : Script → Hub τ → List Action
  | .done, _ | .panic _, _ => []
  | .trySend f next, h =>
    .offered f (h.trySend id f).1 ::
      scriptActions id (next (h.trySend id f).1) (h.trySend id f).2
  | .startSend f next, h => .asked f :: scriptActions id next (h.startCall (.toHandle id f)).2
  | .addHandlers hs next, h => .added hs :: scriptActions id next (h.addHandlers id hs)
  | .setHandlers hs next, h => .replaced hs :: scriptActions id next (h.setHandlers id hs)
  | .remove next, h =>
    .removed (h.remove id).1 :: scriptActions id (next (h.remove id).1) (h.remove id).2
  | .note n next, h => .noted n :: scriptActions id next (h.addNote n)
  | .log e next, h => .logged e :: scriptActions id next (h.logEvent e)

/-- The calls of the handlers of a list, `index` being the place of the first of them. -/
def invocations (member : Member) (f : Frame) : (index : Nat) → List Handler → Hub τ →
    List Invocation
  | _, [], _ => []
  | index, handler :: rest, h =>
    { handler
      actions := scriptActions member.id (handler member f) h
      panic? := (runScript member.id (handler member f) h).1 } ::
    invocations member f (index + 1) rest (runHandlers member f index [handler] h)

/-- A script takes a course of its own, in a hub that gives the answers. -/
theorem acts_runScript (id : String) (script : Script) (h : Hub τ) :
    script.Course (scriptActions id script h) (runScript id script h).1 ∧
      Acts id h (scriptActions id script h) (runScript id script h).2 := by
  -- the cases are those of a script: its end, a panic, and what it does before it goes on
  fun_induction scriptActions id script h with
  | case1 h => exact ⟨.done, .nil h⟩
  | case2 p h => exact ⟨.panic p, .nil h⟩
  | case3 f next h ih => exact ⟨.trySend _ ih.1, .cons rfl ih.2⟩
  | case4 f next h ih => exact ⟨.startSend ih.1, .cons trivial ih.2⟩
  | case5 handlers next h ih => exact ⟨.addHandlers ih.1, .cons trivial ih.2⟩
  | case6 handlers next h ih => exact ⟨.setHandlers ih.1, .cons trivial ih.2⟩
  | case7 next h ih => exact ⟨.remove _ ih.1, .cons rfl ih.2⟩
  | case8 n next h ih => exact ⟨.note ih.1, .cons trivial ih.2⟩
  | case9 e next h ih => exact ⟨.log ih.1, .cons trivial ih.2⟩

theorem runHandlers_singleton (member : Member) (f : Frame) (index : Nat) (handler : Handler)
    (h : Hub τ) :
    runHandlers member f index [handler] h =
      (runScript member.id (handler member f) h).2.afterCall member.id index
        (runScript member.id (handler member f) h).1 := by
  rw [runHandlers]
  generalize runScript member.id (handler member f) h = ran
  obtain ⟨panic, h'⟩ := ran
  cases panic <;> rfl

theorem runHandlers_cons (member : Member) (f : Frame) (index : Nat) (handler : Handler)
    (rest : List Handler) (h : Hub τ) :
    runHandlers member f index (handler :: rest) h =
      runHandlers member f (index + 1) rest (runHandlers member f index [handler] h) := by
  rw [runHandlers_singleton, runHandlers]
  generalize runScript member.id (handler member f) h = ran
  obtain ⟨panic, h'⟩ := ran
  cases panic <;> rfl

/-- Every handler of a list is called once, in the order of the list. -/
theorem map_handler_invocations (member : Member) (f : Frame) (index : Nat)
    (handlers : List Handler) (h : Hub τ) :
    (invocations member f index handlers h).map Invocation.handler = handlers := by
  induction handlers generalizing index h with
  | nil => rfl
  | cons handler rest ih => exact congrArg (handler :: ·) (ih _ _)

/-- **Handlers are called one after another**, whatever those before them did. -/
theorem invokes_runHandlers (member : Member) (f : Frame) (index : Nat) (handlers : List Handler)
    (h : Hub τ) :
    Invokes member f index h (invocations member f index handlers h)
      (runHandlers member f index handlers h) := by
  induction handlers generalizing index h with
  | nil => exact .nil index h
  | cons handler rest ih =>
    obtain ⟨hcourse, hacts⟩ := acts_runScript member.id (handler member f) h
    have hrest := ih (index + 1) (runHandlers member f index [handler] h)
    rw [← runHandlers_cons, runHandlers_singleton] at hrest
    rw [invocations, runHandlers_singleton]
    exact .cons hcourse hacts hrest

end Hub

end Switchboard
