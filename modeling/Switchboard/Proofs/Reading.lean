import Switchboard.Proofs.Solo
import Switchboard.Proofs.Lifecycle

/-!
# The rules of reading

A reader waits for items until a deadline. `reading` says what it does with a timed sequence of
items, and knows neither hubs nor turns: the deadline is put off by a pong, and by nothing else; the
reader exits at the deadline if the next item comes after it, and when an item is the end of the
stream, a fault, a close frame, or a data frame that is too long; the other data frames are given to
the handlers.

What is read of a sequence up to some place is known once and for all (`Reached`): the rest is read
from the deadline reached there.
-/

namespace Switchboard

/-- What a reader does that shows outside. -/
inductive ReaderAct where
  /-- It gives a frame to the handlers. -/
  | dispatched (f : Frame)
  /-- It stops, and tears its connection down for a reason, if it has one. -/
  | exited (reason : Option CloseReason)
  deriving DecidableEq, Repr

/-- The frame that the handlers get. -/
def ReaderAct.frame? : ReaderAct → Option Frame
  | .dispatched f => some f
  | .exited _ => none

/-- What a reader makes of an item. -/
inductive Verdict where
  /-- It may give a frame to the handlers, and waits until `deadline` for the next item. -/
  | goOn (given : Option Frame) (deadline : Nat)
  | over (reason : CloseReason)
  deriving DecidableEq, Repr

/-- What a reader that waits until `deadline` makes of an item that comes before. -/
def Arrival.judged (config : SocketConfig) (now deadline : Nat) : Arrival → Verdict
  | .frame f =>
    match f.kind with
    | .pong => .goOn none (now + config.readTimeout)
    | .ping => .goOn none deadline
    | .close => .over .peerClosed
    | .text | .binary =>
      if f.payload.length ≤ config.maxMessageSize then .goOn (some f) deadline
      else .over .frameTooLarge
  | .ended => .over .peerClosed
  | .failed _ => .over .readError
  | .panicked _ => .over .taskFailed
  | .pending => .goOn none deadline

/-- What a reader that waits until `deadline` does until `now` with the items to come. -/
def reading (config : SocketConfig) (now : Nat) :
    (deadline : Nat) → List (Nat × Arrival) → List (Nat × ReaderAct)
  | deadline, [] => if deadline ≤ now then [(deadline, .exited (some .readTimeout))] else []
  | deadline, (t, a) :: rest =>
    if deadline < t then [(deadline, .exited (some .readTimeout))]
    else match a.judged config t deadline with
      | .goOn given next =>
        given.toList.map (fun f => (t, .dispatched f)) ++ reading config now next rest
      | .over reason => [(t, .exited (some reason))]

/-- While a reader waits, no item comes exactly at its deadline. -/
def Untied (config : SocketConfig) : (deadline : Nat) → List (Nat × Arrival) → Prop
  | _, [] => True
  | deadline, (t, a) :: rest => t ≠ deadline ∧ (t < deadline →
    match a.judged config t deadline with
    | .goOn _ next => Untied config next rest
    | .over _ => True)

instance Untied.decidable (config : SocketConfig) :
    (deadline : Nat) → (items : List (Nat × Arrival)) → Decidable (Untied config deadline items)
  | _, [] => .isTrue trivial
  | deadline, (t, a) :: rest =>
    have : Decidable (match a.judged config t deadline with
        | .goOn _ next => Untied config next rest
        | .over _ => True) :=
      match a.judged config t deadline with
      | .goOn _ next => Untied.decidable config next rest
      | .over _ => .isTrue trivial
    inferInstanceAs (Decidable (t ≠ deadline ∧ (t < deadline → _)))

section Rules

variable {config : SocketConfig} {start deadline next now t : Nat} {a : Arrival}
  {items seen rest : List (Nat × Arrival)} {acts : List (Nat × ReaderAct)} {given : Option Frame}
  {reason : CloseReason}

theorem reading_goOn (htime : t ≤ deadline)
    (hjudged : a.judged config t deadline = .goOn given next) (now : Nat)
    (rest : List (Nat × Arrival)) :
    reading config now deadline ((t, a) :: rest) =
      given.toList.map (fun f => (t, .dispatched f)) ++ reading config now next rest := by
  rw [reading, if_neg (Nat.not_lt_of_le htime), hjudged]

theorem reading_over (htime : t ≤ deadline) (hjudged : a.judged config t deadline = .over reason)
    (now : Nat) (rest : List (Nat × Arrival)) :
    reading config now deadline ((t, a) :: rest) = [(t, .exited (some reason))] := by
  rw [reading, if_neg (Nat.not_lt_of_le htime), hjudged]

/-- A reader that has nothing to read at its deadline exits. -/
theorem reading_late (hnow : deadline ≤ now) (huntied : Untied config deadline rest)
    (hrest : ∀ x ∈ rest, deadline ≤ x.1) :
    reading config now deadline rest = [(deadline, .exited (some .readTimeout))] := by
  cases rest with
  | nil => rw [reading, if_pos hnow]
  | cons x rest =>
    obtain ⟨t, a⟩ := x
    have hlater : deadline < t :=
      Nat.lt_of_le_of_ne (hrest _ List.mem_cons_self) huntied.1.symm
    rw [reading, if_pos hlater]

/-- Where a reader goes on, a pong puts off its deadline, and nothing else does. -/
theorem Arrival.next_of_judged (hjudged : a.judged config t deadline = .goOn given next) :
    (∃ f, a = .frame f ∧ f.kind = .pong) ∧ next = t + config.readTimeout ∨
      (∀ f, a = .frame f → f.kind ≠ .pong) ∧ next = deadline := by
  unfold Arrival.judged at hjudged
  split at hjudged
  · rename_i f
    split at hjudged
    · rename_i hkind
      cases hjudged
      exact .inl ⟨⟨f, rfl, hkind⟩, rfl⟩
    · rename_i hkind
      cases hjudged
      exact .inr ⟨fun g hg => by cases hg; simp [hkind], rfl⟩
    · cases hjudged
    all_goals
      rename_i hkind
      split at hjudged
      · cases hjudged
        exact .inr ⟨fun g hg => by cases hg; simp [hkind], rfl⟩
      · cases hjudged
  · cases hjudged
  · cases hjudged
  · cases hjudged
  · cases hjudged
    exact .inr ⟨fun g hg => (by cases hg), rfl⟩

/-- No item makes a reader time out. -/
theorem Arrival.ne_readTimeout_of_judged (hjudged : a.judged config t deadline = .over reason) :
    reason ≠ .readTimeout := by
  rintro rfl
  unfold Arrival.judged at hjudged
  repeat' (split at hjudged)
  all_goals cases hjudged

/-- **A reader times out no sooner than its read timeout after a pong.** Let items come in the order
of their instants. If a reader exits at `exit` for want of a sign of life, then every pong comes
after that, or came at least the read timeout before. -/
theorem le_exit_of_timedOut {exit : Nat} (hsorted : items.Pairwise (·.1 ≤ ·.1))
    (hstart : ∀ x ∈ items, start ≤ x.1 + config.readTimeout)
    (hexit : (reading config now start items).getLast? =
      some (exit, .exited (some .readTimeout))) :
    start ≤ exit ∧ ∀ x ∈ items, ∀ f, x.2 = .frame f → f.kind = .pong →
      exit < x.1 ∨ x.1 + config.readTimeout ≤ exit := by
  induction items generalizing start with
  | nil =>
    rw [reading] at hexit
    split at hexit
    · cases hexit
      exact ⟨Nat.le_refl _, fun x hx => absurd hx List.not_mem_nil⟩
    · cases hexit
  | cons item rest ih =>
    obtain ⟨t, a⟩ := item
    obtain ⟨hlater, hrests⟩ := List.pairwise_cons.mp hsorted
    by_cases hlate : start < t
    · -- the deadline passes before the item comes, and so before all later ones
      rw [reading, if_pos hlate] at hexit
      cases hexit
      refine ⟨Nat.le_refl _, fun x hx f _ _ => .inl ?_⟩
      rcases List.mem_cons.mp hx with rfl | hx
      · exact hlate
      · exact Nat.lt_of_lt_of_le hlate (hlater x hx)
    · have htime : t ≤ start := Nat.le_of_not_lt hlate
      match hjudged : a.judged config t start with
      | .over reason =>
        rw [reading_over htime hjudged] at hexit
        cases hexit
        exact absurd rfl (Arrival.ne_readTimeout_of_judged hjudged)
      | .goOn given next =>
        rw [reading_goOn htime hjudged] at hexit
        have hrest : (reading config now next rest).getLast? =
            some (exit, .exited (some .readTimeout)) := by
          rw [List.getLast?_append] at hexit
          cases hthen : (reading config now next rest).getLast? with
          | some last => rwa [hthen] at hexit
          | none =>
            -- what is given to the handlers is no exit
            rw [hthen] at hexit
            cases given <;> cases hexit
        rcases Arrival.next_of_judged hjudged with ⟨⟨f, rfl, hkind⟩, rfl⟩ | ⟨hother, rfl⟩
        · obtain ⟨hfirst, hthen⟩ := ih hrests
            (fun x hx => Nat.add_le_add_right (hlater x hx) _) hrest
          have hhead := hstart _ List.mem_cons_self
          refine ⟨Nat.le_trans hhead hfirst, fun x hx g hg hpong => ?_⟩
          rcases List.mem_cons.mp hx with rfl | hx
          · exact .inr hfirst
          · exact hthen x hx g hg hpong
        · obtain ⟨hfirst, hthen⟩ := ih hrests
            (fun x hx => hstart x (List.mem_cons_of_mem _ hx)) hrest
          refine ⟨hfirst, fun x hx g hg hpong => ?_⟩
          rcases List.mem_cons.mp hx with rfl | hx
          · exact absurd hpong (hother g hg)
          · exact hthen x hx g hg hpong

/-- A reader that has nothing to read before its deadline waits. -/
theorem reading_early (hnow : now < deadline) : reading config now deadline [] = [] := by
  rw [reading, if_neg (Nat.not_le_of_lt hnow)]

/-- A reader that waited until `start` and has read the items `seen` has done `acts`, and waits
until `deadline`. -/
structure Reached (config : SocketConfig) (start : Nat) (seen : List (Nat × Arrival))
    (acts : List (Nat × ReaderAct)) (deadline : Nat) : Prop where
  reading_eq : ∀ now rest,
    reading config now start (seen ++ rest) = acts ++ reading config now deadline rest
  untied : ∀ rest, Untied config start (seen ++ rest) → Untied config deadline rest
  dispatches : ∀ x ∈ acts, ∃ f, x.2 = .dispatched f

namespace Reached

theorem nil (config : SocketConfig) (start : Nat) : Reached config start [] [] start where
  reading_eq _ _ := rfl
  untied _ huntied := huntied
  dispatches _ hx := absurd hx List.not_mem_nil

/-- Another item is read with which the reader goes on. -/
theorem goOn (reached : Reached config start seen acts deadline) (htime : t ≤ deadline)
    (hjudged : a.judged config t deadline = .goOn given next) :
    Reached config start (seen ++ [(t, a)])
      (acts ++ given.toList.map fun f => (t, .dispatched f)) next where
  reading_eq now rest := by
    rw [List.append_assoc, reached.reading_eq, List.singleton_append, reading_goOn htime hjudged,
      List.append_assoc]
  untied rest huntied := by
    rw [List.append_assoc] at huntied
    obtain ⟨hne, hthen⟩ := reached.untied _ huntied
    have hrest := hthen (Nat.lt_of_le_of_ne htime hne)
    rwa [hjudged] at hrest
  dispatches x hx := by
    rcases List.mem_append.mp hx with hx | hx
    · exact reached.dispatches x hx
    · obtain ⟨f, -, rfl⟩ := List.mem_map.mp hx
      exact ⟨f, rfl⟩

theorem among (reached : Reached config start seen acts deadline) (now : Nat)
    (rest : List (Nat × Arrival)) : acts <+: reading config now start (seen ++ rest) :=
  ⟨_, (reached.reading_eq now rest).symm⟩

end Reached

end Rules

/-! ## Turns of a reader keep the rules -/

namespace Connection

variable {τ : Type} [Transport τ] {now deadline : Nat} {config : SocketConfig} {c : Connection τ}
  {a : Arrival} {reason : CloseReason}

/-- What arrives ends a connection, or its reader goes on: by the rules in either case. -/
theorem takeArrival_judged (now : Nat) (config : SocketConfig)
    (hreading : c.reader = .reading deadline) (harrived : a ≠ .pending) :
    (∃ next, a.judged config now deadline = .goOn (forHandlers? config a) next ∧
      (∃ f, a = .frame f) ∧ c.takeArrival now config deadline a =
        { conn := { c with reader := .reading next }, again := true }) ∨
    ∃ reason, a.judged config now deadline = .over reason ∧ forHandlers? config a = none ∧
      c.takeArrival now config deadline a = c.failReader now reason := by
  have hsame : { c with reader := .reading deadline } = c := by rw [← hreading]
  cases a with
  | frame f =>
    cases hkind : f.kind with
    | pong =>
      refine .inl ⟨now + config.readTimeout, ?_, ⟨f, rfl⟩, ?_⟩
      · simp [Arrival.judged, forHandlers?, hkind, FrameKind.isData]
      · simp [takeArrival, takeFrame, hkind]
    | ping =>
      refine .inl ⟨deadline, ?_, ⟨f, rfl⟩, ?_⟩
      · simp [Arrival.judged, forHandlers?, hkind, FrameKind.isData]
      · simp [takeArrival, takeFrame, hkind, hsame]
    | close =>
      refine .inr ⟨.peerClosed, ?_, ?_, ?_⟩
      · simp [Arrival.judged, hkind]
      · simp [forHandlers?, hkind, FrameKind.isData]
      · simp [takeArrival, takeFrame, hkind]
    | text | binary =>
      -- both kinds of data are treated alike
      by_cases hfits : f.payload.length ≤ config.maxMessageSize
      · refine .inl ⟨deadline, ?_, ⟨f, rfl⟩, ?_⟩
        · simp [Arrival.judged, forHandlers?, hkind, FrameKind.isData, hfits]
        · simp [takeArrival, takeFrame, hkind, hsame, Nat.not_lt_of_le hfits]
      · refine .inr ⟨.frameTooLarge, ?_, ?_, ?_⟩
        · simp [Arrival.judged, hkind, hfits]
        · simp [forHandlers?, hkind, FrameKind.isData, hfits]
        · simp [takeArrival, takeFrame, hkind, Nat.lt_of_not_le hfits]
  | ended => exact .inr ⟨.peerClosed, rfl, rfl, rfl⟩
  | failed e => exact .inr ⟨.readError, rfl, rfl, rfl⟩
  | panicked p => exact .inr ⟨.taskFailed, rfl, rfl, rfl⟩
  | pending => exact absurd rfl harrived

/-- What the reader of a connection does in a turn that shows outside. -/
def readerAct? (now : Nat) (config : SocketConfig) (c : Connection τ) : Option ReaderAct :=
  match c.dispatched? now config with
  | some f => some (.dispatched f)
  | none =>
    if c.reader ≠ .stopped ∧ (c.readerTurn now config).conn.reader = .stopped then
      some (.exited (((c.readerTurn now config).news.filterMap Happening.closure?).head?.map
        Prod.snd))
    else none

theorem taken?_of_reading (halive : c.alive = true) (hreading : c.reader = .reading deadline) :
    c.taken? now = some (Transport.receive now c.link).1 := by
  rw [taken?, hreading]
  exact if_pos halive

theorem dispatched?_of_reading (halive : c.alive = true) (hreading : c.reader = .reading deadline) :
    c.dispatched? now config = forHandlers? config (Transport.receive now c.link).1 := by
  rw [dispatched?, taken?_of_reading halive hreading]
  rfl

/-- A dead connection gives nothing to its handlers. -/
theorem dispatched?_of_dead (hdead : c.alive = false) : c.dispatched? now config = none := by
  rw [dispatched?, taken?]
  split
  · rw [hdead]
    rfl
  · rfl

/-- The reader of a dead connection stops, or has still to start, or has stopped. -/
theorem readerTurn_of_dead (now : Nat) (config : SocketConfig) (hdead : c.alive = false) :
    (c.readerTurn now config).conn.alive = false ∧
      (c.readerAct? now config = none ∧
          ((c.readerTurn now config).conn.reader = .stopped ↔ c.reader = .stopped) ∨
        c.readerAct? now config = some (.exited none) ∧ c.reader ≠ .stopped ∧
          (c.readerTurn now config).conn.reader = .stopped) := by
  have hnone : c.dispatched? now config = none := dispatched?_of_dead hdead
  cases hphase : c.reader with
  | starting =>
    have hturn : c.readerTurn now config =
        { conn := { c with reader := .reading (now + config.readTimeout) }, again := true } := by
      rw [readerTurn, hphase]
    rw [readerAct?, hnone, hturn]
    exact ⟨hdead, .inl ⟨if_neg (by simp), by simp⟩⟩
  | reading deadline =>
    have hturn : c.readerTurn now config = { conn := c.stopReader now } := by
      rw [readerTurn, hphase]
      exact if_pos (by simp [hdead])
    rw [readerAct?, hnone, hturn]
    exact ⟨hdead, .inr ⟨if_pos ⟨by simp [hphase], rfl⟩, by simp, rfl⟩⟩
  | stopped =>
    have hturn : c.readerTurn now config = { conn := c } := by
      rw [readerTurn, hphase]
    rw [readerAct?, hnone, hturn]
    exact ⟨hdead, .inl ⟨if_neg (fun h => h.1 hphase), by simp [hphase]⟩⟩

theorem readerAct?_of_failReader {link : τ} (halive : c.alive = true) (hreads : c.reader ≠ .stopped)
    (hnone : c.dispatched? now config = none)
    (hturn : c.readerTurn now config = ({ c with link } : Connection τ).failReader now reason) :
    c.readerAct? now config = some (.exited (some reason)) := by
  have hstopped : (({ c with link } : Connection τ).stopReader now).alive = true := halive
  rw [readerAct?, hnone, hturn, failReader, torn_of_alive hstopped]
  exact if_pos ⟨hreads, rfl⟩

end Connection

end Switchboard
