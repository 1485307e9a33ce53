import Switchboard.Proofs.CloseReason
import Switchboard.Proofs.Stories

/-!
# The fate of frames

A copy of a frame that is offered to a connection can be counted as dropped at five places of the
code. `Hub.Fates` says what the counter comes to and what becomes of a copy that is not counted, in
terms of the book of a run (`book`); `every_copy_has_one_fate` says that this holds in every run.

## Shape of the proof

Most of it is the balance of the book (`Run.balances`) and the stories of sends (`Run.story`). What
is left is the last part of the way: which of the frames that were handed over to a link were
completely written. `Connection.Flight` says by the phase of the writer that at most one was not,
and `Hub.wrote_step` that events keep it so.
-/

namespace Switchboard

/-! ## What is in flight -/

/-- What a handover to the link of a connection takes from the outbox, if it is one: a frame, or
nothing. -/
def Happening.handing? (id : String) : Happening → Option (Option Frame)
  | .handed target f cause =>
    if target = id then some (if cause = .queued then some f else none) else none
  | _ => none

/-- The frame of the outbox that was handed over to the link of a connection last, unless it was
something else that was. -/
def current? (id : String) (history : List Happening) : Option Frame :=
  (history.findSome? (Happening.handing? id)).join

section Histories

variable {id : String} {x : Happening} {news history : List Happening}

theorem handover?_of_handing?_none (hx : x.handing? id = none) : x.handover? id = none := by
  cases x with
  | handed target f cause =>
    have hne : target ≠ id := fun heq => by simp [Happening.handing?, heq] at hx
    cases cause <;> simp [Happening.handover?, hne]
  | entered | closed | removal => rfl

theorem handed_append_of_none (hnews : ∀ x ∈ news, x.handing? id = none)
    (history : List Happening) : handed id (news ++ history) = handed id history := by
  induction news with
  | nil => rfl
  | cons x rest ih =>
    rw [List.cons_append, handed_of_handover?_none
      (handover?_of_handing?_none (hnews x List.mem_cons_self)),
      ih fun y hy => hnews y (List.mem_cons_of_mem _ hy)]

theorem current?_append_of_none (hnews : ∀ x ∈ news, x.handing? id = none)
    (history : List Happening) : current? id (news ++ history) = current? id history := by
  rw [current?, List.findSome?_append, List.findSome?_eq_none_iff.mpr hnews, Option.none_or]
  rfl

/-- What is handed over from the outbox is current then. -/
theorem handed_cons_current (id : String) (f : Frame) (cause : Cause) (history : List Happening) :
    handed id (.handed id f cause :: history) =
      handed id history ++ (current? id (.handed id f cause :: history)).toList := by
  rw [handed_cons, current?, List.findSome?_cons]
  cases cause <;> simp [Happening.handing?, Happening.handover?]

end Histories

namespace Connection

variable {τ : Type} {history news : List Happening} {w : List Frame} {c : Connection τ}

/-- The frames of the outbox that were handed over to the link are those that were completely
written, and at most one more: the one that is being written, or one that was when the writer
stopped, and with it the connection was torn down. -/
def Flight (history : List Happening) (w : List Frame) (c : Connection τ) : Prop :=
  match c.writer with
  | .sending _ _ => handed c.id history = w ++ (current? c.id history).toList
  | .stopped => handed c.id history = w ∨ c.alive = false ∧ ∃ f, handed c.id history = w ++ [f]
  | .starting | .idle | .sendingClose _ | .closingSink _ => handed c.id history = w

theorem flight_of_settled (hsettled : handed c.id history = w)
    (hno : ∀ kind limit, c.writer ≠ .sending kind limit) : c.Flight history w := by
  rw [Flight]
  split
  · rename_i kind limit hwriter
    exact absurd hwriter (hno kind limit)
  · exact .inl hsettled
  all_goals exact hsettled

/-- What has no part in handing over does not show. -/
theorem Flight.of_same {c' : Connection τ} (flight : c.Flight history w)
    (hmember : c'.member = c.member) (hwriter : c'.writer = c.writer)
    (halive : c'.alive = true → c.alive = true) (hnews : ∀ x ∈ news, x.handing? c.id = none) :
    c'.Flight (news ++ history) w := by
  have hid : c'.id = c.id := congrArg Member.id hmember
  rw [Flight] at flight ⊢
  rw [hwriter, hid, handed_append_of_none hnews, current?_append_of_none hnews]
  cases hphase : c.writer with
  | stopped =>
    rw [hphase] at flight
    refine flight.imp_right fun ⟨hdead, hmore⟩ => ⟨?_, hmore⟩
    by_contra hlives
    rw [halive (by simpa using hlives)] at hdead
    cases hdead
  | starting | idle | sending | sendingClose | closingSink =>
    rw [hphase] at flight
    exact flight

variable [Transport τ] {now limit : Nat} {config : SocketConfig} {kind : FrameKind} {p : Progress}

/-- Whether a frame is completely written in a turn of the writer. -/
def completes (now : Nat) (config : SocketConfig) (c : Connection τ) : Bool :=
  match c.written? now config with
  | some (.done, _) => true
  | _ => false

theorem completes_of_written (hwritten : c.written? now config = some (p, limit)) :
    c.completes now config = (p = .done) := by
  rw [completes, hwritten]
  cases p <;> simp

/-- The writer has begun or gone on to write what was handed over last. -/
theorem flight_afterSend (c : Connection τ) (kind : FrameKind) (limit : Nat) (p : Progress)
    (hw : handed c.id history = w ++ (current? c.id history).toList) :
    (c.afterSend now kind limit p).conn.Flight ((c.afterSend now kind limit p).news ++ history)
      (w ++ if p = .done then (current? c.id history).toList else []) := by
  have hnews : ∀ x ∈ (c.afterSend now kind limit p).news, x.handing? c.id = none := fun x hx => by
    obtain ⟨reason, rfl⟩ := closed_of_mem_afterSend hx
    rfl
  -- a fault stops the writer and leaves the connection dead
  have hfault : ∀ {reason : CloseReason}, WriteFault (limit ≤ now) p reason → p ≠ .done →
      (c.afterSend now kind limit p).conn.Flight ((c.afterSend now kind limit p).news ++ history)
        (w ++ if p = .done then (current? c.id history).toList else []) := by
    intro reason fault hp
    have hconn : (c.afterSend now kind limit p).conn =
        { c.stopWriter now with alive := false } := by
      rw [afterSend_of_fault fault, failWriter, conn_torn]
    have hhanded := (handed_append_of_none hnews history).trans hw
    rw [hconn, if_neg hp, List.append_nil]
    cases hcurrent : current? c.id history with
    | none =>
      rw [hcurrent, Option.toList_none, List.append_nil] at hhanded
      exact .inl hhanded
    | some f =>
      rw [hcurrent] at hhanded
      exact .inr ⟨rfl, f, hhanded⟩
  cases p with
  | done => exact flight_of_settled hw (by simp [afterSend])
  | failed e => exact hfault (.failed e) (by simp)
  | panicked e => exact hfault (.panicked e) (by simp)
  | pending =>
    by_cases hlate : limit ≤ now
    · exact hfault (.timedOut hlate) (by simp)
    · rw [afterSend, if_neg hlate, if_neg (by simp), List.append_nil]
      exact hw

/-- The writer has nothing to do any more but to close the sink. -/
structure Quits (c : Connection τ) (r : Turned τ) : Prop where
  member_eq : r.conn.member = c.member
  waits : ∀ kind limit, r.conn.writer ≠ .sending kind limit
  news : ∀ x ∈ r.news, ∃ reason, x = .closed c.id reason

theorem quits_finishClose (now : Nat) (c : Connection τ) (limit : Nat) {wait : WriterPhase}
    (hwait : ∀ kind limit, wait ≠ .sending kind limit) (p : Progress) :
    c.Quits (c.finishClose now limit wait p) := by
  have hstop : c.Quits { conn := c.stopWriter now } :=
    ⟨rfl, by simp [stopWriter], fun _ hx => absurd hx List.not_mem_nil⟩
  cases p with
  | done | failed e => exact hstop
  | panicked e =>
    refine ⟨?_, ?_, fun x hx => ⟨_, closed_of_mem_torn (c := c.stopWriter now) hx⟩⟩
    · rw [finishClose, failWriter, conn_torn]
      rfl
    · rw [finishClose, failWriter, conn_torn]
      exact hstop.waits
  | pending =>
    rw [finishClose]
    split
    · exact hstop
    · exact ⟨rfl, hwait, fun _ hx => absurd hx List.not_mem_nil⟩

theorem quits_closeSink (now : Nat) (c : Connection τ) (limit : Nat) :
    c.Quits (c.closeSink now limit) := by
  have hwait : ∀ kind until_, WriterPhase.closingSink limit ≠ .sending kind until_ := by simp
  have quits := quits_finishClose now { c with link := (Transport.close now c.link).2 } limit hwait
    (Transport.close now c.link).1
  exact ⟨quits.member_eq, quits.waits, quits.news⟩

theorem quits_afterCloseFrame (now : Nat) (c : Connection τ) (limit : Nat) (p : Progress) :
    c.Quits (c.afterCloseFrame now limit p) := by
  have hwait : ∀ kind until_, WriterPhase.sendingClose limit ≠ .sending kind until_ := by simp
  cases p with
  | done => exact quits_closeSink now c limit
  | failed e => exact quits_finishClose now c limit hwait (.failed e)
  | panicked e => exact quits_finishClose now c limit hwait (.panicked e)
  | pending => exact quits_finishClose now c limit hwait .pending

omit [Transport τ] in
theorem Quits.flight {r : Turned τ} (quits : c.Quits r) (hsettled : handed c.id history = w) :
    r.conn.Flight (r.news ++ history) w := by
  have hid : r.conn.id = c.id := congrArg Member.id quits.member_eq
  refine flight_of_settled ?_ quits.waits
  rw [hid, handed_append_of_none, hsettled]
  intro x hx
  obtain ⟨reason, rfl⟩ := quits.news x hx
  rfl

/-- The writer hands a frame over, or goes on to, and the link says how far that has come. -/
theorem flight_written (c' : Connection τ) (kind : FrameKind) (before : List Happening)
    (hid : c'.id = c.id)
    (hwritten : c.written? now config = some (p, limit))
    (hw : handed c.id (before ++ history) = w ++ (current? c.id (before ++ history)).toList) :
    ((c'.afterSend now kind limit p).after before).conn.Flight
      (((c'.afterSend now kind limit p).after before).news ++ history)
      (w ++ if c.completes now config then (current? c.id
        (((c'.afterSend now kind limit p).after before).news ++ history)).toList else []) := by
  have hnews : ∀ x ∈ (c'.afterSend now kind limit p).news, x.handing? c.id = none := fun x hx => by
    obtain ⟨reason, rfl⟩ := closed_of_mem_afterSend hx
    rfl
  rw [← hid] at hw hnews ⊢
  rw [Turned.after, List.append_assoc, current?_append_of_none hnews]
  simp only [completes_of_written hwritten]
  exact flight_afterSend c' kind limit p hw

/-- A turn in which nothing is written adds nothing. -/
theorem Flight.of_written_none {r : Turned τ} (flight : r.conn.Flight (r.news ++ history) w)
    (hnone : c.written? now config = none) :
    r.conn.Flight (r.news ++ history) (w ++ if c.completes now config then
      (current? c.id (r.news ++ history)).toList else []) := by
  have hno : c.completes now config = false := by rw [completes, hnone]
  rw [hno, if_neg Bool.false_ne_true, List.append_nil]
  exact flight

/-- The idle writer of a living connection begins to write, or does nothing. -/
theorem flight_of_idle_alive (now : Nat) (config : SocketConfig) (hidle : c.writer = .idle)
    (halive : c.alive = true) (hsettled : handed c.id history = w) :
    (c.writerTurn now config).conn.Flight ((c.writerTurn now config).news ++ history)
      (w ++ if c.completes now config then
        (current? c.id ((c.writerTurn now config).news ++ history)).toList else []) := by
  have keeps := keepsReader_writerTurn now config c
  have hid : (c.writerTurn now config).conn.id = c.id := congrArg Member.id keeps.member_eq
  have tries := tries_writerTurn now config halive (by rw [Writing, hidle]; trivial)
  generalize c.writerTurn now config = r at hid tries
  cases tries with
  | nothing none quiet waits =>
    refine .of_written_none (flight_of_settled ?_ waits) none
    rw [quiet, hid]
    exact hsettled
  | @begins c' f cause p written same alive =>
    refine flight_written c' f.kind [.handed c.id f cause] same written ?_
    have hhanded := handed_cons_current c.id f cause history
    rwa [hsettled] at hhanded
  | goesOn written sending same alive =>
    rw [hidle] at sending
    cases sending

/-- The idle writer of a dead connection hands over the closing frame. -/
theorem flight_of_idle_dead (now : Nat) (config : SocketConfig) (hidle : c.writer = .idle)
    (hdead : ¬ c.alive = true) (hsettled : handed c.id history = w) :
    (c.writerTurn now config).conn.Flight ((c.writerTurn now config).news ++ history)
      (w ++ if c.completes now config then
        (current? c.id ((c.writerTurn now config).news ++ history)).toList else []) := by
  have hfarewell : c.writerTurn now config = (({ c with
      link := (Transport.send now .close c.link).2 } : Connection τ).afterCloseFrame now
        (now + config.writeTimeout) (Transport.send now .close c.link).1).after
          [.handed c.id .close .farewell] := by
    rw [Connection.writerTurn, hidle]
    exact if_pos (by simpa using hdead)
  have quits := quits_afterCloseFrame now
    { c with link := (Transport.send now .close c.link).2 } (now + config.writeTimeout)
    (Transport.send now .close c.link).1
  have hhanded : handed c.id (.handed c.id .close .farewell :: history) = w :=
    (handed_of_handover?_none rfl history).trans hsettled
  rw [hfarewell]
  refine .of_written_none ?_ ?_
  · rw [Turned.after, List.append_assoc]
    exact quits.flight hhanded
  · rw [written?, hidle]
    exact if_neg hdead

/-- **A turn of the writer** keeps at most one frame in flight. -/
theorem Flight.writerTurn (flight : c.Flight history w) (now : Nat) (config : SocketConfig) :
    (c.writerTurn now config).conn.Flight ((c.writerTurn now config).news ++ history)
      (w ++ if c.completes now config then
        (current? c.id ((c.writerTurn now config).news ++ history)).toList else []) := by
  rw [Flight] at flight
  cases hphase : c.writer with
  | stopped =>
    have hsame : c.writerTurn now config = { conn := c } := by rw [Connection.writerTurn, hphase]
    rw [hphase] at flight
    rw [hsame]
    refine .of_written_none ?_ (by rw [written?, hphase])
    rw [Connection.Flight, hphase]
    exact flight
  | starting =>
    rw [hphase] at flight
    rw [Connection.writerTurn, hphase]
    exact .of_written_none flight (by rw [written?, hphase])
  | sending kind limit =>
    rw [hphase] at flight
    rw [Connection.writerTurn, hphase]
    have hwritten : c.written? now config = some ((Transport.resume now c.link).1, limit) := by
      rw [written?, hphase]
    have hid : ({ c with link := (Transport.resume now c.link).2 } : Connection τ).id = c.id := rfl
    have hflight := flight_written _ kind [] hid hwritten flight
    rw [Turned.after, List.append_nil] at hflight
    exact hflight
  | sendingClose limit =>
    rw [hphase] at flight
    rw [Connection.writerTurn, hphase]
    have quits := quits_afterCloseFrame now { c with link := (Transport.resume now c.link).2 } limit
      (Transport.resume now c.link).1
    exact .of_written_none (quits.flight flight) (by rw [written?, hphase])
  | closingSink limit =>
    rw [hphase] at flight
    rw [Connection.writerTurn, hphase]
    exact .of_written_none ((quits_closeSink now c limit).flight flight) (by rw [written?, hphase])
  | idle =>
    rw [hphase] at flight
    by_cases halive : c.alive = true
    · exact flight_of_idle_alive now config hphase halive flight
    · exact flight_of_idle_dead now config hphase halive flight

end Connection

namespace Hub

variable {τ : Type} [Transport τ] {h h' : Hub τ} {id : String} {c : Connection τ} {w : List Frame}
  {e : Event τ}

/-- The frame of the outbox that the writer of a connection completely writes in an event, if it
does. -/
def writes? (id : String) (h : Hub τ) : Event τ → Option Frame
  | .turn (.writer d) roomFirst =>
    if d = id && (h.find? id).any (Connection.completes h.now h.config) then
      current? id (h.step (.turn (.writer d) roomFirst)).history
    else none
  | _ => none

theorem writes?_of_not_turn (hturn : ¬ e.IsTurnOf id) (h : Hub τ) : h.writes? id e = none := by
  cases e with
  | turn t roomFirst =>
    cases t with
    | writer d =>
      have hd : d ≠ id := hturn
      simp [writes?, hd]
    | reader d => rfl
    | call n => rfl
  | _ => rfl

/-- The frames `w` are those of the outbox that were completely written to the link of the
connection `id`. -/
structure Wrote (id : String) (w : List Frame) (h : Hub τ) : Prop where
  absent : h.find? id = none → w = []
  flight : ∀ c, h.find? id = some c → c.Flight h.history w

omit [Transport τ] in
theorem Wrote.of_flight (hc : h.find? id = some c) (flight : c.Flight h.history w) :
    Wrote id w h where
  absent hnone := by
    rw [hc] at hnone
    cases hnone
  flight c' hc' := by
    obtain rfl := Option.some.inj (hc.symm.trans hc')
    exact flight

omit [Transport τ] in
theorem Spares.wrote (spares : Spares id h h') (hc : h.find? id = some c)
    (flight : c.Flight h.history w) : Wrote id w h' := by
  obtain ⟨c', hc', steady, -⟩ := spares.conn c hc
  obtain rfl := id_of_find? hc
  obtain ⟨news, heq, hnews⟩ := spares.history
  refine .of_flight hc' ?_
  rw [heq]
  refine flight.of_same steady.member_eq steady.writer_eq steady.alive_of fun x hx => ?_
  cases x with
  | handed d f cause =>
    refine if_neg fun hd => ?_
    have houtside := hnews _ hx hd
    cases houtside
  | entered | closed | removal => rfl

theorem Moves.flight_reader (moves : Moves id (.reader id) (c.readerTurn h.now h.config) h h')
    (flight : c.Flight h.history w) :
    (c.readerTurn h.now h.config).conn.Flight h'.history w := by
  have keeps := Connection.keepsWriter_readerTurn h.now h.config c
  rw [moves.history_eq]
  refine flight.of_same keeps.member_eq keeps.writer_eq keeps.alive_of fun x hx => ?_
  obtain ⟨reason, rfl⟩ := keeps.news x hx
  rfl

/-- What an event makes of what is in flight. -/
theorem wrote_step (hallowed : e.Allowed h) (flows : h.ledger.Flows id) (wrote : Wrote id w h) :
    Wrote id (w ++ (h.writes? id e).toList) (h.step e) := by
  -- only a turn of its writer writes anything
  have hquiet : h.writes? id e = none → Wrote id w (h.step e) →
      Wrote id (w ++ (h.writes? id e).toList) (h.step e) := fun hnone hwrote => by
    rwa [hnone, Option.toList_none, List.append_nil]
  cases passage_step id hallowed with
  | absent fresh gone =>
    have hnone : h.writes? id e = none := by
      by_cases hturn : e.IsTurnOf id
      · rcases isTurnOf_cases hturn with ⟨roomFirst, rfl⟩ | ⟨roomFirst, rfl⟩
        · simp [writes?, fresh]
        · rfl
      · exact writes?_of_not_turn hturn h
    refine hquiet hnone ⟨fun _ => wrote.absent fresh, fun c hc => ?_⟩
    rw [gone] at hc
    cases hc
  | opened fresh opens =>
    have hidle : h.ledger.outbox? id = none := by
      rw [Ledger.outbox?, find?_ledger, fresh]
      rfl
    have hhanded : handed id h.history = [] := (flows.idle hidle).2
    refine hquiet rfl (.of_flight opens.find?_self ?_)
    rw [opens.history_eq, wrote.absent fresh]
    exact hhanded
  | @writer _ c roomFirst found moves again =>
    have hflight := (wrote.flight c found).writerTurn h.now h.config
    have hwrites : h.writes? id (.turn (.writer id) roomFirst) =
        if c.completes h.now h.config then
          current? id (h.step (.turn (.writer id) roomFirst)).history else none := by
      simp [writes?, found]
    refine .of_flight moves.find?_self ?_
    obtain rfl := id_of_find? found
    rw [hwrites, moves.history_eq]
    cases hcompletes : c.completes h.now h.config with
    | true =>
      rw [hcompletes] at hflight
      exact hflight
    | false =>
      rw [hcompletes] at hflight
      exact hflight
  | @reader h' _ c roomFirst found moves spares again =>
    exact hquiet rfl (spares.wrote moves.find?_self (moves.flight_reader (wrote.flight c found)))
  | @pass c now wallClock found =>
    have hhistory : (h.step (.pass now wallClock)).history = h.history := history_moveClock h now
    have hfind : (h.step (.pass now wallClock)).find? id = h.find? id := find?_moveClock h now id
    refine hquiet rfl (.of_flight (hfind.trans found) ?_)
    rw [hhistory]
    exact wrote.flight c found
  | @spared _ _ c found outside spares =>
    exact hquiet (writes?_of_not_turn outside h) (spares.wrote found (wrote.flight c found))

end Hub

/-- The frames of the outbox of a connection that were completely written in a run, the first
first. -/
def written {τ : Type} [Transport τ] (id : String) : Hub τ → List (Event τ) → List Frame
  | _, [] => []
  | h, e :: es => (h.writes? id e).toList ++ written id (h.step e) es

section Runs

variable {τ : Type} [Transport τ] {config : SocketConfig} {origins : OriginPolicy}
  {handlers : List Handler} {now wallClock : Nat} {h : Hub τ} {es : List (Event τ)} {b : List Entry}

theorem written_snoc (id : String) (h : Hub τ) (es : List (Event τ)) (e : Event τ) :
    written id h (es ++ [e]) =
      written id h es ++ ((es.foldl Hub.step h).writes? id e).toList := by
  induction es generalizing h with
  | nil => simp [written]
  | cons e' rest ih => simp [written, ih]

theorem Run.wrote (run : Run (Hub.initial config origins handlers now wallClock) es h)
    (id : String) :
    h.Wrote id (written id (Hub.initial config origins handlers now wallClock) es) := by
  refine run.induct_end (P := fun es h => h.Wrote id (written id _ es))
    ⟨fun _ => rfl, fun c hc => by cases hc⟩ ?_
  intro es h e run hallowed wrote
  rw [written_snoc, ← run.eq_foldl]
  exact Hub.wrote_step hallowed (run.flows id) wrote

theorem Run.story (run : Run (Hub.initial config origins handlers now wallClock) es h)
    (t : Ticket) :
    h.Story t (storyOf t (book (Hub.initial config origins handlers now wallClock) es)) := by
  have hstart : ∀ n, (Hub.initial config origins handlers now wallClock : Hub τ).Recorded n [] :=
    fun n => ⟨fun p => rfl, fun f places reply hc => by cases hc⟩
  exact (run.recorded hstart t.call).story

/-- Whoever is counted as dropped is so for one of five reasons. -/
theorem length_losses (b : List Entry) :
    (b.filterMap Entry.loss?).length =
      losses .unknown b + losses .refused b + losses .crowded b + losses .givenUp b +
        losses .unsendable b := by
  simp only [losses]
  induction b.filterMap Entry.loss? with
  | nil => rfl
  | cons l rest ih =>
    rw [List.length_cons, ih]
    cases l <;> simp <;> omega

/-- What became of every copy of a frame that was offered to a connection. `b` is the book of the
run, and `w` tells which frames of its outbox were completely written to the link of a
connection. -/
structure Hub.Fates (b : List Entry) (w : String → List Frame) (h : Hub τ) : Prop where
  /-- A frame is counted as dropped if there was nobody to send it to, if the connection was dead,
  if an offer found no slot, if its send waited and the connection was torn down, or if it left the
  outbox and cannot be put on the wire. -/
  dropped : h.metrics.dropped =
    losses .unknown b + losses .refused b + losses .crowded b + losses .givenUp b +
      losses .unsendable b
  /-- A send comes to one end at most, and is in line as long as it has come to none. -/
  story : ∀ t, h.Story t (storyOf t b)
  /-- The copies that entered an outbox are those that the hub recorded. -/
  entered : ∀ id, Switchboard.entered id h.history = intake id b
  /-- What entered an outbox was taken off it, in the same order, or is there. -/
  queued : ∀ id, (intake id b).map Prod.fst = takings id b ++ h.queued id
  /-- What was taken off an outbox was handed over to the link, unless it was counted. -/
  handed : ∀ id, Switchboard.handed id h.history = (takings id b).filter Frame.isSendable
  /-- What was handed over to the link was completely written, except for one frame at most, which
  is being written, or was when the writer stopped and the connection was torn down. -/
  written : ∀ id c, h.find? id = some c → Switchboard.handed id h.history = w id ∨
    ∃ f, Switchboard.handed id h.history = w id ++ [f] ∧
      ((∃ kind limit, c.writer = .sending kind limit) ∨ c.writer = .stopped ∧ c.alive = false)
  /-- Nothing leaves the outbox of a dead connection, and only a send that waits can still put a
  frame in, if it notices the slot that is kept for it before it notices the teardown. -/
  late : ∀ id c, h.find? id = some c → c.alive = false → ∀ es h', Run h es h' →
    ∀ x ∈ book h es, x.Late id

/-- **Every copy of a frame has one fate.** In a run, a copy that is offered to a connection is
counted as dropped at most once, and the counter counts nothing else but sends to nobody. A copy
that is not counted is completely written to the link, or still waits, is queued or in flight, or
was so when its connection was torn down, or its send was abandoned. -/
theorem every_copy_has_one_fate
    (run : Run (Hub.initial config origins handlers now wallClock) es h) :
    h.Fates (book (Hub.initial config origins handlers now wallClock) es)
      fun id => written id (Hub.initial config origins handlers now wallClock) es where
  dropped := by
    rw [run.balances.dropped, length_losses]
    exact Nat.zero_add _
  story := run.story
  entered := run.balances.entered
  queued := run.balances.queued
  handed := run.balances.handed
  written id c hc := by
    obtain rfl := Hub.id_of_find? hc
    have flight := (run.wrote c.id).flight c hc
    rw [Connection.Flight] at flight
    cases hphase : c.writer with
    | sending kind limit =>
      rw [hphase] at flight
      cases hcurrent : current? c.id h.history with
      | none =>
        rw [hcurrent, Option.toList_none, List.append_nil] at flight
        exact .inl flight
      | some f =>
        rw [hcurrent] at flight
        exact .inr ⟨f, flight, .inl ⟨kind, limit, rfl⟩⟩
    | stopped =>
      rw [hphase] at flight
      exact flight.imp_right fun ⟨hdead, f, hf⟩ => ⟨f, hf, .inr ⟨rfl, hdead⟩⟩
    | starting | idle | sendingClose | closingSink =>
      rw [hphase] at flight
      exact .inl flight
  late id c hc hdead es' h' run' := run'.balances.late id c hc hdead

end Runs

/-- While a send waits for room, an offer comes too late, and the connection is removed. -/
def tornWhileWaiting : List (Event MemoryLink) :=
  [.ask (.toHandle "a" ⟨.binary, [2]⟩), .turn (.call 1) Hub.teardownFirst,
    .act "a" (.trySend ⟨.binary, [3]⟩ fun _ => .done), .remove "a",
    .turn (.call 1) Hub.teardownFirst]

/-- The hub after both. -/
def afterTornWhileWaiting : Hub MemoryLink := tornWhileWaiting.foldl Hub.step afterOneSent

theorem every_copy_has_one_fate_of_tornWhileWaiting :
    afterTornWhileWaiting.metrics.dropped = 2 ∧
      afterTornWhileWaiting.Story ⟨1, 0⟩
        [.sent "a" ⟨.binary, [2]⟩ ⟨1, 0⟩ .waits, .ended "a" ⟨.binary, [2]⟩ ⟨1, 0⟩ .givenUp] := by
  have run : Run (Hub.initial {} .listed [] 0 0) (oneSent ++ tornWhileWaiting)
      afterTornWhileWaiting :=
    .cons rfl (.of_always_allowed (by simp [tornWhileWaiting, Event.Allowed]) _)
  have fates := every_copy_has_one_fate run
  refine ⟨fates.dropped.trans (by decide +kernel), ?_⟩
  have hstory :
      storyOf ⟨1, 0⟩ (book (Hub.initial {} .listed [] 0 0) (oneSent ++ tornWhileWaiting)) =
        [.sent "a" ⟨.binary, [2]⟩ ⟨1, 0⟩ .waits, .ended "a" ⟨.binary, [2]⟩ ⟨1, 0⟩ .givenUp] := by
    decide +kernel
  exact hstory ▸ fates.story ⟨1, 0⟩

end Switchboard
