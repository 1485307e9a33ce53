import Switchboard.Proofs.Parting

/-!
# What a writer says

`handovers` tells which frames were handed over to the link of a connection in a run, and why; they
are those that began to be handed over to its sink (`Hub.Spoken`). A writer passes on what leaves
the outbox, whatever it is, and sends heartbeats. Once its connection is torn down it says goodbye,
once, and after that nothing (`Speech`). What the link is given of the outbox is therefore what
entered it, first in, first out (`handed_in_order`).

## Shape of the proof

Only a turn of its writer hands anything over to the link of a connection (`Hub.handovers_step`).
Such a turn hands over nothing, or one frame at its beginning, after which it does what it would
have done without (`Connection.Mute`); the writer that has said goodbye only waits for its sink
(`WriterPhase.IsParting`).
-/

namespace Switchboard

/-! ## Handovers -/

/-- The frame that a happening hands over to the link of a connection, and why. -/
def Happening.handing (id : String) : Happening → Option (Frame × Cause)
  | .handed target f cause => if target = id then some (f, cause) else none
  | _ => none

/-- The frames that were handed over to the link of a connection, and why; the first first. -/
def handovers (id : String) (history : List Happening) : List (Frame × Cause) :=
  (history.filterMap (Happening.handing id)).reverse

section Histories

variable {id : String} {x : Happening} {news history : List Happening}

theorem handing_of_not_handed (hx : x.isHanded id = false) : x.handing id = none := by
  cases x with
  | handed target f cause => exact if_neg (of_decide_eq_false hx)
  | entered | closed | removal => rfl

theorem handovers_append (id : String) (news history : List Happening) :
    handovers id (news ++ history) = handovers id history ++ handovers id news := by
  simp [handovers]

theorem handovers_eq_nil (hnews : ∀ x ∈ news, x.isHanded id = false) : handovers id news = [] := by
  rw [handovers, List.filterMap_eq_nil_iff.mpr fun x hx => handing_of_not_handed (hnews x hx),
    List.reverse_nil]

theorem handovers_append_of_none (hnews : ∀ x ∈ news, x.isHanded id = false)
    (history : List Happening) : handovers id (news ++ history) = handovers id history := by
  rw [handovers_append, handovers_eq_nil hnews, List.append_nil]

theorem handovers_singleton (id : String) (f : Frame) (cause : Cause) :
    handovers id [.handed id f cause] = [(f, cause)] := by
  simp [handovers, Happening.handing]

/-- The frames of the outbox are those that were handed over because they were queued. -/
theorem handed_eq (id : String) (history : List Happening) :
    handed id history = ((handovers id history).filter (·.2 = .queued)).map Prod.fst := by
  rw [handovers, List.filter_reverse, List.map_reverse, List.filter_filterMap, List.map_filterMap]
  refine congrArg List.reverse (List.filterMap_congr fun x _ => ?_)
  cases x with
  | handed target f cause =>
    rw [Happening.handover?.eq_def, Happening.handing]
    by_cases ht : target = id
    · cases cause <;> simp [ht, Option.filter]
    · cases cause <;> simp [ht]
  | entered | closed | removal => rfl

theorem isHanded_of_closed (hx : ∃ d reason, x = .closed d reason) : x.isHanded id = false := by
  obtain ⟨d, reason, rfl⟩ := hx
  rfl

end Histories

/-! ## The grammar -/

/-- What is handed over while a connection lives: frames of the outbox, and heartbeats. -/
def IsPlain (x : Frame × Cause) : Prop := x.2 = .queued ∨ x = (.ping, .heartbeat)

/-- The writer has said goodbye or has stopped. -/
def WriterPhase.IsParting : WriterPhase → Prop
  | .sendingClose _ | .closingSink _ | .stopped => True
  | .starting | .idle | .sending _ _ => False

/-- What was handed over when the writer has come to some phase. -/
inductive Speech : List (Frame × Cause) → WriterPhase → Prop
  | ongoing {said : List (Frame × Cause)} (plain : ∀ x ∈ said, IsPlain x) (phase : WriterPhase) :
      Speech said phase
  | ended {said : List (Frame × Cause)} {phase : WriterPhase} (plain : ∀ x ∈ said, IsPlain x)
      (parting : phase.IsParting) : Speech (said ++ [(.close, .farewell)]) phase

section Grammar

variable {said before after : List (Frame × Cause)} {phase phase' : WriterPhase}
  {x : Frame × Cause}

theorem Speech.plain (speech : Speech said phase) (speaking : ¬ phase.IsParting) :
    ∀ x ∈ said, IsPlain x := by
  cases speech with
  | ongoing plain => exact plain
  | ended plain parting => exact absurd parting speaking

theorem Speech.mono (speech : Speech said phase) (hphase : phase.IsParting → phase'.IsParting) :
    Speech said phase' := by
  cases speech with
  | ongoing plain => exact .ongoing plain phase'
  | ended plain parting => exact .ended plain (hphase parting)

/-- A close frame is the last frame that is handed over, or it comes from the outbox. -/
theorem Speech.close_last (speech : Speech said phase) (hsaid : said = before ++ x :: after)
    (hclose : x.1.kind = .close) : x.2 = .queued ∨ x = (.close, .farewell) ∧ after = [] := by
  have hplain : IsPlain x → x.2 = .queued := by
    rintro (hqueued | rfl)
    · exact hqueued
    · cases hclose
  cases speech with
  | ongoing plain => exact .inl (hplain (plain x (by simp [hsaid])))
  | @ended said _ plain =>
    rcases List.eq_nil_or_concat after with rfl | ⟨after, last, rfl⟩
    · obtain ⟨-, hlast⟩ := List.append_inj' hsaid rfl
      exact .inr ⟨(List.head_eq_of_cons_eq hlast).symm, rfl⟩
    · rw [List.concat_eq_append, ← List.cons_append, ← List.append_assoc] at hsaid
      obtain ⟨rfl, -⟩ := List.append_inj' hsaid rfl
      exact .inl (hplain (plain x (by simp)))

end Grammar

/-! ## Turns of the writer -/

namespace Connection

variable {τ : Type} [Transport τ] {now limit : Nat} {config : SocketConfig}
  {c : Connection (Watched τ)} {r : Turned (Watched τ)} {history : List Happening}

/-- A part of a turn in which no frame begins to be handed over. -/
structure Mute (c : Connection (Watched τ)) (r : Turned (Watched τ)) : Prop where
  member_eq : r.conn.member = c.member
  frames_eq : framesOf r.conn.link.acts = framesOf c.link.acts
  news : ∀ x ∈ r.news, ∃ d reason, x = .closed d reason

theorem mute_stopWriter (now : Nat) (c : Connection (Watched τ)) :
    c.Mute { conn := c.stopWriter now } where
  member_eq := rfl
  frames_eq := (framesOf_append _ _).trans (List.append_nil _)
  news _ hx := absurd hx List.not_mem_nil

theorem mute_failWriter (now : Nat) (c : Connection (Watched τ)) (reason : CloseReason) :
    c.Mute (c.failWriter now reason) where
  member_eq := by rw [failWriter, conn_torn]; rfl
  frames_eq := by
    rw [failWriter, conn_torn]
    exact (mute_stopWriter now c).frames_eq
  news x hx := ⟨_, reason, closed_of_mem_torn (c := c.stopWriter now) hx⟩

theorem mute_afterSend (now : Nat) (c : Connection (Watched τ)) (kind : FrameKind) (limit : Nat)
    (p : Progress) : c.Mute (c.afterSend now kind limit p) := by
  rcases afterSend_cases now c kind limit p with heq | ⟨-, heq⟩ | ⟨reason, -, heq⟩
  · rw [heq]
    exact ⟨rfl, rfl, fun _ hx => absurd hx List.not_mem_nil⟩
  · rw [heq]
    exact ⟨rfl, rfl, fun _ hx => absurd hx List.not_mem_nil⟩
  · rw [heq]
    exact mute_failWriter now c reason

/-- Nothing more is said in what follows a farewell, and the writer is parting. -/
structure Parts (c : Connection (Watched τ)) (r : Turned (Watched τ)) : Prop
    extends Mute c r where
  parting : r.conn.writer.IsParting

theorem parts_finishClose (now : Nat) (c : Connection (Watched τ)) (limit : Nat)
    (wait : WriterPhase) (hwait : wait.IsParting) (p : Progress) :
    c.Parts (c.finishClose now limit wait p) := by
  have hstop : c.Parts { conn := c.stopWriter now } := ⟨mute_stopWriter now c, trivial⟩
  cases p with
  | done | failed e => exact hstop
  | panicked e =>
    refine ⟨mute_failWriter now c .taskFailed, ?_⟩
    rw [finishClose, failWriter, conn_torn]
    trivial
  | pending =>
    rw [finishClose]
    split
    · exact hstop
    · exact ⟨⟨rfl, rfl, fun _ hx => absurd hx List.not_mem_nil⟩, hwait⟩

theorem parts_closeSink (now : Nat) (c : Connection (Watched τ)) (limit : Nat) :
    c.Parts (c.closeSink now limit) := by
  have parts := parts_finishClose now { c with link := (Transport.close now c.link).2 } limit
    (.closingSink limit) trivial (Transport.close now c.link).1
  have hframes : framesOf (Transport.close now c.link).2.acts = framesOf c.link.acts :=
    (framesOf_append _ _).trans (List.append_nil _)
  exact ⟨⟨parts.member_eq, parts.frames_eq.trans hframes, parts.news⟩, parts.parting⟩

theorem parts_afterCloseFrame (now : Nat) (c : Connection (Watched τ)) (limit : Nat)
    (p : Progress) : c.Parts (c.afterCloseFrame now limit p) := by
  cases p with
  | done => exact parts_closeSink now c limit
  | failed e => exact parts_finishClose now c limit (.sendingClose limit) trivial (.failed e)
  | panicked e =>
    exact parts_finishClose now c limit (.sendingClose limit) trivial (.panicked e)
  | pending => exact parts_finishClose now c limit (.sendingClose limit) trivial .pending

/-- What was handed over to the link of a connection, and what of its sink. -/
structure Spoken (history : List Happening) (c : Connection (Watched τ)) : Prop where
  frames_eq : framesOf c.link.acts = (handovers c.id history).map Prod.fst
  speech : Speech (handovers c.id history) c.writer

omit [Transport τ] in
theorem Spoken.mute (spoken : c.Spoken history) (mute : c.Mute r)
    (hphase : c.writer.IsParting → r.conn.writer.IsParting) :
    r.conn.Spoken (r.news ++ history) := by
  have hid : r.conn.id = c.id := congrArg Member.id mute.member_eq
  have hsame : handovers r.conn.id (r.news ++ history) = handovers c.id history := by
    rw [hid]
    exact handovers_append_of_none (fun x hx => isHanded_of_closed (mute.news x hx)) history
  exact ⟨by rw [mute.frames_eq, hsame, spoken.frames_eq], hsame ▸ spoken.speech.mono hphase⟩

/-- A frame begins to be handed over, and nothing more is said in the turn. -/
theorem Spoken.says (spoken : c.Spoken history) {f : Frame} (cause : Cause)
    (mute : Mute ({ c with link := (Transport.send now f c.link).2 } : Connection _) r)
    (hspeech : Speech (handovers c.id history ++ [(f, cause)]) r.conn.writer) :
    (r.after [.handed c.id f cause]).conn.Spoken
      ((r.after [.handed c.id f cause]).news ++ history) := by
  have hid : r.conn.id = c.id := congrArg Member.id mute.member_eq
  have hsaid : handovers r.conn.id ((r.after [.handed c.id f cause]).news ++ history) =
      handovers c.id history ++ [(f, cause)] := by
    rw [hid, Turned.after, List.append_assoc,
      handovers_append_of_none fun x hx => isHanded_of_closed (mute.news x hx),
      handovers_append, handovers_singleton]
  have hframes : framesOf (Transport.send now f c.link).2.acts = framesOf c.link.acts ++ [f] :=
    framesOf_append _ _
  constructor
  · refine Eq.trans (mute.frames_eq.trans hframes) (Eq.trans ?_ (congrArg _ hsaid.symm))
    rw [spoken.frames_eq, List.map_append]
    rfl
  · exact (congrArg (Speech · r.conn.writer) hsaid).mpr hspeech

theorem Spoken.sendFrame (spoken : c.Spoken history) (speaking : ¬ c.writer.IsParting) {f : Frame}
    {cause : Cause} (hplain : IsPlain (f, cause)) :
    (c.sendFrame now config f cause).conn.Spoken
      ((c.sendFrame now config f cause).news ++ history) := by
  rw [Connection.sendFrame]
  split
  · refine spoken.says cause (mute_afterSend now _ _ _ _) (.ongoing (fun x hx => ?_) _)
    rcases List.mem_append.mp hx with hx | hx
    · exact spoken.speech.plain speaking x hx
    · rwa [List.mem_singleton.mp hx]
  · exact spoken

theorem Spoken.idleTurn (spoken : c.Spoken history) (hidle : c.writer = .idle) :
    (c.idleTurn now config).conn.Spoken ((c.idleTurn now config).news ++ history) := by
  have speaking : ¬ c.writer.IsParting := fun parting => by
    rw [hidle] at parting
    exact parting
  rw [Connection.idleTurn]
  split
  · have parts := parts_afterCloseFrame now
      { c with link := (Transport.send now .close c.link).2 } (now + config.writeTimeout)
      (Transport.send now .close c.link).1
    exact spoken.says .farewell parts.toMute
      (.ended (spoken.speech.plain speaking) parts.parting)
  · split
    · rename_i f _ outbox _
      exact Spoken.sendFrame (c := { c with outbox }) ⟨spoken.frames_eq, spoken.speech⟩ speaking
        (.inl rfl)
    · split
      · exact Spoken.sendFrame (c := { c with
          heartbeat := Hub.nextHeartbeat now c.heartbeat config.heartbeat })
          ⟨spoken.frames_eq, spoken.speech⟩ speaking (.inr rfl)
      · exact spoken

/-- **A turn of the writer** says nothing after a farewell. -/
theorem Spoken.writerTurn (spoken : c.Spoken history) (now : Nat) (config : SocketConfig) :
    (c.writerTurn now config).conn.Spoken ((c.writerTurn now config).news ++ history) := by
  have resumed : framesOf (Transport.resume now c.link).2.acts = framesOf c.link.acts :=
    (framesOf_append _ _).trans (List.append_nil _)
  rw [Connection.writerTurn]
  split
  · exact spoken
  · rename_i hphase
    refine spoken.mute ⟨rfl, rfl, fun _ hx => absurd hx List.not_mem_nil⟩ ?_
    rw [hphase]
    exact False.elim
  · rename_i hphase
    exact spoken.idleTurn hphase
  · rename_i kind limit hphase
    have mute := mute_afterSend now { c with link := (Transport.resume now c.link).2 } kind limit
      (Transport.resume now c.link).1
    refine spoken.mute ⟨mute.member_eq, mute.frames_eq.trans resumed, mute.news⟩ ?_
    rw [hphase]
    exact False.elim
  · rename_i limit hphase
    have parts := parts_afterCloseFrame now { c with link := (Transport.resume now c.link).2 }
      limit (Transport.resume now c.link).1
    exact spoken.mute ⟨parts.member_eq, parts.frames_eq.trans resumed, parts.news⟩
      fun _ => parts.parting
  · have parts := parts_closeSink now c ‹Nat›
    exact spoken.mute parts.toMute fun _ => parts.parting

end Connection

/-! ## Runs -/

namespace Hub

variable {τ : Type} [Transport τ] {h : Hub τ} {id : String} {e : Event τ}

omit [Transport τ] in
theorem Spares.handovers_eq {h' : Hub τ} (spares : Spares id h h') :
    handovers id h'.history = handovers id h.history := by
  obtain ⟨news, heq, hnews⟩ := spares.history
  rw [heq]
  exact handovers_append_of_none (fun x hx => isHanded_of_fromOutside (hnews x hx)) _

/-- Only a turn of its writer hands anything over to the link of a connection. -/
theorem handovers_step (hturn : ¬ e.IsWriterTurnOf id) :
    handovers id (h.step e).history = handovers id h.history := by
  by_cases hown : e.IsTurnOf id
  · rcases isTurnOf_cases hown with ⟨roomFirst, rfl⟩ | ⟨roomFirst, rfl⟩
    · exact absurd ⟨roomFirst, rfl⟩ hturn
    · cases hc : h.find? id with
      | none =>
        rw [step, history_poll]
        have hnobody : ({ h with ready := h.ready.erase (.reader id) } : Hub τ).find? id = none :=
          hc
        simp only [turn, readerTurn, hnobody]
      | some c =>
        obtain ⟨⟨h', moves, spares⟩, -⟩ := moves_reader hc roomFirst
        have keeps := Connection.keepsWriter_readerTurn h.now h.config c
        rw [step, spares.handovers_eq, moves.history_eq]
        exact handovers_append_of_none
          (fun x hx => isHanded_of_closed ⟨_, keeps.news x hx⟩) _
  · by_cases hpass : e.IsPass
    · cases e with
      | pass now wallClock => exact congrArg (handovers id) (history_moveClock h now)
      | _ => cases hpass
    · exact (spares_step hown hpass h).handovers_eq

/-- Nobody has a turn on behalf of a connection that does not exist. -/
theorem handovers_step_of_none (hnone : h.find? id = none) (e : Event τ) :
    handovers id (h.step e).history = handovers id h.history := by
  by_cases hturn : e.IsWriterTurnOf id
  · obtain ⟨roomFirst, rfl⟩ := hturn
    have hnobody : ({ h with ready := h.ready.erase (.writer id) } : Hub τ).find? id = none := hnone
    rw [step, history_poll]
    simp only [turn, writerTurn, hnobody]
  · exact handovers_step hturn

/-- What was handed over to the link of the connection `id`, if there is one. -/
structure Spoken (id : String) (h : Hub (Watched τ)) : Prop where
  absent : h.find? id = none → handovers id h.history = []
  conn : ∀ c, h.find? id = some c → c.Spoken h.history

omit [Transport τ] in
theorem Spoken.of_conn {h : Hub (Watched τ)} {c : Connection (Watched τ)} (hc : h.find? id = some c)
    (spoken : c.Spoken h.history) : h.Spoken id where
  absent hnone := nomatch hc.symm.trans hnone
  conn c' hc' := by
    obtain rfl := Option.some.inj (hc.symm.trans hc')
    exact spoken

/-- Nothing was done yet with the sink of a connection that was just opened. -/
theorem starting_of_opened {h : Hub (Watched τ)} {c : Connection (Watched τ)}
    (hnone : h.find? id = none) (hallowed : e.watched.Allowed h)
    (hc : (h.step e.watched).find? id = some c) : c.writer = .starting ∧ c.link.acts = [] := by
  have passage := passage_step id hallowed
  generalize h.step e.watched = h' at passage hc
  generalize he : e.watched = e' at passage
  cases passage with
  | absent fresh gone => exact nomatch hc.symm.trans gone
  | @opened _ link o fresh opens =>
    obtain rfl := Option.some.inj (opens.find?_self.symm.trans hc)
    cases e with
    | upgrade d made o =>
      cases made with
      | ok link => exact ⟨rfl, by cases he; rfl⟩
      | error e => cases he
    | _ => cases he
  | writer found | reader found | pass found | spared found => exact nomatch hnone.symm.trans found

theorem spoken_step {h : Hub (Watched τ)} (hallowed : e.watched.Allowed h) (spoken : h.Spoken id) :
    (h.step e.watched).Spoken id := by
  cases hc : h.find? id with
  | none =>
    have hnothing := (handovers_step_of_none hc e.watched).trans (spoken.absent hc)
    refine ⟨fun _ => hnothing, fun c' hc' => ?_⟩
    obtain ⟨hwriter, hacts⟩ := starting_of_opened hc hallowed hc'
    obtain rfl := id_of_find? hc'
    constructor
    · rw [hacts, hnothing]
      rfl
    · rw [hnothing]
      exact .ongoing (fun _ hx => absurd hx List.not_mem_nil) _
  | some c =>
    rcases sameSink_step hc hallowed with ⟨⟨roomFirst, rfl⟩, hfind⟩ | ⟨hturn, c', hfind, same⟩
    · obtain ⟨moves, -⟩ := moves_writer hc roomFirst
      refine .of_conn hfind ?_
      rw [Event.watched, step, moves.history_eq]
      exact (spoken.conn c hc).writerTurn h.now h.config
    · have hsame := handovers_step (Event.isWriterTurnOf_watched.not.mpr hturn) (h := h)
      obtain ⟨hframes, speech⟩ := spoken.conn c hc
      refine .of_conn hfind ?_
      rw [id_of_find? hc] at hframes speech
      constructor
      · rw [same.acts_eq, id_of_find? hfind, hsame, hframes]
      · rw [same.writer_eq, id_of_find? hfind, hsame]
        exact speech

end Hub

section Runs

variable {τ : Type} [Transport τ] {config : SocketConfig} {origins : OriginPolicy}
  {handlers : List Handler} {now wallClock : Nat} {es : List (Event τ)}

theorem Run.spoken {h : Hub (Watched τ)}
    (run : Run (Hub.initial config origins handlers now wallClock) (es.map Event.watched) h)
    (id : String) : h.Spoken id := by
  induction es using List.reverseRecOn generalizing h with
  | nil =>
    cases run
    exact ⟨fun _ => rfl, fun c hc => nomatch hc⟩
  | append_singleton es e ih =>
    rw [List.map_append] at run
    obtain ⟨h₁, first, last⟩ := run.split
    cases last with
    | cons allowed rest =>
      cases rest
      exact Hub.spoken_step allowed (ih first)

/-- What was handed over to the link of a connection is what began to be handed over to its sink,
and if the writer has said goodbye, nothing came after that. -/
theorem Run.speech {h : Hub τ}
    (run : Run (Hub.initial config origins handlers now wallClock) es h) (id : String) :
    framesOf (sinkActs id (Hub.initial config origins handlers now wallClock) es) =
        (handovers id h.history).map Prod.fst ∧
      ∃ phase, Speech (handovers id h.history) phase := by
  obtain ⟨w, again, rfl⟩ := run.watched (h := Hub.initial config origins handlers now wallClock)
  have spoken := again.spoken id
  change _ = (handovers id w.history).map Prod.fst ∧ ∃ phase, Speech (handovers id w.history) phase
  cases hc : w.find? id with
  | none =>
    rw [sinkActs, spoken.absent hc]
    have hend : (es.map Event.watched).foldl Hub.step
        (Hub.initial config origins handlers now wallClock).watched = w := again.eq_foldl.symm
    rw [hend, hc]
    exact ⟨rfl, .starting, .ongoing (fun _ hx => absurd hx List.not_mem_nil) _⟩
  | some c =>
    obtain ⟨hframes, speech⟩ := spoken.conn c hc
    rw [Hub.id_of_find? hc] at hframes speech
    have hacts := sinkActs_eq (h := Hub.initial config origins handlers now wallClock) again hc
    exact ⟨(congrArg framesOf hacts).trans hframes, c.writer, speech⟩

/-- **First in, first out.** In a run, the link of a connection is given the frames that are handed
over, in that order and nothing else. Those that come from the queue, leaving out heartbeats and the
closing frame, are a beginning of the frames that entered it, in that order and without those that
cannot be put on the wire; followed by what is still queued, they are all of them. The queue holds
no more frames than its capacity, and that is one at least. An offer that is taken enters at once.
At any later time, what entered since then follows what had entered before: nothing of it came from
a call that was over, no call that is asked for since has anything before it, and calls only send
the frame they were asked to. -/
theorem handed_in_order (run : Run (Hub.initial config origins handlers now wallClock) es h)
    {id : String} {c : Connection τ} (hc : h.find? id = some c) :
    framesOf (sinkActs id (Hub.initial config origins handlers now wallClock) es) =
      (handovers id h.history).map Prod.fst ∧
    handed id h.history = ((handovers id h.history).filter (·.2 = .queued)).map Prod.fst ∧
    1 ≤ c.outbox.capacity ∧ c.outbox.queued.length ≤ c.outbox.capacity ∧
    handed id h.history <+: ((entered id h.history).map Prod.fst).filter Frame.isSendable ∧
    handed id h.history ++ c.outbox.queued.filter Frame.isSendable =
      ((entered id h.history).map Prod.fst).filter Frame.isSendable ∧
    (∀ f cause, Happening.handed id f cause ∈ h.history →
      cause = .queued ∨ cause = .heartbeat ∧ f = .ping ∨ cause = .farewell ∧ f = .close) ∧
    (∀ f, entered id (h.trySend id f).2.history =
      entered id h.history ++ if (h.trySend id f).1 then [(f, .offer)] else []) ∧
    ∀ es' h', Run h es' h' → ∃ later,
      entered id h'.history = entered id h.history ++ later ∧
      handed id h'.history <+:
        ((entered id h.history ++ later).map Prod.fst).filter Frame.isSendable ∧
      (∀ n call, h.calls[n]? = some call → call.frame? = none →
        ∀ e ∈ later, e.2.call? ≠ some n) ∧
      (∀ n, h.calls.length ≤ n → ∀ e ∈ entered id h.history, e.2.call? ≠ some n) ∧
      (∀ n call f, h.calls[n]? = some call → call.frame? = some f →
        ∀ e ∈ entered id h.history ++ later, e.2.call? = some n → e.1 = f) := by
  have houtbox : h.ledger.outbox? id = some c.outbox :=
    Ledger.outbox?_of_find? (Hub.find?_ledger_of_some hc)
  have flow := (run.flows id).flow c.outbox houtbox
  have hstanding : ∀ {n : Nat} {call : Call}, h.calls[n]? = some call →
      h.ledger.standing n = some call.frame? := fun hcall =>
    Option.map_eq_some_iff.mpr ⟨_, hcall, rfl⟩
  refine ⟨(run.speech id).1, handed_eq id h.history, flow.capacity_pos,
    Nat.le_trans (Nat.le_add_right _ _) flow.used_le, (run.flows id).handed_isPrefix,
    flow.outs_queued, run.ownFrames id, fun f => h.entered_trySend id f, ?_⟩
  -- What a call enters from here on is its own frame, and nothing once it is over.
  intro es' h' run'
  obtain ⟨later, hlater, hcalls⟩ := (run'.since id).later
  refine ⟨later, hlater, ?_, ?_, ?_, ?_⟩
  · have hbegins := ((run.append run').flows id).handed_isPrefix
    rwa [hlater] at hbegins
  · intro n call hcall hover e he hn
    have hframe := hcalls e he n hn _ (hstanding hcall)
    rw [hover] at hframe
    cases hframe
  · -- who entered something was asked for by then
    intro n hlen e he hn
    have hasked := (run.sourced id e he n hn).elim Ledger.lt_of_standing Ledger.lt_of_standing
    exact absurd hasked (Nat.not_lt.mpr hlen)
  · intro n call f hcall hframe e he hn
    have hnow := hstanding hcall
    rw [hframe] at hnow
    rcases List.mem_append.mp he with he | he
    · rcases run.sourced id e he n hn with hsame | hover
      · exact (Option.some.inj (Option.some.inj (hnow.symm.trans hsame))).symm
      · rw [hover] at hnow
        cases hnow
    · exact (Option.some.inj (hcalls e he n hn _ hnow)).symm

end Runs

/-- A second send, which has to wait until the writer has taken the first frame. -/
def secondWaits : List (Event MemoryLink) :=
  [.ask (.toHandle "a" ⟨.binary, [2]⟩), .turn (.call 1) Hub.teardownFirst,
    .turn (.writer "a") Hub.teardownFirst, .turn (.writer "a") Hub.teardownFirst,
    .turn (.call 1) Hub.teardownFirst, .turn (.writer "a") Hub.teardownFirst]

/-- The hub after both sends. -/
def afterSecondWaits : Hub MemoryLink := secondWaits.foldl Hub.step afterOneSent

theorem handed_in_order_of_secondWaits :
    framesOf (sinkActs "a" (Hub.initial {} .listed [] 0 0) (oneSent ++ secondWaits)) =
        [⟨.binary, [1]⟩, ⟨.binary, [2]⟩] ∧
      handed "a" afterSecondWaits.history = [⟨.binary, [1]⟩, ⟨.binary, [2]⟩] ∧
      ∃ later, entered "a" afterSecondWaits.history =
          entered "a" afterOneSent.history ++ later ∧ ∀ e ∈ later, e.2.call? ≠ some 0 := by
  have run : Run (Hub.initial {} .listed [] 0 0) oneSent afterOneSent :=
    .cons rfl (.of_always_allowed (by simp [Event.Allowed]) _)
  have second : Run afterOneSent secondWaits afterSecondWaits :=
    .of_always_allowed (by simp [secondWaits, Event.Allowed]) afterOneSent
  obtain ⟨c, hc⟩ : ∃ c, afterOneSent.find? "a" = some c := ⟨_, rfl⟩
  obtain ⟨c', hc'⟩ : ∃ c, afterSecondWaits.find? "a" = some c := ⟨_, rfl⟩
  obtain ⟨hgiven, hhanded, -⟩ := handed_in_order (run.append second) hc'
  obtain ⟨-, -, -, -, -, -, -, -, hlater⟩ := handed_in_order run hc
  obtain ⟨later, hentered, -, hover, -⟩ := hlater secondWaits afterSecondWaits second
  refine ⟨hgiven.trans (by decide +kernel), hhanded.trans (by decide +kernel), later, hentered, ?_⟩
  exact hover 0 (.finished .sent) (by decide +kernel) rfl

end Switchboard
