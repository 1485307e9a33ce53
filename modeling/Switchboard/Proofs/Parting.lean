import Switchboard.Proofs.Watched

/-!
# How a writer parts from its sink

A writer that finds its connection torn down still has a frame in flight at most. If that frame goes
through, the writer says goodbye: one close frame and, once it is handed over, closing the sink,
both before one limit. `Parting` is the grammar of what is done with a sink meanwhile; it is over
`Wrote`, `Said` and `Shut`, one for each of the three things that are attempted, and goes by the
phase that the writer has come to.

## Shape of the proof

Each turn that the writer of a dead connection gets goes on with the parting, and what it does with
the sink it does at once (`Connection.proceeds_writerTurn`). `Timely W B` says of a phase that a
writer in it is done by the instant `B` if it never waits beyond a limit; turns keep this
(`Connection.timely_writerTurn`).
-/

namespace Switchboard

/-! ## The grammar -/

/-- What comes of an attempt that is made at the instant `t`: nothing as long as it is pending
before its limit. -/
def verdict? (limit t : Nat) : Progress → Option (Nat × Progress)
  | .pending => if limit ≤ t then some (t, .pending) else none
  | p => some (t, p)

/-- The frame in flight is gone on with until something comes of it. -/
inductive Wrote (limit : Nat) : List (Nat × SinkAct) → Option (Nat × Progress) → Prop
  | begun : Wrote limit [] none
  | resumed {acts : List (Nat × SinkAct)} (on : Wrote limit acts none) (t : Nat) (p : Progress) :
      Wrote limit (acts ++ [(t, .resume p)]) (verdict? limit t p)

/-- No frame is in flight any more, and none was lost. -/
inductive Cleared : Option Nat → List (Nat × SinkAct) → Prop
  | nothing : Cleared none []
  | written {limit t : Nat} {acts : List (Nat × SinkAct)}
      (wrote : Wrote limit acts (some (t, .done))) : Cleared (some limit) acts

/-- The close frame is attempted, once, and gone on with until something comes of it. The limit is
counted from the attempt. -/
inductive Said (W : Nat) (inFlight : Option Nat) :
    Nat → List (Nat × SinkAct) → Option (Nat × Progress) → Prop
  | begun {acts : List (Nat × SinkAct)} (cleared : Cleared inFlight acts) (t : Nat) (p : Progress) :
      Said W inFlight (t + W) (acts ++ [(t, .send .close p)]) (verdict? (t + W) t p)
  | resumed {limit : Nat} {acts : List (Nat × SinkAct)} (on : Said W inFlight limit acts none)
      (t : Nat) (p : Progress) :
      Said W inFlight limit (acts ++ [(t, .resume p)]) (verdict? limit t p)

/-- Closing the sink is attempted as soon as the close frame is handed over, within the same limit.
-/
inductive Shut (W : Nat) (inFlight : Option Nat) :
    Nat → List (Nat × SinkAct) → Option (Nat × Progress) → Prop
  | begun {limit t : Nat} {acts : List (Nat × SinkAct)}
      (said : Said W inFlight limit acts (some (t, .done))) (p : Progress) :
      Shut W inFlight limit (acts ++ [(t, .close p)]) (verdict? limit t p)
  | resumed {limit : Nat} {acts : List (Nat × SinkAct)} (on : Shut W inFlight limit acts none)
      (t : Nat) (p : Progress) :
      Shut W inFlight limit (acts ++ [(t, .close p)]) (verdict? limit t p)

/-- What was done with the sink since the teardown when the writer has come to some phase.
`inFlight` is the limit of the write that was pending then, if one was, and `W` the write timeout.
-/
inductive Parting (W : Nat) (inFlight : Option Nat) : List (Nat × SinkAct) → WriterPhase → Prop
  | starting (cleared : Cleared inFlight []) : Parting W inFlight [] .starting
  | writing {limit : Nat} {acts : List (Nat × SinkAct)} (same : inFlight = some limit)
      (wrote : Wrote limit acts none) (kind : FrameKind) :
      Parting W inFlight acts (.sending kind limit)
  /-- The frame that was in flight is lost, and the writer says nothing more. -/
  | lost {limit t : Nat} {acts : List (Nat × SinkAct)} {p : Progress} (same : inFlight = some limit)
      (wrote : Wrote limit acts (some (t, p))) (fault : p ≠ .done) :
      Parting W inFlight (acts ++ [(t, .release)]) .stopped
  | cleared {acts : List (Nat × SinkAct)} (cleared : Cleared inFlight acts) :
      Parting W inFlight acts .idle
  | saying {limit : Nat} {acts : List (Nat × SinkAct)} (said : Said W inFlight limit acts none) :
      Parting W inFlight acts (.sendingClose limit)
  /-- The close frame did not go through. -/
  | unsaid {limit t : Nat} {acts : List (Nat × SinkAct)} {p : Progress}
      (said : Said W inFlight limit acts (some (t, p))) (fault : p ≠ .done) :
      Parting W inFlight (acts ++ [(t, .release)]) .stopped
  | closing {limit : Nat} {acts : List (Nat × SinkAct)} (shut : Shut W inFlight limit acts none) :
      Parting W inFlight acts (.closingSink limit)
  | closed {limit t : Nat} {acts : List (Nat × SinkAct)} {p : Progress}
      (shut : Shut W inFlight limit acts (some (t, p))) :
      Parting W inFlight (acts ++ [(t, .release)]) .stopped

/-- The frames that begin to be handed over. -/
def framesOf (acts : List (Nat × SinkAct)) : List Frame :=
  acts.filterMap fun
    | (_, .send f _) => some f
    | _ => none

section Grammar

variable {W limit t : Nat} {inFlight : Option Nat} {acts : List (Nat × SinkAct)}
  {outcome : Option (Nat × Progress)} {phase : WriterPhase}

theorem framesOf_append (acts more : List (Nat × SinkAct)) :
    framesOf (acts ++ more) = framesOf acts ++ framesOf more := List.filterMap_append

theorem Wrote.framesOf_eq (wrote : Wrote limit acts outcome) : framesOf acts = [] := by
  induction wrote with
  | begun => rfl
  | resumed on t p ih => rw [framesOf_append, ih]; rfl

theorem Cleared.framesOf_eq (cleared : Cleared inFlight acts) : framesOf acts = [] := by
  cases cleared with
  | nothing => rfl
  | written wrote => exact wrote.framesOf_eq

theorem Said.framesOf_eq (said : Said W inFlight limit acts outcome) :
    framesOf acts = [.close] := by
  induction said with
  | begun cleared t p => rw [framesOf_append, cleared.framesOf_eq]; rfl
  | resumed on t p ih => rw [framesOf_append, ih]; rfl

theorem Shut.framesOf_eq (shut : Shut W inFlight limit acts outcome) :
    framesOf acts = [.close] := by
  induction shut with
  | begun said p => rw [framesOf_append, said.framesOf_eq]; rfl
  | resumed on t p ih => rw [framesOf_append, ih]; rfl

/-- No frame is begun after a teardown but one close frame. -/
theorem Parting.framesOf_eq (parting : Parting W inFlight acts phase) :
    framesOf acts = [] ∨ framesOf acts = [.close] := by
  cases parting with
  | starting => exact .inl rfl
  | writing same wrote => exact .inl wrote.framesOf_eq
  | lost same wrote fault => exact .inl (by rw [framesOf_append, wrote.framesOf_eq]; rfl)
  | cleared cleared => exact .inl cleared.framesOf_eq
  | saying said => exact .inr said.framesOf_eq
  | unsaid said fault => exact .inr (by rw [framesOf_append, said.framesOf_eq]; rfl)
  | closing shut => exact .inr shut.framesOf_eq
  | closed shut => exact .inr (by rw [framesOf_append, shut.framesOf_eq]; rfl)

theorem Parting.of_starting (parting : Parting W inFlight acts .starting) :
    Cleared inFlight acts := by
  cases parting with
  | starting cleared => exact cleared

theorem Parting.of_idle (parting : Parting W inFlight acts .idle) : Cleared inFlight acts := by
  cases parting with
  | cleared cleared => exact cleared

theorem Parting.of_sending {kind : FrameKind}
    (parting : Parting W inFlight acts (.sending kind limit)) :
    inFlight = some limit ∧ Wrote limit acts none := by
  cases parting with
  | writing same wrote => exact ⟨same, wrote⟩

theorem Parting.of_sendingClose (parting : Parting W inFlight acts (.sendingClose limit)) :
    Said W inFlight limit acts none := by
  cases parting with
  | saying said => exact said

theorem Parting.of_closingSink (parting : Parting W inFlight acts (.closingSink limit)) :
    Shut W inFlight limit acts none := by
  cases parting with
  | closing shut => exact shut

/-- The last that is done with a sink is letting go of it. -/
theorem Parting.released (parting : Parting W inFlight acts .stopped) :
    ∃ t, (t, .release) ∈ acts := by
  cases parting with
  | lost => exact ⟨_, List.mem_append_right _ List.mem_cons_self⟩
  | unsaid => exact ⟨_, List.mem_append_right _ List.mem_cons_self⟩
  | closed => exact ⟨_, List.mem_append_right _ List.mem_cons_self⟩

end Grammar

/-! ## The turns of the writer of a dead connection -/

namespace Connection

variable {τ : Type} [Transport τ] {now W limit : Nat} {inFlight : Option Nat}
  {c c' c'' : Connection (Watched τ)} {config : SocketConfig} {p : Progress}

/-- The writer of a dead connection went on with its parting at the instant `now`. -/
structure Proceeds (now W : Nat) (inFlight : Option Nat) (c c' : Connection (Watched τ)) :
    Prop where
  dead : c'.alive = false
  parting : Parting W inFlight c'.link.acts c'.writer
  instant : ∀ x ∈ c'.link.acts, x ∈ c.link.acts ∨ x.1 = now

omit [Transport τ] in
theorem Proceeds.after {a : SinkAct} (second : Proceeds now W inFlight c' c'')
    (hacts : c'.link.acts = c.link.acts ++ [(now, a)]) : Proceeds now W inFlight c c'' where
  dead := second.dead
  parting := second.parting
  instant x hx := by
    rcases second.instant x hx with hx | hx
    · rw [hacts] at hx
      exact (List.mem_append.mp hx).imp_right fun hx => by rw [List.mem_singleton.mp hx]
    · exact .inr hx

omit [Transport τ] in
/-- Nothing was done with the sink. -/
theorem proceeds_quiet (hdead : c'.alive = false) (hacts : c'.link.acts = c.link.acts)
    (parting : Parting W inFlight c.link.acts c'.writer) : Proceeds now W inFlight c c' where
  dead := hdead
  parting := hacts ▸ parting
  instant _ hx := .inl (hacts ▸ hx)

theorem proceeds_stopWriter (hdead : c.alive = false)
    (parting : Parting W inFlight (c.link.acts ++ [(now, .release)]) .stopped) :
    Proceeds now W inFlight c (c.stopWriter now) where
  dead := hdead
  parting := parting
  instant x hx := (List.mem_append.mp hx).imp_right fun hx => by rw [List.mem_singleton.mp hx]

/-- Tearing down a dead connection changes nothing. -/
theorem conn_failWriter_of_dead (hdead : c.alive = false) (reason : CloseReason) :
    (c.failWriter now reason).conn = c.stopWriter now := by
  rw [failWriter, torn, if_neg (by simp [stopWriter, hdead])]

theorem conn_finishClose (hdead : c.alive = false) (wait : WriterPhase) :
    (c.finishClose now limit wait p).conn =
      if verdict? limit now p = none then { c with writer := wait } else c.stopWriter now := by
  cases p with
  | done => rfl
  | failed e => rfl
  | panicked p => exact conn_failWriter_of_dead hdead .taskFailed
  | pending =>
    rw [finishClose, verdict?]
    split <;> rfl

/-- What comes of an attempt comes of it at once. -/
theorem verdict?_eq_of_ne_none (hover : verdict? limit now p ≠ none) :
    verdict? limit now p = some (now, p) := by
  cases p with
  | pending =>
    rw [verdict?] at hover ⊢
    split
    · rfl
    · rename_i hearly
      exact absurd (if_neg hearly) hover
  | _ => rfl

theorem proceeds_finishClose (hdead : c.alive = false) {wait : WriterPhase}
    (waits : verdict? limit now p = none → Parting W inFlight c.link.acts wait)
    (ends : verdict? limit now p = some (now, p) →
      Parting W inFlight (c.link.acts ++ [(now, .release)]) .stopped) :
    Proceeds now W inFlight c (c.finishClose now limit wait p).conn := by
  rw [conn_finishClose hdead]
  split
  · rename_i hnone
    exact proceeds_quiet hdead rfl (waits hnone)
  · rename_i hover
    exact proceeds_stopWriter hdead (ends (verdict?_eq_of_ne_none hover))

theorem proceeds_closeSink (hdead : c.alive = false)
    (shut : ∀ p, Shut W inFlight limit (c.link.acts ++ [(now, .close p)]) (verdict? limit now p)) :
    Proceeds now W inFlight c (c.closeSink now limit).conn := by
  have shut := shut (Transport.close now c.link.link).1
  exact (proceeds_finishClose (c := { c with link := (Transport.close now c.link).2 }) hdead
    (fun hnone => .closing (hnone ▸ shut)) (fun hover => .closed (hover ▸ shut))).after rfl

theorem proceeds_afterCloseFrame (hdead : c.alive = false)
    (said : Said W inFlight limit c.link.acts (verdict? limit now p)) :
    Proceeds now W inFlight c (c.afterCloseFrame now limit p).conn := by
  by_cases hdone : p = .done
  · subst hdone
    exact proceeds_closeSink hdead fun p => .begun said p
  · have heq : c.afterCloseFrame now limit p =
        c.finishClose now limit (.sendingClose limit) p := by
      cases p with
      | done => exact absurd rfl hdone
      | _ => rfl
    rw [heq]
    exact proceeds_finishClose hdead (fun hnone => .saying (hnone ▸ said))
      fun hover => .unsaid (hover ▸ said) hdone

theorem proceeds_afterSend (hdead : c.alive = false) (kind : FrameKind)
    (wrote : Wrote limit c.link.acts (verdict? limit now p)) :
    Proceeds now W (some limit) c (c.afterSend now kind limit p).conn := by
  cases p with
  | done => exact proceeds_quiet hdead rfl (.cleared (.written wrote))
  | failed e =>
    rw [afterSend, conn_failWriter_of_dead hdead]
    exact proceeds_stopWriter hdead (.lost rfl wrote (by simp))
  | panicked p =>
    rw [afterSend, conn_failWriter_of_dead hdead]
    exact proceeds_stopWriter hdead (.lost rfl wrote (by simp))
  | pending =>
    rw [verdict?] at wrote
    rw [afterSend]
    split at wrote
    · rename_i hlate
      rw [if_pos hlate, conn_failWriter_of_dead hdead]
      exact proceeds_stopWriter hdead (.lost rfl wrote (by simp))
    · rename_i hearly
      rw [if_neg hearly]
      exact proceeds_quiet hdead rfl (.writing rfl wrote kind)

/-- **A turn goes on with the parting**, whatever the phase. -/
theorem proceeds_writerTurn (now : Nat) (hdead : c.alive = false)
    (parting : Parting config.writeTimeout inFlight c.link.acts c.writer) :
    Proceeds now config.writeTimeout inFlight c (c.writerTurn now config).conn := by
  rw [writerTurn]
  split
  · exact proceeds_quiet hdead rfl parting
  · rename_i hstarting
    rw [hstarting] at parting
    exact proceeds_quiet hdead rfl (.cleared parting.of_starting)
  · rename_i hidle
    rw [hidle] at parting
    rw [idleTurn, if_pos (by simp [hdead])]
    exact (proceeds_afterCloseFrame (c := { c with link := (Transport.send now .close c.link).2 })
      hdead (.begun parting.of_idle now (Transport.send now .close c.link).1)).after rfl
  · rename_i kind limit hsending
    rw [hsending] at parting
    obtain ⟨rfl, wrote⟩ := parting.of_sending
    exact (proceeds_afterSend (c := { c with link := (Transport.resume now c.link).2 }) hdead kind
      (wrote.resumed now (Transport.resume now c.link).1)).after rfl
  · rename_i limit hsending
    rw [hsending] at parting
    exact (proceeds_afterCloseFrame (c := { c with link := (Transport.resume now c.link).2 })
      hdead (parting.of_sendingClose.resumed now (Transport.resume now c.link).1)).after rfl
  · rename_i limit hclosing
    rw [hclosing] at parting
    exact proceeds_closeSink hdead fun p => parting.of_closingSink.resumed now p

/-! ## The turn in which the writer of a living connection tears it down -/

theorem broken_afterSend {kind : FrameKind}
    (hdead : (c.afterSend now kind limit p).conn.alive = false) (halive : c.alive = true) :
    ∃ reason, WriteFault (limit ≤ now) p reason ∧
      (c.afterSend now kind limit p).conn.writer = .stopped ∧
      (c.afterSend now kind limit p).conn.link.acts = c.link.acts ++ [(now, .release)] := by
  rcases afterSend_cases now c kind limit p with heq | ⟨-, heq⟩ | ⟨reason, fault, heq⟩
  · rw [heq] at hdead
    exact absurd hdead (by simp [halive])
  · rw [heq] at hdead
    exact absurd hdead (by simp [halive])
  · rw [heq, failWriter, conn_torn]
    exact ⟨reason, fault, rfl, rfl⟩

/-- A writer that tears down its connection does so over a write, and lets go of the sink at once.
-/
theorem broken_writerTurn (halive : c.alive = true) (hwriting : c.Writing)
    (hdead : (c.writerTurn now config).conn.alive = false) :
    ∃ p limit reason a, c.written? now config = some (p, limit) ∧
      WriteFault (limit ≤ now) p reason ∧ a.progress? = some p ∧
      (c.writerTurn now config).conn.writer = .stopped ∧
      (c.writerTurn now config).conn.link.acts = c.link.acts ++ [(now, a), (now, .release)] := by
  have writes : c.Writes now config (c.writerTurn now config) := writes_writerTurn halive hwriting
  generalize c.writerTurn now config = r at writes hdead
  cases writes with
  | start => exact absurd hdead (by simp [halive])
  | rest => exact absurd hdead (by simp [halive])
  | drop => exact absurd hdead (by simp [halive])
  | @queued f t o idle taken sendable =>
    obtain ⟨reason, fault, hwriter, hacts⟩ := broken_afterSend hdead halive
    refine ⟨_, _, reason, .send f _, ?_, fault, rfl, hwriter, ?_⟩
    · rw [written?, idle, next?, taken]
      simp [sendable, halive]
    · rw [Turned.after, hacts]
      exact List.append_assoc ..
  | heartbeat idle empty due =>
    obtain ⟨reason, fault, hwriter, hacts⟩ := broken_afterSend hdead halive
    refine ⟨_, _, reason, .send .ping _, ?_, fault, rfl, hwriter, ?_⟩
    · rw [written?, idle, next?, take_eq_none empty]
      simp [due, halive]
    · rw [Turned.after, hacts]
      exact List.append_assoc ..
  | @resume kind limit sending =>
    obtain ⟨reason, fault, hwriter, hacts⟩ := broken_afterSend hdead halive
    refine ⟨_, limit, reason, .resume _, ?_, fault, rfl, hwriter, ?_⟩
    · rw [written?, sending]
    · rw [hacts]
      exact List.append_assoc ..

end Connection

/-! ## Time -/

/-- A writer in some phase at the instant `now` is done by the instant `B`, if it does not wait
beyond its limits. -/
def Timely (W B now : Nat) : WriterPhase → Prop
  | .starting | .idle => now + W ≤ B
  | .sending _ limit => now + W ≤ B ∧ limit + W ≤ B
  | .sendingClose limit | .closingSink limit => now ≤ B ∧ limit ≤ B
  | .stopped => True

theorem Timely.le {W B now : Nat} {phase : WriterPhase} (timely : Timely W B now phase)
    (hphase : phase ≠ .stopped) : now ≤ B := by
  cases phase with
  | stopped => exact absurd rfl hphase
  | starting => exact Nat.le_of_add_right_le timely
  | idle => exact Nat.le_of_add_right_le timely
  | sending kind limit => exact Nat.le_of_add_right_le timely.1
  | sendingClose limit => exact timely.1
  | closingSink limit => exact timely.1

/-- Earlier is in time where later is. -/
theorem Timely.mono {W B now later : Nat} {phase : WriterPhase} (timely : Timely W B later phase)
    (hle : now ≤ later) : Timely W B now phase := by
  cases phase with
  | stopped => trivial
  | starting => exact Nat.le_trans (Nat.add_le_add_right hle W) timely
  | idle => exact Nat.le_trans (Nat.add_le_add_right hle W) timely
  | sending kind limit => exact ⟨Nat.le_trans (Nat.add_le_add_right hle W) timely.1, timely.2⟩
  | sendingClose limit => exact ⟨Nat.le_trans hle timely.1, timely.2⟩
  | closingSink limit => exact ⟨Nat.le_trans hle timely.1, timely.2⟩

namespace Connection

section Waiting

variable {τ : Type} [Transport τ] {c : Connection τ} {now W B : Nat}

/-- A writer that has nothing to do now waits for its limit. -/
theorem waits_of_not_due (hdead : c.alive = false) (hphase : c.writer ≠ .stopped)
    (hdone : ¬ c.Due now .write) (timely : Timely W B now c.writer) :
    ∃ limit, (limit, Task.writer c.id) ∈ Hub.timersOf c ∧ now < limit ∧
      limit ≤ B ∧ Timely W B limit c.writer := by
  rw [Due] at hdone
  cases hwriter : c.writer with
  | stopped => exact absurd hwriter hphase
  | starting =>
    rw [hwriter] at hdone
    exact absurd trivial hdone
  | idle =>
    rw [hwriter] at hdone
    exact absurd (.inl hdead) hdone
  | sending kind limit =>
    rw [hwriter] at hdone timely
    refine ⟨limit, by simp [Hub.timersOf, hwriter], Nat.lt_of_not_le hdone, ?_, timely.2, timely.2⟩
    exact Nat.le_of_add_right_le timely.2
  | sendingClose limit =>
    rw [hwriter] at hdone timely
    exact ⟨limit, by simp [Hub.timersOf, hwriter], Nat.lt_of_not_le hdone, timely.2, timely.2,
      timely.2⟩
  | closingSink limit =>
    rw [hwriter] at hdone timely
    exact ⟨limit, by simp [Hub.timersOf, hwriter], Nat.lt_of_not_le hdone, timely.2, timely.2,
      timely.2⟩

end Waiting

variable {τ : Type} [Transport τ] {now W B limit : Nat} {c : Connection (Watched τ)}
  {config : SocketConfig} {p : Progress}

theorem timely_finishClose (hdead : c.alive = false) {wait : WriterPhase}
    (timely : Timely W B now wait) :
    Timely W B now (c.finishClose now limit wait p).conn.writer := by
  rw [conn_finishClose hdead]
  split
  · exact timely
  · trivial

theorem timely_closeSink (hdead : c.alive = false) (hnow : now ≤ B) (hlimit : limit ≤ B) :
    Timely W B now (c.closeSink now limit).conn.writer :=
  timely_finishClose (c := { c with link := (Transport.close now c.link).2 }) hdead ⟨hnow, hlimit⟩

theorem timely_afterCloseFrame (hdead : c.alive = false) (hnow : now ≤ B) (hlimit : limit ≤ B) :
    Timely W B now (c.afterCloseFrame now limit p).conn.writer := by
  cases p with
  | done => exact timely_closeSink hdead hnow hlimit
  | _ => exact timely_finishClose hdead ⟨hnow, hlimit⟩

theorem timely_afterSend (hdead : c.alive = false) (kind : FrameKind) (hnow : now + W ≤ B)
    (hlimit : limit + W ≤ B) : Timely W B now (c.afterSend now kind limit p).conn.writer := by
  rcases afterSend_cases now c kind limit p with heq | ⟨-, heq⟩ | ⟨reason, -, heq⟩
  · rw [heq]
    exact hnow
  · rw [heq]
    exact ⟨hnow, hlimit⟩
  · rw [heq, conn_failWriter_of_dead hdead]
    trivial

theorem timely_writerTurn (hdead : c.alive = false)
    (timely : Timely config.writeTimeout B now c.writer) :
    Timely config.writeTimeout B now (c.writerTurn now config).conn.writer := by
  rw [writerTurn]
  split
  · exact timely
  · rename_i hstarting
    rwa [hstarting] at timely
  · rename_i hidle
    rw [hidle] at timely
    rw [idleTurn, if_pos (by simp [hdead])]
    exact timely_afterCloseFrame (c := { c with link := (Transport.send now .close c.link).2 })
      hdead (timely.le (by simp)) timely
  · rename_i kind limit hsending
    rw [hsending] at timely
    exact timely_afterSend (c := { c with link := (Transport.resume now c.link).2 })
      (p := (Transport.resume now c.link).1) hdead kind timely.1 timely.2
  · rename_i limit hsending
    rw [hsending] at timely
    exact timely_afterCloseFrame (c := { c with link := (Transport.resume now c.link).2 })
      (p := (Transport.resume now c.link).1) hdead timely.1 timely.2
  · rename_i limit hclosing
    rw [hclosing] at timely
    exact timely_closeSink hdead timely.1 timely.2

end Connection

end Switchboard
