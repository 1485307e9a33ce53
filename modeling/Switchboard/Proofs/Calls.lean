import Switchboard.Proofs.Timing

/-!
# How a call gets on

A call is fixed at its first turn: whom it is for, and so what it will report, is decided by the
registry as it is then (`Hub.replyTo`). What comes after can finish the call or abandon it, and
nothing can change its report.

`Hub.Advance` lists what an event can make of a call, with one constructor for each way, and
`advance_step` says that there is no other. From it a run is split at the first turn of a call
(`Run.split_at_first_turn`).
-/

namespace Switchboard

/-- A call that is past its first turn can report only this. -/
def Call.Bound (reply : Reply) : Call → Prop
  | .requested _ => False
  | .waiting _ _ r | .finished r => r = reply
  | .abandoned => True

namespace Hub

variable {τ : Type} {h : Hub τ} {number : Nat}

/-- What a call reports if it gets its first turn now. -/
def replyTo (h : Hub τ) : SendOrder → Reply
  | .toHandle _ _ => .sent
  | .toConnection id _ => .found (h.registry.lookup id).isSome
  | .toUser user _ => .targeted ((h.registry.lookupUser user).getD []).length
  | .toAll _ => .targeted h.registry.all.length

/-! ## Turns of calls -/

/-- The call with a number was set, and no other. -/
def Sets (number : Nat) (call : Call) (h h' : Hub τ) : Prop := h'.calls = h.calls.set number call

theorem exists_sets_settleCall {h' : Hub τ} (hcalls : h'.calls = h.calls) (number : Nat)
    (f : Frame) (left : List (String × Nat)) (reply : Reply) :
    ∃ call, call.Bound reply ∧ Sets number call h (h'.settleCall number f left reply) := by
  rw [settleCall]
  split
  · exact ⟨.finished reply, rfl, by rw [Sets, ← hcalls]; rfl⟩
  · exact ⟨.waiting f left reply, rfl, by rw [Sets, ← hcalls]; rfl⟩

theorem exists_sets_sendToEach {old : Call} {f : Frame} (hold : h.calls[number]? = some old)
    (hopen : old.frame? = some f) (ids : List String) (reply : Reply) :
    ∃ call, call.Bound reply ∧ Sets number call h (h.sendToEach number f ids reply) :=
  exists_sets_settleCall (serves_beginSends ids.zipIdx (sends_of_open hold hopen)).2 number f _
    reply

theorem exists_sets_fanOut {old : Call} {f : Frame} (hold : h.calls[number]? = some old)
    (hopen : old.frame? = some f) (target : String) (members : List Member) :
    ∃ call, call.Bound (.targeted members.length) ∧
      Sets number call h (h.fanOut number target members f) := by
  rw [fanOut]
  split
  · rename_i hempty
    rw [List.isEmpty_iff.mp hempty]
    exact ⟨.finished (.targeted 0), rfl, rfl⟩
  · exact exists_sets_sendToEach (h := h.count fun m => m.countSent target) hold hopen _ _

/-- The first turn of a call decides what it reports. -/
theorem exists_sets_beginCall {r : SendOrder} (hold : h.calls[number]? = some (.requested r)) :
    ∃ call, call.Bound (h.replyTo r) ∧ Sets number call h (h.beginCall number r) := by
  cases r with
  | toHandle id f => exact exists_sets_sendToEach hold rfl _ _
  | toConnection id f =>
    rw [beginCall, replyTo]
    cases h.registry.lookup id with
    | none => exact ⟨.finished (.found false), rfl, rfl⟩
    | some m =>
      exact exists_sets_sendToEach (h := h.count fun m => m.countSent "connection") hold rfl _ _
  | toUser user f => exact exists_sets_fanOut hold rfl "user" _
  | toAll f => exact exists_sets_fanOut hold rfl "broadcast" _

/-- A turn of a call that is over does nothing. -/
theorem callTurn_of_over {c : Call} (hc : h.calls[number]? = some c) (hover : c.frame? = none)
    (roomFirst : Nat → Bool) : h.callTurn roomFirst number = h := by
  rw [callTurn, hc]
  cases c with
  | requested r => cases hover
  | waiting f places reply => cases hover
  | finished reply => rfl
  | abandoned => rfl

theorem abandon_of_over {c : Call} (hc : h.calls[number]? = some c) (hover : c.frame? = none) :
    h.abandon number = h := by
  rw [abandon, hc]
  cases c with
  | requested r => cases hover
  | waiting f places reply => cases hover
  | finished reply => rfl
  | abandoned => rfl

/-- A turn of a call sets no other call. -/
theorem getElem?_calls_callTurn_of_ne {other : Nat} (hne : other ≠ number) (h : Hub τ)
    (roomFirst : Nat → Bool) : (h.callTurn roomFirst other).calls[number]? = h.calls[number]? := by
  rw [callTurn]
  split
  · rename_i r hold
    obtain ⟨call, -, hsets⟩ := exists_sets_beginCall hold
    rw [hsets, List.getElem?_set_ne hne]
  · rename_i f places reply hold
    have hserves : h.Serves (resumeSends roomFirst other f places h).2 :=
      serves_resumeSends places (sends_of_open hold rfl)
    obtain ⟨call, -, hsets⟩ := exists_sets_settleCall hserves.2 other f
      (resumeSends roomFirst other f places h).1 reply
    rw [hsets, List.getElem?_set_ne hne]
  · rfl

/-- An abandoned call stays abandoned, and no other is touched. -/
theorem calls_abandon (h : Hub τ) (number : Nat) :
    (h.abandon number).calls = h.calls ∨
      (h.abandon number).calls = h.calls.set number .abandoned := by
  rw [abandon]
  split
  · exact .inr rfl
  · rename_i f places reply hold
    exact .inr (congrArg (List.set · number _) (serves_withdrawSends number places h).2)
  · exact .inl rfl

theorem reply?_eq_some_iff {reply : Reply} :
    h.reply? number = some reply ↔ h.calls[number]? = some (.finished reply) := by
  rw [reply?]
  cases h.calls[number]? with
  | none => simp
  | some c => cases c <;> simp

/-! ## What an event makes of a call -/

variable [Transport τ]

/-- What an event can make of the call with a number. -/
inductive Advance (number : Nat) (h : Hub τ) : Event τ → Call → Call → Prop
  /-- It stays as it is. The event is no turn of it, unless it is over. -/
  | stays {e : Event τ} {c : Call}
      (other : ∀ roomFirst, e = .turn (.call number) roomFirst → c.frame? = none) :
      Advance number h e c c
  | abandons {c : Call} : Advance number h (.abandon number) c .abandoned
  | begins {roomFirst : Nat → Bool} {r : SendOrder} {c : Call} (bound : c.Bound (h.replyTo r)) :
      Advance number h (.turn (.call number) roomFirst) (.requested r) c
  | resumes {roomFirst : Nat → Bool} {f : Frame} {places : List (String × Nat)} {reply : Reply}
      {c : Call} (bound : c.Bound reply) :
      Advance number h (.turn (.call number) roomFirst) (.waiting f places reply) c

omit [Transport τ] in
theorem asks_startCall (h : Hub τ) (order : SendOrder) : h.Asks (h.startCall order).2 := by
  have hwithin : Within "" h (h.startCall order).2 :=
    (within_addCall "" h order).trans ((rouses_wake _ _).within "")
  exact hwithin.asks

omit [Transport τ] in
theorem asks_remove (h : Hub τ) (id : String) : h.Asks (h.remove id).2 := by
  have hwithin := within_remove h id
  exact hwithin.asks

omit [Transport τ] in
theorem asks_accept (h : Hub τ) (id : String) (link : τ) (o : ConnectOptions) :
    h.Asks (h.accept id link o).2 := by
  rw [accept]
  dsimp only
  split
  · exact .refl _
  · obtain ⟨ready, heq, -⟩ := (rouses_wake _ (.writer id)).trans (rouses_wake _ (.reader id))
    rw [heq]
    exact .refl _

theorem asks_poll {t : Task} (ht : ∀ n, t ≠ .call n) (roomFirst : Nat → Bool) (h : Hub τ) :
    h.Asks (h.poll roomFirst t) := by
  have hturned : h.Asks (({ h with ready := h.ready.erase t } : Hub τ).turn roomFirst t).2 := by
    cases t with
    | writer d =>
      have hwithin := within_writerTurn { h with ready := h.ready.erase (.writer d) } d
      exact hwithin.asks
    | reader d =>
      have hwithin := within_readerTurn { h with ready := h.ready.erase (.reader d) } d
      exact hwithin.asks
    | call n => exact absurd rfl (ht n)
  rw [poll]
  dsimp only
  split <;> exact hturned

/-- What is neither a turn of a call nor abandons one leaves the calls as they are, and may ask
for more. -/
theorem asks_step {e : Event τ} (hturn : ∀ n roomFirst, e ≠ .turn (.call n) roomFirst)
    (habandon : ∀ n, e ≠ .abandon n) (h : Hub τ) : h.Asks (h.step e) := by
  cases e with
  | upgrade id made o =>
    cases made with
    | error e => exact .refl _
    | ok link => exact asks_accept h id link o
  | upgradeFailed reason => exact .refl _
  | ask r => exact asks_startCall h r
  | abandon n => exact absurd rfl (habandon n)
  | remove id => exact asks_remove h id
  | request s r =>
    -- but for counters and the log, a request does what one of three errands does
    obtain ⟨errand, hasks⟩ := Http.exists_asks τ r
    obtain ⟨metrics, log, heq⟩ := hasks s h
    rw [heq]
    cases errand with
    | look => exact .refl _
    | remove id => exact asks_remove h id
    | send order => exact asks_startCall h order
  | act id script =>
    have hwithin := (deeds_runScript id script h).within
    exact hwithin.asks
  | peer id act =>
    have hcalls : (h.step (.peer id act)).calls = h.calls :=
      congrArg Ledger.calls (ledger_peerActs h id _)
    exact .of_calls_eq hcalls
  | turn t roomFirst => exact asks_poll (fun n ht => hturn n roomFirst (ht ▸ rfl)) roomFirst h
  | pass now wallClock =>
    have hcalls : (h.step (.pass now wallClock)).calls = h.calls :=
      congrArg Ledger.calls (ledger_moveClock h now)
    exact .of_calls_eq hcalls

/-- What becomes of a call in its own turn. -/
theorem advance_callTurn {c : Call} (hc : h.calls[number]? = some c) (roomFirst : Nat → Bool) :
    ∃ c', (h.step (.turn (.call number) roomFirst)).calls[number]? = some c' ∧
      Advance number h (.turn (.call number) roomFirst) c c' := by
  generalize hh₁ : ({ h with ready := h.ready.erase (.call number) } : Hub τ) = h₁
  have hstep : h.step (.turn (.call number) roomFirst) = h₁.callTurn roomFirst number := by
    rw [← hh₁]
    rfl
  have hc₁ : h₁.calls[number]? = some c := by
    rw [← hh₁]
    exact hc
  have hset : ∀ {c' : Call} {h' : Hub τ}, Sets number c' h₁ h' → h'.calls[number]? = some c' := by
    intro c' h' hsets
    rw [hsets, List.getElem?_set_self (List.getElem?_eq_some_iff.mp hc₁).1]
  rw [hstep]
  cases c with
  | requested r =>
    obtain ⟨c', bound, hsets⟩ := exists_sets_beginCall hc₁
    rw [callTurn, hc₁]
    refine ⟨c', hset hsets, .begins ?_⟩
    rwa [← hh₁] at bound
  | waiting f places reply =>
    have hserves : h₁.Serves (resumeSends roomFirst number f places h₁).2 :=
      serves_resumeSends places (sends_of_open hc₁ rfl)
    obtain ⟨c', bound, hsets⟩ := exists_sets_settleCall hserves.2 number f
      (resumeSends roomFirst number f places h₁).1 reply
    rw [callTurn, hc₁]
    exact ⟨c', hset hsets, .resumes bound⟩
  | finished reply =>
    rw [callTurn_of_over hc₁ rfl]
    exact ⟨_, hc₁, .stays fun _ _ => rfl⟩
  | abandoned =>
    rw [callTurn_of_over hc₁ rfl]
    exact ⟨_, hc₁, .stays fun _ _ => rfl⟩

/-- **What becomes of a call in an event.** -/
theorem advance_step {c : Call} (hc : h.calls[number]? = some c) (e : Event τ) :
    ∃ c', (h.step e).calls[number]? = some c' ∧ Advance number h e c c' := by
  -- Only a turn of a call and its being abandoned touch the call, and no other call then.
  by_cases hturn : ∃ n roomFirst, e = .turn (.call n) roomFirst
  · obtain ⟨n, roomFirst, rfl⟩ := hturn
    by_cases hn : n = number
    · subst hn
      exact advance_callTurn hc roomFirst
    · refine ⟨c, ?_, .stays fun roomFirst' he => ?_⟩
      · exact (getElem?_calls_callTurn_of_ne hn { h with ready := h.ready.erase (.call n) }
          roomFirst).trans hc
      · cases he
        exact absurd rfl hn
  by_cases habandon : ∃ n, e = .abandon n
  · obtain ⟨n, rfl⟩ := habandon
    change ∃ c', (h.abandon n).calls[number]? = some c' ∧ _
    rcases calls_abandon h n with hsame | hset
    · rw [hsame]
      exact ⟨c, hc, .stays fun _ he => by cases he⟩
    · rw [hset]
      by_cases hn : n = number
      · subst hn
        exact ⟨.abandoned, List.getElem?_set_self (List.getElem?_eq_some_iff.mp hc).1, .abandons⟩
      · rw [List.getElem?_set_ne hn]
        exact ⟨c, hc, .stays fun _ he => by cases he⟩
  · have asks := asks_step (fun n roomFirst he => hturn ⟨n, roomFirst, he⟩)
      (fun n he => habandon ⟨n, he⟩) h
    exact ⟨c, asks.getElem? hc, .stays fun roomFirst he => absurd ⟨number, roomFirst, he⟩ hturn⟩

omit [Transport τ] in
theorem Advance.bound {e : Event τ} {c c' : Call} {reply : Reply}
    (advance : Advance number h e c c') (hc : c.Bound reply) : c'.Bound reply := by
  cases advance with
  | stays => exact hc
  | abandons => trivial
  | begins bound => exact absurd hc id
  | resumes bound =>
    obtain rfl : _ = reply := hc
    exact bound

/-- A call that is over stays as it is. -/
theorem step_of_over {c : Call} (hc : h.calls[number]? = some c) (hover : c.frame? = none)
    (e : Event τ) : (h.step e).calls[number]? = some c := by
  obtain ⟨c', hc', advance⟩ := advance_step hc e
  cases advance with
  | stays => exact hc'
  | abandons =>
    change (h.abandon number).calls[number]? = some c
    rw [abandon_of_over hc hover]
    exact hc
  | begins => cases hover
  | resumes => cases hover

end Hub

/-! ## What a run makes of a call -/

section Runs

variable {τ : Type} [Transport τ] {h h' : Hub τ} {es : List (Event τ)} {number : Nat}

theorem Hub.foldl_step_of_over {c : Call} (hc : h.calls[number]? = some c)
    (hover : c.frame? = none) (es : List (Event τ)) :
    (es.foldl Hub.step h).calls[number]? = some c := by
  induction es generalizing h with
  | nil => exact hc
  | cons e rest ih => exact ih (step_of_over hc hover e)

theorem Hub.foldl_step_of_bound {c : Call} {reply : Reply} (hc : h.calls[number]? = some c)
    (bound : c.Bound reply) (es : List (Event τ)) :
    ∃ c', (es.foldl Hub.step h).calls[number]? = some c' ∧ c'.Bound reply := by
  induction es generalizing h c with
  | nil => exact ⟨c, hc, bound⟩
  | cons e rest ih =>
    obtain ⟨c', hc', advance⟩ := advance_step hc e
    exact ih hc' (advance.bound bound)

/-- A call that has reported had a first turn. It was as yet requested then, and what it reports was
decided there. -/
theorem Run.split_at_first_turn (run : Run h es h') {r : SendOrder} {reply : Reply}
    (hc : h.calls[number]? = some (.requested r)) (hreply : h'.reply? number = some reply) :
    ∃ before roomFirst since h₁, es = before ++ .turn (.call number) roomFirst :: since ∧
      Run h before h₁ ∧ h₁.calls[number]? = some (.requested r) ∧
      (∀ rf, .turn (.call number) rf ∉ before) ∧ reply = h₁.replyTo r ∧
      Run (h₁.step (.turn (.call number) roomFirst)) since h' := by
  rw [Hub.reply?_eq_some_iff] at hreply
  induction run with
  | nil h =>
    rw [hc] at hreply
    cases hreply
  | @cons h h' e es allowed rest ih =>
    obtain ⟨c', hc', advance⟩ := Hub.advance_step hc e
    cases advance with
    | stays other =>
      obtain ⟨before, roomFirst, since, h₁, rfl, first, hc₁, hnone, hdecided, later⟩ :=
        ih hc' hreply
      refine ⟨e :: before, roomFirst, since, h₁, rfl, .cons allowed first, hc₁, fun rf hmem => ?_,
        hdecided, later⟩
      rcases List.mem_cons.mp hmem with rfl | hmem
      · cases other rf rfl
      · exact hnone rf hmem
    | abandons =>
      -- whoever abandoned it gets no report
      rw [rest.eq_foldl, Hub.foldl_step_of_over hc' rfl] at hreply
      cases hreply
    | @begins roomFirst r' c bound =>
      obtain ⟨c'', hc'', hbound⟩ := Hub.foldl_step_of_bound hc' bound es
      rw [← rest.eq_foldl, hreply] at hc''
      obtain rfl := Option.some.inj hc''
      exact ⟨[], roomFirst, es, h, rfl, .nil h, hc, fun _ => List.not_mem_nil, hbound, rest⟩

end Runs

end Switchboard
