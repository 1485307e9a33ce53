import Switchboard.Proofs.FanOut
import Switchboard.Proofs.Settled

/-!
# A fan-out delivers one copy to each

`one_copy_each` follows a call that sends a frame to all connections of a user, or to all, from its
first turn on. The connections `S` that it is for are those that are registered then. Each of them
that has room gets its copy in that turn, and for each of the others one send is put in line
(`Hub.FansOut`). In every later state of every run (`Hub.Delivered`) a send that had to wait still
does, or has put exactly one copy into the outbox, or was given up because the connection was torn
down; nobody else ever gets a copy; and the call reports how many `S` are once no send of it waits.

Whoever asked for a call may stop waiting for it. What waits then is given up as well.

## Shape of the proof

The copies of a call are read off the history of the hub, and its waiting sends off the calls.
`Hub.Shift` lists what an event can make of the two for one connection, and `Hub.carriesOn_step`
says that there is nothing else, from the first turn on (`Hub.Underway`). What is settled stays so
(`Run.of_settled`), and a send that waits comes to one of its ends (`Run.share`).
-/

namespace Switchboard

/-- A call that is past its first turn, at which it was decided what it sends and reports. `gone`
says that whoever asked for it no longer waits. -/
def Call.Bears (f : Frame) (reply : Reply) (gone : Prop) : Call → Prop
  | .requested _ => False
  | .waiting g _ r => g = f ∧ r = reply
  | .finished r => r = reply
  | .abandoned => gone

theorem Call.Bears.mono {f : Frame} {reply : Reply} {gone gone' : Prop} {call : Call}
    (bears : call.Bears f reply gone) (hgone : gone → gone') : call.Bears f reply gone' := by
  cases call with
  | requested r => exact bears
  | waiting g places r => exact bears
  | finished r => exact bears
  | abandoned => exact hgone bears

namespace Hub

variable {τ : Type} {h h' : Hub τ} {id : String} {n p : Nat} {f : Frame} {reply : Reply}
  {gone : Prop}

/-- What an event makes of the share of a connection in a call that is past its first turn. -/
inductive Shift (n : Nat) (f : Frame) (id : String) (e : Event τ) (h h' : Hub τ) : Prop
  | stays (copies_eq : h'.copies n id = h.copies n id)
      (places_eq : h'.placesFor n id = h.placesFor n id)
  | enters (waits : h.placesFor n id ≠ []) (settled : h'.placesFor n id = [])
      (copies_eq : h'.copies n id = h.copies n id ++ [f])
  /-- The connection was torn down. -/
  | givesUp (waits : h.placesFor n id ≠ []) (settled : h'.placesFor n id = [])
      (copies_eq : h'.copies n id = h.copies n id)
      (dead : ∃ c, h'.find? id = some c ∧ c.alive = false)
  | abandons (event : e = .abandon n) (settled : h'.placesFor n id = [])
      (copies_eq : h'.copies n id = h.copies n id)

/-- What an event makes of a call that is past its first turn. -/
structure CarriesOn (n : Nat) (f : Frame) (reply : Reply) (gone : Prop) (e : Event τ)
    (h h' : Hub τ) : Prop where
  call : ∃ call, h'.calls[n]? = some call ∧ call.Bears f reply (gone ∨ e = .abandon n)
  shift : ∀ id, Shift n f id e h h'

theorem Shift.of_ready {e : Event τ} {ready : List Task}
    (shift : Shift n f id e { h with ready } h') : Shift n f id e h h' := by
  cases shift with
  | stays copies_eq places_eq => exact .stays copies_eq places_eq
  | enters waits settled copies_eq => exact .enters waits settled copies_eq
  | givesUp waits settled copies_eq dead => exact .givesUp waits settled copies_eq dead
  | abandons event settled copies_eq => exact .abandons event settled copies_eq

/-- A call that is over is left alone. -/
theorem CarriesOn.of_same {e : Event τ} {call : Call} (hc : h.calls[n]? = some call)
    (bears : call.Bears f reply gone) (hcalls : h'.calls = h.calls)
    (hhistory : h'.history = h.history) : CarriesOn n f reply gone e h h' where
  call := ⟨call, hcalls ▸ hc, bears.mono .inl⟩
  shift id := by
    refine .stays ?_ ?_
    · rw [copies, copies, hhistory]
    · rw [placesFor, placesFor, line, line, hcalls]

theorem placesFor_of_getElem? {call : Call} (hc : h.calls[n]? = some call) (id : String) :
    h.placesFor n id = placesOf id call.places := by
  rw [placesFor, line_of_getElem? hc]

theorem mem_placesFor_iff : p ∈ h.placesFor n id ↔ (id, p) ∈ h.line n := by
  simp [placesFor, placesOf]

/-- Who waits does so for a connection that there is. -/
theorem InOrder.mem_pending (inOrder : h.InOrder) (hp : p ∈ h.placesFor n id) :
    ⟨n, p⟩ ∈ h.pending id := (inOrder.lined.mem_iff id ⟨n, p⟩).mpr (mem_placesFor_iff.mp hp)

theorem InOrder.found (inOrder : h.InOrder) (f : Frame) (places : List (String × Nat))
    (reply : Reply) (hc : h.calls[n]? = some (.waiting f places reply)) : h.Found places := by
  intro x hx
  have hmem : ⟨n, x.2⟩ ∈ h.pending x.1 := by
    rw [inOrder.lined.mem_iff, line_of_getElem? hc]
    exact hx
  obtain ⟨c, hc, -⟩ := exists_find?_of_mem_pending hmem
  exact ⟨c, hc⟩

theorem intake_abandonEntries (h : Hub τ) (n : Nat) (id : String) :
    intake id (h.abandonEntries n) = [] := by
  rw [intake, List.filterMap_eq_nil_iff, abandonEntries]
  split
  · intro x hx
    obtain ⟨y, -, rfl⟩ := List.mem_map.mp hx
    rfl
  · exact fun x hx => absurd hx List.not_mem_nil

/-! ## The own turns of a call -/

/-- What becomes of a waiting send in a turn of its call. -/
theorem standing_callTurn {places : List (String × Nat)}
    (hc : h.calls[n]? = some (.waiting f places reply)) (roomFirst : Nat → Bool) (id : String) :
    (h.placesFor n id = [] → (h.callTurn roomFirst n).placesFor n id = [] ∧
      (h.callTurn roomFirst n).standing n id = h.standing n id) ∧
    (∀ p, h.placesFor n id = [p] → (h.callTurn roomFirst n).placesFor n id =
        (if ((h.standing n id).resume (roomFirst p) f ⟨n, p⟩).1 then [p] else []) ∧
      (h.callTurn roomFirst n).standing n id =
        ((h.standing n id).resume (roomFirst p) f ⟨n, p⟩).2) := by
  have hserves : h.Serves (resumeSends roomFirst n f places h).2 :=
    serves_resumeSends places (sends_of_open hc rfl)
  have hlt := (List.getElem?_eq_some_iff.mp hc).1
  have hplaces : (h.callTurn roomFirst n).placesFor n id =
      placesOf id (resumeSends roomFirst n f places h).1 := by
    rw [placesFor, callTurn, hc]
    dsimp only
    rw [line_settleCall (hserves.2 ▸ hlt), Function.update_self]
  have hstanding : (h.callTurn roomFirst n).standing n id =
      (resumeSends roomFirst n f places h).2.standing n id := by
    rw [callTurn, hc]
    rfl
  rw [hplaces, hstanding, resumeSends_eq_sends, placesFor_of_getElem? hc]
  constructor
  · intro hid
    exact standing_sends_of_none
      (fun id p h => within_resumeSend h (roomFirst p) id f ⟨n, p⟩) hid n h
  · intro p hid
    exact standing_sends (fun id p h => within_resumeSend h (roomFirst p) id f ⟨n, p⟩)
      (g := fun p s => s.resume (roomFirst p) f ⟨n, p⟩)
      (fun id p h => standing_resumeSend h (roomFirst p) id f ⟨n, p⟩) hid h

/-- A waiting send still waits, or its copy has entered, or the connection is dead. -/
theorem shift_callTurn (inOrder : h.InOrder) {places : List (String × Nat)}
    (hc : h.calls[n]? = some (.waiting f places reply)) (roomFirst : Nat → Bool)
    (one : h.placesFor n id = [] ∨ ∃ p, h.placesFor n id = [p]) (e : Event τ) :
    Shift n f id e h (h.callTurn roomFirst n) := by
  obtain ⟨hnone, hone⟩ := standing_callTurn hc roomFirst id
  rcases one with hid | ⟨p, hid⟩
  · obtain ⟨hplaces, hstanding⟩ := hnone hid
    exact .stays (congrArg Standing.copies hstanding) (hplaces.trans hid.symm)
  · have hwaits : h.placesFor n id ≠ [] := by simp [hid]
    obtain ⟨c, hfound, -⟩ := exists_find?_of_mem_pending
      (inOrder.mem_pending (p := p) (by rw [hid]; exact List.mem_singleton_self p))
    obtain ⟨hplaces, hstanding⟩ := hone p hid
    rw [standing_of_find? hfound] at hplaces hstanding
    rcases Standing.resume_cases (c := c) (h.copies n id) (roomFirst p) f ⟨n, p⟩ with
      ⟨conn, heq⟩ | ⟨c', hdead, heq⟩ | ⟨-, -, heq⟩
    · rw [heq] at hplaces hstanding
      exact .enters hwaits hplaces (congrArg Standing.copies hstanding)
    · rw [heq] at hplaces hstanding
      exact .givesUp hwaits hplaces (congrArg Standing.copies hstanding)
        ⟨c', congrArg Standing.conn hstanding, hdead⟩
    · rw [heq] at hplaces hstanding
      exact .stays (congrArg Standing.copies hstanding) (hplaces.trans hid.symm)

theorem bears_settleCall (hlt : n < h.calls.length) (f : Frame) (left : List (String × Nat))
    (reply : Reply) : ∃ call, (h.settleCall n f left reply).calls[n]? = some call ∧
      call.Bears f reply gone := by
  refine ⟨_, List.getElem?_set_self hlt, ?_⟩
  split
  · exact rfl
  · exact ⟨rfl, rfl⟩

theorem bears_callTurn {places : List (String × Nat)}
    (hc : h.calls[n]? = some (.waiting f places reply)) (roomFirst : Nat → Bool) :
    ∃ call, (h.callTurn roomFirst n).calls[n]? = some call ∧ call.Bears f reply gone := by
  have hserves : h.Serves (resumeSends roomFirst n f places h).2 :=
    serves_resumeSends places (sends_of_open hc rfl)
  rw [callTurn, hc]
  exact bears_settleCall (hserves.2 ▸ (List.getElem?_eq_some_iff.mp hc).1) f _ reply

/-! ## A call that is past its first turn -/

/-- A call is past its first turn, and nobody it is for has more than one send in line. -/
structure Underway (n : Nat) (f : Frame) (reply : Reply) (gone : Prop) (h : Hub τ) : Prop where
  inOrder : h.InOrder
  call : ∃ call, h.calls[n]? = some call ∧ call.Bears f reply gone
  one : ∀ id, h.placesFor n id = [] ∨ ∃ p, h.placesFor n id = [p]

theorem Underway.mono {gone' : Prop} (underway : h.Underway n f reply gone)
    (hgone : gone → gone') : h.Underway n f reply gone' where
  inOrder := underway.inOrder
  call := by
    obtain ⟨call, hc, bears⟩ := underway.call
    exact ⟨call, hc, bears.mono hgone⟩
  one := underway.one

section Events

variable [Transport τ] {e : Event τ}

/-- What is no turn of a call, and does not abandon it, says nothing of its sends. -/
theorem storyOf_entries_of_other (inOrder : h.InOrder)
    (hturn : ∀ roomFirst, e ≠ .turn (.call n) roomFirst) (habandon : e ≠ .abandon n) (p : Nat) :
    storyOf ⟨n, p⟩ (h.entries e) = [] := by
  by_cases hcall : ∃ m roomFirst, e = .turn (.call m) roomFirst
  · obtain ⟨m, roomFirst, rfl⟩ := hcall
    refine storyOf_callTurn inOrder.found roomFirst ?_
    rintro rfl
    exact hturn roomFirst rfl
  by_cases hgone : ∃ m, e = .abandon m
  · obtain ⟨m, rfl⟩ := hgone
    refine h.abandonEntries_call_eq ?_
    rintro rfl
    exact habandon rfl
  · refine storyOf_eq_nil fun x hx ht => ?_
    rw [ticket?_entries (fun m roomFirst he => hcall ⟨m, roomFirst, he⟩)
      (fun m he => hgone ⟨m, he⟩) h x hx] at ht
    cases ht

/-- What is no turn of a call, and does not abandon it, leaves it and its copies as they are. -/
theorem carriesOn_of_other (inOrder : h.InOrder) {call : Call} (hc : h.calls[n]? = some call)
    (bears : call.Bears f reply gone) (hturn : ∀ roomFirst, e ≠ .turn (.call n) roomFirst)
    (habandon : e ≠ .abandon n) : CarriesOn n f reply gone e h (h.step e) := by
  obtain ⟨call', hc', advance⟩ := advance_step hc e
  cases advance with
  | stays other =>
    refine ⟨⟨call, hc', bears.mono .inl⟩, fun id => .stays ?_ ?_⟩
    · rw [(balances_step h e).copies_eq,
        copiesOf_intake_of_untold (storyOf_entries_of_other inOrder hturn habandon),
        List.append_nil]
    · rw [placesFor_of_getElem? hc', placesFor_of_getElem? hc]
  | abandons => exact absurd rfl habandon
  | begins => exact absurd rfl (hturn _)
  | resumes => exact absurd rfl (hturn _)

theorem carriesOn_turn (underway : h.Underway n f reply gone) (roomFirst : Nat → Bool) :
    CarriesOn n f reply gone (.turn (.call n) roomFirst) h
      (h.step (.turn (.call n) roomFirst)) := by
  obtain ⟨call, hc, bears⟩ := underway.call
  have hstep : h.step (.turn (.call n) roomFirst) =
      ({ h with ready := h.ready.erase (.call n) } : Hub τ).callTurn roomFirst n := rfl
  have hover : call.frame? = none → h.step (.turn (.call n) roomFirst) =
      { h with ready := h.ready.erase (.call n) } := fun hover =>
    callTurn_of_over (h := { h with ready := h.ready.erase (.call n) }) hc hover roomFirst
  cases call with
  | requested r => exact absurd bears id
  | waiting g places r =>
    obtain ⟨rfl, rfl⟩ := bears
    have inOrder : ({ h with ready := h.ready.erase (.call n) } : Hub τ).InOrder :=
      SameLines.inOrder (.refl h) (.refl h) underway.inOrder
    rw [hstep]
    exact ⟨bears_callTurn (h := { h with ready := h.ready.erase (.call n) }) hc roomFirst,
      fun id => (shift_callTurn inOrder hc roomFirst (underway.one id) _).of_ready⟩
  | finished r =>
    rw [hover rfl]
    exact .of_same hc bears rfl rfl
  | abandoned =>
    rw [hover rfl]
    exact .of_same hc bears rfl rfl

omit [Transport τ] in
theorem carriesOn_abandon (underway : h.Underway n f reply gone) :
    CarriesOn n f reply gone (.abandon n) h (h.abandon n) := by
  obtain ⟨call, hc, bears⟩ := underway.call
  cases call with
  | requested r => exact absurd bears id
  | waiting g places r =>
    have hc' : (h.abandon n).calls[n]? = some .abandoned := by
      have hserves := serves_withdrawSends n places h
      rw [abandon, hc]
      exact List.getElem?_set_self (hserves.2 ▸ (List.getElem?_eq_some_iff.mp hc).1)
    have balances : Balances (fun _ => True) _ h (h.abandon n) := balances_abandon h n
    refine ⟨⟨.abandoned, hc', .inr rfl⟩, fun id => .abandons rfl ?_ ?_⟩
    · rw [placesFor_of_getElem? hc']
      rfl
    · rw [balances.copies_eq, intake_abandonEntries]
      exact List.append_nil _
  | finished r =>
    rw [abandon_of_over hc rfl]
    exact .of_same hc bears rfl rfl
  | abandoned =>
    rw [abandon_of_over hc rfl]
    exact .of_same hc bears rfl rfl

/-- **What an event makes of a call that is past its first turn.** -/
theorem carriesOn_step (underway : h.Underway n f reply gone) (e : Event τ) :
    CarriesOn n f reply gone e h (h.step e) := by
  by_cases hturn : ∃ roomFirst, e = .turn (.call n) roomFirst
  · obtain ⟨roomFirst, rfl⟩ := hturn
    exact carriesOn_turn underway roomFirst
  by_cases habandon : e = .abandon n
  · subst habandon
    exact carriesOn_abandon underway
  · obtain ⟨call, hc, bears⟩ := underway.call
    exact carriesOn_of_other underway.inOrder hc bears (fun roomFirst he => hturn ⟨roomFirst, he⟩)
      habandon

theorem Underway.step (underway : h.Underway n f reply gone) (e : Event τ) :
    (h.step e).Underway n f reply (gone ∨ e = .abandon n) := by
  have carries := carriesOn_step underway e
  refine ⟨inOrder_step underway.inOrder e, carries.call, fun id => ?_⟩
  cases carries.shift id with
  | stays copies_eq places_eq =>
    rw [places_eq]
    exact underway.one id
  | enters waits settled => exact .inl settled
  | givesUp waits settled => exact .inl settled
  | abandons event settled => exact .inl settled

end Events

end Hub

/-! ## The share of each connection -/

namespace Hub

variable {τ : Type} {h h' : Hub τ} {id : String} {n p : Nat} {f : Frame} {reply : Reply}
  {gone : Prop}

/-- What has become of a send of a call that had to wait. -/
inductive Share (n : Nat) (f : Frame) (id : String) (p : Nat) (gone : Prop) (h : Hub τ) : Prop
  /-- It waits still. -/
  | waits (copies_eq : h.copies n id = []) (places_eq : h.placesFor n id = [p])
  /-- Its copy has entered the outbox. -/
  | entered (copies_eq : h.copies n id = [f]) (places_eq : h.placesFor n id = [])
  /-- It was given up: the connection was torn down, or whoever asked for the call waits no more. -/
  | givenUp (copies_eq : h.copies n id = []) (places_eq : h.placesFor n id = [])
      (cause : (∃ c, h.find? id = some c ∧ c.alive = false) ∨ gone)

theorem Share.mono {gone' : Prop} (share : h.Share n f id p gone) (hgone : gone → gone') :
    h.Share n f id p gone' := by
  cases share with
  | waits copies_eq places_eq => exact .waits copies_eq places_eq
  | entered copies_eq places_eq => exact .entered copies_eq places_eq
  | givenUp copies_eq places_eq cause => exact .givenUp copies_eq places_eq (cause.imp_right hgone)

/-- What is settled stays so. -/
theorem Shift.of_settled {e : Event τ} (shift : Shift n f id e h h')
    (settled : h.placesFor n id = []) :
    h'.copies n id = h.copies n id ∧ h'.placesFor n id = [] := by
  cases shift with
  | stays copies_eq places_eq => exact ⟨copies_eq, places_eq.trans settled⟩
  | enters waits => exact absurd settled waits
  | givesUp waits => exact absurd settled waits
  | abandons event settled copies_eq => exact ⟨copies_eq, settled⟩

variable [Transport τ] {es : List (Event τ)} {e : Event τ}

theorem Share.step (share : h.Share n f id p gone) (underway : h.Underway n f reply gone)
    (e : Event τ) : (h.step e).Share n f id p (gone ∨ e = .abandon n) := by
  have shift := (carriesOn_step underway e).shift id
  cases share with
  | waits copies_eq places_eq =>
    cases shift with
    | stays hcopies hplaces => exact .waits (hcopies.trans copies_eq) (hplaces.trans places_eq)
    | enters waits settled hcopies => exact .entered (by rw [hcopies, copies_eq]; rfl) settled
    | givesUp waits settled hcopies dead =>
      exact .givenUp (hcopies.trans copies_eq) settled (.inl dead)
    | abandons event settled hcopies =>
      exact .givenUp (hcopies.trans copies_eq) settled (.inr (.inr event))
  | entered copies_eq places_eq =>
    obtain ⟨hcopies, hplaces⟩ := shift.of_settled places_eq
    exact .entered (hcopies.trans copies_eq) hplaces
  | givenUp copies_eq places_eq cause =>
    obtain ⟨hcopies, hplaces⟩ := shift.of_settled places_eq
    refine .givenUp (hcopies.trans copies_eq) hplaces (cause.imp ?_ .inl)
    rintro ⟨c, hc, hdead⟩
    obtain ⟨c', hc', hdies, -⟩ := (balances_step h e).conn id c hc
    exact ⟨c', hc', hdies hdead⟩

end Hub

section Runs

variable {τ : Type} [Transport τ] {h h' : Hub τ} {es : List (Event τ)} {id : String} {n p : Nat}
  {f : Frame} {reply : Reply}

theorem Run.underway (run : Run h es h') (underway : h.Underway n f reply False) :
    h'.Underway n f reply (.abandon n ∈ es) := by
  refine run.induct_end (P := fun es h' => h'.Underway n f reply (.abandon n ∈ es))
    ?_ fun _ _ ih => ?_
  · exact underway.mono fun hfalse => hfalse.elim
  · refine (ih.step _).mono fun hgone => ?_
    rw [List.mem_append, List.mem_singleton]
    exact hgone.imp_right Eq.symm

theorem Run.share (run : Run h es h') (underway : h.Underway n f reply False)
    (share : h.Share n f id p False) : h'.Share n f id p (.abandon n ∈ es) := by
  refine run.induct_end (P := fun es h' => h'.Share n f id p (.abandon n ∈ es))
    ?_ fun before _ ih => ?_
  · exact share.mono fun hfalse => hfalse.elim
  · refine (ih.step (before.underway underway) _).mono fun hgone => ?_
    rw [List.mem_append, List.mem_singleton]
    exact hgone.imp_right Eq.symm

/-- What is settled stays so. -/
theorem Run.of_settled {gone : Prop} (run : Run h es h') (underway : h.Underway n f reply gone)
    (settled : h.placesFor n id = []) :
    h'.copies n id = h.copies n id ∧ h'.placesFor n id = [] := by
  induction run generalizing gone with
  | nil => exact ⟨rfl, settled⟩
  | @cons h h' e es allowed rest ih =>
    obtain ⟨hcopies, hplaces⟩ := ((Hub.carriesOn_step underway e).shift id).of_settled settled
    obtain ⟨hcopies', hplaces'⟩ := ih (underway.step e) hplaces
    exact ⟨hcopies'.trans hcopies, hplaces'⟩

end Runs

namespace Hub

variable {τ : Type} {h h' h₁ : Hub τ} {id target : String} {n p : Nat} {f : Frame}
  {S : List (Connection τ)} {place : String → Nat} {gone : Prop}

/-- A send for which a slot is kept, or whose connection is dead, waits no more after a turn. -/
theorem Underway.released [Transport τ] {reply : Reply} (underway : h.Underway n f reply gone)
    {c : Connection τ} (hp : p ∈ h.placesFor n id) (hfound : h.find? id = some c)
    (hends : c.alive = false ∨ ⟨n, p⟩ ∈ c.outbox.granted) (roomFirst : Nat → Bool) :
    (h.step (.turn (.call n) roomFirst)).placesFor n id = [] := by
  obtain ⟨call, hc, bears⟩ := underway.call
  rcases underway.one id with hnone | ⟨q, hone⟩
  · rw [hnone] at hp
    cases hp
  · obtain rfl : p = q := by simpa [hone] using hp
    cases call with
    | requested r => exact absurd bears not_false
    | waiting g places r =>
      obtain ⟨-, hturn⟩ := standing_callTurn (h := { h with ready := h.ready.erase (.call n) }) hc
        roomFirst id
      obtain ⟨hplaces, -⟩ := hturn p hone
      have hfound : ({ h with ready := h.ready.erase (.call n) } : Hub τ).find? id = some c :=
        hfound
      rw [standing_of_find? hfound] at hplaces
      rcases Standing.resume_cases (c := c)
        (copies { h with ready := h.ready.erase (.call n) } n id) (roomFirst p) g ⟨n, p⟩ with
        ⟨conn, heq⟩ | ⟨c', -, heq⟩ | ⟨halive, hgranted, -⟩
      · rw [heq] at hplaces
        exact hplaces
      · rw [heq] at hplaces
        exact hplaces
      · rcases hends with hdead | hkept
        · rw [halive] at hdead
          cases hdead
        · exact absurd hkept hgranted
    | finished r =>
      rw [placesFor_of_getElem? hc] at hp
      cases hp
    | abandoned =>
      rw [placesFor_of_getElem? hc] at hp
      cases hp

/-! ## The counter of deliveries -/

theorem sent_resumeSend (h : Hub τ) (roomFirst : Bool) (id : String) (f : Frame) (t : Ticket) :
    (h.resumeSend roomFirst id f t).2.metrics.sent = h.metrics.sent := by
  rw [resumeSend]
  cases hc : h.find? id with
  | none => rfl
  | some c =>
    dsimp only
    split
    · exact congrArg Metrics.sent (metrics_enter h id f (.call t) fun o => o.redeem t f)
    · split
      · obtain ⟨ready, heq, -⟩ := rouses_wakeAll ((c.outbox.withdraw t).1.toList.map fun t =>
          .call t.call) (h.update id fun c' => { c' with outbox := (c.outbox.withdraw t).2 })
        rw [withdrawSend, hc]
        dsimp only
        rw [heq]
        rfl
      · rfl

theorem sent_resumeSends (roomFirst : Nat → Bool) (n : Nat) (f : Frame)
    (places : List (String × Nat)) (h : Hub τ) :
    (resumeSends roomFirst n f places h).2.metrics.sent = h.metrics.sent := by
  induction places generalizing h with
  | nil => rfl
  | cons x rest ih => exact (ih _).trans (sent_resumeSend h (roomFirst x.2) x.1 f ⟨n, x.2⟩)

/-- A call is counted at its first turn only. -/
theorem Underway.sent_turn [Transport τ] {reply : Reply} (underway : h.Underway n f reply gone)
    (roomFirst : Nat → Bool) :
    (h.step (.turn (.call n) roomFirst)).metrics.sent = h.metrics.sent := by
  obtain ⟨call, hc, bears⟩ := underway.call
  change (callTurn { h with ready := h.ready.erase (.call n) } roomFirst n).metrics.sent = _
  rw [callTurn, hc]
  cases call with
  | requested r => exact absurd bears not_false
  | waiting g places r => exact sent_resumeSends roomFirst n g places _
  | finished r => rfl
  | abandoned => rfl

/-! ## The whole of a fan-out -/

/-- What has become of a call that sends a frame to the connections `S`, at any time after its first
turn. `place` tells of each connection the place of the send to it, if that had to wait; `gone` says
that whoever asked for the call no longer waits. -/
structure Delivered [Transport τ] (n : Nat) (f : Frame) (S : List (Connection τ))
    (place : String → Nat) (gone : Prop) (h : Hub τ) : Prop where
  /-- The call has reported how many connections it was for, or some send of it waits. -/
  outcome : h.calls[n]? = some (.finished (.targeted S.length)) ∨
    (∃ c ∈ S, h.placesFor n c.id ≠ []) ∨ gone ∧ h.calls[n]? = some .abandoned
  roomy : ∀ c ∈ S, c.outbox.hasRoom = true → h.copies n c.id = [f] ∧ h.placesFor n c.id = []
  full : ∀ c ∈ S, c.outbox.hasRoom = false → h.Share n f c.id (place c.id) gone
  others : ∀ id, (∀ c ∈ S, c.id ≠ id) → h.copies n id = [] ∧ h.placesFor n id = []
  /-- Who waits stands in line. -/
  inLine : ∀ id, ∀ p ∈ h.placesFor n id, ⟨n, p⟩ ∈ h.pending id
  /-- Who has got a slot, or waits for a dead connection, waits no more after the next turn. -/
  released : ∀ id c p, p ∈ h.placesFor n id → h.find? id = some c →
    (c.alive = false ∨ ⟨n, p⟩ ∈ c.outbox.granted) →
      ∀ roomFirst, (h.step (.turn (.call n) roomFirst)).placesFor n id = []
  /-- Nothing more is counted as sent. -/
  sent_eq : ∀ roomFirst, (h.step (.turn (.call n) roomFirst)).metrics.sent = h.metrics.sent
  /-- What is settled stays so. -/
  settled : ∀ es h' id, Run h es h' → h.placesFor n id = [] →
    h'.copies n id = h.copies n id ∧ h'.placesFor n id = []

theorem Underway.outcome (underway : h.Underway n f (.targeted S.length) gone)
    (others : ∀ id, (∀ c ∈ S, c.id ≠ id) → h.placesFor n id = []) :
    h.calls[n]? = some (.finished (.targeted S.length)) ∨
      (∃ c ∈ S, h.placesFor n c.id ≠ []) ∨ gone ∧ h.calls[n]? = some .abandoned := by
  obtain ⟨call, hc, bears⟩ := underway.call
  cases call with
  | requested r => exact absurd bears not_false
  | waiting g places r =>
    obtain ⟨⟨id, p⟩, hmem⟩ := List.exists_mem_of_ne_nil places (underway.inOrder.waits hc)
    have hwaits : h.placesFor n id ≠ [] := List.ne_nil_of_mem (a := p) <| by
      rw [mem_placesFor_iff, line_of_getElem? hc]
      exact hmem
    have hid : ∃ c ∈ S, c.id = id := by
      by_contra hno
      exact hwaits (others id fun c hcS hcid => hno ⟨c, hcS, hcid⟩)
    obtain ⟨c, hcS, rfl⟩ := hid
    exact .inr (.inl ⟨c, hcS, hwaits⟩)
  | finished r =>
    obtain rfl : r = .targeted S.length := bears
    exact .inl hc
  | abandoned => exact .inr (.inr ⟨bears, hc⟩)

theorem FansOut.underway (fansOut : FansOut n target f S place h h₁) (inOrder : h₁.InOrder)
    {reply : Reply} (call : ∃ call, h₁.calls[n]? = some call ∧ call.Bears f reply False) :
    h₁.Underway n f reply False := by
  refine ⟨inOrder, call, fun id => ?_⟩
  by_cases hid : ∃ c ∈ S, c.id = id
  · obtain ⟨c, hc, rfl⟩ := hid
    cases hroom : c.outbox.hasRoom with
    | true => exact .inl (fansOut.roomy c hc hroom).2.2
    | false => exact .inr ⟨_, (fansOut.full c hc hroom).2.2⟩
  · exact .inl (fansOut.others id fun c hc hcid => hid ⟨c, hc, hcid⟩).2.2

theorem bears_fanOut {r : SendOrder} (hc : h.calls[n]? = some (.requested r)) (target : String)
    (members : List Member) : ∃ call, (h.fanOut n target members r.frame).calls[n]? = some call ∧
      call.Bears r.frame (.targeted members.length) gone := by
  rw [fanOut_eq_sendToEach]
  generalize hcounted :
    (if members.isEmpty then h else h.count fun m => m.countSent target) = counted
  have hcalls : counted.calls = h.calls := by
    rw [← hcounted]
    split <;> rfl
  have hserves : counted.Serves (beginSends n r.frame (members.map Member.id).zipIdx counted).2 :=
    serves_beginSends _ (sends_of_open (hcalls ▸ hc) rfl)
  have hlt : n < (beginSends n r.frame (members.map Member.id).zipIdx counted).2.calls.length := by
    rw [hserves.2, hcalls]
    exact (List.getElem?_eq_some_iff.mp hc).1
  exact bears_settleCall hlt r.frame _ _

theorem FansOut.delivered [Transport τ] (fansOut : FansOut n target f S place h h₁)
    (underway : h₁.Underway n f (.targeted S.length) False) {es : List (Event τ)}
    (run : Run h₁ es h') : h'.Delivered n f S place (.abandon n ∈ es) := by
  have later := run.underway underway
  have others : ∀ id, (∀ c ∈ S, c.id ≠ id) → h'.copies n id = [] ∧ h'.placesFor n id = [] := by
    intro id hid
    obtain ⟨-, hcopies, hplaces⟩ := fansOut.others id hid
    obtain ⟨hcopies', hplaces'⟩ := run.of_settled underway hplaces
    exact ⟨hcopies'.trans hcopies, hplaces'⟩
  refine ⟨later.outcome fun id hid => (others id hid).2, fun c hc hroom => ?_,
    fun c hc hfull => ?_, others, fun id p hp => later.inOrder.mem_pending hp,
    fun id c p hp hc hends => later.released hp hc hends, later.sent_turn,
    fun es h' id run hsettled => run.of_settled later hsettled⟩
  · obtain ⟨-, hcopies, hplaces⟩ := fansOut.roomy c hc hroom
    obtain ⟨hcopies', hplaces'⟩ := run.of_settled underway hplaces
    exact ⟨hcopies'.trans hcopies, hplaces'⟩
  · obtain ⟨-, hcopies, hplaces⟩ := fansOut.full c hc hfull
    exact run.share underway (.waits hcopies hplaces)

end Hub

section Fans

variable {τ : Type} [Transport τ] {config : SocketConfig} {origins : OriginPolicy}
  {handlers : List Handler} {now wallClock : Nat} {h start : Hub τ} {es : List (Event τ)}

/-- A call puts nothing into an outbox before its first turn. -/
theorem Run.copies_eq_nil (run : Run (Hub.initial config origins handlers now wallClock) es h)
    {n : Nat} {r : SendOrder} (hc : h.calls[n]? = some (.requested r)) (id : String) :
    h.copies n id = [] := by
  have hempty : ∀ m, (Hub.initial config origins handlers now wallClock : Hub τ).Recorded m [] :=
    fun m => ⟨fun p => rfl, fun f places reply hc => by cases hc⟩
  have recorded := run.recorded hempty n
  have huntold : ∀ p, storyOf ⟨n, p⟩ (book (Hub.initial config origins handlers now wallClock) es) =
      [] := fun p => by
    have fits := recorded.fits p
    rw [hc] at fits
    exact fits
  rw [run.balances.copies_eq, copiesOf_intake_of_untold huntold]
  rfl

/-- **A fan-out delivers one copy to each and only to those who are registered at its first turn.**
That turn asks the registry for whom it is. In whatever order the members were found, each
connection with a free slot and nobody in line has the frame put at the end of its outbox, each
other has one send put in line, and the delivery is counted once if it is for anybody. From then on,
in every state of every run, each send that had to wait still waits, or has put one copy into the
outbox, or was given up at the teardown of its connection or when whoever asked for the call stopped
waiting; nobody else, registered later or not, gets a copy; and the call, unless it was abandoned,
has a send in line or has reported how many connections it was for. -/
theorem one_copy_each (hstart : start = Hub.initial config origins handlers now wallClock)
    (run : Run start es h) {n : Nat} {r : SendOrder} (hc : h.calls[n]? = some (.requested r))
    {target : String} (htarget : r.target? = some target) :
    (∀ roomFirst, h.step (.turn (.call n) roomFirst) =
      h.fannedOut n target ((h.registered r.isFor).map Connection.member) r.frame) ∧
    ∀ members, members.Perm ((h.registered r.isFor).map Connection.member) →
      Hub.FansOut n target r.frame (h.registered r.isFor) (Hub.fanPlace members) h
        (h.fannedOut n target members r.frame) ∧
      ∀ es' h', Run (h.fannedOut n target members r.frame) es' h' →
        h'.Delivered n r.frame (h.registered r.isFor) (Hub.fanPlace members)
          (.abandon n ∈ es') := by
  subst hstart
  have sound := run.sound
  constructor
  · intro roomFirst
    change Hub.callTurn { h with ready := h.ready.erase (.call n) } roomFirst n = _
    rw [Hub.callTurn, hc]
    exact Hub.beginCall_eq_fanOut (h := { h with ready := h.ready.erase (.call n) }) sound htarget n
  intro members hperm
  have inOrder := run.inOrder (Hub.inOrder_initial config origins handlers now wallClock)
  have fansOut : Hub.FansOut n target r.frame (h.registered r.isFor) (Hub.fanPlace members) h
      (h.fannedOut n target members r.frame) :=
    Hub.fansOut_fannedOut (fun c hcS => Hub.living_of_mem_registered sound hcS)
      (Hub.nodup_registered sound _) hperm hc (run.copies_eq_nil hc) target
  refine ⟨fansOut, fun es' h' later => fansOut.delivered (fansOut.underway ?_ ?_) later⟩
  · have inOrder : ({ h with ready := h.ready.erase (.call n) } : Hub τ).InOrder :=
      Hub.SameLines.inOrder (.refl h) (.refl h) inOrder
    exact Hub.inOrder_fanOut inOrder hc target members
  · have hlength : members.length = (h.registered r.isFor).length := by
      rw [hperm.length_eq, List.length_map]
    rw [← hlength]
    exact Hub.bears_fanOut (h := { h with ready := h.ready.erase (.call n) }) hc target members

end Fans

/-- Of the two connections of a user one has room for a frame and one has not. A third is somebody
else's. -/
def sendsToUser : List (Event ScriptedLink) :=
  [.upgrade "a" (.ok { script := .stalled 0 }) { user := some "u", capacity := some 1 },
    .upgrade "b" (.ok { script := .stalled 0 }) { user := some "u" },
    .upgrade "c" (.ok { script := .stalled 0 }) {},
    .ask (.toHandle "a" ⟨.binary, [1]⟩), .turn (.call 0) Hub.teardownFirst,
    .ask (.toUser "u" ⟨.binary, [2]⟩)]

theorem one_copy_each_of_sendsToUser :
    ∃ h, Run (Hub.initial {} .listed [] 0 0) sendsToUser h ∧
      h.calls[1]? = some (.requested (.toUser "u" ⟨.binary, [2]⟩)) ∧
      (SendOrder.toUser "u" ⟨.binary, [2]⟩).target? = some "user" ∧
      (h.step (.turn (.call 1) Hub.teardownFirst)).metrics.sent.get "user" =
        h.metrics.sent.get "user" + 1 ∧
      ∀ es h', Run (h.step (.turn (.call 1) Hub.teardownFirst)) es h' →
        h'.Share 1 ⟨.binary, [2]⟩ "a" 0 (.abandon 1 ∈ es) ∧
          h'.copies 1 "b" = [⟨.binary, [2]⟩] ∧ h'.copies 1 "c" = [] := by
  have run : Run (Hub.initial {} .listed [] 0 0) sendsToUser _ := .of_allowed (by decide +kernel)
  have hc : (sendsToUser.foldl Hub.step (Hub.initial {} .listed [] 0 0)).calls[1]? =
      some (.requested (.toUser "u" ⟨.binary, [2]⟩)) := by decide +kernel
  obtain ⟨hfirst, hfans⟩ := one_copy_each rfl run hc rfl
  obtain ⟨fansOut, hlater⟩ := hfans _ (.refl _)
  rw [← hfirst Hub.teardownFirst] at fansOut hlater
  refine ⟨_, run, hc, rfl, ?_, fun es h' later => ?_⟩
  · have hcounted := fansOut.counted "user"
    rwa [if_pos ⟨rfl, by decide +kernel⟩] at hcounted
  have delivered := hlater es h' later
  generalize hS : Hub.registered _ _ = S at delivered
  have hrooms : S.map (fun c => (c.id, c.outbox.hasRoom)) = [("a", false), ("b", true)] := by
    rw [← hS]
    decide +kernel
  have hplace : Hub.fanPlace (S.map Connection.member) "a" = 0 := by
    rw [← hS]
    decide +kernel
  have hfound : ∀ x ∈ [("a", false), ("b", true)], ∃ c ∈ S, (c.id, c.outbox.hasRoom) = x := by
    rw [← hrooms]
    exact fun x hx => List.mem_map.mp hx
  obtain ⟨a, ha, haid⟩ := hfound ("a", false) (by decide)
  obtain ⟨b, hb, hbid⟩ := hfound ("b", true) (by decide)
  obtain ⟨haid, hfull⟩ := Prod.mk.inj haid
  obtain ⟨hbid, hroom⟩ := Prod.mk.inj hbid
  refine ⟨?_, ?_, ?_⟩
  · have share := delivered.full a ha hfull
    rwa [haid, hplace] at share
  · have hroomy := delivered.roomy b hb hroom
    rw [hbid] at hroomy
    exact hroomy.1
  · refine (delivered.others "c" fun c hc hcid => ?_).1
    have hc := List.mem_map_of_mem (f := fun c => (c.id, c.outbox.hasRoom)) hc
    rw [hrooms, hcid] at hc
    simp at hc

end Switchboard
