import Switchboard.Proofs.Besides

/-!
# What is done for one connection alone

`Hub.Apart c h h₁` says that nothing changed for the connections besides `c`, and that the sends
that were asked for are for `c` alone. So it is with all that is done for `c`, its opening included;
with turns of tasks that rest; and with the passing of time.

Turns of sends are not apart: a send that is not for `c` alone may get on at `c`. What comes of a
turn of a send is said by how far the send has come: `callTurn_of_requested`, `callTurn_of_begun`.
-/

namespace Switchboard.Hub

variable {τ : Type} {c d : String} {h h₁ h₂ : Hub τ}

/-! ## What is done for `c` -/

/-- What was done was done for `c` alone. -/
structure Apart (c : String) (h h₁ : Hub τ) : Prop where
  aside : Aside c h h₁
  asked : ∃ rs : List SendOrder, (∀ r ∈ rs, r.IsFor c) ∧ h₁.calls = h.calls ++ rs.map .requested

theorem Aside.apart (aside : Aside c h h₁) (hcalls : h₁.calls = h.calls) : Apart c h h₁ :=
  ⟨aside, [], by simp [hcalls]⟩

theorem Apart.refl (c : String) (h : Hub τ) : Apart c h h := (Aside.refl c h).apart rfl

theorem Apart.trans (first : Apart c h h₁) (second : Apart c h₁ h₂) : Apart c h h₂ := by
  obtain ⟨rs, hrs, hcalls⟩ := first.asked
  obtain ⟨rs', hrs', hcalls'⟩ := second.asked
  refine ⟨first.aside.trans second.aside, rs ++ rs', fun r hr => ?_, ?_⟩
  · rcases List.mem_append.mp hr with hr | hr
    · exact hrs r hr
    · exact hrs' r hr
  · rw [hcalls', hcalls, List.map_append, List.append_assoc]

theorem calls_remove (h : Hub τ) (id : String) : (h.remove id).2.calls = h.calls := by
  rcases remove_cases h id with ⟨-, _, _, -, -, hl⟩ | ⟨-, hl⟩
  · exact congrArg Ledger.calls hl
  · exact congrArg Ledger.calls hl

theorem apart_remove (h : Hub τ) (c : String) : Apart c h (h.remove c).2 :=
  (within_remove h c).aside.apart (calls_remove h c)

theorem apart_startCall (h : Hub τ) {r : SendOrder} (own : r.IsFor c) :
    Apart c h (h.startCall r).2 := by
  have hcalls : (h.startCall r).2.calls = h.calls ++ [.requested r] :=
    congrArg Ledger.calls (ledger_wake (h.addCall r).2 (.call h.calls.length))
  refine ⟨(within_addCall c h r).aside.trans ((rouses_wake _ _).aside c), [r], fun r' hr => ?_,
    hcalls⟩
  rwa [List.mem_singleton.mp hr]

/-- What leaves its own connection as it was changes nothing for any. -/
theorem Gets.aside_of_same {x : Connection τ} (gets : Gets d x [] h h₁) (hx : h.find? d = some x)
    (c : String) : Aside c h h₁ where
  config_eq := gets.within.config_eq
  members_eq := congrArg _ gets.within.members_eq
  find?_eq e _ := by
    by_cases he : e = d
    · rw [he, gets.find?_self, hx]
    · exact gets.within.find?_eq e he
  history_eq := congrArg (others c) gets.history_eq

theorem Deed.apart (deed : Deed c h h₁) : Apart c h h₁ := by
  have hwithin := deed.within
  cases deed with
  | aside metrics log notes => exact hwithin.aside.apart rfl
  | wake t => exact hwithin.aside.apart (congrArg Ledger.calls (ledger_wake h t))
  | ask f =>
    refine ⟨hwithin.aside, [.toHandle c f], fun r hr => ?_, rfl⟩
    rw [List.mem_singleton.mp hr]
    rfl
  | handle g => exact hwithin.aside.apart rfl
  | offer f => exact hwithin.aside.apart (calls_enter h c f .offer _)
  | remove => exact hwithin.aside.apart (calls_remove h c)

theorem Deeds.apart (deeds : Deeds c h h₁) : Apart c h h₁ := by
  induction deeds with
  | refl => exact .refl c h
  | tail _ deed ih => exact ih.trans deed.apart

/-- The connection that an upgrade opens. -/
def newcomer (h : Hub τ) (id : String) (link : τ) (o : ConnectOptions) : Connection τ :=
  { member := Member.ofTexts id o.user o.tag, link, createdAt := h.wallClock, handlers := o.handlers
    outbox := { capacity := h.capacityFor o } }

/-- An upgrade opens a connection, unless no outbox can have the capacity asked for. -/
theorem accept_cases (h : Hub τ) (id : String) (link : τ) (o : ConnectOptions) :
    h.capacityFor o > Outbox.maxCapacity ∧ (h.accept id link o).2 = h ∨
    ¬ h.capacityFor o > Outbox.maxCapacity ∧
      (h.accept id link o).2.config = h.config ∧ (h.accept id link o).2.history = h.history ∧
      (h.accept id link o).2.calls = h.calls ∧
      (h.accept id link o).2.connections = h.connections ++ [h.newcomer id link o] := by
  unfold accept
  dsimp only
  split
  · rename_i hlarge
    exact .inl ⟨hlarge, rfl⟩
  · rename_i hfit
    refine .inr ⟨hfit, ?_⟩
    generalize hh : ({ h with
      connections := h.connections ++ [{ member := Member.ofTexts id o.user o.tag, link
                                         createdAt := h.wallClock, handlers := o.handlers
                                         outbox := { capacity := h.capacityFor o } }]
      registry := h.registry.insert (Member.ofTexts id o.user o.tag) } : Hub τ) = opened
    obtain ⟨ready, heq, -⟩ := (rouses_wake opened (.writer id)).trans (rouses_wake _ (.reader id))
    rw [heq]
    subst hh
    exact ⟨rfl, rfl, rfl, rfl⟩

theorem find?_of_connections_append {x : Connection τ}
    (hconnections : h₁.connections = h.connections ++ [x]) (d : String) :
    h₁.find? d = (h.find? d).or (if x.id = d then some x else none) := by
  unfold find?
  rw [hconnections, List.find?_append, List.find?_cons]
  by_cases hx : x.id = d <;> simp [hx]

theorem apart_upgrade (h : Hub τ) (c : String) (made : Except Error τ) (o : ConnectOptions) :
    Apart c h (h.upgrade c made o).2 := by
  cases made with
  | error e => exact (within_aside c h _ _ _).aside.apart rfl
  | ok link =>
    change Apart c h (h.accept c link o).2
    rcases accept_cases h c link o with ⟨-, heq⟩ | ⟨-, hconfig, hhistory, hcalls, hconnections⟩
    · rw [heq]
      exact .refl c h
    · refine Aside.apart ⟨hconfig, ?_, fun d hd => ?_, by rw [hhistory]⟩ hcalls
      · rw [hconnections, List.map_append, List.filter_append]
        simp [newcomer, Member.ofTexts]
      · have hne : ¬ (h.newcomer c link o).id = d := fun he => hd he.symm
        rw [find?_of_connections_append hconnections, if_neg hne, Option.or_none]

section Turns

variable [Transport τ]

theorem apart_peerActs (h : Hub τ) (c : String) (act : τ → τ) :
    Apart c h (h.peerActs c fun link => ((), act link)).2 := by
  unfold peerActs
  cases hx : h.find? c with
  | none => exact .refl c h
  | some x =>
    have hgets := (gets_setLink hx (act x.link)).rouse (rouses_wakeBlockedWriter _ c)
    exact hgets.within.aside.apart hgets.calls_eq

theorem apart_writerTurn (h : Hub τ) (c : String) : Apart c h (h.writerTurn c).2 := by
  cases hx : h.find? c with
  | none =>
    unfold writerTurn
    rw [hx]
    exact .refl c h
  | some x =>
    have hgets := (makes_writerTurn hx).gets
    exact hgets.within.aside.apart hgets.calls_eq

theorem apart_readerTurn (h : Hub τ) (c : String) : Apart c h (h.readerTurn c).2 := by
  cases hx : h.find? c with
  | none =>
    unfold readerTurn
    rw [hx]
    exact .refl c h
  | some x =>
    obtain ⟨h', makes, hp⟩ := reads_readerTurn hx
    have hturn := makes.gets.within.aside.apart makes.gets.calls_eq
    rw [hp]
    cases x.dispatched? h.now h.config with
    | none => exact hturn
    | some f =>
      have hid : (x.readerTurn h.now h.config).conn.id = c := id_of_find? makes.gets.find?_self
      have hdeeds := deeds_dispatch h' (x.readerTurn h.now h.config).conn f
      rw [hid] at hdeeds
      exact hturn.trans hdeeds.apart

/-- Nothing comes of a turn that changes nothing. -/
theorem apart_of_resting_writer (c : String)
    (rests : ∀ x, h.find? d = some x → x.WriterRests h.now h.config) :
    Apart c h (h.writerTurn d).2 := by
  cases hx : h.find? d with
  | none =>
    unfold writerTurn
    rw [hx]
    exact .refl c h
  | some x =>
    have makes := makes_writerTurn hx
    rw [rests x hx] at makes
    exact (makes.gets.aside_of_same hx c).apart makes.gets.calls_eq

theorem apart_of_resting_reader (c : String)
    (rests : ∀ x, h.find? d = some x → x.ReaderRests h.now h.config) :
    Apart c h (h.readerTurn d).2 := by
  cases hx : h.find? d with
  | none =>
    unfold readerTurn
    rw [hx]
    exact .refl c h
  | some x =>
    obtain ⟨h', makes, hp⟩ := reads_readerTurn hx
    rw [(rests x hx).1] at makes
    rw [(rests x hx).2] at hp
    rw [show (h.readerTurn d).2 = h' from hp]
    exact (makes.gets.aside_of_same hx c).apart makes.gets.calls_eq

/-- Being ready is nobody's concern. -/
theorem apart_poll {t : Task} (roomFirst : Nat → Bool)
    (turn : Apart c { h with ready := h.ready.erase t }
      (({ h with ready := h.ready.erase t } : Hub τ).turn roomFirst t).2) :
    Apart c h (h.poll roomFirst t) := by
  rw [poll_eq h roomFirst t rfl]
  obtain ⟨aside, asked⟩ := turn
  split
  · exact ⟨{ aside with }, asked⟩
  · exact ⟨{ aside with }, asked⟩

theorem apart_moveClock (h : Hub τ) (now wallClock : Nat) (c : String) :
    Apart c h { h.moveClock now with wallClock } := by
  obtain ⟨ready, heq, -⟩ := rouses_moveClock h now
  rw [heq]
  exact Aside.apart { Aside.refl c h with } rfl

end Turns

/-! ## Sends for `c` alone -/

section OwnSends

variable {n : Nat} {places : List (String × Nat)}

/-- Sends for `c` alone begin. -/
theorem beginSends_own (f : Frame) (own : ∀ x ∈ places, x.1 = c)
    (h : Hub τ) : Within c h (beginSends n f places h).2 ∧
      ∀ x ∈ (beginSends n f places h).1, x.1 = c := by
  induction places generalizing h with
  | nil => exact ⟨.refl c h, own⟩
  | cons x rest ih =>
    obtain ⟨d, p⟩ := x
    obtain rfl : d = c := own (d, p) List.mem_cons_self
    obtain ⟨hwithin, hleft⟩ := ih (fun x hx => own x (List.mem_cons_of_mem _ hx))
      (h.beginSend d f ⟨n, p⟩).2
    refine ⟨(within_beginSend h d f ⟨n, p⟩).trans hwithin, ?_⟩
    change ∀ x ∈ (if (h.beginSend d f ⟨n, p⟩).1 then _ else _), _
    split
    · intro x hx
      rcases List.mem_cons.mp hx with rfl | hx
      · rfl
      · exact hleft x hx
    · exact hleft

theorem withdrawSends_own (own : ∀ x ∈ places, x.1 = c)
    (h : Hub τ) : Within c h (withdrawSends n places h) := by
  induction places generalizing h with
  | nil => exact .refl c h
  | cons x rest ih =>
    obtain ⟨d, p⟩ := x
    obtain rfl : d = c := own (d, p) List.mem_cons_self
    exact (within_withdrawSend h d ⟨n, p⟩).trans
      (ih (fun x hx => own x (List.mem_cons_of_mem _ hx)) _)

theorem targets_own {r : SendOrder} (own : r.IsFor c) (h : Hub τ) : ∀ d ∈ h.targets r, d = c := by
  intro d hd
  cases r with
  | toHandle id f =>
    obtain rfl : id = c := own
    exact List.mem_singleton.mp hd
  | toConnection id f =>
    obtain rfl : id = c := own
    rw [targets] at hd
    cases hm : h.registry.lookup id with
    | none =>
      rw [hm] at hd
      cases hd
    | some m =>
      rw [hm] at hd
      have hid : m.id = id := by simpa using List.find?_some hm
      rw [List.mem_singleton.mp hd, hid]
  | toUser user f => cases own
  | toAll f => cases own

end OwnSends

/-! ## Sends that have begun -/

section Calls

variable {n n' : Nat} {x x' : Call} {f : Frame} {places places' : List (String × Nat)}
  {ρ : Ticket → Ticket → Prop}

theorem CallRests.stuck (rests : h.CallRests c n) (hx : h.calls[n]? = some x)
    (begun : x.Begun f places) : ∀ y ∈ places, y.1 ≠ c → h.Stuck n y := by
  unfold CallRests at rests
  rw [hx] at rests
  cases begun with
  | waiting => exact rests
  | finished => exact fun y hy => absurd hy List.not_mem_nil
  | abandoned => exact fun y hy => absurd hy List.not_mem_nil

theorem CallOver.own (hover : h.CallOver c n) (hx : h.calls[n]? = some x)
    (begun : x.Begun f places) : ∀ y ∈ places, y.1 = c := by
  unfold CallOver at hover
  rw [hx] at hover
  cases begun with
  | waiting => exact hover
  | finished => exact fun y hy => absurd hy List.not_mem_nil
  | abandoned => exact fun y hy => absurd hy List.not_mem_nil

theorem callRests_of_stuck (hx : h.calls[n]? = some x) (begun : x.Begun f places)
    (stuck : ∀ y ∈ places, y.1 ≠ c → h.Stuck n y) : h.CallRests c n := by
  unfold CallRests
  rw [hx]
  cases begun with
  | waiting => exact stuck
  | finished => trivial
  | abandoned => trivial

theorem rooms_of_begun (hx : h.calls[n]? = some x) (begun : x.Begun f places)
    (roomFirst : Nat → Bool) : h.rooms c n roomFirst = roomsBesides c roomFirst places := by
  unfold rooms
  rw [hx]
  cases begun <;> rfl

theorem begun_settled (f : Frame) (left : List (String × Nat)) (r : Reply) :
    Call.Begun f left (if left.isEmpty then .finished r else .waiting f left r) := by
  cases left with
  | nil => exact .finished r
  | cons y ys => exact .waiting (y :: ys) r

theorem aside_setCall (c : String) (h : Hub τ) (n : Nat) (x : Call) :
    Aside c h (h.setCall n x) := { Aside.refl c h with }

/-- What was made of a send that is over is what it was. -/
theorem set_of_over {h₁ : Hub τ} (hx : h.calls[n]? = some x) (heq : h₁ = h) (c : String) :
    Aside c h h₁ ∧ h₁.calls = h.calls.set n x := by
  rw [heq, set_eq_self hx]
  exact ⟨.refl c h, rfl⟩

/-- A send that has begun goes on at the places at which it still waits. -/
theorem callTurn_of_begun (hx : h.calls[n]? = some x) (begun : x.Begun f places)
    (roomFirst : Nat → Bool) (c : String) :
    ∃ y, y.Begun f (resumeSends roomFirst n f places h).1 ∧
      Aside c (resumeSends roomFirst n f places h).2 (h.callTurn roomFirst n) ∧
      (h.callTurn roomFirst n).calls = h.calls.set n y := by
  cases begun with
  | waiting _ r =>
    have hserves : h.Serves (resumeSends roomFirst n f places h).2 :=
      serves_resumeSends places (sends_of_open hx rfl)
    refine ⟨_, begun_settled f _ r, ?_⟩
    rw [callTurn, hx, ← hserves.2]
    exact ⟨aside_setCall c _ n _, rfl⟩
  | finished r =>
    refine ⟨_, .finished r, set_of_over hx ?_ c⟩
    rw [callTurn, hx]
  | abandoned =>
    refine ⟨_, .abandoned, set_of_over hx ?_ c⟩
    rw [callTurn, hx]

/-- A send that has begun is withdrawn from the places at which it still waits. -/
theorem abandon_of_begun (hx : h.calls[n]? = some x) (begun : x.Begun f places) (c : String) :
    ∃ y, y.Begun f [] ∧ Aside c (withdrawSends n places h) (h.abandon n) ∧
      (h.abandon n).calls = h.calls.set n y := by
  cases begun with
  | waiting _ r =>
    refine ⟨.abandoned, .abandoned, ?_⟩
    rw [abandon, hx, ← (serves_withdrawSends n places h).2]
    exact ⟨aside_setCall c _ n _, rfl⟩
  | finished r =>
    refine ⟨_, .finished r, set_of_over hx ?_ c⟩
    rw [abandon, hx]
  | abandoned =>
    refine ⟨_, .abandoned, set_of_over hx ?_ c⟩
    rw [abandon, hx]

/-- A send that has not begun does so at all its targets. -/
theorem callTurn_of_requested {r : SendOrder} (hx : h.calls[n]? = some (.requested r))
    (roomFirst : Nat → Bool) (c : String) :
    ∃ metrics y, y.Begun r.frame
        (beginSends n r.frame (h.targets r).zipIdx { h with metrics }).1 ∧
      Aside c (beginSends n r.frame (h.targets r).zipIdx { h with metrics }).2
        (h.callTurn roomFirst n) ∧
      (h.callTurn roomFirst n).calls = h.calls.set n y := by
  obtain ⟨metrics, reply, heq⟩ := beginCall_eq h n r
  have hcalls := (serves_beginSends (h := { h with metrics }) (h.targets r).zipIdx
    (sends_of_open (h := { h with metrics }) hx rfl)).2
  refine ⟨metrics, _, begun_settled r.frame _ reply, ?_⟩
  rw [callTurn, hx]
  dsimp only
  rw [heq]
  exact ⟨aside_setCall c _ n _, congrArg (List.set · n _) hcalls⟩

end Calls

end Switchboard.Hub
