import Switchboard.Proofs.Run
import Switchboard.Transport.Memory

/-!
# Frames leave in the order in which they entered

For each connection the history tells which frames entered its outbox and which were handed over to
its link. `Ledger.Flows` says that what was handed over, followed by what is still queued, is what
entered; frames that cannot be put on the wire are left out of the account.

## Shape of the proof

The law is about one connection. Steps of a ledger that concern another leave its outbox and its
part of the history as they are, and for the rest `Flow` has one lemma for each change of an outbox.

Producers are accounted for by the standing of their calls: not asked for, under way with a frame,
or over. A call only gets on in this order, and puts its frame into outboxes while it is under way.
What entered before and after some instant therefore tells calls apart that are over by then from
those asked for later (`Ledger.Since`).
-/

namespace Switchboard

/-- What a happening puts into the outbox of a connection. -/
def Happening.intake? (id : String) : Happening → Option (Frame × Sender)
  | .entered target f s => if target = id then some (f, s) else none
  | _ => none

/-- The frame of the outbox that a happening hands over to the link of a connection. -/
def Happening.handover? (id : String) : Happening → Option Frame
  | .handed target f .queued => if target = id then some f else none
  | _ => none

/-- The frames that entered the outbox of a connection, and who put them in; the first first. -/
def entered (id : String) (history : List Happening) : List (Frame × Sender) :=
  (history.filterMap (Happening.intake? id)).reverse

/-- The frames of the outbox that were handed over to the link of a connection, the first first. -/
def handed (id : String) (history : List Happening) : List Frame :=
  (history.filterMap (Happening.handover? id)).reverse

/-- The number of the call of a sender, if it is one. -/
def Sender.call? : Sender → Option Nat
  | .offer => none
  | .call t => some t.call

theorem entered_cons (id : String) (x : Happening) (history : List Happening) :
    entered id (x :: history) = entered id history ++ (x.intake? id).toList := by
  rw [entered, entered, List.filterMap_cons]
  cases x.intake? id <;> simp

theorem handed_cons (id : String) (x : Happening) (history : List Happening) :
    handed id (x :: history) = handed id history ++ (x.handover? id).toList := by
  rw [handed, handed, List.filterMap_cons]
  cases x.handover? id <;> simp

theorem entered_of_intake?_none {id : String} {x : Happening} (hx : x.intake? id = none)
    (history : List Happening) : entered id (x :: history) = entered id history := by
  rw [entered_cons, hx, Option.toList_none, List.append_nil]

theorem handed_of_handover?_none {id : String} {x : Happening} (hx : x.handover? id = none)
    (history : List Happening) : handed id (x :: history) = handed id history := by
  rw [handed_cons, hx, Option.toList_none, List.append_nil]

/-! ## One outbox -/

/-- An outbox, what entered it and what of that was handed over agree. -/
structure Flow (o : Outbox) (ins : List (Frame × Sender)) (outs : List Frame) : Prop where
  capacity_pos : 1 ≤ o.capacity
  used_le : o.used ≤ o.capacity
  outs_queued : outs ++ o.queued.filter Frame.isSendable =
    (ins.map Prod.fst).filter Frame.isSendable

namespace Flow

variable {o o' : Outbox} {ins : List (Frame × Sender)} {outs : List Frame} {f : Frame}

/-- A frame at the end of the queue is one that entered last. -/
theorem outs_queued_append (flow : Flow o ins outs) (f : Frame) (s : Sender) :
    outs ++ (o.queued ++ [f]).filter Frame.isSendable =
      ((ins ++ [(f, s)]).map Prod.fst).filter Frame.isSendable := by
  rw [List.filter_append, ← List.append_assoc, flow.outs_queued, List.map_append,
    List.filter_append, List.map_singleton]

theorem put (flow : Flow o ins outs) (hroom : o.hasRoom = true) (f : Frame) (s : Sender) :
    Flow (o.put f) (ins ++ [(f, s)]) outs :=
  ⟨flow.capacity_pos, Outbox.used_put_le hroom f, flow.outs_queued_append f s⟩

theorem redeem (flow : Flow o ins outs) {t : Ticket} (hgranted : o.isGranted t = true) (f : Frame)
    (s : Sender) : Flow (o.redeem t f) (ins ++ [(f, s)]) outs :=
  ⟨flow.capacity_pos, (Outbox.used_redeem hgranted f).symm ▸ flow.used_le,
    flow.outs_queued_append f s⟩

theorem join (flow : Flow o ins outs) (t : Ticket) : Flow (o.join t) ins outs :=
  ⟨flow.capacity_pos, flow.used_le, flow.outs_queued⟩

theorem withdraw (flow : Flow o ins outs) (t : Ticket) : Flow (o.withdraw t).2 ins outs := by
  refine ⟨?_, ?_, ?_⟩
  · rw [Outbox.capacity_withdraw]
    exact flow.capacity_pos
  · rw [Outbox.capacity_withdraw]
    exact Outbox.used_withdraw_le flow.used_le t
  · rw [Outbox.queued_withdraw]
    exact flow.outs_queued

theorem take (flow : Flow o ins outs) {t : Option Ticket} (htake : o.take = some (f, t, o')) :
    1 ≤ o'.capacity ∧ o'.used ≤ o'.capacity := by
  rw [Outbox.capacity_of_take htake]
  exact ⟨flow.capacity_pos, Outbox.used_of_take_le htake flow.used_le⟩

/-- The first frame leaves the queue and is handed over. -/
theorem pass (flow : Flow o ins outs) {t : Option Ticket} (htake : o.take = some (f, t, o'))
    (hsend : f.isSendable = true) : Flow o' ins (outs ++ [f]) := by
  obtain ⟨hpos, hused⟩ := flow.take htake
  refine ⟨hpos, hused, ?_⟩
  rw [← flow.outs_queued, Outbox.queued_of_take htake, List.filter_cons_of_pos hsend,
    List.append_assoc, List.singleton_append]

/-- The first frame leaves the queue and is dropped. -/
theorem shed (flow : Flow o ins outs) {t : Option Ticket} (htake : o.take = some (f, t, o'))
    (hsend : f.isSendable = false) : Flow o' ins outs := by
  obtain ⟨hpos, hused⟩ := flow.take htake
  refine ⟨hpos, hused, ?_⟩
  rw [← flow.outs_queued, Outbox.queued_of_take htake, List.filter_cons_of_neg (by simp [hsend])]

end Flow

/-! ## The outbox of one connection of a ledger -/

namespace Ledger

/-- The outbox of the connection with an id. -/
def outbox? (l : Ledger) (id : String) : Option Outbox := (l.find? id).map Account.outbox

theorem outbox?_of_find? {l : Ledger} {id : String} {a : Account} (ha : l.find? id = some a) :
    l.outbox? id = some a.outbox := by
  rw [outbox?, ha, Option.map_some]

theorem outbox?_update {l : Ledger} {id target : String} {f : Account → Account}
    {g : Outbox → Outbox} (hmember : ∀ a, (f a).member = a.member)
    (houtbox : ∀ a, (f a).outbox = g a.outbox) :
    (l.update target f).outbox? id =
      if id = target then (l.outbox? id).map g else l.outbox? id := by
  have hid : ((fun a : Account => decide (a.id = id)) ∘ fun a => if a.id = target then f a else a) =
      fun a => decide (a.id = id) := by
    funext a
    have hsame : (f a).id = a.id := congrArg Member.id (hmember a)
    by_cases ha : a.id = target
    · rw [Function.comp_apply, if_pos ha, hsame]
    · rw [Function.comp_apply, if_neg ha]
  rw [outbox?, outbox?, find?, update, List.find?_map, hid]
  change Option.map _ (Option.map _ (l.find? id)) =
    if id = target then Option.map g (Option.map _ (l.find? id)) else _
  cases ha : l.find? id with
  | none => exact (ite_self _).symm
  | some a =>
    obtain rfl : a.id = id := by simpa using List.find?_some ha
    by_cases htarget : a.id = target
    · simp only [Option.map_some, if_pos htarget, houtbox]
    · simp only [Option.map_some, if_neg htarget]

theorem outbox?_mapOutbox_at (l : Ledger) (id target : String) (f : Outbox → Outbox) :
    (l.mapOutbox target f).outbox? id =
      if id = target then (l.outbox? id).map f else l.outbox? id := by
  rw [mapOutbox]
  exact outbox?_update (f := fun a => { a with outbox := f a.outbox }) (fun _ => rfl) fun _ => rfl

theorem outbox?_mapOutbox (l : Ledger) (id : String) (f : Outbox → Outbox) :
    (l.mapOutbox id f).outbox? id = (l.outbox? id).map f :=
  (outbox?_mapOutbox_at l id id f).trans (if_pos rfl)

theorem outbox?_mapOutbox_of_ne {id target : String} (hne : id ≠ target) (l : Ledger)
    (f : Outbox → Outbox) : (l.mapOutbox target f).outbox? id = l.outbox? id :=
  (outbox?_mapOutbox_at l id target f).trans (if_neg hne)

theorem outbox?_close (l : Ledger) (target id : String) (reason : CloseReason)
    (lifetime : Binary64) : (l.close target reason lifetime).outbox? id = l.outbox? id := by
  refine (outbox?_update (g := fun o => o) (f := fun a => { a with alive := false })
    (fun _ => rfl) fun _ => rfl).trans ?_
  rw [Option.map_id', ite_self]

theorem outbox?_enroll {l : Ledger} {m : Member} (hnew : l.find? m.id = none) (capacity : Nat)
    (id : String) : (l.enroll m capacity).outbox? id =
      if id = m.id then some { capacity } else l.outbox? id := by
  rw [outbox?, find?, enroll, List.find?_append]
  by_cases hid : id = m.id
  · subst hid
    have hnone : (l.accounts.find? fun a => a.id = m.id) = none := hnew
    rw [hnone, if_pos rfl]
    simp [Account.id]
  · have hlast : ([{ member := m, outbox := { capacity } }] : List Account).find?
        (fun a => a.id = id) = none := by
      have hne : ¬ m.id = id := fun he => hid he.symm
      simp [Account.id, hne]
    rw [hlast, Option.or_none, if_neg hid]
    rfl

/-- What entered the outbox of a connection and was handed over agrees with it; nothing entered that
of nobody. -/
structure Flows (id : String) (l : Ledger) : Prop where
  flow : ∀ o, l.outbox? id = some o → Flow o (entered id l.history) (handed id l.history)
  idle : l.outbox? id = none → entered id l.history = [] ∧ handed id l.history = []

variable {l l' : Ledger} {id : String}

/-- The account of a connection is not touched by what changes neither its outbox nor its part of
the history. -/
theorem Flows.aside (flows : Flows id l) (houtbox : l'.outbox? id = l.outbox? id)
    (hentered : entered id l'.history = entered id l.history)
    (hhanded : handed id l'.history = handed id l.history) : Flows id l' := by
  constructor
  · intro o ho
    rw [hentered, hhanded]
    exact flows.flow o (houtbox ▸ ho)
  · intro hnone
    rw [hentered, hhanded]
    exact flows.idle (houtbox ▸ hnone)

/-- A happening that has no part in the account of a connection. -/
theorem Flows.record (flows : Flows id l) {x : Happening} (hintake : x.intake? id = none)
    (hhandover : x.handover? id = none) : Flows id (l.record x) :=
  flows.aside rfl (entered_of_intake?_none hintake _) (handed_of_handover?_none hhandover _)

theorem Flows.mapOutbox_of_ne (flows : Flows id l) {target : String} (hne : id ≠ target)
    (f : Outbox → Outbox) : Flows id (l.mapOutbox target f) :=
  flows.aside (outbox?_mapOutbox_of_ne hne l f) rfl rfl

theorem Flows.close (flows : Flows id l) (target : String) (reason : CloseReason)
    (lifetime : Binary64) : Flows id (l.close target reason lifetime) :=
  flows.aside (outbox?_close l target id reason lifetime) (entered_of_intake?_none rfl _)
    (handed_of_handover?_none rfl _)

/-- A change of the outbox of a connection that is there. -/
theorem Flows.of_mapOutbox {o : Outbox} (ho : l.outbox? id = some o) (f : Outbox → Outbox)
    (history : List Happening) (flow : Flow (f o) (entered id history) (handed id history)) :
    Flows id { l.mapOutbox id f with history } := by
  have houtbox : ({ l.mapOutbox id f with history } : Ledger).outbox? id = some (f o) :=
    (outbox?_mapOutbox l id f).trans (by rw [ho]; rfl)
  constructor
  · intro o' ho'
    obtain rfl : f o = o' := Option.some.inj (houtbox.symm.trans ho')
    exact flow
  · intro hnone
    rw [houtbox] at hnone
    cases hnone

/-- A change of some outbox by which nothing enters it and nothing is handed over. -/
theorem Flows.mapOutbox (flows : Flows id l) {target : String} {a : Account}
    (found : l.find? target = some a) {f : Outbox → Outbox}
    (hf : ∀ {ins outs}, Flow a.outbox ins outs → Flow (f a.outbox) ins outs) :
    Flows id (l.mapOutbox target f) := by
  by_cases hid : id = target
  · subst hid
    have ho := outbox?_of_find? found
    exact Flows.of_mapOutbox ho f l.history (hf (flows.flow _ ho))
  · exact flows.mapOutbox_of_ne hid f

/-- A frame enters some outbox. -/
theorem Flows.enter (flows : Flows id l) {target : String} {a : Account}
    (found : l.find? target = some a) {f : Frame} {s : Sender} {put : Outbox → Outbox}
    (hput : ∀ {ins outs}, Flow a.outbox ins outs → Flow (put a.outbox) (ins ++ [(f, s)]) outs) :
    Flows id (l.enter target f s put) := by
  by_cases hid : id = target
  · subst hid
    have ho := outbox?_of_find? found
    refine Flows.of_mapOutbox ho put (.entered id f s :: l.history) ?_
    have hintake : (Happening.entered id f s).intake? id = some (f, s) := if_pos rfl
    rw [entered_cons, hintake, Option.toList_some, handed_of_handover?_none rfl]
    exact hput (flows.flow _ ho)
  · exact (flows.mapOutbox_of_ne hid put).record (if_neg fun he => hid he.symm) rfl

/-- The first frame of some outbox is handed over. -/
theorem Flows.pass (flows : Flows id l) {target : String} {a : Account}
    (found : l.find? target = some a) {f : Frame} {t : Option Ticket} {o : Outbox}
    (htake : a.outbox.take = some (f, t, o)) (hsend : f.isSendable = true) :
    Flows id ((l.mapOutbox target fun _ => o).record (.handed target f .queued)) := by
  by_cases hid : id = target
  · subst hid
    have ho := outbox?_of_find? found
    refine Flows.of_mapOutbox ho (fun _ => o) (.handed id f .queued :: l.history) ?_
    have hhandover : (Happening.handed id f .queued).handover? id = some f := if_pos rfl
    rw [entered_of_intake?_none rfl, handed_cons, hhandover, Option.toList_some]
    exact (flows.flow _ ho).pass htake hsend
  · exact (flows.mapOutbox_of_ne hid _).record rfl (if_neg fun he => hid he.symm)

/-- A step keeps the account of every connection. -/
theorem Step.flows (step : Step l l') (flows : Flows id l) : Flows id l' := by
  cases step with
  | refuse | ask | proceed => exact flows.aside rfl rfl rfl
  | @close target a reason lifetime => exact flows.close target reason lifetime
  | @remove target a lifetime => exact (flows.close target .removed lifetime).record rfl rfl
  | decline | beat | part => exact flows.record rfl rfl
  | @put target a f s found alive room sends =>
    exact flows.enter found fun flow => flow.put room f s
  | @redeem target a f t found granted sends =>
    exact flows.enter found fun flow => flow.redeem granted f _
  -- a place in the queue of waiting sends is no frame: nothing enters, nothing is handed over
  | @join target a t found => exact flows.mapOutbox found fun flow => flow.join t
  | @withdraw target a t found => exact flows.mapOutbox found fun flow => flow.withdraw t
  | @pass target a f t o found alive taken sendable => exact flows.pass found taken sendable
  | @shed target a f t o found alive taken unsendable =>
    exact flows.mapOutbox found fun flow => flow.shed taken unsendable

theorem flows_enroll {m : Member} {capacity : Nat} (hnew : l.find? m.id = none)
    (hpos : 1 ≤ capacity) (flows : Flows id l) : Flows id (l.enroll m capacity) := by
  have houtbox := outbox?_enroll hnew capacity id
  by_cases hid : id = m.id
  · -- nothing can have entered under an id that is new
    subst hid
    rw [if_pos rfl] at houtbox
    obtain ⟨hentered, hhanded⟩ := flows.idle (by rw [outbox?, hnew, Option.map_none])
    constructor
    · intro o ho
      obtain rfl : ({ capacity } : Outbox) = o := Option.some.inj (houtbox.symm.trans ho)
      refine ⟨hpos, Nat.zero_le _, ?_⟩
      change handed m.id l.history ++ [] = ((entered m.id l.history).map Prod.fst).filter _
      rw [hentered, hhanded]
      rfl
    · intro hnone
      rw [houtbox] at hnone
      cases hnone
  · rw [if_neg hid] at houtbox
    exact flows.aside houtbox rfl rfl

/-! ## Producers -/

theorem lt_of_standing {number : Nat} {now : Option Frame} (h : l.standing number = some now) :
    number < l.calls.length := by
  obtain ⟨c, hc, -⟩ := Option.map_eq_some_iff.mp h
  exact (List.getElem?_eq_some_iff.mp hc).1

/-- A call stays what it is, or is over. -/
theorem Step.standing_of_some (step : Step l l') {number : Nat} {was : Option Frame}
    (hwas : l.standing number = some was) :
    l'.standing number = some was ∨ l'.standing number = some none := by
  have hlt := lt_of_standing hwas
  cases step with
  | @ask r =>
    refine .inl (Eq.trans ?_ hwas)
    rw [standing, standing, List.getElem?_append_left hlt]
  | @proceed other old new f found isOpen same =>
    -- only the call that gets on changes, and it was under way with the frame that it keeps
    have hset : (l.calls.set other new)[number]?.map Call.frame? =
        if other = number then some new.frame? else l.standing number := by
      rw [List.getElem?_set]
      split
      · rename_i heq
        rw [if_pos (heq ▸ hlt), Option.map_some]
      · rfl
    by_cases heq : other = number
    · obtain rfl : some f = was := by
        rw [standing, ← heq, found, Option.map_some, isOpen] at hwas
        exact Option.some.inj hwas
      rw [if_pos heq] at hset
      cases hnew : new.frame? with
      | none => exact .inr (hset.trans (congrArg some hnew))
      | some g => exact .inl (hset.trans (congrArg some (hnew.trans (congrArg some (same g hnew)))))
    · rw [if_neg heq] at hset
      exact .inl (hset.trans hwas)
  | _ => exact .inl hwas

/-- What is over stays over. -/
theorem Step.standing_or_over (step : Step l l') {number : Nat} {was : Option Frame}
    (h : l.standing number = some was ∨ l.standing number = some none) :
    l'.standing number = some was ∨ l'.standing number = some none := by
  -- a call that is over may only stay so, since both cases of the lemma agree for it
  rcases h with hnow | hover
  · exact step.standing_of_some hnow
  · exact .inr (or_self_iff.mp (step.standing_of_some hover))

theorem entered_enter (l : Ledger) (id target : String) (f : Frame) (s : Sender)
    (put : Outbox → Outbox) : entered id (l.enter target f s put).history =
      entered id l.history ++ if target = id then [(f, s)] else [] := by
  refine (entered_cons id (.entered target f s) l.history).trans ?_
  rw [Happening.intake?]
  split <;> rfl

/-- A step puts one frame at most into the outbox of a connection, and one that may be sent. -/
theorem Step.entered_cases (step : Step l l') (id : String) :
    entered id l'.history = entered id l.history ∨
      ∃ e, l.Sends e.1 e.2 ∧ entered id l'.history = entered id l.history ++ [e] := by
  cases step with
  | refuse | ask | proceed | join | withdraw | shed => exact .inl rfl
  | close | decline | beat | part | pass => exact .inl (entered_of_intake?_none rfl _)
  | remove =>
    exact .inl ((entered_of_intake?_none rfl _).trans (entered_of_intake?_none rfl _))
  | @put target a f s found alive room sends =>
    rw [entered_enter]
    by_cases htarget : target = id
    · exact .inr ⟨(f, s), sends, by rw [if_pos htarget]⟩
    · exact .inl (by rw [if_neg htarget, List.append_nil])
  | @redeem target a f t found granted sends =>
    rw [entered_enter]
    by_cases htarget : target = id
    · exact .inr ⟨(f, .call t), sends, by rw [if_pos htarget]⟩
    · exact .inl (by rw [if_neg htarget, List.append_nil])

/-- A call that puts a frame into an outbox is under way with it. -/
theorem standing_of_sends {e : Frame × Sender} {number : Nat} (hsends : l.Sends e.1 e.2)
    (hnumber : e.2.call? = some number) : l.standing number = some (some e.1) := by
  obtain ⟨f, s⟩ := e
  cases s with
  | offer => cases hnumber
  | call t =>
    obtain rfl : t.call = number := Option.some.inj hnumber
    exact hsends

/-- Between two ledgers, the second of them later, no call went back, and what entered the outbox of
a connection came from calls that were not asked for at first, or were under way with that frame. -/
structure Since (id : String) (l₀ l : Ledger) : Prop where
  standing_of_some : ∀ {number was}, l₀.standing number = some was →
    l.standing number = some was ∨ l.standing number = some none
  later : ∃ later, entered id l.history = entered id l₀.history ++ later ∧
    ∀ e ∈ later, ∀ number, e.2.call? = some number → ∀ was, l₀.standing number = some was →
      was = some e.1

theorem since_refl (id : String) (l : Ledger) : Since id l l where
  standing_of_some hwas := .inl hwas
  later := ⟨[], (List.append_nil _).symm, fun _ he => absurd he List.not_mem_nil⟩

theorem Since.step {l₀ : Ledger} (since : Since id l₀ l) (step : Step l l') : Since id l₀ l' := by
  constructor
  · intro number was hwas
    exact step.standing_or_over (since.standing_of_some hwas)
  · obtain ⟨later, hlater, hcalls⟩ := since.later
    rcases step.entered_cases id with hsame | ⟨e, hsends, hentered⟩
    · exact ⟨later, hsame.trans hlater, hcalls⟩
    · refine ⟨later ++ [e], by rw [hentered, hlater, List.append_assoc], ?_⟩
      intro x hx number hnumber was hwas
      rcases List.mem_append.mp hx with hx | hx
      · exact hcalls x hx number hnumber was hwas
      · obtain rfl := List.mem_singleton.mp hx
        -- the call of the new frame is under way now, so that it was not over at first
        have hnow := standing_of_sends hsends hnumber
        rcases since.standing_of_some hwas with hsame | hover
        · exact Option.some.inj (hsame.symm.trans hnow)
        · rw [hover] at hnow
          cases hnow

/-- What entered the outbox of a connection came from calls that were asked for, and that have its
frame as long as they are under way. -/
def Sourced (id : String) (l : Ledger) : Prop :=
  ∀ e ∈ entered id l.history, ∀ number, e.2.call? = some number →
    l.standing number = some (some e.1) ∨ l.standing number = some none

theorem Sourced.step (sourced : Sourced id l) (step : Step l l') : Sourced id l' := by
  have hold : ∀ e ∈ entered id l.history, ∀ number, e.2.call? = some number →
      l'.standing number = some (some e.1) ∨ l'.standing number = some none :=
    fun e he number hnumber => step.standing_or_over (sourced e he number hnumber)
  intro e he number hnumber
  rcases step.entered_cases id with hsame | ⟨new, hsends, hentered⟩
  · exact hold e (hsame ▸ he) number hnumber
  · rcases List.mem_append.mp (hentered ▸ he) with he | he
    · exact hold e he number hnumber
    · obtain rfl := List.mem_singleton.mp he
      exact step.standing_of_some (standing_of_sends hsends hnumber)

/-- Frames of the writer's own are heartbeats and the closing frame. -/
def OwnFrames (l : Ledger) : Prop :=
  ∀ id f cause, Happening.handed id f cause ∈ l.history →
    cause = .queued ∨ cause = .heartbeat ∧ f = .ping ∨ cause = .farewell ∧ f = .close

theorem OwnFrames.step (own : l.OwnFrames) (step : Step l l') : l'.OwnFrames := by
  intro id f cause hmem
  cases step with
  | refuse | ask | proceed | join | withdraw | shed => exact own id f cause hmem
  | close | decline | put | redeem =>
    cases hmem with
    | tail _ hmem => exact own id f cause hmem
  | remove =>
    cases hmem with
    | tail _ hmem =>
      cases hmem with
      | tail _ hmem => exact own id f cause hmem
  | beat =>
    cases hmem with
    | head => exact .inr (.inl ⟨rfl, rfl⟩)
    | tail _ hmem => exact own id f cause hmem
  | part =>
    cases hmem with
    | head => exact .inr (.inr ⟨rfl, rfl⟩)
    | tail _ hmem => exact own id f cause hmem
  | pass =>
    cases hmem with
    | head => exact .inl rfl
    | tail _ hmem => exact own id f cause hmem

theorem flows_empty (haccounts : l.accounts = []) (hhistory : l.history = []) (id : String) :
    Flows id l := by
  have hnone : l.outbox? id = none := by rw [outbox?, find?, haccounts]; rfl
  refine ⟨fun o ho => ?_, fun _ => by rw [hhistory]; exact ⟨rfl, rfl⟩⟩
  rw [hnone] at ho
  cases ho

/-- What was handed over is a beginning of what entered. -/
theorem Flows.handed_isPrefix (flows : Flows id l) :
    handed id l.history <+: ((entered id l.history).map Prod.fst).filter Frame.isSendable := by
  cases ho : l.outbox? id with
  | none =>
    rw [(flows.idle ho).2]
    exact List.nil_prefix
  | some o => exact ⟨_, (flows.flow o ho).outs_queued⟩

end Ledger

/-! ## Of a run -/

namespace Hub

variable {τ : Type}

/-- An offer that is taken enters the outbox at once. -/
theorem entered_trySend (h : Hub τ) (id : String) (f : Frame) :
    entered id (h.trySend id f).2.history =
      entered id h.history ++ if (h.trySend id f).1 then [(f, .offer)] else [] := by
  rw [trySend]
  cases h.find? id with
  -- an offer to nobody is not taken
  | none => exact (List.append_nil _).symm
  | some c =>
    dsimp only
    split
    · have hhistory : (h.putFrame id f .offer).history = .entered id f .offer :: h.history :=
        congrArg Ledger.history (ledger_enter h id f .offer _)
      rw [hhistory, entered_cons, Happening.intake?, if_pos rfl]
      rfl
    · exact (List.append_nil _).symm

end Hub

section Runs

variable {τ : Type} [Transport τ] {config : SocketConfig} {origins : OriginPolicy}
  {handlers : List Handler} {now wallClock : Nat} {h h' : Hub τ} {es es' : List (Event τ)}

theorem Run.flows (run : Run (Hub.initial config origins handlers now wallClock) es h)
    (id : String) : h.ledger.Flows id :=
  run.keeps (P := Ledger.Flows id) (fun step flows => step.flows flows)
    (fun hnew hpos flows => Ledger.flows_enroll hnew hpos flows) (Ledger.flows_empty rfl rfl id)

theorem Run.sourced (run : Run (Hub.initial config origins handlers now wallClock) es h)
    (id : String) : h.ledger.Sourced id :=
  run.keeps (P := Ledger.Sourced id) (fun step sourced => sourced.step step)
    (fun _ _ sourced => sourced) fun _ he => absurd he List.not_mem_nil

theorem Run.ownFrames (run : Run (Hub.initial config origins handlers now wallClock) es h) :
    h.ledger.OwnFrames :=
  run.keeps (P := Ledger.OwnFrames) (fun step own => own.step step) (fun _ _ own => own)
    fun _ _ _ hmem => absurd hmem List.not_mem_nil

theorem Run.since (run : Run h es h') (id : String) : Ledger.Since id h.ledger h'.ledger :=
  run.keeps (P := Ledger.Since id h.ledger) (fun step since => since.step step)
    (fun _ _ since => ⟨since.standing_of_some, since.later⟩) (Ledger.since_refl id _)

end Runs

/-- A connection whose queue has room for one frame, and a send of a frame of one byte to it. -/
def oneSent : List (Event MemoryLink) :=
  [.upgrade "a" (.ok {}) { capacity := some 1 }, .ask (.toHandle "a" ⟨.binary, [1]⟩),
    .turn (.call 0) Hub.teardownFirst]

/-- The hub after the first send. -/
def afterOneSent : Hub MemoryLink := oneSent.foldl Hub.step (.initial {} .listed [] 0 0)

end Switchboard
