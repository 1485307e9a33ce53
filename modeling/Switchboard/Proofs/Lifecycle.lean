import Switchboard.Proofs.Registry
import Switchboard.Proofs.Run
import Switchboard.Transport.Memory

/-!
# Alive, registered and counted

Whether a connection is alive, whether the two indexes hold it, and what the counters of teardowns
say, are changed at two places only: where it is opened and where it is torn down. `Ledger.lives` is
the part of a ledger that the two places write, and `Lives.Sound` says how its fields agree.

## Shape of the proof

A step of a ledger either leaves `lives` as it is or buries one living connection
(`Step.lives_cases`). Burying and enrolling keep `Lives.Sound`, which therefore holds throughout a
run. That a dead connection stays dead is read off the roll in the same way (`Step.dead_of_dead`).
-/

namespace Switchboard

/-- The teardown that a happening is. -/
def Happening.closure? : Happening → Option (String × CloseReason)
  | .closed id reason => some (id, reason)
  | _ => none

/-- The removal that a happening is, if it tore its connection down. -/
def Happening.removed? : Happening → Option String
  | .removal id true => some id
  | _ => none

/-- The teardowns of a history: whose, and for what reason; the latest first. -/
def closures (history : List Happening) : List (String × CloseReason) :=
  history.filterMap Happening.closure?

/-- The ids of the removals of a history that were answered to have torn a connection down, the
latest first. -/
def removals (history : List Happening) : List String := history.filterMap Happening.removed?

theorem CloseReason.name_inj {r s : CloseReason} (h : r.name = s.name) : r = s := by
  cases r <;> cases s <;> first | rfl | exact absurd h (by decide)

/-- The part of a ledger that says who is alive, who is registered and what was counted of it. -/
structure Lives where
  /-- Everyone, in the order in which they were opened, and whether they are alive. -/
  roll : List (Member × Bool) := []
  registry : Registry := {}
  opened : Nat := 0
  closed : Tally := {}
  lifetimes : List Binary64 := []
  closures : List (String × CloseReason) := []
  removals : List String := []

namespace Lives

/-- Those on a roll who are alive. -/
def livingOn (roll : List (Member × Bool)) : List Member := (roll.filter Prod.snd).map Prod.fst

/-- The ids of those on a roll who are dead. -/
def deadOn (roll : List (Member × Bool)) : List String :=
  (roll.filter fun e => !e.2).map fun e => e.1.id

/-- The roll once the bearer of an id is dead. -/
def strike (id : String) (roll : List (Member × Bool)) : List (Member × Bool) :=
  roll.map fun e => if e.1.id = id then (e.1, false) else e

/-- Open a connection. -/
def enroll (v : Lives) (m : Member) : Lives :=
  { v with
    roll := v.roll ++ [(m, true)]
    registry := v.registry.insert m
    opened := v.opened + 1 }

/-- Tear a connection down. -/
def bury (v : Lives) (id : String) (reason : CloseReason) (lifetime : Binary64) : Lives :=
  { v with
    roll := strike id v.roll
    registry := (v.registry.remove id).2
    closed := v.closed.bump reason.name
    lifetimes := lifetime :: v.lifetimes
    closures := (id, reason) :: v.closures
    removals := if reason = .removed then id :: v.removals else v.removals }

/-- Indexes, counters and teardowns agree with the roll. -/
structure Sound (v : Lives) : Prop where
  nodup_ids : (v.roll.map fun e => e.1.id).Nodup
  registered : v.registry.Holds (livingOn v.roll)
  opened_eq : v.opened = v.roll.length
  closures_perm : (v.closures.map Prod.fst).Perm (deadOn v.roll)
  closed_get : ∀ label, v.closed.get label = v.closures.countP fun c => c.2.name = label
  closed_total : v.closed.total = v.closures.length
  lifetimes_length : v.lifetimes.length = v.closures.length
  removals_eq : v.removals = (v.closures.filter fun c => c.2 = .removed).map Prod.fst

/-! ## Rolls -/

theorem livingOn_append (r s : List (Member × Bool)) :
    livingOn (r ++ s) = livingOn r ++ livingOn s := by
  simp [livingOn]

theorem deadOn_append (r s : List (Member × Bool)) : deadOn (r ++ s) = deadOn r ++ deadOn s := by
  simp [deadOn]

theorem mem_livingOn {m : Member} {roll : List (Member × Bool)} :
    m ∈ livingOn roll ↔ (m, true) ∈ roll := by
  simp [livingOn]

theorem mem_deadOn {id : String} {roll : List (Member × Bool)} :
    id ∈ deadOn roll ↔ ∃ m, (m, false) ∈ roll ∧ m.id = id := by
  simp [deadOn]

theorem strike_of_ne {id : String} {roll : List (Member × Bool)}
    (h : ∀ e ∈ roll, e.1.id ≠ id) : strike id roll = roll := by
  have hsame : strike id roll = roll.map fun e => e :=
    List.map_congr_left fun e he => if_neg (h e he)
  rw [hsame, List.map_id']

theorem members_strike (id : String) (roll : List (Member × Bool)) :
    (strike id roll).map Prod.fst = roll.map Prod.fst := by
  rw [strike, List.map_map]
  refine List.map_congr_left fun e _ => ?_
  change (if e.1.id = id then (e.1, false) else e).1 = e.1
  split <;> rfl

/-- The bearer of an id stands at one place of a roll, and only that is changed when they die. -/
theorem strike_split {m : Member} {roll : List (Member × Bool)}
    (hids : (roll.map fun e => e.1.id).Nodup) (hm : (m, true) ∈ roll) :
    ∃ before after : List (Member × Bool), roll = before ++ (m, true) :: after ∧
      strike m.id roll = before ++ (m, false) :: after ∧
      (∀ e ∈ before, e.1.id ≠ m.id) ∧ ∀ e ∈ after, e.1.id ≠ m.id := by
  obtain ⟨before, after, rfl⟩ := List.append_of_mem hm
  rw [List.map_append, List.map_cons, List.nodup_middle, List.nodup_cons] at hids
  have hne : ∀ e ∈ before ++ after, e.1.id ≠ m.id := fun e he heq =>
    hids.1 (by rw [← List.map_append]; exact List.mem_map.mpr ⟨e, he, heq⟩)
  have hbefore : ∀ e ∈ before, e.1.id ≠ m.id := fun e he => hne e (List.mem_append_left _ he)
  have hafter : ∀ e ∈ after, e.1.id ≠ m.id := fun e he => hne e (List.mem_append_right _ he)
  refine ⟨before, after, rfl, ?_, hbefore, hafter⟩
  have hb := strike_of_ne hbefore
  have ha := strike_of_ne hafter
  rw [strike] at hb ha ⊢
  rw [List.map_append, List.map_cons, hb, ha, if_pos rfl]

theorem livingOn_strike {m : Member} {roll : List (Member × Bool)}
    (hids : (roll.map fun e => e.1.id).Nodup) (hm : (m, true) ∈ roll) :
    livingOn (strike m.id roll) = (livingOn roll).filter fun x => x.id ≠ m.id := by
  obtain ⟨before, after, hroll, hstrike, hbefore, hafter⟩ := strike_split hids hm
  -- nobody else bears the id, so the filter drops nothing on either side
  have hkeep : ∀ part : List (Member × Bool), (∀ e ∈ part, e.1.id ≠ m.id) →
      ((livingOn part).filter fun x => x.id ≠ m.id) = livingOn part := fun part hpart => by
    refine List.filter_eq_self.mpr fun x hx => ?_
    simpa using hpart _ (mem_livingOn.mp hx)
  have hself : livingOn [(m, true)] = [m] := rfl
  rw [hstrike, hroll, List.append_cons, livingOn_append, livingOn_append, List.append_cons before,
    livingOn_append, livingOn_append, List.filter_append, List.filter_append, hkeep _ hbefore,
    hkeep _ hafter, hself]
  simp [livingOn]

theorem deadOn_strike {m : Member} {roll : List (Member × Bool)}
    (hids : (roll.map fun e => e.1.id).Nodup) (hm : (m, true) ∈ roll) :
    (deadOn (strike m.id roll)).Perm (m.id :: deadOn roll) := by
  obtain ⟨before, after, hroll, hstrike, -, -⟩ := strike_split hids hm
  have hdead : deadOn (before ++ (m, false) :: after) = deadOn before ++ m.id :: deadOn after := by
    rw [deadOn_append]
    rfl
  have hliving : deadOn (before ++ (m, true) :: after) = deadOn before ++ deadOn after := by
    rw [deadOn_append]
    rfl
  rw [hstrike, hroll, hdead, hliving]
  exact List.perm_middle

/-- Everyone on a roll is alive or dead. -/
theorem length_livingOn_add_deadOn (roll : List (Member × Bool)) :
    (livingOn roll).length + (deadOn roll).length = roll.length := by
  rw [livingOn, deadOn, List.length_map, List.length_map]
  exact (List.length_eq_length_filter_add Prod.snd).symm

/-! ## What keeps the agreement -/

theorem sound_empty : Sound {} where
  nodup_ids := List.nodup_nil
  registered := Registry.holds_empty
  opened_eq := rfl
  closures_perm := .nil
  closed_get _ := rfl
  closed_total := rfl
  lifetimes_length := rfl
  removals_eq := rfl

theorem Sound.enroll {v : Lives} (h : v.Sound) {m : Member}
    (hnew : ∀ e ∈ v.roll, e.1.id ≠ m.id) : (v.enroll m).Sound := by
  have hliving : livingOn (v.roll ++ [(m, true)]) = livingOn v.roll ++ [m] := livingOn_append _ _
  have hdead : deadOn (v.roll ++ [(m, true)]) = deadOn v.roll := by
    rw [deadOn_append]
    exact List.append_nil _
  refine ⟨?_, ?_, ?_, ?_, h.closed_get, h.closed_total, h.lifetimes_length, h.removals_eq⟩
  · change ((v.roll ++ [(m, true)]).map fun e => e.1.id).Nodup
    rw [List.map_append, List.nodup_append]
    refine ⟨h.nodup_ids, List.nodup_singleton _, ?_⟩
    intro id hid other hother heq
    obtain ⟨e, he, rfl⟩ := List.mem_map.mp hid
    exact hnew e he (heq.trans (List.mem_singleton.mp hother))
  · change (v.registry.insert m).Holds (livingOn (v.roll ++ [(m, true)]))
    rw [hliving]
    exact h.registered.insert fun x hx => hnew _ (mem_livingOn.mp hx)
  · change v.opened + 1 = (v.roll ++ [(m, true)]).length
    rw [h.opened_eq, List.length_append, List.length_singleton]
  · change (v.closures.map Prod.fst).Perm (deadOn (v.roll ++ [(m, true)]))
    rw [hdead]
    exact h.closures_perm

theorem Sound.nodup_living {v : Lives} (h : v.Sound) :
    ((livingOn v.roll).map Member.id).Nodup := by
  rw [livingOn, List.map_map]
  exact h.nodup_ids.sublist (List.filter_sublist.map _)

theorem Sound.bury {v : Lives} (h : v.Sound) {m : Member} (hm : (m, true) ∈ v.roll)
    (reason : CloseReason) (lifetime : Binary64) : (v.bury m.id reason lifetime).Sound where
  nodup_ids := by
    change ((strike m.id v.roll).map (Member.id ∘ Prod.fst)).Nodup
    rw [← List.map_map, members_strike, List.map_map]
    exact h.nodup_ids
  registered := by
    change (v.registry.remove m.id).2.Holds (livingOn (strike m.id v.roll))
    rw [livingOn_strike h.nodup_ids hm]
    exact h.registered.remove h.nodup_living m.id
  opened_eq := h.opened_eq.trans (List.length_map _).symm
  -- the id that leaves the living is new among the dead, wherever it stands on the roll
  closures_perm := ((h.closures_perm.cons m.id).trans (deadOn_strike h.nodup_ids hm).symm)
  closed_get label := by
    change (v.closed.bump reason.name).get label = List.countP _ ((m.id, reason) :: v.closures)
    rw [Tally.get_bump, h.closed_get, List.countP_cons]
    by_cases hlabel : reason.name = label
    · simp [hlabel]
    · have hlabel' : ¬ label = reason.name := fun he => hlabel he.symm
      simp [hlabel, hlabel']
  closed_total := (Tally.total_bump _ _).trans (congrArg (· + 1) h.closed_total)
  lifetimes_length := congrArg (· + 1) h.lifetimes_length
  removals_eq := by
    change (if reason = .removed then m.id :: v.removals else v.removals) = _
    rw [h.removals_eq]
    by_cases hr : reason = .removed
    · simp [Lives.bury, hr]
    · simp [Lives.bury, hr]

/-- A dead connection stays dead. -/
theorem mem_strike_of_dead {m : Member} {roll : List (Member × Bool)} (hm : (m, false) ∈ roll)
    (id : String) : (m, false) ∈ strike id roll :=
  List.mem_map.mpr ⟨(m, false), hm, ite_self _⟩

end Lives

namespace Ledger

/-- Everyone, in the order in which they were opened, and whether they are alive. -/
def roll (l : Ledger) : List (Member × Bool) := l.accounts.map fun a => (a.member, a.alive)

/-- The part of a ledger that says who is alive, who is registered and what was counted of it. -/
def lives (l : Ledger) : Lives where
  roll := l.roll
  registry := l.registry
  opened := l.opened
  closed := l.closed
  lifetimes := l.lifetimes
  closures := closures l.history
  removals := removals l.history

theorem ids_members (l : Ledger) : l.members.map Member.id = l.lives.roll.map fun e => e.1.id := by
  change (l.accounts.map _).map _ = (l.accounts.map _).map _
  rw [List.map_map, List.map_map]
  rfl

theorem mem_roll_of_find? {l : Ledger} {id : String} {a : Account} (ha : l.find? id = some a)
    (halive : a.alive = true) : (a.member, true) ∈ l.roll ∧ a.member.id = id := by
  have hid : a.id = id := by simpa using List.find?_some ha
  refine ⟨?_, hid⟩
  rw [← halive]
  exact List.mem_map.mpr ⟨a, List.mem_of_find?_eq_some ha, rfl⟩

theorem roll_mapOutbox (l : Ledger) (id : String) (f : Outbox → Outbox) :
    (l.mapOutbox id f).roll = l.roll :=
  map_accounts_update (fun a => (a.member, a.alive)) fun _ => rfl

theorem roll_close (l : Ledger) (id : String) (reason : CloseReason) (lifetime : Binary64) :
    (l.close id reason lifetime).roll = Lives.strike id l.roll := by
  rw [roll, roll, Lives.strike, List.map_map]
  change (l.accounts.map fun a => if a.id = id then { a with alive := false } else a).map _ = _
  rw [List.map_map]
  refine List.map_congr_left fun a _ => ?_
  by_cases ha : a.id = id
  · simp only [Function.comp_apply, if_pos ha, if_pos (show a.member.id = id from ha)]
  · simp only [Function.comp_apply, if_neg ha, if_neg (show ¬ a.member.id = id from ha)]

theorem lives_mapOutbox (l : Ledger) (id : String) (f : Outbox → Outbox) :
    (l.mapOutbox id f).lives = l.lives :=
  congrArg (fun roll => { l.lives with roll }) (roll_mapOutbox l id f)

/-- What is neither a teardown nor a removal does not touch who is alive. -/
theorem lives_record {l : Ledger} {x : Happening} (hclosure : x.closure? = none)
    (hremoved : x.removed? = none) : (l.record x).lives = l.lives := by
  have hclosures : closures (x :: l.history) = closures l.history :=
    List.filterMap_cons_none hclosure
  have hremovals : removals (x :: l.history) = removals l.history :=
    List.filterMap_cons_none hremoved
  change Lives.mk l.roll l.registry l.opened l.closed l.lifetimes (closures (x :: l.history))
    (removals (x :: l.history)) = l.lives
  rw [hclosures, hremovals]
  rfl

theorem lives_close (l : Ledger) (id : String) {reason : CloseReason} (h : reason ≠ .removed)
    (lifetime : Binary64) :
    (l.close id reason lifetime).lives = l.lives.bury id reason lifetime := by
  change { l.lives.bury id reason lifetime with
    roll := (l.close id reason lifetime).roll, removals := removals l.history } = _
  rw [roll_close, Lives.bury, if_neg h]
  rfl

theorem lives_remove (l : Ledger) (id : String) (lifetime : Binary64) :
    ((l.close id .removed lifetime).record (.removal id true)).lives =
      l.lives.bury id .removed lifetime := by
  change { l.lives.bury id .removed lifetime with
    roll := (l.close id .removed lifetime).roll } = _
  rw [roll_close]
  rfl

/-- A step leaves who is alive as it is, or tears one living connection down. -/
theorem Step.lives_cases {l l' : Ledger} (step : Step l l') :
    l'.lives = l.lives ∨ ∃ (m : Member) (reason : CloseReason) (lifetime : Binary64),
      (m, true) ∈ l.roll ∧ l'.lives = l.lives.bury m.id reason lifetime := by
  cases step with
  | refuse | ask | proceed => exact .inl rfl
  | @close id a reason lifetime found alive fault =>
    obtain ⟨hroll, rfl⟩ := mem_roll_of_find? found alive
    exact .inr ⟨a.member, reason, lifetime, hroll, lives_close l _ fault lifetime⟩
  | @remove id a lifetime found alive =>
    obtain ⟨hroll, rfl⟩ := mem_roll_of_find? found alive
    exact .inr ⟨a.member, .removed, lifetime, hroll, lives_remove l _ lifetime⟩
  | decline | beat | part => exact .inl (lives_record rfl rfl)
  | put | redeem | pass => exact .inl ((lives_record rfl rfl).trans (lives_mapOutbox l _ _))
  | join | withdraw | shed => exact .inl (lives_mapOutbox l _ _)

theorem Step.sound {l l' : Ledger} (step : Step l l') (h : l.lives.Sound) : l'.lives.Sound := by
  rcases step.lives_cases with heq | ⟨m, reason, lifetime, hm, heq⟩
  · rwa [heq]
  · rw [heq]
    exact h.bury hm reason lifetime

theorem Step.dead_of_dead {m : Member} {l l' : Ledger} (step : Step l l')
    (h : (m, false) ∈ l.lives.roll) : (m, false) ∈ l'.lives.roll := by
  rcases step.lives_cases with heq | ⟨other, reason, lifetime, -, heq⟩
  · rwa [heq]
  · rw [heq]
    exact Lives.mem_strike_of_dead h other.id

theorem lives_enroll (l : Ledger) (m : Member) (capacity : Nat) :
    (l.enroll m capacity).lives = l.lives.enroll m := by
  change { l.lives.enroll m with roll := (l.enroll m capacity).roll } = _
  rw [roll, enroll, List.map_append]
  rfl

theorem sound_enroll {l : Ledger} {m : Member} {capacity : Nat} (hnew : l.find? m.id = none)
    (h : l.lives.Sound) : (l.enroll m capacity).lives.Sound := by
  rw [lives_enroll]
  refine h.enroll fun e he => ?_
  obtain ⟨a, ha, rfl⟩ := List.mem_map.mp he
  have hne : a.id ≠ m.id := by simpa using List.find?_eq_none.mp hnew a ha
  exact hne

end Ledger

/-! ## Of a hub -/

namespace Hub

variable {τ : Type}

theorem roll_ledger (h : Hub τ) :
    h.ledger.roll = h.connections.map fun c => (c.member, c.alive) := by
  rw [Ledger.roll, ledger, List.map_map]
  rfl

/-- No two connections have the same id. -/
theorem nodup_connections {h : Hub τ} (sound : h.ledger.lives.Sound) :
    (h.connections.map Connection.id).Nodup := by
  have hnodup := sound.nodup_ids
  change (h.ledger.roll.map _).Nodup at hnodup
  rw [roll_ledger, List.map_map] at hnodup
  exact hnodup

/-- A connection is the one with its id. -/
theorem find?_of_mem {h : Hub τ} (sound : h.ledger.lives.Sound) {c : Connection τ}
    (hc : c ∈ h.connections) : h.find? c.id = some c := by
  obtain ⟨c', hfind⟩ : ∃ c', h.find? c.id = some c' :=
    Option.isSome_iff_exists.mp (List.find?_isSome.mpr ⟨c, hc, by simp⟩)
  rw [hfind, List.inj_on_of_nodup_map (nodup_connections sound)
    (List.mem_of_find?_eq_some hfind) hc (id_of_find? hfind)]

theorem mem_roll_iff {h : Hub τ} (sound : h.ledger.lives.Sound) {m : Member} {alive : Bool} :
    (m, alive) ∈ h.ledger.roll ↔ ∃ c, h.find? m.id = some c ∧ c.member = m ∧ c.alive = alive := by
  rw [roll_ledger]
  constructor
  · intro hm
    obtain ⟨c, hc, heq⟩ := List.mem_map.mp hm
    obtain ⟨rfl, rfl⟩ := Prod.mk.inj heq
    exact ⟨c, find?_of_mem sound hc, rfl, rfl⟩
  · rintro ⟨c, hfind, rfl, rfl⟩
    exact List.mem_map.mpr ⟨c, List.mem_of_find?_eq_some hfind, rfl⟩

theorem isAlive_eq {h : Hub τ} (sound : h.ledger.lives.Sound) {m : Member} {alive : Bool}
    (hm : (m, alive) ∈ h.ledger.roll) : h.isAlive m.id = alive := by
  obtain ⟨c, hfind, -, rfl⟩ := (mem_roll_iff sound).mp hm
  rw [isAlive, hfind, Option.any_some]

/-- What is found under an id is the connection with it, while that is alive. -/
theorem lookup_eq_some_iff {h : Hub τ} (sound : h.ledger.lives.Sound) {id : String} {m : Member} :
    h.registry.lookup id = some m ↔ ∃ c, h.find? id = some c ∧ c.alive = true ∧ c.member = m := by
  have hfound : h.registry.lookup id = some m ↔ (m, true) ∈ h.ledger.roll ∧ m.id = id :=
    (sound.registered.lookup_eq_some_iff sound.nodup_living).trans
      (and_congr_left' Lives.mem_livingOn)
  rw [hfound, mem_roll_iff sound]
  constructor
  · rintro ⟨⟨c, hc, hmember, halive⟩, rfl⟩
    exact ⟨c, hc, halive, hmember⟩
  · rintro ⟨c, hc, halive, rfl⟩
    have hid : c.member.id = id := id_of_find? hc
    exact ⟨⟨c, by rw [hid]; exact hc, rfl, halive⟩, hid⟩

theorem living_eq {h : Hub τ} (sound : h.ledger.lives.Sound) :
    Lives.livingOn h.ledger.lives.roll = h.ledger.members.filter fun m => h.isAlive m.id := by
  have hmembers : h.ledger.members = h.ledger.lives.roll.map Prod.fst := by
    change h.ledger.accounts.map _ = (h.ledger.accounts.map _).map _
    rw [List.map_map]
    rfl
  rw [hmembers, List.filter_map, Lives.livingOn]
  refine congrArg (List.map Prod.fst) (List.filter_congr fun e he => ?_)
  exact (isAlive_eq sound he).symm

theorem lookupUser_eq {h : Hub τ} (sound : h.ledger.lives.Sound) (user : String) :
    h.registry.lookupUser user = Registry.listed
      (h.ledger.members.filter fun m => h.isAlive m.id && decide (m.user = some user)) := by
  refine (sound.registered.lookupUser_eq user).trans ?_
  rw [living_eq sound, List.filter_filter]
  simp only [Bool.and_comm]

/-- Who stands in the list of a user is alive and belongs to the user. -/
theorem of_mem_lookupUser {h : Hub τ} (sound : h.ledger.lives.Sound) {user : String}
    {ms : List Member} {m : Member} (hms : h.registry.lookupUser user = some ms) (hm : m ∈ ms) :
    h.isAlive m.id = true ∧ m.user = some user := by
  rw [lookupUser_eq sound] at hms
  rw [Registry.mem_of_listed hms, List.mem_filter] at hm
  simpa using hm.2

/-- Whoever was opened and is not found is dead. -/
theorem dead_of_lookup_eq_none {h : Hub τ} (sound : h.ledger.lives.Sound) {m : Member}
    (hm : m ∈ h.ledger.members) (hgone : h.registry.lookup m.id = none) :
    (m, false) ∈ h.ledger.roll := by
  obtain ⟨a, ha, rfl⟩ := List.mem_map.mp hm
  have hroll : (a.member, a.alive) ∈ h.ledger.roll := List.mem_map.mpr ⟨a, ha, rfl⟩
  cases halive : a.alive with
  | false => exact halive ▸ hroll
  | true =>
    rw [halive] at hroll
    obtain ⟨c, hc, hmember, halive⟩ := (mem_roll_iff sound).mp hroll
    rw [(lookup_eq_some_iff sound).mpr ⟨c, hc, halive, hmember⟩] at hgone
    cases hgone

/-- The dead are found in neither index. -/
theorem not_found_of_not_alive {h : Hub τ} (sound : h.ledger.lives.Sound) {id : String}
    (hdead : h.isAlive id = false) :
    h.registry.lookup id = none ∧
      ∀ user ms, h.registry.lookupUser user = some ms → ∀ m ∈ ms, m.id ≠ id := by
  constructor
  · refine Option.eq_none_iff_forall_ne_some.mpr fun m hm => ?_
    obtain ⟨c, hc, halive, -⟩ := (lookup_eq_some_iff sound).mp hm
    rw [isAlive, hc, Option.any_some, halive] at hdead
    cases hdead
  · intro user ms hms m hm hid
    have halive := (of_mem_lookupUser sound hms hm).1
    rw [hid, hdead] at halive
    cases halive

end Hub

section Runs

variable {τ : Type} [Transport τ] {config : SocketConfig} {origins : OriginPolicy}
  {handlers : List Handler} {now wallClock : Nat} {h h' : Hub τ} {es es' : List (Event τ)}

theorem Run.sound_of_sound (run : Run h es h') (sound : h.ledger.lives.Sound) :
    h'.ledger.lives.Sound :=
  run.keeps (fun step => step.sound) (fun hnew _ => Ledger.sound_enroll hnew) sound

/-- Throughout a run from a hub without connections, indexes and counters agree with who is alive.
-/
theorem Run.sound (run : Run (Hub.initial config origins handlers now wallClock) es h) :
    h.ledger.lives.Sound :=
  run.sound_of_sound Lives.sound_empty

theorem Run.dead_of_dead (run : Run h es h') {m : Member} (hm : (m, false) ∈ h.ledger.roll) :
    (m, false) ∈ h'.ledger.roll :=
  run.keeps (P := fun l => (m, false) ∈ l.lives.roll) (fun step => step.dead_of_dead)
    (fun {l} {other} {capacity} _ _ hl => by
      rw [Ledger.lives_enroll]
      exact List.mem_append_left _ hl) hm

/-- **Found exactly while alive.** The connections of a run are those it opened, each under an id of
its own. One is found under its id while it is alive, and a user's list holds those of the user's
connections that are alive, in the order in which they were opened; there is no empty list, and
nobody without a user stands in one. Whoever was opened and is not found any more is never alive and
never found again. -/
theorem found_iff_alive (run : Run (Hub.initial config origins handlers now wallClock) es h) :
    h.connections.map Connection.member = openings config es ∧
    ((openings config es).map Member.id).Nodup ∧
    (∀ id m, h.registry.lookup id = some m ↔
      ∃ c, h.find? id = some c ∧ c.alive = true ∧ c.member = m) ∧
    (∀ user, h.registry.lookupUser user = Registry.listed
      ((openings config es).filter fun m => h.isAlive m.id && decide (m.user = some user))) ∧
    (∀ user, h.registry.lookupUser user ≠ some []) ∧
    (∀ id user tag, user = none ∨ user = some "" → ∀ other ms,
      h.registry.lookupUser other = some ms → Member.ofTexts id user tag ∉ ms) ∧
    ∀ es' h', Run h es' h' → ∀ m ∈ openings config es, h.registry.lookup m.id = none →
      h'.isAlive m.id = false ∧ h'.registry.lookup m.id = none ∧
        ∀ user ms, h'.registry.lookupUser user = some ms → ∀ x ∈ ms, x.id ≠ m.id := by
  have sound := run.sound
  have hmembers : h.ledger.members = openings config es := run.members_eq
  refine ⟨?_, ?_, fun id m => Hub.lookup_eq_some_iff sound, ?_, ?_, ?_, ?_⟩
  · rw [← hmembers, Ledger.members, Hub.ledger, List.map_map]
    rfl
  · rw [← hmembers, Ledger.ids_members]
    exact sound.nodup_ids
  · rw [← hmembers]
    exact Hub.lookupUser_eq sound
  · intro user
    rw [Hub.lookupUser_eq sound]
    exact Registry.listed_ne_nil _
  · intro id user tag hnone other ms hms hmem
    have huser := (Hub.of_mem_lookupUser sound hms hmem).2
    rw [Member.user_ofTexts_of_none hnone] at huser
    cases huser
  · -- who is not found is dead, and the dead stay dead in every later state
    intro es' h' later m hm hgone
    have hdead := Hub.dead_of_lookup_eq_none sound (hmembers ▸ hm) hgone
    have sound' := (run.append later).sound
    have halive := Hub.isAlive_eq sound' (later.dead_of_dead hdead)
    exact ⟨halive, Hub.not_found_of_not_alive sound' halive⟩

end Runs

/-- Two connections of one user, of which the first is removed and asked to be removed again. -/
def removedTwice : List (Event MemoryLink) :=
  [.upgrade "a" (.ok {}) { user := some "u" }, .upgrade "b" (.ok {}) { user := some "u" },
    .remove "a", .remove "a"]

theorem found_of_removedTwice :
    ∃ h : Hub MemoryLink, Run (Hub.initial {} .listed [] 0 0) removedTwice h ∧
      h.registry.lookup "a" = none ∧ h.isAlive "a" = false ∧
      h.registry.lookupUser "u" = some [Member.ofTexts "b" (some "u") none] := by
  have run : Run (Hub.initial {} .listed [] 0 0) removedTwice _ :=
    .cons rfl (.cons rfl (.cons trivial (.cons trivial (.nil _))))
  obtain ⟨-, -, -, huser, -, -, hgone⟩ := found_iff_alive run
  obtain ⟨halive, hlookup, -⟩ := hgone [] _ (.nil _) (Member.ofTexts "a" (some "u") none)
    (by decide) rfl
  exact ⟨_, run, hlookup, halive, (huser "u").trans rfl⟩

end Switchboard
