import Switchboard.Proofs.Registry
import Mathlib.Data.Finset.Card
import Mathlib.Data.Finset.Dedup

/-!
# A registry is told by its changes

`after cs` is the registry after a list of insertions and removals, and `standing cs` are the
insertions that no later removal of their id undoes. What is found in `after cs`, and what its
numbers are, is read off `standing cs` (`after_told_by_standing`).

## Inserting twice

The index by id holds a member once however often it is inserted, and the list of its user holds it
once for each insertion, until a removal clears all of them. So the registry does not hold
`standing cs` in the sense of `Registry.Holds`; it reflects it (`Reflects`), with the index by id
having the members of the list and the index by user having the list itself.

## Shape of the proof

`Reflects.insert` and `Reflects.remove` are the two steps, and `reflects_after` is the run. A member
inserted again must be the one that already stands under its id. This is what `Consistent` says of
the changes, and it is used at the insertion only.
-/

namespace Switchboard

/-! ## Tallies of a list -/

namespace Tally

theorem mem_labels_bumpIn {label other : String} {counts : List (String × Nat)} :
    other ∈ (bumpIn label counts).map Prod.fst ↔
      other ∈ counts.map Prod.fst ∨ other = label := by
  induction counts with
  | nil => simp [bumpIn]
  | cons entry rest ih =>
    obtain ⟨l, n⟩ := entry
    rw [bumpIn]
    split
    · rename_i hl
      simp only [List.map_cons, List.mem_cons, hl]
      tauto
    · simp only [List.map_cons, List.mem_cons, ih]
      tauto

theorem nodup_labels_bumpIn {label : String} {counts : List (String × Nat)}
    (h : (counts.map Prod.fst).Nodup) : ((bumpIn label counts).map Prod.fst).Nodup := by
  induction counts with
  | nil => simp [bumpIn]
  | cons entry rest ih =>
    obtain ⟨l, n⟩ := entry
    obtain ⟨hl, hrest⟩ := List.nodup_cons.mp h
    rw [bumpIn]
    split
    · exact List.nodup_cons.mpr ⟨hl, hrest⟩
    · rename_i hne
      refine List.nodup_cons.mpr ⟨fun hmem => ?_, ih hrest⟩
      rcases mem_labels_bumpIn.mp hmem with hmem | rfl
      · exact hl hmem
      · exact hne rfl

theorem ne_zero_of_mem_bumpIn {label : String} {counts : List (String × Nat)}
    (h : ∀ e ∈ counts, e.2 ≠ 0) : ∀ e ∈ bumpIn label counts, e.2 ≠ 0 := by
  induction counts with
  | nil => simp [bumpIn]
  | cons entry rest ih =>
    obtain ⟨l, n⟩ := entry
    obtain ⟨hn, hrest⟩ := List.forall_mem_cons.mp h
    rw [bumpIn]
    split
    · exact List.forall_mem_cons.mpr ⟨Nat.succ_ne_zero n, hrest⟩
    · exact List.forall_mem_cons.mpr ⟨hn, ih hrest⟩

/-- A tally has an entry for each label of a list, with the number of times it stands there. -/
structure Counts (t : Tally) (labels : List String) : Prop where
  nodup : (t.counts.map Prod.fst).Nodup
  ne_zero : ∀ e ∈ t.counts, e.2 ≠ 0
  get_eq : ∀ label, t.get label = labels.count label

theorem Counts.bump {t : Tally} {labels : List String} (h : t.Counts labels) (label : String) :
    (t.bump label).Counts (labels ++ [label]) := by
  refine ⟨nodup_labels_bumpIn h.nodup, ne_zero_of_mem_bumpIn h.ne_zero, fun other => ?_⟩
  rw [get_bump, h.get_eq, List.count_append, List.count_singleton]
  by_cases he : other = label
  · simp [he]
  · have he' : label ≠ other := fun h => he h.symm
    simp [he, he']

theorem counts_foldl_bump (labels : List String) : (labels.foldl bump {}).Counts labels := by
  induction labels using List.reverseRecOn with
  | nil => exact ⟨List.nodup_nil, by simp, fun _ => rfl⟩
  | append_singleton labels label ih =>
    rw [List.foldl_append]
    exact ih.bump label

theorem Counts.mem_iff {t : Tally} {labels : List String} (h : t.Counts labels) {label : String}
    {n : Nat} : (label, n) ∈ t.counts ↔ n ≠ 0 ∧ n = labels.count label := by
  rw [← h.get_eq, get]
  constructor
  · intro hmem
    refine ⟨h.ne_zero _ hmem, ?_⟩
    obtain ⟨before, rest, hsplit⟩ := List.append_of_mem hmem
    have hfirst : ∀ e ∈ before, label ≠ e.1 := by
      have hnodup := h.nodup
      rw [hsplit, List.map_append, List.map_cons] at hnodup
      intro e he heq
      exact (List.nodup_append.mp hnodup).2.2 e.1 (List.mem_map_of_mem he) label
        List.mem_cons_self heq.symm
    have hlookup : t.counts.lookup label = some n :=
      List.lookup_eq_some_iff.mpr ⟨before, rest, hsplit, by simpa using hfirst⟩
    rw [hlookup, Option.getD_some]
  · rintro ⟨hn, rfl⟩
    cases hlookup : t.counts.lookup label with
    | none => simp [hlookup] at hn
    | some k =>
      obtain ⟨before, rest, hsplit, -⟩ := List.lookup_eq_some_iff.mp hlookup
      rw [Option.getD_some, hsplit]
      exact List.mem_append_right before List.mem_cons_self

end Tally

namespace Registry

/-! ## Changes and what they leave standing -/

/-- A change of a registry. -/
inductive Change where
  | insert (m : Member)
  | remove (id : String)
  deriving DecidableEq, Repr

/-- The registry after a change. -/
def apply (r : Registry) : Change → Registry
  | .insert m => r.insert m
  | .remove id => (r.remove id).2

/-- The registry after changes, from an empty one. -/
def after (cs : List Change) : Registry := cs.foldl apply {}

/-- The insertions with no later removal of their id, in order. -/
def standing : List Change → List Member
  | [] => []
  | .insert m :: cs => if .remove m.id ∈ cs then standing cs else m :: standing cs
  | .remove _ :: cs => standing cs

/-- Changes insert one member only under each id. -/
def Consistent (cs : List Change) : Prop :=
  ∀ m m' : Member, .insert m ∈ cs → .insert m' ∈ cs → m.id = m'.id → m = m'

theorem after_snoc (cs : List Change) (c : Change) : after (cs ++ [c]) = (after cs).apply c := by
  rw [after, List.foldl_append]
  rfl

theorem standing_snoc_insert (cs : List Change) (m : Member) :
    standing (cs ++ [.insert m]) = standing cs ++ [m] := by
  induction cs with
  | nil => rfl
  | cons c cs ih =>
    cases c with
    | insert x =>
      have hmem : Change.remove x.id ∈ cs ++ [Change.insert m] ↔ Change.remove x.id ∈ cs := by simp
      rw [List.cons_append, standing, standing, ih]
      by_cases hx : Change.remove x.id ∈ cs
      · rw [if_pos (hmem.mpr hx), if_pos hx]
      · rw [if_neg (mt hmem.mp hx), if_neg hx, List.cons_append]
    | remove id => exact ih

theorem standing_snoc_remove (cs : List Change) (id : String) :
    standing (cs ++ [.remove id]) = (standing cs).filter fun m => m.id ≠ id := by
  induction cs with
  | nil => rfl
  | cons c cs ih =>
    cases c with
    | insert x =>
      have hmem : Change.remove x.id ∈ cs ++ [Change.remove id] ↔
          Change.remove x.id ∈ cs ∨ x.id = id := by simp
      rw [List.cons_append, standing, standing, ih]
      by_cases hx : Change.remove x.id ∈ cs
      · rw [if_pos (hmem.mpr (.inl hx)), if_pos hx]
      · rw [if_neg hx]
        by_cases hid : x.id = id
        · rw [if_pos (hmem.mpr (.inr hid)), List.filter_cons_of_neg (by simpa using hid)]
        · rw [if_neg (by rw [hmem]; tauto), List.filter_cons_of_pos (by simpa using hid)]
    | remove other => exact ih

/-- Who stands was inserted, and not removed since. -/
theorem mem_standing_iff {cs : List Change} {m : Member} :
    m ∈ standing cs ↔
      ∃ before since, cs = before ++ .insert m :: since ∧ .remove m.id ∉ since := by
  induction cs with
  | nil => simp [standing]
  | cons c cs ih =>
    -- the insertion is either the first change or one of the others
    have hcons : (∃ before since, c :: cs = before ++ .insert m :: since ∧
          .remove m.id ∉ since) ↔
        c = .insert m ∧ .remove m.id ∉ cs ∨
          ∃ before since, cs = before ++ .insert m :: since ∧ .remove m.id ∉ since := by
      constructor
      · rintro ⟨before, since, hsplit, hsince⟩
        cases before with
        | nil =>
          obtain ⟨rfl, rfl⟩ := List.cons.inj hsplit
          exact .inl ⟨rfl, hsince⟩
        | cons first before =>
          obtain ⟨-, hrest⟩ := List.cons.inj hsplit
          exact .inr ⟨before, since, hrest, hsince⟩
      · rintro (⟨rfl, hcs⟩ | ⟨before, since, rfl, hsince⟩)
        · exact ⟨[], cs, rfl, hcs⟩
        · exact ⟨c :: before, since, rfl, hsince⟩
    rw [hcons, ← ih]
    cases c with
    | insert x =>
      rw [standing]
      by_cases hx : Change.remove x.id ∈ cs
      · rw [if_pos hx]
        constructor
        · exact .inr
        · rintro (⟨he, hcs⟩ | hm)
          · obtain rfl := Change.insert.inj he
            exact absurd hx hcs
          · exact hm
      · rw [if_neg hx, List.mem_cons]
        constructor
        · rintro (rfl | hm)
          · exact .inl ⟨rfl, hx⟩
          · exact .inr hm
        · rintro (⟨he, -⟩ | hm)
          · exact .inl (Change.insert.inj he).symm
          · exact .inr hm
    | remove id => simp [standing]

theorem Consistent.eq_of_standing {cs : List Change} {m x : Member}
    (h : Consistent (cs ++ [.insert m])) (hx : x ∈ standing cs) (hid : x.id = m.id) : x = m := by
  obtain ⟨before, since, rfl, -⟩ := mem_standing_iff.mp hx
  exact h x m (by simp) (by simp) hid

theorem Consistent.of_snoc {cs : List Change} {c : Change} (h : Consistent (cs ++ [c])) :
    Consistent cs :=
  fun m m' hm hm' => h m m' (List.mem_append_left _ hm) (List.mem_append_left _ hm')

/-! ## The coupling of both indexes with the changes -/

/-- A registry has the members of a list by id, each once, and by user as often as they stand
there. -/
structure Reflects (r : Registry) (ms : List Member) : Prop where
  nodup_ids : (r.byId.map Member.id).Nodup
  mem_byId_iff : ∀ m, m ∈ r.byId ↔ m ∈ ms
  indexes : Indexes r.byUser ms

theorem reflects_empty : Reflects {} [] where
  nodup_ids := List.nodup_nil
  mem_byId_iff _ := Iff.rfl
  indexes := holds_empty.indexes

theorem replaceOrAppend_of_mem {m : Member} {ms : List Member} (hmem : m ∈ ms)
    (honly : ∀ x ∈ ms, x.id = m.id → x = m) : replaceOrAppend m ms = ms := by
  induction ms with
  | nil => cases hmem
  | cons x rest ih =>
    rw [replaceOrAppend]
    by_cases hx : x.id = m.id
    · rw [if_pos hx, honly x List.mem_cons_self hx]
    · have hrest : m ∈ rest := by
        rcases List.mem_cons.mp hmem with rfl | hrest
        · exact absurd rfl hx
        · exact hrest
      rw [if_neg hx, ih hrest fun y hy => honly y (List.mem_cons_of_mem x hy)]

namespace Reflects

variable {r : Registry} {ms : List Member}

theorem nodup_byId (h : r.Reflects ms) : r.byId.Nodup := h.nodup_ids.of_map Member.id

theorem lookup_eq_some_iff (h : r.Reflects ms) {id : String} {m : Member} :
    r.lookup id = some m ↔ m ∈ ms ∧ m.id = id := by
  rw [lookup_eq_some_iff_mem h.nodup_ids, h.mem_byId_iff]

theorem eq_of_id (h : r.Reflects ms) {x m : Member} (hx : x ∈ ms) (hm : m ∈ ms)
    (hid : x.id = m.id) : x = m :=
  List.inj_on_of_nodup_map h.nodup_ids ((h.mem_byId_iff x).mpr hx) ((h.mem_byId_iff m).mpr hm) hid

/-- A member inserted again changes nothing by id; a new one is last by id. -/
theorem insert (h : r.Reflects ms) {m : Member} (honly : ∀ x ∈ ms, x.id = m.id → x = m) :
    (r.insert m).Reflects (ms ++ [m]) := by
  by_cases hm : m ∈ ms
  · have hsame : (r.insert m).byId = r.byId :=
      replaceOrAppend_of_mem ((h.mem_byId_iff m).mpr hm) fun x hx =>
        honly x ((h.mem_byId_iff x).mp hx)
    refine ⟨by rw [hsame]; exact h.nodup_ids, fun x => ?_, h.indexes.insert m⟩
    rw [hsame, h.mem_byId_iff, List.mem_append, List.mem_singleton]
    constructor
    · exact .inl
    · rintro (hx | rfl)
      · exact hx
      · exact hm
  · have hnew : ∀ x ∈ r.byId, x.id ≠ m.id := by
      intro x hx hid
      have hxms := (h.mem_byId_iff x).mp hx
      exact hm (honly x hxms hid ▸ hxms)
    have hlast : (r.insert m).byId = r.byId ++ [m] := replaceOrAppend_of_new hnew
    refine ⟨?_, fun x => ?_, h.indexes.insert m⟩
    · rw [hlast, List.map_append, List.map_singleton]
      refine h.nodup_ids.append (List.nodup_singleton _) ?_
      rw [List.disjoint_singleton, List.mem_map]
      rintro ⟨x, hx, hid⟩
      exact hnew x hx hid
    · rw [hlast, List.mem_append, List.mem_append, h.mem_byId_iff]

/-- Removing an id clears every insertion of its member. -/
theorem remove (h : r.Reflects ms) (id : String) :
    (r.remove id).2.Reflects (ms.filter fun m => m.id ≠ id) := by
  cases hlookup : r.lookup id with
  | none =>
    have hall : (ms.filter fun m => m.id ≠ id) = ms := by
      rw [List.filter_eq_self]
      intro m hm
      by_contra hid
      have hfound := h.lookup_eq_some_iff.mpr ⟨hm, by simpa using hid⟩
      rw [hlookup] at hfound
      cases hfound
    rw [hall, Registry.remove, hlookup]
    exact h
  | some m =>
    obtain ⟨hm, hid⟩ := h.lookup_eq_some_iff.mp hlookup
    have hleft : (r.remove id).2.byId = r.byId.filter fun x => x.id ≠ id := by
      rw [Registry.remove, hlookup]
    refine ⟨?_, fun x => ?_, ?_⟩
    · rw [hleft]
      exact h.nodup_ids.sublist (List.filter_sublist.map _)
    · rw [hleft, List.mem_filter, List.mem_filter, h.mem_byId_iff]
    · exact h.indexes.remove hlookup fun x hx hxid => h.eq_of_id hx hm (hxid.trans hid.symm)

end Reflects

/-- After any changes, a registry reflects what they leave standing. -/
theorem reflects_after {cs : List Change} (h : Consistent cs) :
    (after cs).Reflects (standing cs) := by
  induction cs using List.reverseRecOn with
  | nil => exact reflects_empty
  | append_singleton cs c ih =>
    have hcs := ih h.of_snoc
    rw [after_snoc]
    cases c with
    | insert m =>
      rw [standing_snoc_insert]
      exact hcs.insert fun x hx => h.eq_of_standing hx
    | remove id =>
      rw [standing_snoc_remove]
      exact hcs.remove id

/-! ## The numbers -/

namespace Reflects

variable {r : Registry} {ms : List Member}

theorem toFinset_byId (h : r.Reflects ms) : r.byId.toFinset = ms.toFinset := by
  ext m
  rw [List.mem_toFinset, List.mem_toFinset, h.mem_byId_iff]

/-- Members by id with a property are counted once each. -/
theorem countP_byId (h : r.Reflects ms) (p : Member → Bool) :
    r.byId.countP p = (ms.toFinset.filter fun m => p m = true).card := by
  rw [List.countP_eq_length_filter, ← h.toFinset_byId, ← List.toFinset_filter,
    List.toFinset_card_of_nodup (h.nodup_byId.filter p)]

theorem size_eq (h : r.Reflects ms) : r.size = ms.toFinset.card := by
  rw [size, ← List.toFinset_card_of_nodup h.nodup_byId, h.toFinset_byId]

theorem isEmpty_iff (h : r.Reflects ms) : r.isEmpty = true ↔ ms = [] := by
  rw [Registry.isEmpty, List.isEmpty_iff, List.eq_nil_iff_forall_not_mem,
    List.eq_nil_iff_forall_not_mem]
  simp only [h.mem_byId_iff]

theorem userCount_eq (h : r.Reflects ms) :
    r.userCount = (ms.filterMap Member.user).toFinset.card := by
  have husers : (users r.byUser).toFinset = (ms.filterMap Member.user).toFinset := by
    ext user
    rw [List.mem_toFinset, List.mem_toFinset, h.indexes.mem_users_iff, List.mem_filterMap]
  rw [userCount, ← List.length_map Prod.fst, ← husers]
  exact (List.toFinset_card_of_nodup h.indexes.nodup_users).symm

theorem apps_counts (h : r.Reflects ms) :
    r.stats.apps.Counts (r.byId.filterMap Member.tag) ∧
      ∀ tag, (r.byId.filterMap Member.tag).count tag =
        (ms.toFinset.filter fun m => m.tag = some tag).card := by
  refine ⟨Tally.counts_foldl_bump _, fun tag => ?_⟩
  rw [List.count_filterMap, h.countP_byId]
  simp

end Reflects

/-- **The registry equals its history.** Let no two members inserted have one id; the same member
may be inserted again at any time. Then a member is found under its id just if it was inserted and
its id not removed since. The members of a user are all insertions of theirs that no later removal
undoes, in order; there are none in place of an empty list. A removal gives what was found under the
id, and changes nothing if there was none. Whoever is alive by then, the member of a user with a tag
is the first of those listed that is alive and has it. The size counts the members by id, once each,
`userCount` the users with members, and the statistics count both, the members without user, and
those of each tag that has some. No lookup returns a registry, so that none changes it. -/
theorem after_told_by_standing {cs : List Change} (h : Consistent cs) :
    (∀ id m, (after cs).lookup id = some m ↔
      m.id = id ∧ ∃ before since, cs = before ++ .insert m :: since ∧ .remove id ∉ since) ∧
    (∀ user, (after cs).lookupUser user =
      listed ((standing cs).filter fun m => m.user = some user)) ∧
    (∀ user, (after cs).lookupUser user = none ↔
      ((standing cs).filter fun m => m.user = some user) = []) ∧
    (∀ id, ((after cs).remove id).1 = (after cs).lookup id ∧
      ((after cs).lookup id = none → ((after cs).remove id).2 = after cs)) ∧
    (∀ alive user tag, (after cs).lookupUserByTag alive user tag =
      ((standing cs).filter fun m => m.user = some user).find? fun m =>
        alive m.id && m.tag = some tag) ∧
    (after cs).size = (standing cs).toFinset.card ∧
    ((after cs).isEmpty = true ↔ standing cs = []) ∧
    (after cs).userCount = ((standing cs).filterMap Member.user).toFinset.card ∧
    (after cs).stats.total = (after cs).size ∧
    (after cs).stats.uniqueUsers = (after cs).userCount ∧
    (after cs).stats.anonymous = ((standing cs).toFinset.filter fun m => m.user = none).card ∧
    ((after cs).stats.apps.counts.map Prod.fst).Nodup ∧
    ∀ tag n, (tag, n) ∈ (after cs).stats.apps.counts ↔
      n ≠ 0 ∧ n = ((standing cs).toFinset.filter fun m => m.tag = some tag).card := by
  have hr := reflects_after h
  obtain ⟨hcounts, hcount⟩ := hr.apps_counts
  have huser : ∀ user, (after cs).lookupUser user =
      listed ((standing cs).filter fun m => m.user = some user) := hr.indexes.lookup_eq
  refine ⟨fun id m => ?_, huser, fun user => ?_, fun id => ?_, fun alive user tag => ?_, hr.size_eq,
    hr.isEmpty_iff, hr.userCount_eq, rfl, rfl, ?_, hcounts.nodup, fun tag n => ?_⟩
  -- who is found, who is listed, and what a removal answers
  · rw [hr.lookup_eq_some_iff, mem_standing_iff, and_comm]
    constructor
    · rintro ⟨rfl, hm⟩
      exact ⟨rfl, hm⟩
    · rintro ⟨rfl, hm⟩
      exact ⟨rfl, hm⟩
  · rw [huser user, listed]
    simp
  · rw [Registry.remove]
    cases (after cs).lookup id with
    | none => exact ⟨rfl, fun _ => rfl⟩
    | some m => exact ⟨rfl, fun hnone => by cases hnone⟩
  · rw [lookupUserByTag, huser user]
    cases (standing cs).filter fun m => m.user = some user with
    | nil => rfl
    | cons m ms => rfl
  -- the numbers
  · rw [stats, hr.countP_byId]
    simp
  · rw [hcounts.mem_iff, hcount]

/-- Changes with two members of one user, one of them inserted twice before its removal and again
after, and one member without user. -/
def insertedAgain : List Change :=
  [.insert ⟨"a", some "u", some "web"⟩, .insert ⟨"b", some "u", some "app"⟩,
    .insert ⟨"a", some "u", some "web"⟩, .insert ⟨"c", none, some "web"⟩, .remove "x",
    .remove "b", .insert ⟨"b", some "u", some "app"⟩, .remove "c"]

theorem after_told_by_insertedAgain :
    Consistent insertedAgain ∧
    (after insertedAgain).lookupUser "u" = some [⟨"a", some "u", some "web"⟩,
      ⟨"a", some "u", some "web"⟩, ⟨"b", some "u", some "app"⟩] ∧
    (after insertedAgain).lookupUserByTag (fun id => id ≠ "a") "u" "web" = none ∧
    (after insertedAgain).size = 2 ∧ (after insertedAgain).stats.anonymous = 0 := by
  have hconsistent : Consistent insertedAgain := by
    intro m m' hm hm' hid
    simp only [insertedAgain, List.mem_cons, Change.insert.injEq, reduceCtorEq, List.not_mem_nil,
      or_false, false_or] at hm hm'
    rcases hm with rfl | rfl | rfl | rfl | rfl <;> rcases hm' with rfl | rfl | rfl | rfl | rfl <;>
      first | rfl | exact absurd hid (by decide)
  obtain ⟨-, huser, -, -, htag, hsize, -, -, -, -, hanonymous, -⟩ :=
    after_told_by_standing hconsistent
  refine ⟨hconsistent, (huser "u").trans (by decide), (htag _ "u" "web").trans (by decide),
    hsize.trans (by decide), hanonymous.trans (by decide)⟩

end Registry

end Switchboard
