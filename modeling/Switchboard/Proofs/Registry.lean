import Switchboard.Registry
import Mathlib.Data.List.Nodup

/-!
# The two indexes of a registry agree

`Registry.Holds r ms` says that a registry holds exactly the members `ms`: the index by id is `ms`,
and the index by user gives each user's members in the order of `ms`. Inserting a new member puts it
at the end of `ms` (`Holds.insert`), and removing an id deletes its member (`Holds.remove`).

## Shape of the proof

The index by user is a list of pairs in which each user stands once. `lookup_appendTo` and
`lookup_deleteFrom` say what the two changes of that list do to what is found under a user; nothing
else about the list matters. `Indexes` is what they keep, and asks nothing of the index by id, so
that a member may be listed more often than it is registered.
-/

namespace Switchboard

theorem Member.user_ofTexts_of_none {id : String} {user tag : Option String}
    (h : user = none ∨ user = some "") : (Member.ofTexts id user tag).user = none := by
  rcases h with rfl | rfl <;> rfl

namespace Registry

open Tally (lookup_cons_of_ne)

/-- Members as a registry gives those of a user: none in place of no members. -/
def listed (ms : List Member) : Option (List Member) := if ms.isEmpty then none else some ms

@[simp] theorem listed_nil : listed [] = none := rfl

@[simp] theorem getD_listed (ms : List Member) : (listed ms).getD [] = ms := by
  cases ms <;> rfl

theorem listed_ne_nil (ms : List Member) : listed ms ≠ some [] := by
  cases ms <;> simp [listed]

theorem mem_of_listed {ms ms' : List Member} (h : listed ms = some ms') : ms' = ms := by
  rw [← getD_listed ms, h, Option.getD_some]

theorem listed_of_ne_nil {ms : List Member} (h : ms ≠ []) : listed ms = some ms := by
  rw [listed, if_neg (by simpa using h)]

/-! ## The index by id -/

theorem replaceOrAppend_of_new {m : Member} {ms : List Member} (h : ∀ x ∈ ms, x.id ≠ m.id) :
    replaceOrAppend m ms = ms ++ [m] := by
  induction ms with
  | nil => rfl
  | cons x rest ih =>
    rw [replaceOrAppend, if_neg (h x List.mem_cons_self),
      ih fun y hy => h y (List.mem_cons_of_mem x hy), List.cons_append]

/-! ## The index by user -/

/-- The users of an index. -/
def users (index : List (String × List Member)) : List String := index.map Prod.fst

theorem lookup_eq_none_of_notMem {index : List (String × List Member)} {user : String}
    (h : user ∉ users index) : index.lookup user = none := by
  rw [List.lookup_eq_none_iff]
  intro p hp
  have hne : user ≠ p.1 := fun he => h (he ▸ List.mem_map_of_mem hp)
  simpa using hne

theorem lookup_appendTo (user v : String) (m : Member) (index : List (String × List Member)) :
    (appendTo user m index).lookup v =
      if v = user then some ((index.lookup user).getD [] ++ [m]) else index.lookup v := by
  induction index with
  | nil =>
    by_cases hv : v = user
    · simp [appendTo, hv]
    · simp [appendTo, hv, lookup_cons_of_ne]
  | cons entry rest ih =>
    obtain ⟨u, ms⟩ := entry
    by_cases hu : u = user
    · subst hu
      by_cases hv : v = u <;> simp [appendTo, hv, lookup_cons_of_ne]
    · have hu' : user ≠ u := fun h => hu h.symm
      rw [appendTo, if_neg hu, lookup_cons_of_ne hu']
      by_cases hv : v = u
      · subst hv
        simp [hu]
      · rw [lookup_cons_of_ne hv, lookup_cons_of_ne hv, ih]

theorem mem_users_appendTo {user v : String} {m : Member} {index : List (String × List Member)} :
    v ∈ users (appendTo user m index) ↔ v ∈ users index ∨ v = user := by
  induction index with
  | nil => simp [users, appendTo]
  | cons entry rest ih =>
    obtain ⟨u, ms⟩ := entry
    simp only [users] at ih
    by_cases hu : u = user
    · simp only [users, appendTo, if_pos hu, List.map_cons, List.mem_cons]
      rw [hu]
      tauto
    · simp only [users, appendTo, if_neg hu, List.map_cons, List.mem_cons, ih]
      tauto

theorem nodup_users_appendTo {user : String} {m : Member} {index : List (String × List Member)}
    (h : (users index).Nodup) : (users (appendTo user m index)).Nodup := by
  induction index with
  | nil => simp [users, appendTo]
  | cons entry rest ih =>
    obtain ⟨u, ms⟩ := entry
    obtain ⟨hu, hrest⟩ := List.nodup_cons.mp h
    rw [appendTo]
    split
    · exact List.nodup_cons.mpr ⟨hu, hrest⟩
    · rename_i hne
      refine List.nodup_cons.mpr ⟨fun hmem => ?_, ih hrest⟩
      rcases mem_users_appendTo.mp hmem with hmem | rfl
      · exact hu hmem
      · exact hne rfl

theorem users_deleteFrom_sublist (user id : String) (index : List (String × List Member)) :
    (users (deleteFrom user id index)).Sublist (users index) := by
  induction index with
  | nil => exact List.Sublist.refl _
  | cons entry rest ih =>
    obtain ⟨u, ms⟩ := entry
    rw [deleteFrom]
    split
    · dsimp only
      split
      · exact List.sublist_cons_self u _
      · exact List.Sublist.refl _
    · exact ih.cons_cons u

theorem lookup_deleteFrom (user id v : String) {index : List (String × List Member)}
    (h : (users index).Nodup) :
    (deleteFrom user id index).lookup v =
      if v = user then listed (((index.lookup user).getD []).filter fun m => m.id ≠ id)
      else index.lookup v := by
  induction index with
  | nil => by_cases hv : v = user <;> simp [deleteFrom, hv]
  | cons entry rest ih =>
    obtain ⟨u, ms⟩ := entry
    obtain ⟨hu, hrest⟩ := List.nodup_cons.mp h
    by_cases hne : u = user
    · subst hne
      have hnone : rest.lookup u = none := lookup_eq_none_of_notMem hu
      -- a user of whom nobody is left loses the entry, which is the only one of theirs
      by_cases hleft : (ms.filter fun m => m.id ≠ id) = []
      · have hdel : deleteFrom u id ((u, ms) :: rest) = rest := by
          rw [deleteFrom, if_pos rfl]
          simp only [hleft, List.isEmpty_nil, if_true]
        rw [hdel]
        by_cases hv : v = u
        · subst hv
          rw [if_pos rfl, hnone, List.lookup_cons_self, Option.getD_some, hleft, listed_nil]
        · rw [if_neg hv, lookup_cons_of_ne hv]
      · have hdel : deleteFrom u id ((u, ms) :: rest) =
            (u, ms.filter fun m => m.id ≠ id) :: rest := by
          rw [deleteFrom, if_pos rfl]
          dsimp only
          rw [if_neg (by simpa using hleft)]
        rw [hdel]
        by_cases hv : v = u
        · subst hv
          rw [if_pos rfl, List.lookup_cons_self, List.lookup_cons_self, Option.getD_some,
            listed_of_ne_nil hleft]
        · rw [if_neg hv, lookup_cons_of_ne hv, lookup_cons_of_ne hv]
    · have hne' : user ≠ u := fun h => hne h.symm
      rw [deleteFrom, if_neg hne]
      by_cases hv : v = u
      · subst hv
        rw [List.lookup_cons_self, if_neg hne, List.lookup_cons_self]
      · rw [lookup_cons_of_ne hv, ih hrest, lookup_cons_of_ne hne', lookup_cons_of_ne hv]

/-- An index gives each user's members of `ms` in their order, and has no user twice. -/
structure Indexes (index : List (String × List Member)) (ms : List Member) : Prop where
  nodup_users : (users index).Nodup
  lookup_eq : ∀ user, index.lookup user = listed (ms.filter fun m => m.user = some user)

/-- The users of an index are those with members. -/
theorem Indexes.mem_users_iff {index : List (String × List Member)} {ms : List Member}
    (h : Indexes index ms) {user : String} :
    user ∈ users index ↔ ∃ m ∈ ms, m.user = some user := by
  have hfound : user ∈ users index ↔ index.lookup user ≠ none := by
    constructor
    · intro hmem hnone
      obtain ⟨p, hp, rfl⟩ := List.mem_map.mp hmem
      have hne := List.lookup_eq_none_iff.mp hnone p hp
      simp at hne
    · intro hne
      by_contra hmem
      exact hne (lookup_eq_none_of_notMem hmem)
  rw [hfound, h.lookup_eq user, listed]
  simp [List.filter_eq_nil_iff]

/-- Inserting a member lists it last, among those of its user. -/
theorem Indexes.insert {r : Registry} {ms : List Member} (h : Indexes r.byUser ms) (m : Member) :
    Indexes (r.insert m).byUser (ms ++ [m]) := by
  refine ⟨?_, fun user => ?_⟩
  · cases hu : m.user with
    | none => simpa [Registry.insert, hu] using h.nodup_users
    | some u => simpa [Registry.insert, hu] using nodup_users_appendTo h.nodup_users
  · have huser := h.lookup_eq user
    rw [List.filter_append]
    cases hu : m.user with
    | none => simpa [Registry.insert, hu] using huser
    | some u =>
      simp only [Registry.insert, hu, Option.elim_some]
      rw [lookup_appendTo]
      by_cases hv : user = u
      · subst hv
        rw [if_pos rfl, huser, getD_listed, listed_of_ne_nil (by simp [hu])]
        simp [hu]
      · have hv' : ¬ u = user := fun h => hv h.symm
        simpa [hu, hv, hv'] using huser

/-- Removing the id of a member that no other has strikes it from the list of its user. -/
theorem Indexes.remove {r : Registry} {ms : List Member} (h : Indexes r.byUser ms) {id : String}
    {m : Member} (hlookup : r.lookup id = some m) (honly : ∀ x ∈ ms, x.id = id → x = m) :
    Indexes (r.remove id).2.byUser (ms.filter fun x => x.id ≠ id) := by
  -- the member of the id is the only one, so other users' lists do not hold the id
  have hother : ∀ user, m.user ≠ some user →
      ((ms.filter fun x => x.id ≠ id).filter fun x => x.user = some user) =
        ms.filter fun x => x.user = some user := by
    intro user hne
    rw [List.filter_filter]
    refine List.filter_congr fun x hx => ?_
    by_cases hxid : x.id = id
    · simp [honly x hx hxid, hne]
    · simp [hxid]
  simp only [Registry.remove, hlookup]
  refine ⟨?_, fun user => ?_⟩
  · cases hu : m.user with
    | none => simpa [hu] using h.nodup_users
    | some u =>
      simpa [hu] using h.nodup_users.sublist (users_deleteFrom_sublist u id r.byUser)
  · have huser := h.lookup_eq user
    cases hu : m.user with
    | none => simpa only [hother user (by simp [hu]), hu, Option.elim_none] using huser
    | some u =>
      simp only [Option.elim_some]
      rw [lookup_deleteFrom u id user h.nodup_users]
      by_cases hv : user = u
      · subst hv
        rw [if_pos rfl, huser, getD_listed, List.filter_filter, List.filter_filter]
        simp only [Bool.and_comm]
      · have hne : m.user ≠ some user := by
          rw [hu]
          exact fun he => hv (Option.some.inj he).symm
        rw [if_neg hv, huser, hother user hne]

/-! ## Both indexes -/

/-- A registry holds exactly the members `ms`, in this order. -/
structure Holds (r : Registry) (ms : List Member) : Prop where
  byId_eq : r.byId = ms
  nodup_users : (users r.byUser).Nodup
  lookupUser_eq : ∀ user, r.lookupUser user = listed (ms.filter fun m => m.user = some user)

theorem holds_empty : Holds {} [] where
  byId_eq := rfl
  nodup_users := List.nodup_nil
  lookupUser_eq _ := rfl

theorem Holds.indexes {r : Registry} {ms : List Member} (h : r.Holds ms) : Indexes r.byUser ms :=
  ⟨h.nodup_users, h.lookupUser_eq⟩

theorem Holds.of_indexes {r : Registry} {ms : List Member} (hid : r.byId = ms)
    (h : Indexes r.byUser ms) : r.Holds ms :=
  ⟨hid, h.nodup_users, h.lookup_eq⟩

theorem Holds.lookup_eq {r : Registry} {ms : List Member} (h : r.Holds ms) (id : String) :
    r.lookup id = ms.find? fun m => m.id = id := by
  rw [lookup, h.byId_eq]

/-- What is found under an id, where each id stands once. -/
theorem lookup_eq_some_iff_mem {r : Registry} (hids : (r.byId.map Member.id).Nodup) {id : String}
    {m : Member} : r.lookup id = some m ↔ m ∈ r.byId ∧ m.id = id := by
  rw [lookup]
  constructor
  · intro hfind
    exact ⟨List.mem_of_find?_eq_some hfind, by simpa using List.find?_some hfind⟩
  · rintro ⟨hm, rfl⟩
    obtain ⟨x, hfind⟩ : ∃ x, r.byId.find? (fun x => x.id = m.id) = some x :=
      Option.isSome_iff_exists.mp (List.find?_isSome.mpr ⟨m, hm, by simp⟩)
    have hx : x.id = m.id := by simpa using List.find?_some hfind
    rw [hfind, List.inj_on_of_nodup_map hids (List.mem_of_find?_eq_some hfind) hm hx]

theorem Holds.lookup_eq_some_iff {r : Registry} {ms : List Member} (h : r.Holds ms)
    (hids : (ms.map Member.id).Nodup) {id : String} {m : Member} :
    r.lookup id = some m ↔ m ∈ ms ∧ m.id = id := by
  rw [lookup_eq_some_iff_mem (by rw [h.byId_eq]; exact hids), h.byId_eq]

/-- A new member is last in both indexes. -/
theorem Holds.insert {r : Registry} {ms : List Member} (h : r.Holds ms) {m : Member}
    (hnew : ∀ x ∈ ms, x.id ≠ m.id) : (r.insert m).Holds (ms ++ [m]) := by
  refine .of_indexes ?_ (h.indexes.insert m)
  rw [Registry.insert, h.byId_eq, replaceOrAppend_of_new hnew]

/-- Removing an id deletes its member from both indexes, and nothing else. -/
theorem Holds.remove {r : Registry} {ms : List Member} (h : r.Holds ms)
    (hids : (ms.map Member.id).Nodup) (id : String) :
    (r.remove id).2.Holds (ms.filter fun m => m.id ≠ id) := by
  cases hfind : r.lookup id with
  | none =>
    have hall : (ms.filter fun m => m.id ≠ id) = ms := by
      rw [h.lookup_eq] at hfind
      rw [List.filter_eq_self]
      intro m hm
      simpa using List.find?_eq_none.mp hfind m hm
    rw [Registry.remove, hfind]
    simpa only [hall] using h
  | some m =>
    obtain ⟨hmem, hid⟩ := (h.lookup_eq_some_iff hids).mp hfind
    refine .of_indexes ?_ (h.indexes.remove hfind fun x hx hxid => ?_)
    · simp only [Registry.remove, hfind, h.byId_eq]
    · exact List.inj_on_of_nodup_map hids hx hmem (hxid.trans hid.symm)

end Registry

end Switchboard
