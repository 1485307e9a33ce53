import Mathlib.Data.List.Induction
import Switchboard.Proofs.Overlay
import Switchboard.Settings.EnvFile

/-!
# Variables

What a file of variables does to an environment, and what table an environment comes to. Such a file
adds the variables that are not set, by the names as they are spelled (`EnvFile.loadLines_eq`). The
table has each name once, with the value that is given last (`Environment.lookup_collect`), and what
it has under some of the names depends on these alone (`Environment.filter_collect`).
-/

namespace Switchboard

namespace Environment

open Tally (lookup_cons_of_ne)

/-! ## Variables that are not set -/

/-- The variables, each with the first of its values. -/
def firsts : Environment → Environment
  | [] => []
  | (name, value) :: rest => (name, value) :: (firsts rest).filter fun e => e.1 ≠ name

/-- The variables that are not set in an environment. -/
def unsetIn (env vars : Environment) : Environment :=
  vars.filter fun e => (env.lookup e.1).isNone

theorem lookup_unsetIn (env vars : Environment) (name : String) :
    (unsetIn env vars).lookup name =
      if (env.lookup name).isNone then vars.lookup name else none := by
  induction vars with
  | nil => simp [unsetIn]
  | cons e rest ih =>
    obtain ⟨n, v⟩ := e
    rw [unsetIn] at ih ⊢
    rw [List.filter_cons]
    by_cases hname : name = n
    · subst hname
      split
      · rw [List.lookup_cons_self, List.lookup_cons_self]
      · rename_i hset
        rw [ih, if_neg hset]
    · rw [lookup_cons_of_ne hname, ← ih]
      split
      · exact lookup_cons_of_ne hname v _
      · rfl

theorem unsetIn_firsts_of_set {env rest : Environment} {name value v : String}
    (hset : env.lookup name = some v) :
    unsetIn env (firsts ((name, value) :: rest)) = unsetIn env (firsts rest) := by
  rw [firsts, unsetIn, unsetIn, List.filter_cons_of_neg (by simp [hset]), List.filter_filter]
  refine List.filter_congr fun e _ => ?_
  by_cases hname : e.1 = name
  · rw [hname, hset]
    rfl
  · simp [hname]

theorem unsetIn_firsts_of_unset {env rest : Environment} {name value : String}
    (hunset : env.lookup name = none) :
    unsetIn env (firsts ((name, value) :: rest)) =
      (name, value) :: unsetIn (env ++ [(name, value)]) (firsts rest) := by
  rw [firsts, unsetIn, unsetIn, List.filter_cons_of_pos (by simp [hunset]), List.filter_filter]
  refine congrArg _ (List.filter_congr fun e _ => ?_)
  rw [List.lookup_append]
  by_cases hname : e.1 = name
  · simp [hname]
  · rw [lookup_cons_of_ne hname]
    simp [hname]

/-- No variable has a table for its value. -/
theorem isTable_value (name text : String) : (value name text).isTable = false := by
  simp only [value]
  split
  · rfl
  · split
    · rfl
    · split
      · rfl
      · rfl
      · split <;> rfl

/-! ## Tables of entries -/

section Collect

variable {entries entries' kept : List (String × Setting)}

theorem lookup_foldl_putEntry (entries kept : List (String × Setting)) (name : String) :
    (entries.foldl (fun kept (name, value) => Setting.putEntry name value kept) kept).lookup name =
      (entries.reverse.lookup name).or (kept.lookup name) := by
  induction entries generalizing kept with
  | nil => rfl
  | cons e rest ih =>
    obtain ⟨n, v⟩ := e
    rw [List.foldl_cons, ih, Setting.lookup_putEntry, List.reverse_cons, List.lookup_append]
    by_cases hname : name = n
    · simp [hname]
    · rw [if_neg hname, lookup_cons_of_ne hname]
      simp

/-- The value under a name is the last that is given for it. -/
theorem lookup_collect (entries : List (String × Setting)) (name : String) :
    (collect entries).lookup name = entries.reverse.lookup name := by
  rw [collect, lookup_foldl_putEntry]
  exact Option.or_none

theorem map_fst_putEntry (name : String) (value : Setting) (kept : List (String × Setting)) :
    (Setting.putEntry name value kept).map Prod.fst =
      if name ∈ kept.map Prod.fst then kept.map Prod.fst else kept.map Prod.fst ++ [name] := by
  induction kept with
  | nil => rfl
  | cons e rest ih =>
    obtain ⟨n, v⟩ := e
    rw [Setting.putEntry]
    by_cases hname : n = name
    · simp [hname]
    · have hname' : name ≠ n := fun h => hname h.symm
      rw [if_neg hname, List.map_cons, ih]
      by_cases hmem : name ∈ rest.map Prod.fst
      · rw [if_pos hmem, List.map_cons, if_pos (List.mem_cons_of_mem _ hmem)]
      · rw [if_neg hmem, List.map_cons, if_neg (by simpa [hname'] using hmem), List.cons_append]

/-- A table has each name once. -/
theorem nodup_collect (entries : List (String × Setting)) :
    ((collect entries).map Prod.fst).Nodup := by
  rw [collect]
  induction entries using List.reverseRecOn with
  | nil => exact List.nodup_nil
  | append_singleton entries e ih =>
    rw [List.foldl_append, List.foldl_cons, List.foldl_nil, map_fst_putEntry]
    split
    · exact ih
    · rename_i hnew
      exact List.nodup_append.mpr ⟨ih, by simp, fun a ha b hb heq =>
        hnew ((heq.trans (List.mem_singleton.mp hb)) ▸ ha)⟩

theorem mem_map_fst_collect {entries : List (String × Setting)} {name : String} :
    name ∈ (collect entries).map Prod.fst ↔ name ∈ entries.map Prod.fst := by
  rw [collect]
  induction entries using List.reverseRecOn with
  | nil => rfl
  | append_singleton entries e ih =>
    rw [List.foldl_append, List.foldl_cons, List.foldl_nil, map_fst_putEntry, List.map_append,
      List.mem_append, ← ih]
    split
    · rename_i hmem
      refine ⟨.inl, fun h => h.elim id fun h => ?_⟩
      rw [List.map_singleton, List.mem_singleton] at h
      rwa [h]
    · rw [List.mem_append]
      rfl

theorem mem_of_mem_putEntry {e : String × Setting} {name : String} {value : Setting}
    (he : e ∈ Setting.putEntry name value kept) : e = (name, value) ∨ e ∈ kept := by
  fun_induction Setting.putEntry name value kept with
  | case1 => exact .inl (List.mem_singleton.mp he)
  | case2 v rest =>
    rcases List.mem_cons.mp he with rfl | he
    · exact .inl rfl
    · exact .inr (List.mem_cons_of_mem _ he)
  | case3 n v rest hn ih =>
    rcases List.mem_cons.mp he with rfl | he
    · exact .inr List.mem_cons_self
    · exact (ih he).imp_right (List.mem_cons_of_mem _)

/-- A table has no entries but those that it is made of. -/
theorem mem_of_mem_collect {e : String × Setting} (he : e ∈ collect entries) : e ∈ entries := by
  rw [collect] at he
  induction entries using List.reverseRecOn with
  | nil => exact he
  | append_singleton entries e' ih =>
    rw [List.foldl_append, List.foldl_cons, List.foldl_nil] at he
    rcases mem_of_mem_putEntry he with rfl | he
    · exact List.mem_append_right _ (List.mem_singleton.mpr rfl)
    · exact List.mem_append_left _ (ih he)

theorem collect_eq_nil_iff : collect entries = [] ↔ entries = [] := by
  constructor
  · intro hnil
    refine List.eq_nil_iff_forall_not_mem.mpr fun e he => ?_
    have hname := mem_map_fst_collect.mpr (List.mem_map_of_mem he)
    rw [hnil] at hname
    cases hname
  · rintro rfl
    rfl

/-- A table that has one name only. -/
theorem exists_eq_singleton {table : List (String × Setting)} {name : String}
    (hnodup : (table.map Prod.fst).Nodup) (hname : name ∈ table.map Prod.fst)
    (honly : ∀ other ∈ table.map Prod.fst, other = name) : ∃ value, table = [(name, value)] := by
  match table with
  | [] => cases hname
  | [(n, v)] =>
    obtain rfl := honly n (by simp)
    exact ⟨v, rfl⟩
  | e :: e' :: rest =>
    have heq : e.1 = e'.1 := (honly e.1 (by simp)).trans (honly e'.1 (by simp)).symm
    simp [heq] at hnodup

/-- If a table comes to one entry, then it is that of what is given last. -/
theorem collect_append_of_single (hne : entries' ≠ [])
    (hsingle : (collect (entries ++ entries')).length ≤ 1) :
    collect (entries ++ entries') = collect entries' := by
  obtain ⟨⟨name, v⟩, rest, rfl⟩ := List.exists_cons_of_ne_nil hne
  generalize hlast : (name, v) :: rest = last at hsingle
  have hname : name ∈ last.map Prod.fst := by simp [← hlast]
  have hboth : name ∈ (collect (entries ++ last)).map Prod.fst :=
    mem_map_fst_collect.mpr (by simp [← hlast])
  have honly : ∀ other ∈ (collect (entries ++ last)).map Prod.fst, other = name := by
    match hall : collect (entries ++ last) with
    | [] => simp [hall] at hboth
    | [e] =>
      rw [hall] at hboth
      intro other hother
      exact (List.mem_singleton.mp hother).trans (List.mem_singleton.mp hboth).symm
    | _ :: _ :: _ => simp [hall] at hsingle
  obtain ⟨w, hw⟩ := exists_eq_singleton (nodup_collect _) hboth honly
  obtain ⟨w', hw'⟩ := exists_eq_singleton (nodup_collect last) (mem_map_fst_collect.mpr hname)
    fun other hother => honly other (mem_map_fst_collect.mpr (by
      rw [List.map_append]
      exact List.mem_append_right _ (mem_map_fst_collect.mp hother)))
  have hfound := lookup_collect (entries ++ last) name
  have hfound' := lookup_collect last name
  rw [hw, List.lookup_cons_self, List.reverse_append, List.lookup_append] at hfound
  rw [hw', List.lookup_cons_self] at hfound'
  rw [← hfound', Option.some_or] at hfound
  rw [hw, hw', Option.some.inj hfound]

theorem filter_putEntry (p : String → Bool) (name : String) (value : Setting)
    (kept : List (String × Setting)) :
    (Setting.putEntry name value kept).filter (p ·.1) =
      if p name then Setting.putEntry name value (kept.filter (p ·.1))
      else kept.filter (p ·.1) := by
  induction kept with
  | nil => cases hp : p name <;> simp [Setting.putEntry, hp]
  | cons e rest ih =>
    obtain ⟨n, v⟩ := e
    rw [Setting.putEntry]
    by_cases hn : n = name
    · subst hn
      cases hp : p n <;> simp [Setting.putEntry, hp]
    · rw [if_neg hn, List.filter_cons, ih, List.filter_cons]
      cases hpn : p n with
      | true => cases hp : p name <;> simp [Setting.putEntry, hn]
      | false => cases hp : p name <;> simp

/-- What some names have in a table is what they are given. -/
theorem filter_collect (p : String → Bool) (entries : List (String × Setting)) :
    (collect entries).filter (p ·.1) = collect (entries.filter (p ·.1)) := by
  rw [collect, collect]
  induction entries using List.reverseRecOn with
  | nil => rfl
  | append_singleton entries e ih =>
    rw [List.foldl_append, List.foldl_cons, List.foldl_nil, filter_putEntry, ih, List.filter_append,
      List.foldl_append]
    cases hp : p e.1 <;> simp [hp]

end Collect

/-! ## The table of an environment -/

theorem entries_append (env vars : Environment) :
    entries (env ++ vars) = entries env ++ entries vars := List.filterMap_append

/-- What an environment gives are no tables. -/
theorem isTable_of_mem_layer {env : Environment} : ∀ e ∈ layer env, e.2.isTable = false := by
  intro e he
  obtain ⟨⟨varName, text⟩, -, he⟩ := List.mem_filterMap.mp (mem_of_mem_collect he)
  obtain ⟨name, -, rfl⟩ := Option.map_eq_some_iff.mp he
  exact isTable_value name text

/-- Variables that are set take away nothing from settings that the environment does not give. -/
theorem filter_entries_unsetIn {env : Environment} {p : String → Bool}
    (hnone : ∀ e ∈ entries env, p e.1 = false) (vars : Environment) :
    (entries (unsetIn env vars)).filter (p ·.1) = (entries vars).filter (p ·.1) := by
  -- A variable that is set names its setting whatever its value is.
  have hset : ∀ varName text, (env.lookup varName).isNone = false →
      ((entries [(varName, text)]).filter fun e => p e.1) = [] := by
    intro varName text hset
    obtain ⟨v, hv⟩ := Option.isSome_iff_exists.mp (Option.isNone_eq_false_iff.mp hset)
    obtain ⟨before, after, henv, -⟩ := List.lookup_eq_some_iff.mp hv
    rw [entries, List.filterMap_cons, List.filterMap_nil]
    dsimp only
    cases hname : settingName? varName with
    | none => rfl
    | some name =>
      have hgiven : (name, value name v) ∈ entries env :=
        List.mem_filterMap.mpr ⟨(varName, v), by simp [henv], by simp [hname]⟩
      simp [hnone _ hgiven]
  induction vars with
  | nil => rfl
  | cons e rest ih =>
    rw [← List.singleton_append, entries_append, List.filter_append, ← ih, unsetIn,
      List.filter_append, List.filter_cons, List.filter_nil]
    split
    · rw [entries_append, List.filter_append]
      rfl
    · rename_i h
      rw [hset e.1 e.2 (by simpa using h)]
      rfl

end Environment

namespace EnvFile

open Environment (firsts unsetIn)

/-- The variables that lines give, up to the first line that is malformed. -/
def pairs (env : Environment) : List (Option (List Char)) → Environment
  | [] => []
  | none :: _ => []
  | some line :: rest =>
    match entry env line with
    | .malformed => []
    | .nothing => pairs env rest
    | .pair name value =>
      (name, value) :: pairs (if (env.lookup name).isSome then env else env ++ [(name, value)]) rest

/-- Lines add the variables that they give and that are not set. -/
theorem loadLines_eq (env : Environment) (lines : List (Option (List Char))) :
    loadLines env lines = env ++ unsetIn env (firsts (pairs env lines)) := by
  fun_induction loadLines env lines with
  | case1 env => simp [pairs, firsts, unsetIn]
  | case2 env => simp [pairs, firsts, unsetIn]
  | case3 env line rest hentry => simp [pairs, hentry, firsts, unsetIn]
  | case4 env line rest hentry ih => rw [ih, pairs, hentry]
  | case5 env line rest name value hentry ih =>
    rw [ih, pairs, hentry]
    dsimp only
    cases hset : env.lookup name with
    | some v =>
      rw [Environment.unsetIn_firsts_of_set hset]
      rfl
    | none =>
      rw [Environment.unsetIn_firsts_of_unset hset]
      exact List.append_assoc env [(name, value)] _

end EnvFile

end Switchboard
