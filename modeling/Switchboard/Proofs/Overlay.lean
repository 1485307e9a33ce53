import Mathlib.Data.List.Induction
import Switchboard.Settings.Tree
import Switchboard.Tally

/-!
# What layers make of a field

A field is what a section of a tree, given by its title, has under a name. `Setting.given` lists the
values that a layer gives for a field, in whatever way it spells the way there, and
`Setting.field?_foldl_overlay` says what layers that lie over each other make of it: each value is
laid over what the values before it made (`Setting.lay`), and nothing else of the layers has a part
in it. What is laid takes the place of what was there, unless it is an empty table
(`Setting.foldl_lay`).

Of a field that is a table only this is told (`Setting.face`): no setting is converted from one.

## Shape of the proof

`Setting.laidOver` says what assigning does at the one place that it changes (`get?_assign`), and
`get?_assignAll` what a table of a layer does to the table it is merged into. A tree that was made
by gathering has sections that are tables and come from nowhere (`Setting.Gathered`); an entry of a
layer keeps it so if it does not give a section as something else (`Setting.IsOrderly`).
-/

namespace Switchboard

/-- The step leads to a part that has a name. -/
def SettingStep.isChild : SettingStep → Bool
  | .child _ => true
  | .item _ => false

namespace Setting

open Tally (lookup_cons_of_ne)

variable {s below : Setting} {title name other : String} {value : Setting}

/-! ## Putting and assigning -/

theorem lookup_putEntry (name : String) (value : Setting) (entries : List (String × Setting))
    (other : String) : (putEntry name value entries).lookup other =
      if other = name then some value else entries.lookup other := by
  induction entries with
  | nil =>
    rw [putEntry]
    split
    · rename_i heq
      rw [heq, List.lookup_cons_self]
    · rename_i hne
      exact lookup_cons_of_ne hne value []
  | cons e rest ih =>
    obtain ⟨n, v⟩ := e
    rw [putEntry]
    by_cases hn : n = name
    · subst hn
      rw [if_pos rfl]
      split
      · rename_i heq
        rw [heq, List.lookup_cons_self]
      · rename_i hne
        rw [lookup_cons_of_ne hne, lookup_cons_of_ne hne]
    · rw [if_neg hn]
      by_cases hother : other = n
      · rw [hother, List.lookup_cons_self, List.lookup_cons_self, if_neg hn]
      · rw [lookup_cons_of_ne hother, lookup_cons_of_ne hother, ih]

theorem entries_toTable (s : Setting) : s.toTable.entries = s.entries := by cases s <;> rfl

theorem get?_toTable (s : Setting) (name : String) : s.toTable.get? name = s.get? name := by
  rw [get?, get?, entries_toTable]

theorem get?_put (s : Setting) (name : String) (value : Setting) (other : String) :
    (s.put name value).get? other = if other = name then some value else s.get? other := by
  rw [put, get?, Setting.entries, lookup_putEntry, entries_toTable, get?]

/-- What is under a name after a value was laid over it. -/
def laidOver (below : Option Setting) : Setting → Setting
  | .table _ entries => assignAll (below.getD emptyTable) entries
  | v => v

theorem assign_eq (s : Setting) (name : String) (value : Setting) : s.assign name value =
    s.put (Lowercase.lower name) (laidOver (s.get? (Lowercase.lower name)) value) := by
  cases value <;> rw [assign] <;> rfl

theorem get?_assign (s : Setting) (name : String) (value : Setting) (other : String) :
    (s.assign name value).get? other =
      if other = Lowercase.lower name then some (laidOver (s.get? other) value)
      else s.get? other := by
  rw [assign_eq, get?_put]
  split
  · rename_i heq
    rw [heq]
  · rfl

/-- The values under a name in a table, in whatever case that is spelled. -/
def under (name : String) (entries : List (String × Setting)) : List Setting :=
  (entries.filter fun e => Lowercase.lower e.1 = name).map Prod.snd

/-- A table is merged into what is there name by name. -/
theorem get?_assignAll (entries : List (String × Setting)) (s : Setting) (name : String) :
    (s.assignAll entries).get? name =
      (under name entries).foldl (fun below v => some (laidOver below v)) (s.get? name) := by
  induction entries generalizing s with
  | nil =>
    rw [assignAll]
    rfl
  | cons e rest ih =>
    obtain ⟨n, v⟩ := e
    rw [assignAll, ih, get?_assign]
    by_cases h : Lowercase.lower n = name
    · rw [if_pos h.symm]
      simp [under, h]
    · rw [if_neg fun heq => h heq.symm]
      simp [under, h]

/-! ## Tables that come from nowhere -/

/-- The value is a table that was made by gathering. -/
def IsGathered (s : Setting) : Prop := ∃ entries, s = .table none entries

/-- If the value is a table, it was made by gathering. -/
def IsBare (s : Setting) : Prop := s.toTable.origin = none

theorem IsGathered.isBare (gathered : s.IsGathered) : s.IsBare := by
  obtain ⟨entries, rfl⟩ := gathered
  rfl

theorem IsGathered.toTable_eq (gathered : s.IsGathered) : s.toTable = s := by
  obtain ⟨entries, rfl⟩ := gathered
  rfl

theorem isGathered_toTable (bare : s.IsBare) : s.toTable.IsGathered := by
  cases s with
  | table origin entries =>
    obtain rfl : origin = none := bare
    exact ⟨entries, rfl⟩
  | scalar | list => exact ⟨[], rfl⟩

theorem isGathered_put (bare : s.IsBare) (name : String) (value : Setting) :
    (s.put name value).IsGathered := by
  rw [put, bare]
  exact ⟨_, rfl⟩

theorem isGathered_assign (bare : s.IsBare) (name : String) (value : Setting) :
    (s.assign name value).IsGathered := by
  rw [assign_eq]
  exact isGathered_put bare _ _

theorem isGathered_assignAll {entries : List (String × Setting)} (gathered : s.IsGathered) :
    (s.assignAll entries).IsGathered := by
  induction entries generalizing s with
  | nil => rwa [assignAll]
  | cons e rest ih =>
    rw [assignAll]
    exact ih (isGathered_assign gathered.isBare _ _)

theorem isBare_assignAll {entries : List (String × Setting)} (bare : s.IsBare) :
    (s.assignAll entries).IsBare := by
  cases entries with
  | nil => rwa [assignAll]
  | cons e rest =>
    rw [assignAll]
    exact (isGathered_assignAll (isGathered_assign bare _ _)).isBare

theorem isBare_laidOver {below : Option Setting} (bare : ∀ s ∈ below, s.IsBare)
    (value : Setting) : (laidOver below value).IsBare := by
  cases value with
  | table origin entries =>
    cases below with
    | none => exact isBare_assignAll rfl
    | some s => exact isBare_assignAll (bare s rfl)
  | scalar | list => rfl

/-! ## Faces -/

/-- A value; of a table nothing is told but that it is one. -/
def face : Setting → Setting
  | .table _ _ => emptyTable
  | v => v

/-- What comes of laying a value over another: a table with entries comes to a table whatever it is
laid over, and one without to what was there. -/
def lay (below : Option Setting) : Setting → Option Setting
  | .table _ [] => some (below.getD emptyTable)
  | .table _ (_ :: _) => some emptyTable
  | v => some v

theorem face_of_isGathered (gathered : s.IsGathered) : s.face = emptyTable := by
  obtain ⟨entries, rfl⟩ := gathered
  rfl

theorem face_laidOver {below : Option Setting} (bare : ∀ s ∈ below, s.IsBare) (value : Setting) :
    some (laidOver below value).face = lay (below.map face) value := by
  have hbelow : (below.getD emptyTable).IsBare := by
    cases below with
    | none => rfl
    | some s => exact bare s rfl
  cases value with
  | table origin entries =>
    cases entries with
    | nil =>
      rw [laidOver, assignAll]
      cases below <;> rfl
    | cons e rest =>
      rw [laidOver, assignAll]
      exact congrArg some
        (face_of_isGathered (isGathered_assignAll (isGathered_assign hbelow _ _)))
  | scalar | list => rfl

/-- What values that are laid over one another come to. -/
theorem face_foldl (values : List Setting) {below : Option Setting}
    (bare : ∀ s ∈ below, s.IsBare) :
    (∀ s ∈ values.foldl (fun below v => some (laidOver below v)) below, s.IsBare) ∧
      (values.foldl (fun below v => some (laidOver below v)) below).map face =
        values.foldl lay (below.map face) := by
  induction values generalizing below with
  | nil => exact ⟨bare, rfl⟩
  | cons v rest ih =>
    have hlaid : ∀ s ∈ some (laidOver below v), s.IsBare := by
      intro s hs
      obtain rfl := Option.some.inj hs
      exact isBare_laidOver bare v
    obtain ⟨hbare, heq⟩ := ih hlaid
    refine ⟨hbare, ?_⟩
    rw [List.foldl_cons, List.foldl_cons, heq, ← face_laidOver bare v]
    rfl

/-! ## What an entry gives -/

/-- The value is a table. -/
def isTable : Setting → Bool
  | .table _ _ => true
  | _ => false

/-- The value is an empty table. -/
def isHollow : Setting → Bool
  | .table _ [] => true
  | _ => false

/-- A value at the end of a path of names. -/
def nest (value : Setting) : List SettingStep → Setting
  | .child name :: rest => .table none [(name, nest value rest)]
  | _ => value

/-- The values that an entry gives for a field when its name spells the given steps. -/
def givenAt (title name : String) (value : Setting) : List SettingStep → List Setting
  | [.child s] => if Lowercase.lower s = title then under name value.entries else []
  | .child s :: .child n :: rest =>
    if Lowercase.lower s = title ∧ Lowercase.lower n = name then [nest value rest] else []
  | _ => []

/-- The entry says of each of the titled sections only what a table can say: what is in it by
name. -/
def isOrderlyAt (titles : List String) (value : Setting) : List SettingStep → Bool
  | [.child s] => !titles.contains (Lowercase.lower s) || value.isTable
  | .child s :: rest =>
    !titles.contains (Lowercase.lower s) || rest.all SettingStep.isChild
  | _ => true

/-- The values that a layer gives for a field, in the order in which it is gone through: what comes
later is laid over what came before. -/
def given (title name : String) (layer : List (String × Setting)) : List Setting :=
  layer.flatMap fun e => givenAt title name e.2 (SettingStep.ofName e.1)

/-- The layer says of each of the titled sections only what a table can say. -/
def IsOrderly (titles : List String) (layer : List (String × Setting)) : Prop :=
  ∀ e ∈ layer, isOrderlyAt titles e.2 (SettingStep.ofName e.1) = true

instance (titles : List String) (layer : List (String × Setting)) :
    Decidable (IsOrderly titles layer) :=
  inferInstanceAs (Decidable (∀ e ∈ layer, isOrderlyAt titles e.2 (SettingStep.ofName e.1) = true))

/-- The steps lead to the field, or further. -/
def reaches (title name : String) : List SettingStep → Bool
  | .child s :: .child n :: _ => Lowercase.lower s = title ∧ Lowercase.lower n = name
  | _ => false

/-- What an entry gives whose value is no table. -/
theorem givenAt_of_not_isTable (hvalue : value.isTable = false) (steps : List SettingStep) :
    givenAt title name value steps =
      if reaches title name steps then [nest value (steps.drop 2)] else [] := by
  have hentries : value.entries = [] := by
    cases value with
    | table => cases hvalue
    | scalar | list => rfl
  fun_cases givenAt title name value steps with
  | case1 => simp [reaches, hentries, under]
  | case2 => rfl
  | case3 s n rest h => simp [reaches, h]
  | case4 s n rest h => simp [reaches, h]
  | case5 _ _ other =>
    rw [reaches]
    · rfl
    · exact other

theorem isHollow_nest (hvalue : value.isTable = false) (steps : List SettingStep) :
    (nest value steps).isHollow = false := by
  have hself : value.isHollow = false := by
    cases value with
    | table => cases hvalue
    | scalar | list => rfl
  cases steps with
  | nil => exact hself
  | cons step rest =>
    cases step with
    | child n => rfl
    | item place => exact hself

/-! ## The field after an entry -/

/-- A field of a tree, as far as it is told. -/
def field? (root : Setting) (title name : String) : Option Setting :=
  ((root.get? title).bind (get? · name)).map face

/-- The value is a section that was made by gathering. -/
structure Section (s : Setting) : Prop where
  gathered : s.IsGathered
  bare : ∀ name v, s.get? name = some v → v.IsBare

/-- The tree and its titled sections were made by gathering. -/
structure Gathered (titles : List String) (root : Setting) : Prop where
  gathered : root.IsGathered
  sections : ∀ title ∈ titles, ∀ s, root.get? title = some s → s.Section

theorem gathered_emptyTable (titles : List String) : Gathered titles emptyTable where
  gathered := ⟨[], rfl⟩
  sections _ _ _ hs := nomatch hs

section Entries

variable {titles : List String} {root : Setting}

theorem section_emptyTable : emptyTable.Section := ⟨⟨[], rfl⟩, fun _ _ hv => nomatch hv⟩

/-- A section of a layer is merged into what is there. -/
theorem section_assignAll {s : Setting} (hs : s.Section) (entries : List (String × Setting)) :
    (s.assignAll entries).Section where
  gathered := isGathered_assignAll hs.gathered
  bare name v hv := by
    rw [get?_assignAll] at hv
    exact (face_foldl _ fun v hv => hs.bare name v hv).1 v hv

theorem face_get?_assignAll {s : Setting} (hs : s.Section) (entries : List (String × Setting))
    (name : String) : ((s.assignAll entries).get? name).map face =
      (under name entries).foldl lay ((s.get? name).map face) := by
  rw [get?_assignAll]
  exact (face_foldl _ fun v hv => hs.bare name v hv).2

/-- What is laid over something at the end of a path of names makes it a table. -/
theorem isGathered_assignAt {s : Setting} (bare : s.IsBare) (value : Setting) (n : String)
    (rest : List SettingStep) : (assignAt value (.child n :: rest) s).IsGathered := by
  cases rest with
  | nil => exact isGathered_assign (isGathered_toTable bare).isBare n value
  | cons step rest => exact isGathered_put (isGathered_toTable bare).isBare _ _

/-- A path of names leads into a section, to the field under its first name or further. -/
theorem exists_assignAt {s : Setting} (bare : ∀ name v, s.get? name = some v → v.IsBare)
    (value : Setting) (n : String) {rest : List SettingStep}
    (hrest : rest.all SettingStep.isChild = true) :
    ∃ v : Setting, v.IsBare ∧
      some v.face = lay ((s.get? (Lowercase.lower n)).map face) (nest value rest) ∧
      ∀ name, (assignAt value (.child n :: rest) s).get? name =
        if name = Lowercase.lower n then some v else s.get? name := by
  cases rest with
  | nil =>
    refine ⟨_, isBare_laidOver (fun v hv => bare _ v hv) value,
      face_laidOver (fun v hv => bare _ v hv) value, fun name => ?_⟩
    rw [assignAt, get?_assign, get?_toTable]
    split
    · rename_i heq
      rw [heq]
    · rfl
  | cons step rest =>
    cases step with
    | item place => cases hrest
    | child m =>
      have hbelow : ((s.toTable.get? (Lowercase.lower n)).getD unset).IsBare := by
        rw [get?_toTable]
        cases hv : s.get? (Lowercase.lower n) with
        | none => rfl
        | some v => exact bare _ v hv
      have gathered := isGathered_assignAt hbelow value m rest
      refine ⟨_, gathered.isBare, ?_, fun name => ?_⟩
      · rw [face_of_isGathered gathered]
        rfl
      · rw [assignAt, get?_put, get?_toTable s name]

theorem givenAt_of_ne {value : Setting} {s : String} {rest : List SettingStep}
    (hne : title ≠ Lowercase.lower s) (name : String) :
    givenAt title name value (.child s :: rest) = [] := by
  have hne' : Lowercase.lower s ≠ title := fun heq => hne heq.symm
  cases rest with
  | nil => exact if_neg hne'
  | cons step rest =>
    cases step with
    | child n => exact if_neg fun h => hne' h.1
    | item place => rfl

/-- What an entry makes of the section that it leads to. -/
structure Leads (titles : List String) (root : Setting) (value : Setting) (s : String)
    (rest : List SettingStep) (after : Setting) : Prop where
  gathered : (assignAt value (.child s :: rest) root).IsGathered
  get?_eq : ∀ other, (assignAt value (.child s :: rest) root).get? other =
    if other = Lowercase.lower s then some after else root.get? other
  section_of : Lowercase.lower s ∈ titles → after.Section
  field : Lowercase.lower s ∈ titles → ∀ name, (after.get? name).map face =
    (givenAt (Lowercase.lower s) name value (.child s :: rest)).foldl lay
      (field? root (Lowercase.lower s) name)

/-- An entry gives a whole section. -/
theorem leads_section (gathered : Gathered titles root) {value : Setting} {s : String}
    (horderly : isOrderlyAt titles value [.child s] = true) :
    Leads titles root value s [] (laidOver (root.get? (Lowercase.lower s)) value) := by
  have htable : Lowercase.lower s ∈ titles → ∃ origin entries, value = .table origin entries := by
    intro htitle
    cases value with
    | table origin entries => exact ⟨origin, entries, rfl⟩
    | scalar | list => simp [isOrderlyAt, isTable, htitle] at horderly
  have hbelow : Lowercase.lower s ∈ titles →
      ((root.get? (Lowercase.lower s)).getD emptyTable).Section ∧ ∀ name,
        (((root.get? (Lowercase.lower s)).getD emptyTable).get? name).map face =
          field? root (Lowercase.lower s) name := by
    intro htitle
    cases hs : root.get? (Lowercase.lower s) with
    | none => exact ⟨section_emptyTable, fun name => by rw [field?, hs]; rfl⟩
    | some below => exact ⟨gathered.sections _ htitle below hs, fun name => by rw [field?, hs]; rfl⟩
  constructor
  · exact isGathered_assign (isGathered_toTable gathered.gathered.isBare).isBare s value
  · intro other
    rw [assignAt, get?_assign, get?_toTable]
    split
    · rename_i heq
      rw [heq]
    · rfl
  · intro htitle
    obtain ⟨origin, entries, rfl⟩ := htable htitle
    exact section_assignAll (hbelow htitle).1 entries
  · intro htitle name
    obtain ⟨origin, entries, rfl⟩ := htable htitle
    rw [laidOver, face_get?_assignAll (hbelow htitle).1, (hbelow htitle).2]
    exact (congrArg (List.foldl lay _) (if_pos rfl)).symm

/-- An entry gives something within a section. -/
theorem exists_leads (gathered : Gathered titles root) {value : Setting} {s : String}
    {step : SettingStep} {rest : List SettingStep}
    (horderly : isOrderlyAt titles value (.child s :: step :: rest) = true) :
    ∃ after, Leads titles root value s (step :: rest) after := by
  refine ⟨assignAt value (step :: rest) ((root.get? (Lowercase.lower s)).getD unset), ?_⟩
  have hput : assignAt value (.child s :: step :: rest) root = root.put (Lowercase.lower s)
      (assignAt value (step :: rest) ((root.get? (Lowercase.lower s)).getD unset)) := by
    rw [assignAt, gathered.gathered.toTable_eq]
  suffices hsection : Lowercase.lower s ∈ titles →
      (assignAt value (step :: rest) ((root.get? (Lowercase.lower s)).getD unset)).Section ∧
        ∀ name, ((assignAt value (step :: rest)
          ((root.get? (Lowercase.lower s)).getD unset)).get? name).map face =
            (givenAt (Lowercase.lower s) name value (.child s :: step :: rest)).foldl lay
              (field? root (Lowercase.lower s) name) from {
    gathered := by
      rw [hput]
      exact isGathered_put gathered.gathered.isBare _ _
    get?_eq other := by rw [hput, get?_put]
    section_of htitle := (hsection htitle).1
    field htitle := (hsection htitle).2 }
  intro htitle
  -- The way into a titled section goes by names, to a field or further.
  obtain ⟨n, rfl, hrest⟩ : ∃ n, step = .child n ∧ rest.all SettingStep.isChild = true := by
    cases step with
    | item place => simp [isOrderlyAt, SettingStep.isChild, htitle] at horderly
    | child n => exact ⟨n, rfl, by simpa [isOrderlyAt, SettingStep.isChild, htitle] using horderly⟩
  have hbelow : ((root.get? (Lowercase.lower s)).getD unset).IsBare ∧
      (∀ name v, ((root.get? (Lowercase.lower s)).getD unset).get? name = some v → v.IsBare) ∧
      ∀ name, (((root.get? (Lowercase.lower s)).getD unset).get? name).map face =
        field? root (Lowercase.lower s) name := by
    cases hs : root.get? (Lowercase.lower s) with
    | none => exact ⟨rfl, fun _ _ hv => (nomatch hv), fun name => by rw [field?, hs]; rfl⟩
    | some below =>
      have hsection := gathered.sections _ htitle below hs
      exact ⟨hsection.gathered.isBare, hsection.bare, fun name => by rw [field?, hs]; rfl⟩
  generalize (root.get? (Lowercase.lower s)).getD unset = below at hbelow ⊢
  obtain ⟨hbare, hfields, hsame⟩ := hbelow
  obtain ⟨v, hv, hface, hget⟩ := exists_assignAt hfields value n hrest
  refine ⟨⟨isGathered_assignAt hbare value n rest, fun name v' hv' => ?_⟩, fun name => ?_⟩
  · rw [hget] at hv'
    split at hv'
    · obtain rfl := Option.some.inj hv'
      exact hv
    · exact hfields name v' hv'
  · have hgiven : givenAt (Lowercase.lower s) name value (.child s :: .child n :: rest) =
        if name = Lowercase.lower n then [nest value rest] else [] := by
      simp [givenAt, eq_comm]
    rw [hget, ← hsame, hgiven]
    split
    · rename_i heq
      rw [Option.map_some, hface, heq]
      rfl
    · rfl

/-- **An entry of a layer** lays the values that it gives for a field over it, and does nothing else
to it. -/
theorem field?_assignAt (gathered : Gathered titles root) {value : Setting} {s : String}
    {rest : List SettingStep} (horderly : isOrderlyAt titles value (.child s :: rest) = true) :
    Gathered titles (assignAt value (.child s :: rest) root) ∧
      ∀ title ∈ titles, ∀ name, field? (assignAt value (.child s :: rest) root) title name =
        (givenAt title name value (.child s :: rest)).foldl lay (field? root title name) := by
  obtain ⟨after, leads⟩ : ∃ after, Leads titles root value s rest after := by
    cases rest with
    | nil => exact ⟨_, leads_section gathered horderly⟩
    | cons step rest => exact exists_leads gathered horderly
  refine ⟨⟨leads.gathered, fun title htitle x hx => ?_⟩, fun title htitle name => ?_⟩
  · rw [leads.get?_eq] at hx
    split at hx
    · rename_i heq
      obtain rfl := Option.some.inj hx
      exact leads.section_of (heq ▸ htitle)
    · exact gathered.sections title htitle x hx
  · rw [field?, leads.get?_eq]
    split
    · rename_i heq
      rw [heq] at htitle ⊢
      exact leads.field htitle name
    · rename_i hne
      rw [givenAt_of_ne hne]
      rfl

end Entries

/-! ## Layers -/

theorem exists_ofName (name : String) : ∃ s rest, SettingStep.ofName name = .child s :: rest := by
  simp only [SettingStep.ofName]
  split
  · exact ⟨_, _, rfl⟩
  · cases SettingStep.more? name.toList.length (name.toList.dropWhile SettingStep.isNameChar) with
    | none => exact ⟨_, _, rfl⟩
    | some steps => exact ⟨_, _, rfl⟩

section Layers

variable {titles : List String} {root : Setting}

theorem field?_overlay {layer : List (String × Setting)} (gathered : Gathered titles root)
    (horderly : IsOrderly titles layer) :
    Gathered titles (root.overlay layer) ∧ ∀ title ∈ titles, ∀ name,
      field? (root.overlay layer) title name =
        (given title name layer).foldl lay (field? root title name) := by
  induction layer generalizing root with
  | nil => exact ⟨gathered, fun _ _ _ => rfl⟩
  | cons e rest ih =>
    obtain ⟨key, value⟩ := e
    have hentry : isOrderlyAt titles value (SettingStep.ofName key) = true :=
      horderly _ List.mem_cons_self
    obtain ⟨s, steps, hsteps⟩ := exists_ofName key
    have hafter : Gathered titles (assignAt value (SettingStep.ofName key) root) ∧
        ∀ title ∈ titles, ∀ name,
          field? (assignAt value (SettingStep.ofName key) root) title name =
            (givenAt title name value (SettingStep.ofName key)).foldl lay
              (field? root title name) := by
      rw [hsteps] at hentry ⊢
      exact field?_assignAt gathered hentry
    obtain ⟨hrest, hrests⟩ := ih hafter.1 fun e he => horderly e (List.mem_cons_of_mem _ he)
    refine ⟨hrest, fun title htitle name => ?_⟩
    have hgiven : given title name ((key, value) :: rest) =
        givenAt title name value (SettingStep.ofName key) ++ given title name rest := rfl
    rw [hgiven, List.foldl_append, ← hafter.2 title htitle name]
    exact hrests title htitle name

/-- **What layers make of a field**: the values that they give for it, laid over one another. -/
theorem field?_foldl_overlay (layers : List (List (String × Setting)))
    (gathered : Gathered titles root) (horderly : ∀ layer ∈ layers, IsOrderly titles layer) :
    Gathered titles (layers.foldl overlay root) ∧ ∀ title ∈ titles, ∀ name,
      field? (layers.foldl overlay root) title name =
        (layers.flatMap (given title name)).foldl lay (field? root title name) := by
  induction layers generalizing root with
  | nil => exact ⟨gathered, fun _ _ _ => rfl⟩
  | cons layer rest ih =>
    obtain ⟨hlayer, hfield⟩ := field?_overlay gathered (horderly layer List.mem_cons_self)
    obtain ⟨hrest, hrests⟩ := ih hlayer fun l hl => horderly l (List.mem_cons_of_mem _ hl)
    refine ⟨hrest, fun title htitle name => ?_⟩
    rw [List.foldl_cons, hrests title htitle name, hfield title htitle name, List.flatMap_cons,
      List.foldl_append]

end Layers

/-! ## The value that counts -/

/-- What values come to that are laid over one another: the last that is not an empty table. -/
theorem foldl_lay (values : List Setting) (below : Option Setting) :
    values.foldl lay below =
      ((values.reverse.find? fun v => !v.isHollow).map face).or
        (if values = [] then below else some (below.getD emptyTable)) := by
  induction values using List.reverseRecOn with
  | nil => rfl
  | append_singleton values v ih =>
    rw [List.foldl_append, List.foldl_cons, List.foldl_nil, List.reverse_append,
      List.reverse_singleton, List.singleton_append, List.find?_cons, if_neg (by simp)]
    cases hv : v.isHollow with
    | false =>
      have hlay : lay (values.foldl lay below) v = some v.face := by
        cases v with
        | table origin entries =>
          cases entries with
          | nil => cases hv
          | cons e rest => rfl
        | scalar | list => rfl
      rw [hlay]
      rfl
    | true =>
      have hlay : lay (values.foldl lay below) v =
          some ((values.foldl lay below).getD emptyTable) := by
        cases v with
        | table origin entries =>
          cases entries with
          | nil => rfl
          | cons e rest => cases hv
        | scalar | list => cases hv
      rw [hlay, ih]
      cases values.reverse.find? fun v => !v.isHollow with
      | some w => rfl
      | none => split <;> rfl

end Setting

end Switchboard
