import Switchboard.Proofs.Fields
import Switchboard.Proofs.Variables

/-!
# Layers of settings

Each field of the settings has the value that the highest layer which gives one gives for it. From
the lowest to the highest, the layers are the file of defaults, the file of the run mode, and the
environment with what a file of variables adds to it. Such a file adds the variables that are not
set, by the names as they are spelled; settings are not told apart by case, so that a variable which
was added may give the same field as one that was set, and it is then the one that counts
(`Settings.not_always_environment_first`).

`Settings.layered` holds of every reader of settings, in whatever order it goes through tables and
looks for formats. It is about inputs whose layers say of a section only what a table can say
(`Setting.IsOrderly`) and give each field one value at most: which of several counts is up to the
reader. If several fields cannot be converted, it is also up to the reader which of their faults is
told, and up to nothing else (`Settings.Layered.same`).

## Shape of the proof

What layers make of a field is told by `Setting.field?_foldl_overlay`, and the settings by their
fields. The environment comes to one layer, in which a name is there once. What that layer gives for
a field is what the variables give whose names lead there (`Field.given_layer`): if it is one value,
then the last of them gives it (`Field.given_environmentLayer`).
-/

namespace Switchboard

namespace Settings

open Setting

variable {env env' : Environment} {files files' : List (String × String)} {r r' : SettingsReader}
  {ls ls' : List (List (String × Setting))} {s s' : Settings} {e : Error}

/-! ## The layers of an input -/

/-- The variables that the file of variables gives, if there is one. -/
def ofEnvFile (env : Environment) (files : List (String × String)) : Environment :=
  match files.lookup envFile with
  | some text => Environment.firsts (EnvFile.pairs env (EnvFile.lines text))
  | none => []

/-- The variables that the file of variables adds to an environment. -/
def added (env : Environment) (files : List (String × String)) : Environment :=
  Environment.unsetIn env (ofEnvFile env files)

theorem environment_eq (env : Environment) (files : List (String × String)) :
    environment env files = env ++ added env files := by
  rw [environment, added, ofEnvFile]
  cases files.lookup envFile with
  | some text => exact EnvFile.loadLines_eq env (EnvFile.lines text)
  | none => exact (List.append_nil env).symm

/-- The run mode of an input, from the environment or else from the file of variables. -/
def mode (env : Environment) (files : List (String × String)) : String :=
  ((env.lookup modeVariable).or ((ofEnvFile env files).lookup modeVariable)).getD "development"

theorem runMode_environment (env : Environment) (files : List (String × String)) :
    runMode (environment env files) = mode env files := by
  rw [runMode, mode, environment_eq, List.lookup_append, added, Environment.lookup_unsetIn]
  cases env.lookup modeVariable <;> rfl

/-- The layers of an input: the file of defaults, the file of the run mode, and the environment with
what is added to it. -/
theorem exists_of_layers (hlayers : layers env files r = .ok ls) : ∃ defaults ofMode,
    fileLayer files r defaultFile = .ok defaults ∧
      fileLayer files r (modeFile (mode env files)) = .ok ofMode ∧
      ls = [defaults, ofMode, environmentLayer (env ++ added env files) r] := by
  rw [layers, runMode_environment, environment_eq] at hlayers
  obtain ⟨defaults, hdefaults, hlayers⟩ := bind_eq_ok_iff.mp hlayers
  obtain ⟨ofMode, hmode, hlayers⟩ := bind_eq_ok_iff.mp hlayers
  exact ⟨defaults, ofMode, hdefaults, hmode, (Except.ok.inj hlayers).symm⟩

theorem load_of_layers (hlayers : layers env files r = .ok ls) : load env files r = (do
    let settings ← ((gather ls).toSettings r).mapError .config
    settings.websocket.validate
    return settings) := by
  rw [load, hlayers]
  rfl

theorem load_eq_ok_iff (hlayers : layers env files r = .ok ls) :
    load env files r = .ok s ↔
      (gather ls).toSettings r = .ok s ∧ s.websocket.validate = .ok () := by
  rw [load_of_layers hlayers]
  simp only [bind_eq_ok_iff, mapError_eq_ok_iff]
  constructor
  · rintro ⟨s', hs', ⟨⟩, hvalid, heq⟩
    cases heq
    exact ⟨hs', hvalid⟩
  · rintro ⟨hs, hvalid⟩
    exact ⟨s, hs, (), hvalid, rfl⟩

theorem load_eq_error_iff (hlayers : layers env files r = .ok ls) :
    load env files r = .error e ↔
      (∃ fault, (gather ls).toSettings r = .error fault ∧ e = .config fault) ∨
        ∃ s, (gather ls).toSettings r = .ok s ∧ s.websocket.validate = .error e := by
  rw [load_of_layers hlayers]
  cases (gather ls).toSettings r with
  | error fault =>
    constructor
    · intro herror
      exact .inl ⟨fault, rfl, (Except.error.inj herror).symm⟩
    · rintro (⟨_, ⟨⟩, rfl⟩ | ⟨s, hs, -⟩)
      · rfl
      · cases hs
  | ok s =>
    have hvalidate : (do
        let settings ← (Except.ok s : Except SettingsFault Settings).mapError Error.config
        settings.websocket.validate
        return settings) = .error e ↔ s.websocket.validate = .error e := by
      change (s.websocket.validate >>= fun _ => .ok s) = .error e ↔ _
      rw [bind_eq_error_iff]
      exact ⟨fun h => h.elim id fun ⟨_, _, h⟩ => (by cases h), .inl⟩
    rw [hvalidate]
    constructor
    · exact fun herror => .inr ⟨s, rfl, herror⟩
    · rintro (⟨_, hs, -⟩ | ⟨_, hs, herror⟩)
      · cases hs
      · cases hs
        exact herror

/-- The input brings these layers. Each says of a section only what a table can say, and gives one
value at most for a field. -/
structure Stacks (env : Environment) (files : List (String × String)) (r : SettingsReader)
    (ls : List (List (String × Setting))) : Prop where
  layers_eq : layers env files r = .ok ls
  orderly : ∀ l ∈ ls, IsOrderly titles l
  single : ∀ l ∈ ls, ∀ f ∈ fields, (Setting.given f.title f.name l).length ≤ 1

/-! ## The value that counts -/

namespace Field

variable {f : Field}

/-- The values that a layer gives for a field. -/
def given (f : Field) (layer : List (String × Setting)) : List Setting :=
  Setting.given f.title f.name layer

/-- The value that a layer gives for a field, if it gives one. An empty table is none. -/
def givenBy? (f : Field) (layer : List (String × Setting)) : Option Setting :=
  (f.given layer).find? fun v => !v.isHollow

/-- The value of the highest layer that gives one. -/
def value? (f : Field) (ls : List (List (String × Setting))) : Option Setting :=
  ls.reverse.findSome? f.givenBy?

/-- The field has the value that counts, converted, or its default if no layer gives anything. -/
def Takes (f : Field) (ls : List (List (String × Setting))) (s : Settings) : Prop :=
  match f.value? ls with
  | some v => f.convert v = .ok (f.get s)
  | none => (∀ l ∈ ls, f.given l = []) ∧ f.get s = f.get {}

/-- What the tree of some layers has in a field, as far as it is told. -/
def held (f : Field) (ls : List (List (String × Setting))) : Option Setting :=
  ((f.value? ls).map face).or (if ls.flatMap f.given = [] then none else some emptyTable)

/-- Why the field cannot be converted from what layers give for it, if so. -/
def fault? (f : Field) (ls : List (List (String × Setting))) : Option SettingsFault :=
  f.faultOf (f.held ls)

/-- The layers give the same values for a field, those apart that are below a layer which gives
one. -/
def Agree (f : Field) (ls ls' : List (List (String × Setting))) : Prop :=
  ls.map f.given = ls'.map f.given ∨
    ∃ below below' above above', ls = below ++ above ∧ ls' = below' ++ above' ∧
      above.map f.given = above'.map f.given ∧ ∃ l ∈ above, ∃ v ∈ f.given l, v.isHollow = false

theorem value?_append (below above : List (List (String × Setting))) :
    f.value? (below ++ above) = (f.value? above).or (f.value? below) := by
  rw [value?, List.reverse_append, List.findSome?_append]
  rfl

theorem reverse_eq_of_length_le_one {α : Type} {l : List α} (hl : l.length ≤ 1) :
    l.reverse = l := by
  match l with
  | [] | [_] => rfl
  | _ :: _ :: _ => simp at hl

theorem value?_eq (hsingle : ∀ l ∈ ls, (f.given l).length ≤ 1) :
    f.value? ls = (ls.flatMap f.given).reverse.find? fun v => !v.isHollow := by
  have hsame : ls.flatMap f.given = ls.flatMap fun l => (f.given l).reverse :=
    congrArg List.flatten <| List.map_congr_left fun l hl =>
      (reverse_eq_of_length_le_one (hsingle l hl)).symm
  rw [hsame, value?, List.reverse_flatMap, List.find?_flatMap]
  refine congrArg (List.findSome? · ls.reverse) (funext fun l => ?_)
  rw [givenBy?, Function.comp_apply, List.reverse_reverse]

/-- What the tree of some layers has in a field. -/
theorem field?_gather (hf : f ∈ fields) (horderly : ∀ l ∈ ls, IsOrderly titles l)
    (hsingle : ∀ l ∈ ls, (f.given l).length ≤ 1) :
    (gather ls).field? f.title f.name = f.held ls := by
  have hfield := (field?_foldl_overlay ls (gathered_emptyTable titles) horderly).2 f.title
    (title_mem f hf) f.name
  rw [held, value?_eq hsingle]
  exact hfield.trans (foldl_lay (ls.flatMap f.given) none)

/-- No field is converted from a table. -/
theorem convert_table :
    ∀ f ∈ fields, ∀ origin entries a, f.convert (.table origin entries) ≠ .ok a := by
  simp only [fields, List.forall_mem_cons]
  refine ⟨?_, ?_, ?_, ?_, ?_, ?_, ?_, ?_, ?_, ?_, ?_, ?_, fun _ hf => by cases hf⟩ <;>
    exact fun _ _ _ hok => by cases hok

theorem convert_face (hf : f ∈ fields) {v : Setting} {a : f.Value} :
    f.convert v.face = .ok a ↔ f.convert v = .ok a := by
  cases v with
  | table origin entries =>
    exact ⟨fun hok => absurd hok (convert_table f hf none [] a),
      fun hok => absurd hok (convert_table f hf origin entries a)⟩
  | scalar | list => exact Iff.rfl

theorem comesTo_iff_takes (hf : f ∈ fields) : f.ComesTo s (f.held ls) ↔ f.Takes ls s := by
  rw [held, Takes]
  cases hv : f.value? ls with
  | some v => exact convert_face hf
  | none =>
    rw [Option.map_none, Option.none_or]
    split
    · rename_i hnone
      exact ⟨fun hdefault => ⟨List.flatMap_eq_nil_iff.mp hnone, hdefault⟩, And.right⟩
    · rename_i hsome
      exact ⟨fun hok => absurd hok (convert_table f hf none [] _),
        fun ⟨hnone, _⟩ => absurd (List.flatMap_eq_nil_iff.mpr hnone) hsome⟩

theorem ComesTo.get_eq {v : Option Setting} (hs : f.ComesTo s v) (hs' : f.ComesTo s' v) :
    f.get s = f.get s' := by
  cases v with
  | some v => exact Except.ok.inj (Eq.trans (Eq.symm hs) hs')
  | none => exact Eq.trans hs (Eq.symm hs')

/-- A field that comes to a value has no fault. -/
theorem ComesTo.fault?_eq_none (hs : f.ComesTo s (f.held ls)) : f.fault? ls = none := by
  rw [fault?, faultOf, fault?_of_eq_ok (convertPart_eq_ok_iff.mpr hs)]
  rfl

theorem value?_of_map_eq (hmap : ls.map f.given = ls'.map f.given) :
    f.value? ls = f.value? ls' := by
  have hfound : ∀ ls : List (List (String × Setting)), f.value? ls =
      (ls.map f.given).reverse.findSome? fun values => values.find? fun v => !v.isHollow := by
    intro ls
    rw [value?, ← List.map_reverse, List.findSome?_map]
    rfl
  rw [hfound, hfound, hmap]

/-- A layer that gives a value for a field gives one that counts. -/
theorem exists_value? (hsome : ∃ l ∈ ls, ∃ v ∈ f.given l, v.isHollow = false) :
    ∃ v, f.value? ls = some v := by
  obtain ⟨l, hl, v, hv, hvalue⟩ := hsome
  rw [← Option.isSome_iff_exists, value?, List.findSome?_isSome_iff]
  exact ⟨l, List.mem_reverse.mpr hl, List.find?_isSome.mpr ⟨v, hv, by simp [hvalue]⟩⟩

theorem Agree.held_eq (agree : f.Agree ls ls') : f.held ls = f.held ls' := by
  rw [held, held]
  rcases agree with hmap | ⟨below, below', above, above', rfl, rfl, hmap, hsome⟩
  · have hflat : ls.flatMap f.given = ls'.flatMap f.given := congrArg List.flatten hmap
    rw [value?_of_map_eq hmap, hflat]
  · obtain ⟨v, hv⟩ := exists_value? hsome
    rw [value?_append, value?_append, ← value?_of_map_eq hmap, hv]
    rfl

/-- The lowest layer does not count: it gives nothing for the field, or another layer gives a
value. -/
def overridesLowest (f : Field) : List (List (String × Setting)) → Bool
  | [] => true
  | l :: above => (f.given l).isEmpty || above.any fun l => (f.given l).any fun v => !v.isHollow

theorem agree_of_overridesLowest {l l' : List (String × Setting)}
    {above : List (List (String × Setting))} (h : f.overridesLowest (l :: above) = true)
    (h' : f.overridesLowest (l' :: above) = true) : f.Agree (l :: above) (l' :: above) := by
  rw [overridesLowest, Bool.or_eq_true, List.isEmpty_iff] at h h'
  rcases h with hnone | habove
  · rcases h' with hnone' | habove
    · exact .inl (congrArg (· :: above.map f.given) (hnone.trans hnone'.symm))
    · exact .inr ⟨[l], [l'], above, above, rfl, rfl, rfl, by simpa using habove⟩
  · exact .inr ⟨[l], [l'], above, above, rfl, rfl, rfl, by simpa using habove⟩

theorem exists_mem_given {v : Setting} (hv : f.value? ls = some v) : ∃ l ∈ ls, v ∈ f.given l := by
  obtain ⟨l, hl, hfound⟩ := List.exists_of_findSome?_eq_some hv
  exact ⟨l, List.mem_reverse.mp hl, List.mem_of_find?_eq_some hfound⟩

/-! ## What variables give -/

/-- The name of a setting leads to the field. -/
def isReachedBy (f : Field) (name : String) : Bool :=
  reaches f.title f.name (SettingStep.ofName name)

/-- What a setting gives for a field that its name leads to. -/
def valueOf (e : String × Setting) : Setting := nest e.2 ((SettingStep.ofName e.1).drop 2)

theorem given_of_not_isTable {layer : List (String × Setting)}
    (hvalues : ∀ e ∈ layer, e.2.isTable = false) :
    f.given layer = (layer.filter fun e => f.isReachedBy e.1).map valueOf := by
  induction layer with
  | nil => rfl
  | cons e rest ih =>
    have hgiven : f.given (e :: rest) =
        givenAt f.title f.name e.2 (SettingStep.ofName e.1) ++ f.given rest := rfl
    rw [hgiven, ih fun e he => hvalues e (List.mem_cons_of_mem _ he), List.filter_cons,
      givenAt_of_not_isTable (hvalues e List.mem_cons_self), isReachedBy]
    split <;> rfl

/-- What the environment gives for a field is what the variables give whose names lead there. -/
theorem given_layer (f : Field) (env : Environment) :
    f.given (Environment.layer env) = (Environment.collect
      ((Environment.entries env).filter fun e => f.isReachedBy e.1)).map valueOf := by
  rw [given_of_not_isTable Environment.isTable_of_mem_layer, Environment.layer,
    Environment.filter_collect]

theorem isHollow_of_mem_layer {v : Setting} (hv : v ∈ f.given (Environment.layer env)) :
    v.isHollow = false := by
  rw [given_of_not_isTable Environment.isTable_of_mem_layer] at hv
  obtain ⟨e, he, rfl⟩ := List.mem_map.mp hv
  exact isHollow_nest (Environment.isTable_of_mem_layer e (List.mem_filter.mp he).1) _

theorem given_layer_eq_nil_iff : f.given (Environment.layer env) = [] ↔
    ∀ e ∈ Environment.entries env, f.isReachedBy e.1 = false := by
  rw [given_layer, List.map_eq_nil_iff, Environment.collect_eq_nil_iff, List.filter_eq_nil_iff]
  simp only [Bool.not_eq_true]

/-- It does not matter in which order a layer is gone through that gives a field one value. -/
theorem given_environmentLayer_eq (hsingle : (f.given (environmentLayer env r)).length ≤ 1) :
    f.given (environmentLayer env r) = f.given (Environment.layer env) := by
  have hperm : (f.given (environmentLayer env r)).Perm (f.given (Environment.layer env)) :=
    (r.order_perm _ _).flatMap_right _
  match hgiven : f.given (environmentLayer env r) with
  | [] =>
    rw [hgiven] at hperm
    exact (List.nil_perm.mp hperm).symm
  | [v] =>
    rw [hgiven] at hperm
    exact List.singleton_perm.mp hperm
  | _ :: _ :: _ => simp [hgiven] at hsingle

/-- If an environment gives one value for a field, then it is that of what was added last. -/
theorem given_environmentLayer {vars : Environment}
    (hsingle : (f.given (environmentLayer (env ++ vars) r)).length ≤ 1) :
    f.given (environmentLayer (env ++ vars) r) =
      if f.given (Environment.layer vars) = [] then f.given (Environment.layer env)
      else f.given (Environment.layer vars) := by
  have hgiven := given_environmentLayer_eq hsingle
  rw [hgiven] at hsingle ⊢
  simp only [given_layer, Environment.entries_append, List.filter_append, List.length_map,
    List.map_eq_nil_iff, Environment.collect_eq_nil_iff] at hsingle ⊢
  split
  · rename_i hnone
    rw [hnone, List.append_nil]
  · rename_i hsome
    rw [Environment.collect_append_of_single hsome hsingle]

/-- If the environment gives nothing for a field, what it has of the file of variables does not
either. -/
theorem given_added (hnone : f.given (Environment.layer env) = []) :
    f.given (Environment.layer (added env files)) =
      f.given (Environment.layer (ofEnvFile env files)) := by
  rw [given_layer_eq_nil_iff] at hnone
  rw [given_layer, given_layer, added, Environment.filter_entries_unsetIn hnone]

theorem value?_concat (below : List (List (String × Setting))) (l : List (String × Setting)) :
    f.value? (below ++ [l]) = (f.givenBy? l).or (f.value? below) := by
  rw [value?_append, value?, List.reverse_singleton, List.findSome?_singleton]

/-- If the environment and what is added to it do not both give a field, the environment may as well
lie over the file of variables. -/
theorem value?_environment_first (below : List (List (String × Setting)))
    (hsingle : (f.given (environmentLayer (env ++ added env files) r)).length ≤ 1)
    (hnone : f.given (Environment.layer env) = [] ∨
      f.given (Environment.layer (added env files)) = []) :
    f.value? (below ++ [environmentLayer (env ++ added env files) r]) =
      f.value? (below ++ [Environment.layer (ofEnvFile env files), Environment.layer env]) := by
  have hlayer := given_environmentLayer hsingle
  rw [List.append_cons below _ [_], value?_concat, value?_concat, value?_concat]
  cases hgiven : f.given (Environment.layer env) with
  | nil =>
    have hsame : f.given (environmentLayer (env ++ added env files) r) =
        f.given (Environment.layer (ofEnvFile env files)) := by
      rw [hlayer, hgiven, ← given_added hgiven]
      split
      · rename_i hadded
        exact hadded.symm
      · rfl
    rw [givenBy?, givenBy?, givenBy?, hgiven, hsame]
    rfl
  | cons v rest =>
    have hadded : f.given (Environment.layer (added env files)) = [] :=
      hnone.resolve_left (by simp [hgiven])
    have hmem : v ∈ f.given (Environment.layer env) := by simp [hgiven]
    have hv : v.isHollow = false := isHollow_of_mem_layer hmem
    rw [if_pos hadded] at hlayer
    have henv : f.givenBy? (Environment.layer env) = some v := by
      rw [givenBy?, hgiven, List.find?_cons_of_pos (by simp [hv])]
    have hboth : f.givenBy? (environmentLayer (env ++ added env files) r) = some v := by
      rw [givenBy?, hlayer, hgiven, List.find?_cons_of_pos (by simp [hv])]
    rw [henv, hboth]
    rfl

end Field

/-! ## What an input comes to -/

/-- What an input comes to that brings the layers. -/
structure Layered (env : Environment) (files : List (String × String)) (r : SettingsReader)
    (ls : List (List (String × Setting))) : Prop where
  /-- The layers are the file of defaults, the file of the run mode, and the environment with what
  is added to it. -/
  brings : ∃ defaults ofMode, fileLayer files r defaultFile = .ok defaults ∧
    fileLayer files r (modeFile (mode env files)) = .ok ofMode ∧
    ls = [defaults, ofMode, environmentLayer (environment env files) r]
  /-- Of the file of variables what is not set is added to the environment. -/
  adds : environment env files = env ++ added env files
  /-- Of a field the environment gives what is added to it, or else what was set. -/
  gives : ∀ f ∈ fields, f.given (environmentLayer (environment env files) r) =
    if f.given (Environment.layer (added env files)) = [] then f.given (Environment.layer env)
    else f.given (Environment.layer (added env files))
  /-- Of a field that was not both set and added, the value is the same as if the environment lay
  over the file of variables. -/
  environment_first : ∀ f ∈ fields, f.given (Environment.layer env) = [] ∨
      f.given (Environment.layer (added env files)) = [] →
    f.value? ls =
      f.value? (ls.take 2 ++ [Environment.layer (ofEnvFile env files), Environment.layer env])
  /-- The fields have the values that count, and the settings of connections are valid as a
  whole. -/
  takes : ∀ s, load env files r = .ok s ↔
    s.websocket.validate = .ok () ∧ ∀ f ∈ fields, f.Takes ls s
  /-- Otherwise there is a field that cannot be converted, and its fault is told, or the settings of
  connections are not valid, and that is told. -/
  refused : ∀ e, load env files r = .error e →
    (∃ f ∈ fields, ∃ fault, f.fault? ls = some fault ∧ e = .config fault) ∨
      ∃ s, s.websocket.validate = .error e ∧ ∀ f ∈ fields, f.Takes ls s
  /-- What is overridden does not count, unless it is for which of several faults is told. -/
  same : ∀ env' files' r' ls', Stacks env' files' r' ls' → (∀ f ∈ fields, f.Agree ls ls') →
    (∀ s, load env files r = .ok s ↔ load env' files' r' = .ok s) ∧
      ((∀ f ∈ fields, ∀ g ∈ fields, f.fault? ls ≠ none → g.fault? ls ≠ none → f = g) →
        load env files r = load env' files' r')
  /-- For the value of a field nothing counts that is given for others. -/
  apart : ∀ env' files' r' ls' s s', Stacks env' files' r' ls' → load env files r = .ok s →
    load env' files' r' = .ok s' → ∀ f ∈ fields, f.Agree ls ls' → f.get s = f.get s'
  /-- The list of origins is that of one layer. -/
  origins : ∀ s, load env files r = .ok s →
    (∀ l ∈ ls, given "websocket" "allowed_origins" l = []) ∧ s.websocket.allowedOrigins = [] ∨
      ∃ l ∈ ls, ∃ origin items, .list origin items ∈ given "websocket" "allowed_origins" l ∧
        textsFrom 0 items = .ok s.websocket.allowedOrigins

section Stacks

variable (hstacks : Stacks env files r ls)

include hstacks

theorem Stacks.gathered : Gathered titles (gather ls) :=
  (field?_foldl_overlay ls (gathered_emptyTable titles) hstacks.orderly).1

theorem Stacks.field?_eq {f : Field} (hf : f ∈ fields) :
    (gather ls).field? f.title f.name = f.held ls :=
  Field.field?_gather hf hstacks.orderly fun l hl => hstacks.single l hl f hf

theorem Stacks.toSettings_eq_ok_iff : (gather ls).toSettings r = .ok s ↔
    ∀ f ∈ fields, f.ComesTo s (f.held ls) := by
  rw [Setting.toSettings_eq_ok_iff r hstacks.gathered]
  exact forall₂_congr fun f hf => by rw [hstacks.field?_eq hf]

theorem Stacks.load_eq_ok_iff : load env files r = .ok s ↔
    (∀ f ∈ fields, f.ComesTo s (f.held ls)) ∧ s.websocket.validate = .ok () := by
  rw [Settings.load_eq_ok_iff hstacks.layers_eq, hstacks.toSettings_eq_ok_iff]

theorem Stacks.takes : load env files r = .ok s ↔
    s.websocket.validate = .ok () ∧ ∀ f ∈ fields, f.Takes ls s := by
  rw [hstacks.load_eq_ok_iff, and_comm]
  exact and_congr_right fun _ => forall₂_congr fun f hf => Field.comesTo_iff_takes hf

theorem Stacks.refused (herror : load env files r = .error e) :
    (∃ f ∈ fields, ∃ fault, f.fault? ls = some fault ∧ e = .config fault) ∨
      ∃ s, s.websocket.validate = .error e ∧ ∀ f ∈ fields, f.ComesTo s (f.held ls) := by
  rcases (load_eq_error_iff hstacks.layers_eq).mp herror with
    ⟨fault, hfault, rfl⟩ | ⟨s, hs, hinvalid⟩
  · obtain ⟨f, hf, hfault⟩ := exists_fault_of_toSettings hstacks.gathered hfault
    rw [hstacks.field?_eq hf] at hfault
    exact .inl ⟨f, hf, fault, hfault, rfl⟩
  · exact .inr ⟨s, hinvalid, hstacks.toSettings_eq_ok_iff.mp hs⟩

theorem Stacks.origins (hs : load env files r = .ok s) :
    (∀ l ∈ ls, given "websocket" "allowed_origins" l = []) ∧ s.websocket.allowedOrigins = [] ∨
      ∃ l ∈ ls, ∃ origin items, .list origin items ∈ given "websocket" "allowed_origins" l ∧
        textsFrom 0 items = .ok s.websocket.allowedOrigins := by
  have htakes := (hstacks.takes.mp hs).2 ⟨"websocket", "allowed_origins", List String, toTexts,
    fun s => s.websocket.allowedOrigins⟩ (by simp [fields])
  rw [Field.Takes] at htakes
  split at htakes
  · rename_i v hv
    obtain ⟨l, hl, hgiven⟩ := Field.exists_mem_given hv
    cases v with
    | list origin items => exact .inr ⟨l, hl, origin, items, hgiven, htakes⟩
    | scalar | table => cases htakes
  · exact .inl htakes

variable (hstacks' : Stacks env' files' r' ls') (agree : ∀ f ∈ fields, f.Agree ls ls')

include hstacks' agree

theorem Stacks.load_eq_ok_iff_of_agree :
    load env files r = .ok s ↔ load env' files' r' = .ok s := by
  rw [hstacks.load_eq_ok_iff, hstacks'.load_eq_ok_iff]
  exact and_congr_left fun _ => forall₂_congr fun f hf => by rw [(agree f hf).held_eq]

/-- What is refused is refused for the same reason, if there are no two fields of which either could
be the reason. -/
theorem Stacks.load_eq_of_agree
    (hone : ∀ f ∈ fields, ∀ g ∈ fields, f.fault? ls ≠ none → g.fault? ls ≠ none → f = g) :
    load env files r = load env' files' r' := by
  have hfaults : ∀ f ∈ fields, f.fault? ls' = f.fault? ls := by
    intro f hf
    rw [Field.fault?, Field.fault?, (agree f hf).held_eq]
  have hcomes : ∀ s, (∀ f ∈ fields, f.ComesTo s (f.held ls')) →
      ∀ f ∈ fields, f.ComesTo s (f.held ls) := by
    intro s hs f hf
    rw [(agree f hf).held_eq]
    exact hs f hf
  have hsame := fun s => hstacks.load_eq_ok_iff_of_agree hstacks' agree (s := s)
  cases hload : load env files r with
  | ok s => exact ((hsame s).mp hload).symm
  | error e =>
    cases hload' : load env' files' r' with
    | ok s =>
      rw [(hsame s).mpr hload'] at hload
      cases hload
    | error e' =>
      rcases hstacks.refused hload with ⟨f, hf, fault, hfault, rfl⟩ | ⟨s, hinvalid, hs⟩ <;>
        rcases hstacks'.refused hload' with ⟨f', hf', fault', hfault', rfl⟩ | ⟨s', hinvalid', hs'⟩
      · rw [hfaults f' hf'] at hfault'
        obtain rfl := hone f hf f' hf' (by simp [hfault]) (by simp [hfault'])
        obtain rfl : fault = fault' := Option.some.inj (hfault.symm.trans hfault')
        rfl
      · rw [(hcomes s' hs' f hf).fault?_eq_none] at hfault
        cases hfault
      · rw [hfaults f' hf', (hs f' hf').fault?_eq_none] at hfault'
        cases hfault'
      · have hboth : Except.ok s = Except.ok s' :=
          (hstacks.toSettings_eq_ok_iff.mpr hs).symm.trans
            (hstacks.toSettings_eq_ok_iff.mpr (hcomes s' hs'))
        obtain rfl := Except.ok.inj hboth
        exact congrArg _ (Except.error.inj (hinvalid.symm.trans hinvalid'))

end Stacks

/-- **Settings in layers.** -/
theorem layered (hstacks : Stacks env files r ls) : Layered env files r ls := by
  obtain ⟨defaults, ofMode, hdefaults, hmode, hls⟩ := exists_of_layers hstacks.layers_eq
  have hsingle : ∀ f ∈ fields,
      (f.given (environmentLayer (env ++ added env files) r)).length ≤ 1 :=
    fun f hf => hstacks.single _ (by simp [hls]) f hf
  rw [← environment_eq] at hls
  exact {
    brings := ⟨defaults, ofMode, hdefaults, hmode, hls⟩
    adds := environment_eq env files
    gives f hf := by
      rw [environment_eq]
      exact Field.given_environmentLayer (hsingle f hf)
    environment_first f hf hnone := by
      rw [hls, environment_eq]
      exact Field.value?_environment_first [defaults, ofMode] (hsingle f hf) hnone
    takes _ := hstacks.takes
    refused e herror := (hstacks.refused herror).imp_right fun ⟨s, hinvalid, hs⟩ =>
      ⟨s, hinvalid, fun f hf => (Field.comesTo_iff_takes hf).mp (hs f hf)⟩
    same env' files' r' ls' hstacks' agree :=
      ⟨fun _ => hstacks.load_eq_ok_iff_of_agree hstacks' agree,
        hstacks.load_eq_of_agree hstacks' agree⟩
    apart env' files' r' ls' s s' hstacks' hs hs' f hf agree := by
      have hfield := (hstacks.load_eq_ok_iff.mp hs).1 f hf
      rw [agree.held_eq] at hfield
      exact hfield.get_eq ((hstacks'.load_eq_ok_iff.mp hs').1 f hf)
    origins _ := hstacks.origins }

/-- An input whose layers stand a check. -/
theorem exists_stacks (env : Environment) (files : List (String × String)) (r : SettingsReader)
    (check : List (List (String × Setting)) → Bool)
    (hcheck : (layers env files r).map (fun ls => decide (∀ l ∈ ls, IsOrderly titles l) &&
      ls.all (fun l => fields.all fun f => (f.given l).length ≤ 1) && check ls) = .ok true) :
    ∃ ls, Stacks env files r ls ∧ check ls = true := by
  cases hlayers : layers env files r with
  | error fault =>
    rw [hlayers] at hcheck
    cases hcheck
  | ok ls =>
    rw [hlayers] at hcheck
    obtain ⟨hboth, hls⟩ := Bool.and_eq_true_iff.mp (Except.ok.inj hcheck)
    obtain ⟨horderly, hsingle⟩ := Bool.and_eq_true_iff.mp hboth
    exact ⟨ls, ⟨hlayers, of_decide_eq_true horderly, fun l hl f hf => of_decide_eq_true
      (List.all_eq_true.mp (List.all_eq_true.mp hsingle l hl) f hf)⟩, hls⟩

/-- An environment in which a port is set. -/
def portEnvironment : Environment := [("RUN_MODE", "production"), ("ARA_SERVER__PORT", "9001")]

/-- Files of all layers. The port of the file of variables is not added, and that of the file of
defaults is overridden. -/
def portFiles (port : String) : List (String × String) :=
  [(".env", "ARA_WEBSOCKET__READ_TIMEOUT_MS=70000\nARA_SERVER__PORT=9002\n"),
    ("config/default.json", s!"\x7b\"server\": \x7b\"port\": {port}\x7d\x7d"),
    ("config/production.json", "\x7b\"websocket\": \x7b\"heartbeat_interval_ms\": 65000, " ++
      "\"allowed_origins\": [\"https://a\"]\x7d\x7d")]

theorem layered_of_portFiles :
    ∃ ls ls', Stacks portEnvironment (portFiles "1") .standard ls ∧
      Stacks portEnvironment (portFiles "\"none\"") .standard ls' ∧
      (∀ f ∈ fields, f.Agree ls ls') ∧
      load portEnvironment (portFiles "\"none\"") = .ok {
        server := { port := 9001 }
        websocket := {
          readTimeout := 70000, heartbeat := 65000, allowedOrigins := ["https://a"] } } := by
  obtain ⟨ls, hstacks, hls⟩ := exists_stacks portEnvironment (portFiles "1") .standard
    (fun ls => fields.all fun f => f.overridesLowest ls) (by decide +kernel)
  obtain ⟨ls', hstacks', hls'⟩ := exists_stacks portEnvironment (portFiles "\"none\"") .standard
    (fun ls => fields.all fun f => f.overridesLowest ls) (by decide +kernel)
  have hload : load portEnvironment (portFiles "1") = .ok {
      server := { port := 9001 }
      websocket := {
        readTimeout := 70000, heartbeat := 65000, allowedOrigins := ["https://a"] } } := by
    decide +kernel
  have henv : environment portEnvironment (portFiles "1") =
    environment portEnvironment (portFiles "\"none\"") := by decide +kernel
  have hmode : mode portEnvironment (portFiles "1") =
    mode portEnvironment (portFiles "\"none\"") := by decide +kernel
  have hfind : SettingsFile.find? .standard (portFiles "1")
      (modeFile (mode portEnvironment (portFiles "\"none\""))) =
        SettingsFile.find? .standard (portFiles "\"none\"")
          (modeFile (mode portEnvironment (portFiles "\"none\""))) := by decide +kernel
  -- The layers are the same but for the lowest.
  obtain ⟨defaults, ofMode, -, hm, rfl⟩ := (layered hstacks).brings
  obtain ⟨defaults', ofMode', -, hm', rfl⟩ := (layered hstacks').brings
  rw [fileLayer, hmode, hfind] at hm
  obtain rfl := Except.ok.inj (hm.symm.trans hm')
  rw [henv] at hls hstacks
  have agree := fun f hf => Field.agree_of_overridesLowest (List.all_eq_true.mp hls f hf)
    (List.all_eq_true.mp hls' f hf)
  exact ⟨_, _, hstacks, hstacks', agree,
    (((layered hstacks).same _ _ _ _ hstacks' agree).1 _).mp hload⟩

/-- The reader that comes to what is named `server` before anything else. -/
def serverFirst : SettingsReader where
  formats := FileFormat.all
  formats_perm := .refl _
  order _ entries := entries.filter (·.1 == "server") ++ entries.filter (!·.1 == "server")
  order_perm _ entries := List.filter_append_perm (·.1 == "server") entries
  others := SettingsReader.standard.others

/-- A file that gives a port twice. -/
def twoPorts : List (String × String) :=
  [("config/default.json", "\x7b\"server\": \x7b\"port\": 9001\x7d, " ++
    "\"Server\": \x7b\"port\": 9002\x7d\x7d")]

/-- A file that gives two fields what they cannot be converted from. -/
def twoFaults : List (String × String) :=
  [("config/default.json", "\x7b\"server\": \x7b\"port\": \"x\"\x7d, " ++
    "\"logging\": \x7b\"json\": \"y\"\x7d\x7d")]

/-- The environment does not always lie over what the file of variables gives: a variable of another
spelling is added, although it gives the same field. Nor does a layer give fields only: it may
change one place of a list, or have something else in the place of a section. An empty table is
none of the values of a field. And of two values that one layer gives, which counts is up to the
reader, as is which of two faults is told. -/
theorem not_always_environment_first :
    load [("ARA_SERVER__PORT", "9001")] [(".env", "ara_server__port=9002\n")] =
        .ok { server := { port := 9002 } } ∧
      load [("ARA_WEBSOCKET__ALLOWED_ORIGINS[0]", "https://c")] [("config/default.json",
          "\x7b\"websocket\": \x7b\"allowed_origins\": [\"https://a\", \"https://b\"]\x7d\x7d")] =
        .ok { websocket := { allowedOrigins := ["https://c", "https://b"] } } ∧
      (load [("ARA_SERVER", "x")] []).isOk = false ∧
      load [] [("config/default.json", "\x7b\"server\": \x7b\"port\": 9001\x7d\x7d"),
          ("config/development.json", "\x7b\"server\": \x7b\"port\": \x7b\x7d\x7d\x7d")] =
        .ok { server := { port := 9001 } } ∧
      load [] twoPorts = .ok { server := { port := 9001 } } ∧
      load [] twoPorts serverFirst = .ok { server := { port := 9002 } } ∧
      (load [] twoFaults).isOk = false ∧ (load [] twoFaults serverFirst).isOk = false ∧
      load [] twoFaults ≠ load [] twoFaults serverFirst ∧
      ¬ ∀ env files r ls s, Stacks env files r ls → load env files r = .ok s → ∀ f ∈ fields,
        f.Takes (ls.take 2 ++
          [Environment.layer (ofEnvFile env files), Environment.layer env]) s := by
  have hadded : load [("ARA_SERVER__PORT", "9001")] [(".env", "ara_server__port=9002\n")] =
      .ok { server := { port := 9002 } } := by decide +kernel
  refine ⟨hadded, by decide +kernel, by decide +kernel, by decide +kernel, by decide +kernel,
    by decide +kernel, by decide +kernel, by decide +kernel, by decide +kernel, fun hfirst => ?_⟩
  let port : Field := ⟨"server", "port", Nat, toPort, fun s => s.server.port⟩
  obtain ⟨ls, hstacks, hcheck⟩ := exists_stacks [("ARA_SERVER__PORT", "9001")]
    [(".env", "ara_server__port=9002\n")] .standard
    (fun ls => (port.value? (ls.take 2 ++ [Environment.layer (ofEnvFile
      [("ARA_SERVER__PORT", "9001")] [(".env", "ara_server__port=9002\n")]),
      Environment.layer [("ARA_SERVER__PORT", "9001")]])).map toPort = some (.ok 9001))
    (by decide +kernel)
  have htakes := hfirst _ _ _ ls _ hstacks hadded port (by simp [fields, port])
  obtain ⟨v, hv, hport⟩ := Option.map_eq_some_iff.mp (of_decide_eq_true hcheck)
  rw [Field.Takes, hv] at htakes
  have hsame : Except.ok 9001 = Except.ok 9002 := hport.symm.trans htakes
  cases hsame

end Settings

end Switchboard
