import Switchboard.Proofs.Overlay
import Switchboard.Settings.Load

/-!
# Settings field by field

`Settings.fields` lists the fields of the settings: the section and the name of each, what it is
converted by, and where it stands. Of a tree that was gathered nothing counts but its fields. It
comes to settings if each field has the value that is converted from what the tree has there, or its
default (`Setting.toSettings_eq_ok_iff`), in whatever way tables are gone through. If it comes to
none, then some field cannot be converted, and its fault is the one that is told
(`Setting.exists_fault_of_toSettings`); which one of several, is up to the reader of settings.

## Shape of the proof

A conversion asks of a table only whether it is one (`Setting.AsksFace`), so that a section is
converted from what is told of its fields (`Setting.toServer_eq` and so on). In which order its
parts are gone through matters to nothing but which of several faults is told (`Setting.MadeOf`). A
section that is not there is converted as one that is empty.
-/

namespace Switchboard

namespace Setting

open Tally (lookup_cons_of_ne)

/-! ## Converting -/

/-- The conversion asks of a table only whether it is one. -/
def AsksFace {α : Type} (convert : Setting → Except SettingsFault α) : Prop :=
  ∀ v : Setting, v.IsBare → convert v.face = convert v

theorem asksFace_of_table {α : Type} {convert : Setting → Except SettingsFault α}
    (htable : ∀ entries, convert emptyTable = convert (.table none entries)) :
    AsksFace convert := by
  intro v bare
  cases v with
  | table origin entries =>
    obtain rfl : origin = none := bare
    exact htable entries
  | scalar | list => rfl

theorem asksFace_toNumber : AsksFace toNumber := asksFace_of_table fun _ => rfl

theorem asksFace_toPort : AsksFace toPort := asksFace_of_table fun _ => rfl

theorem asksFace_toFlag : AsksFace toFlag := asksFace_of_table fun _ => rfl

theorem asksFace_toText : AsksFace toText := asksFace_of_table fun _ => rfl

theorem asksFace_toTexts : AsksFace toTexts := asksFace_of_table fun _ => rfl

/-! ## Parts -/

/-- What is given for a field, converted, or the default if nothing is. -/
def convertPart {α : Type} (name : String) (convert : Setting → Except SettingsFault α)
    (default : α) : Option Setting → Except SettingsFault α
  | some v => (convert v).mapError (·.within (.name name))
  | none => .ok default

/-- What is given for a field comes to a value, or nothing is and the value is the default. -/
def ComesTo {α : Type} (convert : Setting → Except SettingsFault α) (default a : α) :
    Option Setting → Prop
  | some v => convert v = .ok a
  | none => a = default

section Parts

variable {α β : Type} {name : String} {convert : Setting → Except SettingsFault α} {default a : α}

theorem bind_eq_ok_iff {ε : Type} {r : Except ε α} {f : α → Except ε β} {b : β} :
    r >>= f = .ok b ↔ ∃ a, r = .ok a ∧ f a = .ok b := by
  cases r with
  | ok a => exact ⟨fun h => ⟨a, rfl, h⟩, fun ⟨_, ha, h⟩ => Except.ok.inj ha ▸ h⟩
  | error e => exact ⟨fun h => (nomatch h), fun ⟨_, ha, _⟩ => (nomatch ha)⟩

theorem mapError_eq_ok_iff {ε ε' : Type} {r : Except ε α} {f : ε → ε'} :
    r.mapError f = .ok a ↔ r = .ok a := by
  cases r with
  | ok b => exact ⟨fun h => Except.ok.inj h ▸ rfl, fun h => Except.ok.inj h ▸ rfl⟩
  | error e => exact ⟨fun h => (nomatch h), fun h => (nomatch h)⟩

theorem bind_eq_error_iff {ε : Type} {r : Except ε α} {f : α → Except ε β} {e : ε} :
    r >>= f = .error e ↔ r = .error e ∨ ∃ a, r = .ok a ∧ f a = .error e := by
  cases r with
  | ok a =>
    refine ⟨fun h => .inr ⟨a, rfl, h⟩, fun h => ?_⟩
    rcases h with h | ⟨_, ha, h⟩
    · cases h
    · exact Except.ok.inj ha ▸ h
  | error e' =>
    refine ⟨fun h => .inl (congrArg _ (Except.error.inj h)), fun h => ?_⟩
    rcases h with h | ⟨_, ha, _⟩
    · exact congrArg _ (Except.error.inj h)
    · cases ha

theorem convertPart_eq_ok_iff {field : Option Setting} :
    convertPart name convert default field = .ok a ↔ ComesTo convert default a field := by
  cases field with
  | none => exact ⟨fun h => (Except.ok.inj h).symm, fun h => congrArg Except.ok h.symm⟩
  | some v => exact mapError_eq_ok_iff

theorem fault?_eq_some_iff {r : Except SettingsFault α} {fault : SettingsFault} :
    fault? r = some fault ↔ r = .error fault := by
  cases r with
  | ok a => exact ⟨fun h => (by cases h), fun h => (by cases h)⟩
  | error e =>
    exact ⟨fun h => congrArg _ (Option.some.inj h), fun h => congrArg _ (Except.error.inj h)⟩

theorem fault?_of_eq_ok {r : Except SettingsFault α} (hr : r = .ok a) : fault? r = none := by
  rw [hr]
  rfl

/-! ## What is gone through -/

section FromParts

variable {names : List String} {faults : List (String × Option SettingsFault)}
  {whole : Except SettingsFault α}

/-- If the parts of a section have no faults, then it does not matter how they are gone through. -/
theorem fromParts_of_no_faults (hnone : ∀ e ∈ faults, e.2 = none) :
    fromParts names faults whole = whole := by
  have hfirst : (names.findSome? fun name => (faults.lookup name).bind id) = none := by
    refine List.findSome?_eq_none_iff.mpr fun name _ => ?_
    cases hfound : faults.lookup name with
    | none => rfl
    | some fault =>
      obtain ⟨before, after, rfl, -⟩ := List.lookup_eq_some_iff.mp hfound
      exact hnone (name, fault) (by simp)
  rw [fromParts, hfirst]

/-- What is made of parts, one after another, that have these faults: if it can be made, then none
of them has one, and otherwise its fault is that of a part. -/
structure MadeOf (faults : List (String × Option SettingsFault))
    (whole : Except SettingsFault α) : Prop where
  none_of_ok : ∀ a, whole = .ok a → ∀ e ∈ faults, e.2 = none
  some_of_error : ∀ fault, whole = .error fault → ∃ e ∈ faults, e.2 = some fault

theorem madeOf_pure (a : α) : MadeOf [] (pure a : Except SettingsFault α) :=
  ⟨fun _ _ _ he => absurd he List.not_mem_nil, fun _ herror => by cases herror⟩

theorem MadeOf.bind {part : Except SettingsFault β} {rest : β → Except SettingsFault α}
    (made : ∀ b, MadeOf faults (rest b)) :
    MadeOf ((name, fault? part) :: faults) (part >>= rest) := by
  constructor
  · intro a hok
    obtain ⟨b, hpart, hrest⟩ := bind_eq_ok_iff.mp hok
    exact List.forall_mem_cons.mpr ⟨fault?_of_eq_ok hpart, (made b).none_of_ok a hrest⟩
  · intro fault herror
    rcases bind_eq_error_iff.mp herror with hpart | ⟨b, -, hrest⟩
    · exact ⟨_, List.mem_cons_self, fault?_eq_some_iff.mpr hpart⟩
    · obtain ⟨e, he, hfault⟩ := (made b).some_of_error fault hrest
      exact ⟨e, List.mem_cons_of_mem _ he, hfault⟩

/-- The fault of a section is that of one of its parts. -/
theorem MadeOf.exists_fault {fault : SettingsFault} (made : MadeOf faults whole)
    (herror : fromParts names faults whole = .error fault) : ∃ e ∈ faults, e.2 = some fault := by
  rw [fromParts] at herror
  split at herror
  · rename_i found hfirst
    obtain ⟨name, -, hname⟩ := List.exists_of_findSome?_eq_some hfirst
    obtain ⟨told, hfound, rfl⟩ := Option.bind_eq_some_iff.mp hname
    obtain ⟨before, after, rfl, -⟩ := List.lookup_eq_some_iff.mp hfound
    exact ⟨(name, some found), by simp, congrArg some (Except.error.inj herror)⟩
  · exact made.some_of_error fault herror

theorem MadeOf.fromParts_eq_ok_iff (made : MadeOf faults whole) :
    fromParts names faults whole = .ok a ↔ whole = .ok a := by
  constructor
  · intro hok
    rw [fromParts] at hok
    split at hok
    · cases hok
    · exact hok
  · intro hok
    rw [fromParts_of_no_faults (made.none_of_ok a hok), hok]

end FromParts

theorem lookup_keyed (entries : List (String × Setting)) (name : String) :
    (entries.map fun (name, s) => (name, KeyPart.name name, s)).lookup name =
      (entries.lookup name).map fun s => (KeyPart.name name, s) := by
  induction entries with
  | nil => rfl
  | cons e rest ih =>
    obtain ⟨n, v⟩ := e
    rw [List.map_cons]
    by_cases hname : name = n
    · rw [hname, List.lookup_cons_self, List.lookup_cons_self]
      rfl
    · rw [lookup_cons_of_ne hname, lookup_cons_of_ne hname, ih]

end Parts

end Setting

/-! ## The fields -/

namespace Settings

/-- A field of the settings. -/
structure Field where
  title : String
  name : String
  Value : Type
  convert : Setting → Except SettingsFault Value
  get : Settings → Value

/-- All fields of the settings. -/
def fields : List Field :=
  [⟨"server", "host", String, Setting.toText, fun s => s.server.host⟩,
    ⟨"server", "port", Nat, Setting.toPort, fun s => s.server.port⟩,
    ⟨"websocket", "read_buffer_size", Nat, Setting.toNumber, fun s => s.websocket.readBufferSize⟩,
    ⟨"websocket", "write_buffer_size", Nat, Setting.toNumber, fun s => s.websocket.writeBufferSize⟩,
    ⟨"websocket", "allowed_origins", List String, Setting.toTexts,
      fun s => s.websocket.allowedOrigins⟩,
    ⟨"websocket", "read_timeout_ms", Nat, Setting.toNumber, fun s => s.websocket.readTimeout⟩,
    ⟨"websocket", "write_timeout_ms", Nat, Setting.toNumber, fun s => s.websocket.writeTimeout⟩,
    ⟨"websocket", "heartbeat_interval_ms", Nat, Setting.toNumber, fun s => s.websocket.heartbeat⟩,
    ⟨"websocket", "max_message_size", Nat, Setting.toNumber, fun s => s.websocket.maxMessageSize⟩,
    ⟨"websocket", "queue_capacity", Nat, Setting.toNumber, fun s => s.websocket.queueCapacity⟩,
    ⟨"logging", "level", String, Setting.toText, fun s => s.logging.level⟩,
    ⟨"logging", "json", Bool, Setting.toFlag, fun s => s.logging.json⟩]

/-- The titles of the sections. -/
def titles : List String := ["server", "websocket", "logging"]

theorem title_mem : ∀ f ∈ fields, f.title ∈ titles := by
  simp [fields, titles]

/-- Why the field cannot be converted from what a section has there, if so. -/
def Field.faultIn (f : Field) (s : Setting) : Option SettingsFault :=
  Setting.fault? <|
    Setting.convertPart f.name f.convert (f.get {}) ((s.get? f.name).map Setting.face)

/-- Why the field cannot be converted from what is given for it, if so: what is told then. -/
def Field.faultOf (f : Field) (given : Option Setting) : Option SettingsFault :=
  (Setting.fault? (Setting.convertPart f.name f.convert (f.get {}) given)).map
    (·.within (.name f.title))

/-- The field has the value that is converted from what is given for it, or its default. -/
def Field.ComesTo (f : Field) (s : Settings) (given : Option Setting) : Prop :=
  Setting.ComesTo f.convert (f.get {}) (f.get s) given

end Settings

namespace Setting

open Settings

/-! ## Sections -/

section Sections

variable {s : Setting}

/-- What a section has under a name, as far as it is told. -/
def fieldOf (s : Setting) (name : String) : Option Setting := (s.get? name).map face

theorem part_fieldOf {α : Type} {convert : Setting → Except SettingsFault α}
    {entries : List (String × Setting)} (hs : (table none entries).Section)
    (asks : AsksFace convert) (name : String) (default : α) :
    part (entries.map fun (name, s) => (name, KeyPart.name name, s)) name convert default =
      convertPart name convert default ((table none entries).fieldOf name) := by
  have hget : (table none entries).get? name = entries.lookup name := rfl
  rw [part, lookup_keyed, fieldOf, hget]
  cases hv : entries.lookup name with
  | none => rfl
  | some v => exact congrArg (Except.mapError _) (asks v (hs.bare name v hv)).symm

variable (r : SettingsReader)

theorem toServer_eq (hs : s.Section) :
    let host := convertPart "host" toText "0.0.0.0" (s.fieldOf "host")
    let port := convertPart "port" toPort 8081 (s.fieldOf "port")
    s.toServer r = fromParts (s.namesIn r ["server"])
      [("host", fault? host), ("port", fault? port)] do
        return { host := ← host, port := ← port } := by
  obtain ⟨entries, rfl⟩ := hs.gathered
  rw [← part_fieldOf hs asksFace_toText, ← part_fieldOf hs asksFace_toPort]
  rfl

theorem toSocket_eq (hs : s.Section) :
    let number (name : String) (default : Nat) :=
      convertPart name toNumber default (s.fieldOf name)
    let allowedOrigins := convertPart "allowed_origins" toTexts [] (s.fieldOf "allowed_origins")
    s.toSocket r = fromParts (s.namesIn r ["websocket"])
      [("read_buffer_size", fault? (number "read_buffer_size" 1024)),
        ("write_buffer_size", fault? (number "write_buffer_size" 1024)),
        ("allowed_origins", fault? allowedOrigins),
        ("read_timeout_ms", fault? (number "read_timeout_ms" 60000)),
        ("write_timeout_ms", fault? (number "write_timeout_ms" 10000)),
        ("heartbeat_interval_ms", fault? (number "heartbeat_interval_ms" 54000)),
        ("max_message_size", fault? (number "max_message_size" 65536)),
        ("queue_capacity", fault? (number "queue_capacity" 256))] do
        return {
          readBufferSize := ← number "read_buffer_size" 1024
          writeBufferSize := ← number "write_buffer_size" 1024
          allowedOrigins := ← allowedOrigins
          readTimeout := ← number "read_timeout_ms" 60000
          writeTimeout := ← number "write_timeout_ms" 10000
          heartbeat := ← number "heartbeat_interval_ms" 54000
          maxMessageSize := ← number "max_message_size" 65536
          queueCapacity := ← number "queue_capacity" 256 } := by
  obtain ⟨entries, rfl⟩ := hs.gathered
  simp only [← part_fieldOf hs asksFace_toNumber, ← part_fieldOf hs asksFace_toTexts]
  rfl

theorem toLogging_eq (hs : s.Section) :
    let level := convertPart "level" toText "info" (s.fieldOf "level")
    let json := convertPart "json" toFlag false (s.fieldOf "json")
    s.toLogging r = fromParts (s.namesIn r ["logging"])
      [("level", fault? level), ("json", fault? json)] do
        return { level := ← level, json := ← json } := by
  obtain ⟨entries, rfl⟩ := hs.gathered
  rw [← part_fieldOf hs asksFace_toText, ← part_fieldOf hs asksFace_toFlag]
  rfl

theorem toServer_eq_ok_iff (hs : s.Section) {v : ServerSettings} : s.toServer r = .ok v ↔
    ComesTo toText "0.0.0.0" v.host (s.fieldOf "host") ∧
      ComesTo toPort 8081 v.port (s.fieldOf "port") := by
  rw [toServer_eq r hs, (MadeOf.bind fun _ => .bind fun _ => madeOf_pure _).fromParts_eq_ok_iff]
  simp only [bind_eq_ok_iff, convertPart_eq_ok_iff]
  constructor
  · rintro ⟨host, hhost, port, hport, heq⟩
    cases heq
    exact ⟨hhost, hport⟩
  · rintro ⟨hhost, hport⟩
    exact ⟨_, hhost, _, hport, rfl⟩

theorem toSocket_eq_ok_iff (hs : s.Section) {v : SocketConfig} : s.toSocket r = .ok v ↔
    ComesTo toNumber 1024 v.readBufferSize (s.fieldOf "read_buffer_size") ∧
      ComesTo toNumber 1024 v.writeBufferSize (s.fieldOf "write_buffer_size") ∧
      ComesTo toTexts [] v.allowedOrigins (s.fieldOf "allowed_origins") ∧
      ComesTo toNumber 60000 v.readTimeout (s.fieldOf "read_timeout_ms") ∧
      ComesTo toNumber 10000 v.writeTimeout (s.fieldOf "write_timeout_ms") ∧
      ComesTo toNumber 54000 v.heartbeat (s.fieldOf "heartbeat_interval_ms") ∧
      ComesTo toNumber 65536 v.maxMessageSize (s.fieldOf "max_message_size") ∧
      ComesTo toNumber 256 v.queueCapacity (s.fieldOf "queue_capacity") := by
  rw [toSocket_eq r hs, (MadeOf.bind fun _ => .bind fun _ => .bind fun _ => .bind fun _ =>
    .bind fun _ => .bind fun _ => .bind fun _ => .bind fun _ => madeOf_pure _).fromParts_eq_ok_iff]
  simp only [bind_eq_ok_iff, convertPart_eq_ok_iff]
  constructor
  · rintro ⟨_, h₁, _, h₂, _, h₃, _, h₄, _, h₅, _, h₆, _, h₇, _, h₈, heq⟩
    cases heq
    exact ⟨h₁, h₂, h₃, h₄, h₅, h₆, h₇, h₈⟩
  · rintro ⟨h₁, h₂, h₃, h₄, h₅, h₆, h₇, h₈⟩
    exact ⟨_, h₁, _, h₂, _, h₃, _, h₄, _, h₅, _, h₆, _, h₇, _, h₈, rfl⟩

theorem toLogging_eq_ok_iff (hs : s.Section) {v : LogSettings} : s.toLogging r = .ok v ↔
    ComesTo toText "info" v.level (s.fieldOf "level") ∧
      ComesTo toFlag false v.json (s.fieldOf "json") := by
  rw [toLogging_eq r hs, (MadeOf.bind fun _ => .bind fun _ => madeOf_pure _).fromParts_eq_ok_iff]
  simp only [bind_eq_ok_iff, convertPart_eq_ok_iff]
  constructor
  · rintro ⟨level, hlevel, json, hjson, heq⟩
    cases heq
    exact ⟨hlevel, hjson⟩
  · rintro ⟨hlevel, hjson⟩
    exact ⟨_, hlevel, _, hjson, rfl⟩

/-! ## Faults of sections -/

/-- The faults of a section are those of its fields. -/
theorem exists_field_of_mem_faults {title : String} {fault : SettingsFault}
    {faults : List (String × Option SettingsFault)}
    (hfault : ∃ e ∈ faults, e.2 = some fault)
    (hfaults : faults = (fields.filter (·.title = title)).map fun f => (f.name, f.faultIn s)) :
    ∃ f ∈ fields, f.title = title ∧ f.faultIn s = some fault := by
  obtain ⟨e, he, hfault⟩ := hfault
  rw [hfaults] at he
  obtain ⟨f, hf, rfl⟩ := List.mem_map.mp he
  obtain ⟨hf, htitle⟩ := List.mem_filter.mp hf
  exact ⟨f, hf, of_decide_eq_true htitle, hfault⟩

theorem exists_field_of_toServer {fault : SettingsFault} (hs : s.Section)
    (herror : s.toServer r = .error fault) :
    ∃ f ∈ fields, f.title = "server" ∧ f.faultIn s = some fault := by
  rw [toServer_eq r hs] at herror
  have hfault := (MadeOf.bind fun _ => .bind fun _ => madeOf_pure _).exists_fault herror
  exact exists_field_of_mem_faults hfault rfl

theorem exists_field_of_toSocket {fault : SettingsFault} (hs : s.Section)
    (herror : s.toSocket r = .error fault) :
    ∃ f ∈ fields, f.title = "websocket" ∧ f.faultIn s = some fault := by
  rw [toSocket_eq r hs] at herror
  have hfault := (MadeOf.bind fun _ => .bind fun _ => .bind fun _ => .bind fun _ =>
    .bind fun _ => .bind fun _ => .bind fun _ => .bind fun _ => madeOf_pure _).exists_fault herror
  exact exists_field_of_mem_faults hfault rfl

theorem exists_field_of_toLogging {fault : SettingsFault} (hs : s.Section)
    (herror : s.toLogging r = .error fault) :
    ∃ f ∈ fields, f.title = "logging" ∧ f.faultIn s = some fault := by
  rw [toLogging_eq r hs] at herror
  have hfault := (MadeOf.bind fun _ => .bind fun _ => madeOf_pure _).exists_fault herror
  exact exists_field_of_mem_faults hfault rfl

end Sections

variable {root : Setting}

/-- A section of a tree, empty if it is not there. -/
def sectionOf (root : Setting) (title : String) : Setting := (root.get? title).getD emptyTable

theorem field?_eq (root : Setting) (title name : String) :
    root.field? title name = (root.sectionOf title).fieldOf name := by
  rw [field?, sectionOf]
  cases root.get? title <;> rfl

theorem Gathered.section_sectionOf (gathered : Gathered titles root) (title : String)
    (htitle : title ∈ titles) : (root.sectionOf title).Section := by
  rw [sectionOf]
  cases hs : root.get? title with
  | none => exact section_emptyTable
  | some s => exact gathered.sections title htitle s hs

/-- A section that is not there is converted as an empty one. -/
theorem part_section {α : Type} {convert : Setting → Except SettingsFault α} {default : α}
    (hempty : convert emptyTable = .ok default) (entries : List (String × Setting))
    (title : String) :
    part (entries.map fun (name, s) => (name, KeyPart.name name, s)) title convert default =
      (convert ((table none entries).sectionOf title)).mapError (·.within (.name title)) := by
  rw [part, lookup_keyed, sectionOf, get?, Setting.entries]
  cases entries.lookup title with
  | none =>
    rw [Option.getD_none, hempty]
    rfl
  | some s => rfl

theorem toSettings_eq (r : SettingsReader) (gathered : root.IsGathered) :
    let server := ((root.sectionOf "server").toServer r).mapError (·.within (.name "server"))
    let websocket :=
      ((root.sectionOf "websocket").toSocket r).mapError (·.within (.name "websocket"))
    let logging := ((root.sectionOf "logging").toLogging r).mapError (·.within (.name "logging"))
    root.toSettings r = fromParts (root.namesIn r [])
      [("server", fault? server), ("websocket", fault? websocket), ("logging", fault? logging)] do
        return { server := ← server, websocket := ← websocket, logging := ← logging } := by
  obtain ⟨entries, rfl⟩ := gathered
  have hserver : emptyTable.toServer r = .ok {} :=
    (toServer_eq_ok_iff r section_emptyTable).mpr ⟨rfl, rfl⟩
  have hsocket : emptyTable.toSocket r = .ok {} :=
    (toSocket_eq_ok_iff r section_emptyTable).mpr ⟨rfl, rfl, rfl, rfl, rfl, rfl, rfl, rfl⟩
  have hlogging : emptyTable.toLogging r = .ok {} :=
    (toLogging_eq_ok_iff r section_emptyTable).mpr ⟨rfl, rfl⟩
  rw [← part_section hserver, ← part_section hsocket, ← part_section hlogging]
  rfl

/-- **The settings that a tree comes to**, in whatever way its tables are gone through. -/
theorem toSettings_eq_ok_iff (r : SettingsReader) (gathered : Gathered titles root)
    {s : Settings} :
    root.toSettings r = .ok s ↔ ∀ f ∈ fields, f.ComesTo s (root.field? f.title f.name) := by
  have hserver := gathered.section_sectionOf "server" (by simp [titles])
  have hsocket := gathered.section_sectionOf "websocket" (by simp [titles])
  have hlogging := gathered.section_sectionOf "logging" (by simp [titles])
  rw [toSettings_eq r gathered.gathered,
    (MadeOf.bind fun _ => .bind fun _ => .bind fun _ => madeOf_pure _).fromParts_eq_ok_iff]
  simp only [bind_eq_ok_iff, mapError_eq_ok_iff, toServer_eq_ok_iff r hserver,
    toSocket_eq_ok_iff r hsocket, toLogging_eq_ok_iff r hlogging, fields, List.forall_mem_cons,
    field?_eq, Field.ComesTo]
  constructor
  · rintro ⟨_, ⟨hhost, hport⟩, _, ⟨h₁, h₂, h₃, h₄, h₅, h₆, h₇, h₈⟩, _, ⟨hlevel, hjson⟩, heq⟩
    cases heq
    exact ⟨hhost, hport, h₁, h₂, h₃, h₄, h₅, h₆, h₇, h₈, hlevel, hjson,
      fun _ hf => absurd hf List.not_mem_nil⟩
  · rintro ⟨hhost, hport, h₁, h₂, h₃, h₄, h₅, h₆, h₇, h₈, hlevel, hjson, -⟩
    exact ⟨_, ⟨hhost, hport⟩, _, ⟨h₁, h₂, h₃, h₄, h₅, h₆, h₇, h₈⟩, _, ⟨hlevel, hjson⟩, rfl⟩

/-- The fault of a section is told with its title. -/
theorem exists_field_of_section {α : Type} {title : String} {part : Except SettingsFault α}
    {fault : SettingsFault}
    (hpart : ∀ inner, part = .error inner →
      ∃ f ∈ fields, f.title = title ∧ f.faultIn (root.sectionOf title) = some inner)
    (hfault : part.mapError (·.within (.name title)) = .error fault) :
    ∃ f ∈ fields, f.faultOf (root.field? f.title f.name) = some fault := by
  cases part with
  | ok a => cases hfault
  | error inner =>
    obtain ⟨f, hf, rfl, hinner⟩ := hpart inner rfl
    refine ⟨f, hf, ?_⟩
    rw [field?_eq, Field.faultOf]
    have hsame : f.faultIn (root.sectionOf f.title) = fault?
        (convertPart f.name f.convert (f.get {}) ((root.sectionOf f.title).fieldOf f.name)) := rfl
    rw [← hsame, hinner]
    exact congrArg some (Except.error.inj hfault)

/-- **A tree that comes to no settings** tells the fault of a field that cannot be converted. -/
theorem exists_fault_of_toSettings {r : SettingsReader} (gathered : Gathered titles root)
    {fault : SettingsFault} (herror : root.toSettings r = .error fault) :
    ∃ f ∈ fields, f.faultOf (root.field? f.title f.name) = some fault := by
  have hserver := gathered.section_sectionOf "server" (by simp [titles])
  have hsocket := gathered.section_sectionOf "websocket" (by simp [titles])
  have hlogging := gathered.section_sectionOf "logging" (by simp [titles])
  rw [toSettings_eq r gathered.gathered] at herror
  have hfault :=
    (MadeOf.bind fun _ => .bind fun _ => .bind fun _ => madeOf_pure _).exists_fault herror
  simp only [List.mem_cons, List.not_mem_nil, or_false, exists_eq_or_imp, exists_eq_left,
    fault?_eq_some_iff] at hfault
  rcases hfault with h | h | h
  · exact exists_field_of_section (fun _ => exists_field_of_toServer r hserver) h
  · exact exists_field_of_section (fun _ => exists_field_of_toSocket r hsocket) h
  · exact exists_field_of_section (fun _ => exists_field_of_toLogging r hlogging) h

end Setting

end Switchboard
