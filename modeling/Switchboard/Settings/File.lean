import Switchboard.Json.Reader
import Switchboard.Settings.Fault
import Switchboard.Settings.Reader
import Switchboard.Text.Cut
import Switchboard.Toml.Document
import Switchboard.Yaml.Document

/-!
# Files of settings

A file holds a table of settings in one of several formats, which its extension tells. A file is
asked for by a name: that of the file itself, or that without the extension; if there are files of
several formats then, which of them is meant is up to the reader of settings.
-/

namespace Switchboard

namespace Setting

mutual

/-- A JSON value as a setting. An integer that is too large for 63 bits is a real number. -/
def ofJson (origin : Option String) : Json → Setting
  | .null => .scalar origin .null
  | .bool b => .scalar origin (.bool b)
  | .integer i => .scalar origin (if i < Nat.pow 2 63 then .integer i else .real (.ofNat i.toNat))
  | .real x => .scalar origin (.real x)
  | .string s => .scalar origin (.text s)
  | .array items => .list origin (ofJsonItems origin items)
  | .object members => .table origin (ofJsonMembers origin members)

/-- The items of a JSON array as settings. -/
def ofJsonItems (origin : Option String) : List Json → List Setting
  | [] => []
  | v :: rest => ofJson origin v :: ofJsonItems origin rest

/-- The members of a JSON object as settings. -/
def ofJsonMembers (origin : Option String) : List (String × Json) → List (String × Setting)
  | [] => []
  | (name, v) :: rest => (name, ofJson origin v) :: ofJsonMembers origin rest

end

mutual

/-- A TOML value as a setting. A date or time is a text. -/
def ofToml (origin : Option String) : Toml → Setting
  | .text s => .scalar origin (.text s)
  | .integer i => .scalar origin (.integer i)
  | .real x => .scalar origin (.real x)
  | .bool b => .scalar origin (.bool b)
  | .moment s => .scalar origin (.text s)
  | .array items => .list origin (ofTomlItems origin items)
  | .table entries => .table origin (ofTomlEntries origin entries)

/-- The items of a TOML array as settings. -/
def ofTomlItems (origin : Option String) : List Toml → List Setting
  | [] => []
  | v :: rest => ofToml origin v :: ofTomlItems origin rest

/-- The entries of a TOML table as settings. -/
def ofTomlEntries (origin : Option String) : List (String × Toml) → List (String × Setting)
  | [] => []
  | (name, v) :: rest => (name, ofToml origin v) :: ofTomlEntries origin rest

end

mutual

/-- A YAML value as a setting. A real number has to be one for readers of numbers too, which do not
know the spellings with a point before a word. -/
def ofYaml (origin : Option String) : Yaml → Except String Setting
  | .null | .invalid => .ok (.scalar origin .null)
  | .bool b => .ok (.scalar origin (.bool b))
  | .integer i => .ok (.scalar origin (.integer i))
  | .real s =>
    match Decimal.real? s.toList with
    | some x => .ok (.scalar origin (.real x))
    | none => .error s!"Parsing {s} as floating point number failed"
  | .text s => .ok (.scalar origin (.text s))
  | .sequence items => (ofYamlItems origin items).map (.list origin)
  | .mapping entries => (ofYamlEntries origin entries).map (.table origin)

/-- The items of a YAML sequence as settings. -/
def ofYamlItems (origin : Option String) : List Yaml → Except String (List Setting)
  | [] => .ok []
  | v :: rest => do return (← ofYaml origin v) :: (← ofYamlItems origin rest)

/-- The entries of a YAML mapping as settings. Settings are named by texts and by whole numbers. -/
def ofYamlEntries (origin : Option String) :
    List (Yaml × Yaml) → Except String (List (String × Setting))
  | [] => .ok []
  | (.text name, v) :: rest => do
    return (name, ← ofYaml origin v) :: (← ofYamlEntries origin rest)
  | (.integer i, v) :: rest => do
    return (toString i, ← ofYaml origin v) :: (← ofYamlEntries origin rest)
  | _ :: rest => ofYamlEntries origin rest

end

end Setting

/-- A file of settings: its name, its format and its text. -/
structure SettingsFile where
  name : String
  format : FileFormat
  text : String
  deriving DecidableEq, Repr

namespace SettingsFile

/-- The settings that a file holds. -/
def layer (r : SettingsReader) (f : SettingsFile) :
    Except SettingsFault (List (String × Setting)) :=
  let read : Except String Setting := match f.format with
    | .json =>
      let bytes := Utf8.encode f.text
      ((Json.parse bytes).mapError (·.message bytes)).map (Setting.ofJson (some f.name))
    | .toml => (Toml.parse f.text).map (Setting.ofToml (some f.name))
    | .yaml => (Yaml.parse f.text).bind (Setting.ofYaml (some f.name))
    | format => r.others format f.name f.text
  match read.map (r.arrange [f.name]) with
  | .error reason => .error (.unreadable reason f.name)
  | .ok (.table _ entries) => .ok entries
  | .ok s =>
    .error (.unreadable (SettingsFault.mismatch s.found "a map" [] s.origin).message f.name)

/-! ## Names of files -/

/-- The parts of a name between slashes, without those that lead nowhere. -/
def parts (name : String) : List String :=
  (Cut.pieces '/' name).filter fun p => p ≠ "" && p ≠ "."

/-- A name in its shortest form. -/
def tidy (name : String) : String := "/".intercalate (parts name)

/-- The directory or file that the parts of a name lead to, steps back being taken. -/
def walk (name : String) : String :=
  let step (path : List String) (part : String) : List String :=
    if part = ".." then path.tail else part :: path
  "/".intercalate ((parts name).foldl step []).reverse

/-- The extension of a name, if it has one. -/
def extension? (name : String) : Option String :=
  match Cut.pieces '.' ((parts name).getLast?.getD "") with
  | [] | [_] | ["", _] => none
  | pieces => pieces.getLast?

/-- Whether a name can be that of a file. -/
def isFileName (name : String) : Bool :=
  match (Cut.pieces '/' name).getLast? with
  | some last => last ≠ "" && last ≠ "." && last ≠ ".."
  | none => false

/-- The names of the files that a name may ask for, the first that there is being meant. A file of
the name itself is meant even if its format is not known. -/
def candidates (r : SettingsReader) (name : String) : List (String × Option FileFormat) :=
  let exact := if isFileName name then
      [(tidy name, (extension? name).bind FileFormat.ofExtension?)]
    else []
  let extended := if (parts name).getLast?.getD ".." = ".." then []
    else r.formats.flatMap fun format =>
      format.extensions.map fun ext => (s!"{tidy name}.{ext}", some format)
  exact ++ extended

/-- The file that a name asks for, among files by name. -/
def find? (r : SettingsReader) (files : List (String × String)) (name : String) :
    Option SettingsFile :=
  let text? (name : String) : Option String :=
    (files.find? fun (n, _) => walk n = walk name).map Prod.snd
  match (candidates r name).find? fun (name, _) => (text? name).isSome with
  | some (name, some format) => (text? name).map fun text => { name, format, text }
  | _ => none

end SettingsFile

end Switchboard
