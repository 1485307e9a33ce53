import Switchboard.Settings.Tree

/-!
# Ways of reading settings

Settings are written in files of several formats and are kept in tables that have no order of their
own. How a program goes through them is not fixed: which format it looks for first, in which order
it comes across the entries of a table, and how it reads the formats of which nothing more is said
here. A `SettingsReader` is one such way; what is true of all of them does not depend on it.
-/

namespace Switchboard

/-- A format of files of settings. -/
inductive FileFormat where
  | json
  | toml
  | yaml
  | ini
  | ron
  | json5
  deriving DecidableEq, Repr

namespace FileFormat

/-- All formats. -/
def all : List FileFormat := [.json, .toml, .yaml, .ini, .ron, .json5]

/-- The extensions of the files of a format. -/
def extensions : FileFormat → List String
  | .json => ["json"]
  | .toml => ["toml"]
  | .yaml => ["yaml", "yml"]
  | .ini => ["ini"]
  | .ron => ["ron"]
  | .json5 => ["json5"]

/-- The format that an extension tells. -/
def ofExtension? (ext : String) : Option FileFormat := all.find? (·.extensions.contains ext)

end FileFormat

/-- A way of reading settings. -/
structure SettingsReader where
  /-- The formats, in the order in which files of them are looked for. -/
  formats : List FileFormat
  formats_perm : formats.Perm FileFormat.all
  /-- The entries of a table in the order in which they are gone through. Tables may differ in this;
  the way that leads to a table tells which it is, the last step first. -/
  order : List String → List (String × Setting) → List (String × Setting)
  order_perm : ∀ way entries, (order way entries).Perm entries
  /-- The settings that a file holds which is in INI, RON or JSON5, from its name and its text, or
  what is wrong with it. -/
  others : FileFormat → String → String → Except String Setting

namespace SettingsReader

mutual

/-- A tree of settings with the entries of its tables in the order in which they are gone through.
Nothing in a list depends on such an order. -/
def arrange (r : SettingsReader) (way : List String) : Setting → Setting
  | .table origin entries => .table origin (r.order way (arrangeEntries r way entries))
  | .list origin items => .list origin items
  | .scalar origin value => .scalar origin value

/-- The entries of a table, each with a value that is arranged. -/
def arrangeEntries (r : SettingsReader) (way : List String) :
    List (String × Setting) → List (String × Setting)
  | [] => []
  | (name, value) :: rest =>
    (name, arrange r (name :: way) value) :: arrangeEntries r way rest

end

/-- The way of reading that looks for the formats as they are listed and goes through tables as they
were written. It knows nothing of INI, RON and JSON5. -/
def standard : SettingsReader where
  formats := FileFormat.all
  formats_perm := .refl _
  order _ entries := entries
  order_perm _ _ := .refl _
  others _ _ _ := .error "files of this format cannot be read"

instance : Inhabited SettingsReader := ⟨standard⟩

end SettingsReader

end Switchboard
