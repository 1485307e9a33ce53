import Switchboard.Decimal.Shortest
import Switchboard.Text.Quoted

/-!
# Why settings cannot be loaded

A value may be of a type that its setting cannot be converted from: the fault then names what was
found, what was expected, and where, as far as that is known. A file may not be readable in its
format. `SettingsFault.message` words all of them.
-/

namespace Switchboard

/-- What was found in the place of what was expected. -/
inductive Found where
  | nothing
  | bool (b : Bool)
  | signed (i : Int)
  | unsigned (n : Nat)
  | real (x : Binary64)
  | text (s : String)
  | sequence
  | map
  deriving DecidableEq, Repr

namespace Found

/-- The wording of what was found, with the width of an integer. -/
def detail : Found → String
  | .nothing => "unit value"
  | .bool b => s!"boolean `{b}`"
  | .signed i => s!"64-bit integer `{i}`"
  | .unsigned n => s!"64-bit unsigned integer `{n}`"
  | .real x => s!"floating point `{x.plain}`"
  | .text s => s!"string {Quoted.quote s}"
  | .sequence => "sequence"
  | .map => "map"

/-- A number that is written with a point if it is finite. -/
def pointed (x : Binary64) : String :=
  let s := x.plain
  if x matches .finite .. then (if s.toList.contains '.' then s else s ++ ".0") else s

/-- The wording of what was found, without the width of an integer. -/
def summary : Found → String
  | .signed i => s!"integer `{i}`"
  | .unsigned n => s!"integer `{n}`"
  | .real x => s!"floating point `{pointed x}`"
  | f => f.detail

end Found

/-- A step from a setting into one of its parts. -/
inductive KeyPart where
  | name (s : String)
  | index (i : Nat)
  deriving DecidableEq, Repr

/-- The wording of the way to a setting: names joined by points, places in brackets. -/
def KeyPart.path : List KeyPart → String
  | [] => ""
  | .index i :: rest => s!"[{i}]" ++ path rest
  | .name s :: rest =>
    match rest with
    | .name _ :: _ => s ++ "." ++ path rest
    | _ => s ++ path rest

/-- Why settings cannot be loaded. -/
inductive SettingsFault where
  | other (reason : String)
  | missing (key : String)
  | frozen
  /-- A value that cannot be converted; `key` leads to it and `origin` is where it comes from. -/
  | mismatch (found : Found) (expected : String) (key : List KeyPart) (origin : Option String)
  /-- A value that is not made of the right parts. -/
  | shapeless (found : Found) (expected : String)
  /-- A file that is not in its format. -/
  | unreadable (reason file : String)
  deriving DecidableEq, Repr

namespace SettingsFault

/-- The wording of a fault in the settings. -/
def message : SettingsFault → String
  | .other reason => reason
  | .missing key => s!"configuration property {Quoted.quote key} not found"
  | .frozen => "configuration is frozen"
  | .mismatch found expected key origin =>
    s!"invalid type: {found.detail}, expected {expected}" ++
      (if key.isEmpty then "" else s!" for key `{KeyPart.path key}`") ++
      origin.elim "" fun o => s!" in {o}"
  | .shapeless found expected => s!"invalid type: {found.summary}, expected {expected}"
  | .unreadable reason file => s!"{reason} in {file}"

/-- A fault that was found in the given part of a setting. -/
def within (part : KeyPart) : SettingsFault → SettingsFault
  | .mismatch found expected key origin => .mismatch found expected (part :: key) origin
  | f => f

end SettingsFault

end Switchboard
