import Switchboard.Decimal.Reader
import Switchboard.Settings.Tree
import Switchboard.Text.Ascii
import Switchboard.Text.Cut

/-!
# Settings from the environment

A variable whose name begins with `ARA_` gives a setting; the rest of the name is its path, with two
underscores between the parts. Names do not depend on case, and of several variables that spell one
name the last counts. The value is taken for yes or no, a whole number, a real number, or a text,
whichever comes first; the setting that is a list has its items between commas.
-/

namespace Switchboard

/-- Variables and their values. -/
abbrev Environment := List (String × String)

namespace Environment

/-- The variables of a block, in which each ends with a null character and has an equals sign after
its name. -/
def ofBlock (block : String) : Environment :=
  (Cut.pieces '\x00' block).filterMap fun entry =>
    let cs := entry.toList
    let name := cs.takeWhile (· ≠ '=')
    if name.length = cs.length then none
    else some (.ofList name, .ofList (cs.drop (name.length + 1)))

/-- Where values from the environment come from. -/
def origin : String := "the environment"

/-- What the names of variables begin with, in lower case. -/
def namePrefix : List Char := "ara_".toList

/-- Put points in the place of pairs of underscores. -/
def pointed : List Char → List Char
  | '_' :: '_' :: rest => '.' :: pointed rest
  | c :: rest => c :: pointed rest
  | [] => []

/-- The name of the setting that a variable gives, if it gives one. -/
def settingName? (varName : String) : Option String :=
  let name := (Lowercase.lower varName).toList
  if namePrefix.isPrefixOf name then some (.ofList (pointed (name.drop namePrefix.length)))
  else none

/-- The setting whose value is a list. -/
def listName : String := "websocket.allowed_origins"

/-- The value of the setting with the given name. -/
def value (name text : String) : Setting :=
  let scalar (v : Scalar) : Setting := .scalar (some origin) v
  let cs := text.toList
  let word := Ascii.lower text
  if word = "true" then scalar (.bool true)
  else if word = "false" then scalar (.bool false)
  else
    match Decimal.integer? cs, Decimal.real? cs with
    | some i, _ => scalar (.integer i)
    | none, some x => scalar (.real x)
    | none, none =>
      if name = listName then
        .list (some origin) ((Cut.pieces ',' text).map fun s => scalar (.text s))
      else scalar (.text text)

/-- The settings that the variables of an environment give, one after another. -/
def entries (env : Environment) : List (String × Setting) :=
  env.filterMap fun (varName, text) =>
    (settingName? varName).map fun name => (name, value name text)

/-- A table of some entries: of several under one name the last is kept. -/
def collect (entries : List (String × Setting)) : List (String × Setting) :=
  entries.foldl (fun kept (name, value) => Setting.putEntry name value kept) []

/-- The settings that an environment gives. -/
def layer (env : Environment) : List (String × Setting) := collect (entries env)

end Environment

end Switchboard
