import Switchboard.Decimal.Reader
import Switchboard.Settings.Fault
import Switchboard.Text.Lowercase

/-!
# Trees of settings

Settings are gathered in a tree whose tables have names for their parts; names are in lower case.
Each value knows where it comes from, if it was written somewhere and not made by gathering.

`Setting.assign` lays a value over what is under a name: a table is merged into a table, name by
name, and everything else, lists included, takes the place of what was there. Tables are merged in
the order in which their entries are listed; it is not the order in which they were written, but one
that the reader of settings chooses before (`SettingsReader.order`).
-/

namespace Switchboard

/-- A value that has no parts. -/
inductive Scalar where
  | null
  | bool (b : Bool)
  | integer (i : Int)
  | real (x : Binary64)
  | text (s : String)
  deriving DecidableEq, Repr, Inhabited

/-- A tree of settings. -/
inductive Setting where
  | scalar (origin : Option String) (value : Scalar)
  | list (origin : Option String) (items : List Setting)
  | table (origin : Option String) (entries : List (String × Setting))
  deriving Repr, Inhabited

namespace Setting

/-- A value that was made by gathering and is not set. -/
def unset : Setting := .scalar none .null

/-- A table that was made by gathering. -/
def emptyTable : Setting := .table none []

/-- The entries of a table; no other value has any. -/
def entries : Setting → List (String × Setting)
  | .table _ entries => entries
  | _ => []

/-- Where a value comes from. -/
def origin : Setting → Option String
  | .scalar origin _ => origin
  | .list origin _ => origin
  | .table origin _ => origin

/-- What a value is found to be. -/
def found : Setting → Found
  | .scalar _ .null => .nothing
  | .scalar _ (.bool b) => .bool b
  | .scalar _ (.integer i) => .signed i
  | .scalar _ (.real x) => .real x
  | .scalar _ (.text s) => .text s
  | .list _ _ => .sequence
  | .table _ _ => .map

/-- The value under a name. -/
def get? (s : Setting) (name : String) : Option Setting := s.entries.lookup name

/-- Put a value under a name, in the place of the one that is there or at the end. -/
def putEntry (name : String) (value : Setting) : List (String × Setting) → List (String × Setting)
  | [] => [(name, value)]
  | (n, v) :: rest =>
    if n = name then (name, value) :: rest else (n, v) :: putEntry name value rest

/-- A value as a table: what is not one gives way to an empty one. -/
def toTable : Setting → Setting
  | .table origin entries => .table origin entries
  | _ => emptyTable

/-- Put a value under a name of a table. -/
def put (s : Setting) (name : String) (value : Setting) : Setting :=
  .table s.toTable.origin (putEntry name value s.toTable.entries)

mutual

/-- Lay a value over what is under a name. -/
def assign (target : Setting) (name : String) : Setting → Setting
  | .table _ entries =>
    let name := Lowercase.lower name
    target.put name (assignAll ((target.get? name).getD emptyTable) entries)
  | .scalar origin value => target.put (Lowercase.lower name) (.scalar origin value)
  | .list origin items => target.put (Lowercase.lower name) (.list origin items)

/-- Lay values over what is under their names, one after another. -/
def assignAll (target : Setting) : List (String × Setting) → Setting
  | [] => target
  | (name, value) :: rest => assignAll (assign target name value) rest

end

end Setting

/-- A step from a setting into one of its parts. A place below zero counts from the end. -/
inductive SettingStep where
  | child (name : String)
  | item (place : Int)
  deriving DecidableEq, Repr

namespace SettingStep

/-- Whether a character may stand in a name within a path. -/
def isNameChar (c : Char) : Bool := c.isAlphanum || c = ' ' || c = '_' || c = '-'

/-- A place in brackets, after the opening one, and what follows it. -/
def place? (cs : List Char) : Option (Int × List Char) :=
  let isBlank (c : Char) : Bool := c = ' ' || c = '\t'
  let cs := cs.dropWhile isBlank
  let (negative, cs) := match cs with
    | '-' :: rest => (true, rest)
    | _ => (false, cs)
  let digits := cs.takeWhile Char.isDigit
  let limit := Nat.pow 2 63 - if negative then 0 else 1
  match (cs.dropWhile Char.isDigit).dropWhile isBlank, Decimal.natural? limit digits with
  | ']' :: rest, some n => some (if negative then -(n : Int) else n, rest)
  | _, _ => none

/-- The steps that a text spells after the first name, `fuel` at most. -/
def more? : (fuel : Nat) → List Char → Option (List SettingStep)
  | _, [] => some []
  | 0, _ => none
  | fuel + 1, '.' :: cs =>
    let name := cs.takeWhile isNameChar
    if name.isEmpty then none
    else (more? fuel (cs.dropWhile isNameChar)).map (.child (String.ofList name) :: ·)
  | fuel + 1, '[' :: cs =>
    match place? cs with
    | some (place, rest) => (more? fuel rest).map (.item place :: ·)
    | none => none
  | _, _ => none

/-- The steps that a name spells; a name that spells none is one step. -/
def ofName (name : String) : List SettingStep :=
  let cs := name.toList
  let first := cs.takeWhile isNameChar
  let steps := if first.isEmpty then none
    else (more? cs.length (cs.dropWhile isNameChar)).map (.child (String.ofList first) :: ·)
  steps.getD [.child name]

end SettingStep

namespace Setting

/-- A value as a list: what is not one gives way to an empty one. -/
def toItems : Setting → Option String × List Setting
  | .list origin items => (origin, items)
  | _ => (none, [])

/-- The place in a list of the given length that a number stands for. -/
def placeIn (length : Nat) (place : Int) : Nat :=
  if 0 ≤ place then place.toNat else length - place.natAbs

/-- Change the item at a place of a list, which is made longer if it has no such place. -/
def changeItem (items : List Setting) (i : Nat) (f : Setting → Setting) : List Setting :=
  (items ++ List.replicate (i + 1 - items.length) unset).modify i f

/-- Lay a value over what is at the end of a path. -/
def assignAt (value : Setting) : List SettingStep → Setting → Setting
  | [], _ => value
  | [.child name], s => s.toTable.assign name value
  | .child name :: step :: rest, s =>
    let s := s.toTable
    let name := Lowercase.lower name
    s.put name (assignAt value (step :: rest) ((s.get? name).getD unset))
  | .item place :: rest, s =>
    let (origin, items) := s.toItems
    .list origin (changeItem items (placeIn items.length place) (assignAt value rest))

/-- Lay a layer of settings over others. The name of a setting in the layer may be a path. -/
def overlay (base : Setting) (layer : List (String × Setting)) : Setting :=
  layer.foldl (fun s (name, value) => assignAt value (SettingStep.ofName name) s) base

end Setting

end Switchboard
