import Switchboard.Text.Quoted
import Switchboard.Toml.Fault
import Switchboard.Toml.Value

/-!
# Tables under construction

A table of a document may be begun by a header, by the header of a table within it, or by a key of
several parts, and grows as the document is read; which of these it was decides what may still be
added to it. A list of tables grows by its own headers.
-/

namespace Switchboard.Toml

/-- How a table was begun. -/
inductive Made where
  | header
  /-- By the header of a table within it. -/
  | passing
  /-- By a key of several parts. -/
  | dotted
  deriving DecidableEq, Repr

/-- What stands under a key of a table under construction. -/
inductive Node where
  | value (v : Toml)
  | table (made : Made) (entries : List (String × Node))
  /-- Tables with one header for each, the latest first. -/
  | tables (items : List (List (String × Node)))
  deriving Inhabited

namespace Node

/-- The entries of a table under construction. -/
abbrev Entries := List (String × Node)

/-- Put a node under a key, in the place of the one that is there or at the end. -/
def put (key : String) (n : Node) : Entries → Entries
  | [] => [(key, n)]
  | (k, m) :: rest => if k = key then (key, n) :: rest else (k, m) :: put key n rest

/-- A path of keys as text. -/
def pathText (path : List String) : String := ".".intercalate path

/-- The cause of a key that is given again in a table. -/
def duplicate (key : String) (path : Option (List String)) : Cause :=
  let place := match path with
    | none => ""
    | some [] => " in document root"
    | some path => s!" in table `{pathText path}`"
  { reason := some (s!"duplicate key `{key}`" ++ place) }

/-- Whether a character may stand in a key without quotes. -/
def isKeyChar (c : Char) : Bool := c.isAlphanum || c = '_' || c = '-'

/-- The cause of a header that begins a table again. It shows the key between quotes. -/
def duplicateTable (key : String) (path : List String) : Cause :=
  duplicate (Quoted.quote key) (some path)

/-- The cause of a path through what is no table. -/
def notTable (path : List String) (typeName : String) : Cause :=
  { reason :=
      some s!"dotted key `{pathText path}` attempted to extend non-table type ({typeName})" }

/-- Change the table at the end of a path, tables being begun where there are none. `seen` is the
path so far, the latest key first; `dotted` tells whether a key or a header leads here. -/
def within (dotted : Bool) (f : Made → Entries → Except Cause Entries) (seen : List String) :
    List String → Made → Entries → Except Cause Entries
  | [], made, entries => f made entries
  | key :: path, _, entries => do
    let made := if dotted then Made.dotted else .passing
    match entries.lookup key with
    | none =>
      let inner ← within dotted f (key :: seen) path made []
      return put key (.table made inner) entries
    | some (.value v) => throw (notTable (key :: seen).reverse v.typeName)
    | some (.table old inner) =>
      if dotted && old = .header then throw (duplicate key none)
      else
        let inner ← within dotted f (key :: seen) path old inner
        return put key (.table old inner) entries
    | some (.tables []) => return entries
    | some (.tables (last :: before)) =>
      let last ← within dotted f (key :: seen) path .header last
      return put key (.tables (last :: before)) entries

/-- Begin the table of a header. -/
def beginTable (path : List String) (key : String) : Entries → Except Cause Entries :=
  let start (_ : Made) (entries : Entries) : Except Cause Entries :=
    match entries.lookup key with
    | none => .ok (put key (.table .header []) entries)
    | some (.table .passing inner) => .ok (put key (.table .header inner) entries)
    | some _ => .error (duplicateTable key path)
  within false start [] path .header

/-- Begin the next table of a list. -/
def beginItem (path : List String) (key : String) : Entries → Except Cause Entries :=
  let start (_ : Made) (entries : Entries) : Except Cause Entries :=
    match entries.lookup key with
    | none => .ok (put key (.tables [[]]) entries)
    | some (.tables items) => .ok (put key (.tables ([] :: items)) entries)
    | some _ => .error (duplicateTable key path)
  within false start [] path .header

/-- Put a value under a key of the table at `path`, `steps` being the parts of the key before the
last. -/
def assign (path steps : List String) (key : String) (v : Toml) : Entries → Except Cause Entries :=
  let set (made : Made) (entries : Entries) : Except Cause Entries :=
    if !steps.isEmpty && made ≠ .dotted then .error (duplicate key none)
    else if (entries.lookup key).isSome then .error (duplicate key (some path))
    else .ok (put key (.value v) entries)
  within false (fun made entries => within true set [] steps made entries) [] path .header

/-- The first part of a key that is an inline table which is complete. -/
def completeStep? : (steps : List String) → Entries → Option String
  | [], _ => none
  | step :: steps, entries =>
    match entries.lookup step with
    | some (.value (.table _)) => some step
    | some (.table _ inner) => completeStep? steps inner
    | _ => none

/-- Put a value under a key of an inline table, `steps` being the parts of the key before the last.
An inline table within it that is complete takes no more keys. -/
def assignInline (steps : List String) (key : String) (v : Toml) (entries : Entries) :
    Except Cause Entries :=
  let set (_ : Made) (entries : Entries) : Except Cause Entries :=
    if (entries.lookup key).isSome then .error (duplicate key none)
    else .ok (put key (.value v) entries)
  match completeStep? steps entries with
  | some step => .error (duplicate step none)
  | none => within true set [] steps .dotted entries

mutual

/-- A node as a value. -/
def toToml : Node → Toml
  | .value v => v
  | .table _ entries => .table (entryValues entries)
  | .tables items => .array (tableValues items).reverse

/-- Entries as values. -/
def entryValues : List (String × Node) → List (String × Toml)
  | [] => []
  | (key, n) :: rest => (key, toToml n) :: entryValues rest

/-- Tables as values. -/
def tableValues : List (List (String × Node)) → List Toml
  | [] => []
  | entries :: rest => .table (entryValues entries) :: tableValues rest

end

end Node

end Switchboard.Toml
