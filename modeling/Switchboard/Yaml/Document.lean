import Switchboard.Yaml.Node

/-!
# Reading YAML

A text holds one document at most; without any it is an empty mapping.
-/

namespace Switchboard.Yaml

/-- The documents of a text. -/
def documents (text : List Char) : Except Fault (List Yaml) := do
  let (tokens, fault) := tokens text
  let outline : Outline := { tokens := tokens.tail, fault }
  let (found, outline) ← (Build.documents (tokens.length + 1) true []).run outline
  match outline.repeated with
  | some fault => throw fault
  | none => return found

/-- The value that a text holds, or the wording of what is wrong with it. -/
def parse (s : String) : Except String Yaml :=
  match documents s.toList with
  | .error fault => .error fault.message
  | .ok [] => .ok (.mapping [])
  | .ok [v] => .ok v
  | .ok found => .error s!"Got {found.length} YAML documents, expected 1"

end Switchboard.Yaml
