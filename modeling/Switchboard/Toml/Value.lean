import Switchboard.Decimal.Binary64

/-!
# TOML values

A document is a table. Dates and times are kept as text in one form.
-/

namespace Switchboard

/-- A TOML value. -/
inductive Toml where
  | text (s : String)
  | integer (i : Int)
  | real (x : Binary64)
  | bool (b : Bool)
  /-- A date, a time or both. -/
  | moment (s : String)
  | array (items : List Toml)
  | table (entries : List (String × Toml))
  deriving Repr, Inhabited

namespace Toml

/-- The name of the type of a value. -/
def typeName : Toml → String
  | .text _ => "string"
  | .integer _ => "integer"
  | .real _ => "float"
  | .bool _ => "boolean"
  | .moment _ => "datetime"
  | .array _ => "array"
  | .table _ => "inline table"

end Toml

end Switchboard
