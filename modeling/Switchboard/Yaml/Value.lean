import Switchboard.Decimal.Reader
import Switchboard.Text.Quoted
import Switchboard.Yaml.Token

/-!
# YAML values

A document is built from scalars, sequences and mappings. A scalar without quotes may stand for a
number, for yes or no, or for nothing: `Yaml.ofPlain` decides, or `Yaml.ofTagged` where a tag says
what it is. Real numbers are kept as they are written.
-/

namespace Switchboard

/-- A YAML value. -/
inductive Yaml where
  | null
  /-- What a tag does not fit, and what an alias stands for within its own node. -/
  | invalid
  | bool (b : Bool)
  | integer (i : Int)
  | real (s : String)
  | text (s : String)
  | sequence (items : List Yaml)
  | mapping (entries : List (Yaml × Yaml))
  deriving Repr, Inhabited

namespace Yaml

/-- The number that digits to a base spell after the two characters that announce it. -/
def based? (base : Nat) (cs : List Char) : Option Int :=
  let (negative, digits) := Decimal.sign cs
  if digits.isEmpty || !digits.all (fun c => (hexValue? c).any fun v => decide (v < base)) then none
  else
    let n := digits.foldl (fun n c => n * base + (hexValue? c).getD 0) 0
    let i : Int := if negative then -n else n
    if -(Nat.pow 2 63) ≤ i ∧ i < Nat.pow 2 63 then some i else none

/-- The whole number that a scalar spells. One with a plus sign may have a sign after it. -/
def integer? (cs : List Char) : Option Int :=
  let announced := match cs with
    | '0' :: 'x' :: rest => based? 16 rest
    | '0' :: 'o' :: rest => based? 8 rest
    | '+' :: rest => Decimal.integer? rest
    | _ => none
  announced <|> Decimal.integer? cs

/-- The spellings of what is infinite or no number, which count as real numbers. -/
def specialReals : List String :=
  [".inf", ".Inf", ".INF", "+.inf", "+.Inf", "+.INF", "-.inf", "-.Inf", "-.INF", ".nan", ".NaN",
    ".NAN"]

/-- Whether a scalar spells a real number. -/
def isReal (s : String) : Bool := specialReals.contains s || (Decimal.real? s.toList).isSome

/-- What a scalar without quotes stands for. -/
def ofPlain (s : String) : Yaml :=
  if s = "~" || s = "null" then .null
  else if s = "true" then .bool true
  else if s = "false" then .bool false
  else
    match integer? s.toList with
    | some i => .integer i
    | none => if isReal s then .real s else .text s

/-- What a scalar without quotes stands for that has a tag of the given name. -/
def ofTagged (name s : String) : Yaml :=
  match name with
  | "bool" => if s = "true" then .bool true else if s = "false" then .bool false else .invalid
  | "int" => ((Decimal.integer? s.toList).map integer).getD .invalid
  | "float" => if isReal s then .real s else .invalid
  | "null" => if s = "~" || s = "null" then .null else .invalid
  | _ => .text s

mutual

/-- Whether two values are the same. -/
def same : Yaml → Yaml → Bool
  | .null, .null => true
  | .invalid, .invalid => true
  | .bool a, .bool b => a = b
  | .integer a, .integer b => a = b
  | .real a, .real b => a = b
  | .text a, .text b => a = b
  | .sequence a, .sequence b => sameItems a b
  | .mapping a, .mapping b => sameEntries a b
  | _, _ => false

/-- Whether two lists of items are the same. -/
def sameItems : List Yaml → List Yaml → Bool
  | [], [] => true
  | v :: a, w :: b => same v w && sameItems a b
  | _, _ => false

/-- Whether two lists of entries are the same. -/
def sameEntries : List (Yaml × Yaml) → List (Yaml × Yaml) → Bool
  | [], [] => true
  | (k, v) :: a, (l, w) :: b => same k l && same v w && sameEntries a b
  | _, _ => false

end

mutual

/-- A value as it is shown in a fault. -/
def shown : Yaml → String
  | .null => "Null"
  | .invalid => "BadValue"
  | .bool b => s!"Boolean({b})"
  | .integer i => s!"Integer({i})"
  | .real s => s!"Real({Quoted.quote s})"
  | .text s => s!"String({Quoted.quote s})"
  | .sequence items => "Array([" ++ ", ".intercalate (shownItems items) ++ "])"
  | .mapping entries => "Hash(\x7b" ++ ", ".intercalate (shownEntries entries) ++ "\x7d)"

/-- Items as they are shown in a fault. -/
def shownItems : List Yaml → List String
  | [] => []
  | v :: rest => shown v :: shownItems rest

/-- Entries as they are shown in a fault. -/
def shownEntries : List (Yaml × Yaml) → List String
  | [] => []
  | (k, v) :: rest => s!"{shown k}: {shown v}" :: shownEntries rest

end

end Yaml

end Switchboard
