import Switchboard.Json.Printer
import Switchboard.Json.Reader
import Switchboard.Text.Quoted

/-!
# Values of a certain shape

Readers for texts whose value must have a given shape, and the wording for values that do not have
it. `Tagged.read` reads a value that carries the name of its variant: an object with a member
`type`, or a list that begins with the name. `readStruct` reads an object with one named member.

A mismatch that is seen while reading has a position; one that is seen in the parts of a tagged
value, which are looked at only after the whole value has been read, has none.
-/

namespace Switchboard.Json

/-- How an error names a value. -/
def describe : Json → String
  | .null => "null"
  | .bool b => s!"boolean `{b}`"
  | .integer i => s!"integer `{i}`"
  | .real x => s!"floating point `{String.ofList (realText x)}`"
  | .string s => s!"string {Quoted.quote s}"
  | .array _ => "sequence"
  | .object _ => "map"

/-- The wording for a value that is not `expected`. -/
def invalidType (v : Json) (expected : String) : String :=
  s!"invalid type: {v.describe}, expected {expected}"

/-- The wording for a list of the wrong length. -/
def invalidLength (length : Nat) (expected : String) : String :=
  s!"invalid length {length}, expected {expected}"

/-- The wording for a name that is none of the `variants`. -/
def unknownVariant (name : String) (variants : List String) : String :=
  let quoted := variants.map fun v => s!"`{v}`"
  let expected := match quoted with
    | [] => "there are no variants"
    | [v] => s!"expected {v}"
    | [v, w] => s!"expected {v} or {w}"
    | vs => "expected one of " ++ ", ".intercalate vs
  s!"unknown variant `{name}`, {expected}"

/-- The wording for a member that occurs twice. -/
def duplicateField (name : String) : String := s!"duplicate field `{name}`"

/-- The wording for a member that does not occur. -/
def missingField (name : String) : String := s!"missing field `{name}`"

namespace Reader

/-- Report the value to be read next as one that is not `expected`. Lists and objects are reported
without being read. -/
def unexpected (path : List PathStep) (expected : String) : Reader α := do
  match ← token with
  | none => failNext path .endInValue
  | some 91 => mismatch path (invalidType (.array []) expected)
  | some 123 => mismatch path (invalidType (.object []) expected)
  | some b =>
    let v ← scalar path b
    mismatch path (invalidType v expected)

end Reader

namespace Tagged

/-- What a tagged value holds besides its tag. -/
inductive Content where
  | members (members : List (String × Json))
  | items (items : List Json)
  deriving Repr, Inhabited

/-- The member that holds the tag. -/
def tagKey : String := "type"

/-- Read the name of a variant. -/
def variant (variants : List String) (path : List PathStep) : Reader String := do
  match ← Reader.token with
  | some 34 =>
    Reader.advance
    let name ← Reader.string path
    if name ∈ variants then return name
    else Reader.mismatch path (unknownVariant name variants)
  | _ => Reader.unexpected path "variant identifier"

/-- Read the members of a tagged object, `fuel` at most: the tag, if it has been seen, and the
others (the latest first) are carried along. -/
def membersWith (variants : List String) :
    (fuel : Nat) → (first : Bool) → Option String → List (String × Json) →
      Reader (String × Content)
  | 0, _, _, _ => Reader.fail [] .endInObject
  | fuel + 1, first, tag, done => do
    match ← Reader.key? [] first with
    | none =>
      match tag with
      | some tag =>
        Reader.advance
        return (tag, .members done.reverse)
      | none =>
        Reader.giveUp 125
        Reader.mismatch [] (missingField tagKey)
    | some key =>
      if key = tagKey then
        if tag.isSome then
          Reader.giveUp 125
          Reader.mismatch [] (duplicateField tagKey)
        else
          Reader.colon []
          let name ← variant variants [.member key]
          membersWith variants fuel false (some name) done
      else
        Reader.colon []
        let v ← Reader.value 1 [.member key]
        membersWith variants fuel false tag ((key, v) :: done)

/-- Read the items of a tagged list after its tag, `fuel` at most; `done` are those before, the
latest first, and `index` is the place of the next one. -/
def itemsWith : (fuel index : Nat) → List Json → Reader (List Json)
  | 0, _, _ => Reader.fail [] .endInList
  | fuel + 1, index, done => do
    if ← Reader.hasItem [] false then
      let v ← Reader.value 1 [.item index]
      itemsWith fuel (index + 1) (v :: done)
    else
      Reader.advance
      return done.reverse

/-- Read a tagged value of the type `name` with the given variants. -/
def content (name : String) (variants : List String) : Reader (String × Content) := do
  let fuel := (← Reader.left) + 1
  match ← Reader.token with
  | some 123 =>
    Reader.advance
    membersWith variants fuel true none []
  | some 91 =>
    Reader.advance
    if ← Reader.hasItem [] true then
      let tag ← variant variants [.item 0]
      return (tag, .items (← itemsWith fuel 1 []))
    else
      Reader.giveUp 93
      Reader.mismatch [] (missingField tagKey)
  | _ => Reader.unexpected [] s!"internally tagged enum {name}"

/-- An error in the parts of a tagged value. -/
def partError (text : String) : Error := ⟨.mismatch text, none, []⟩

/-- A variant without parts: any members are passed over, items are not. -/
def unit : Content → Except Error Unit
  | .members _ => .ok ()
  | .items [] => .ok ()
  | .items items => .error (partError (invalidLength items.length "0 elements in sequence"))

/-- A part that is a string. -/
def stringPart : Json → Except Error String
  | .string s => .ok s
  | v => .error (partError (invalidType v "a string"))

/-- Collect the string members named in `names` in the order of the members. -/
def collect (names : List String) : List (String × Json) → List (String × String) →
    Except Error (List (String × String))
  | [], found => .ok found
  | (key, v) :: members, found =>
    if key ∈ names then
      if (found.lookup key).isSome then .error (partError (duplicateField key))
      else do
        let s ← stringPart v
        collect names members ((key, s) :: found)
    else collect names members found

/-- The two string parts, named `first` and `second`, of the variant that errors call `name`. -/
def stringPair (name first second : String) : Content → Except Error (String × String)
  | .members members => do
    let found ← collect [first, second] members []
    match found.lookup first, found.lookup second with
    | some a, some b => .ok (a, b)
    | none, _ => .error (partError (missingField first))
    | _, none => .error (partError (missingField second))
  | .items items =>
    let expected := s!"struct variant {name} with 2 elements"
    match items with
    | [] => .error (partError (invalidLength 0 expected))
    | [a] => do
      let _ ← stringPart a
      .error (partError (invalidLength 1 expected))
    | a :: b :: rest => do
      let a ← stringPart a
      let b ← stringPart b
      if rest.isEmpty then .ok (a, b)
      else .error (partError (invalidLength items.length "2 elements in sequence"))

/-- Read a text that holds one tagged value and decode its content. -/
def read (name : String) (variants : List String)
    (decode : String → Content → Except Error α) (text : Bytes) : Except Error α := do
  let ((tag, content), c) ← (content name variants).run (Reader.start text)
  let a ← decode tag content
  let _ ← Reader.finish.run c
  return a

end Tagged

namespace Reader

/-- Read the members of an object, `fuel` at most, looking for the one called `field`. -/
def fieldWith (field : String) : (fuel : Nat) → (first : Bool) → Option Json → Reader Json
  | 0, _, _ => fail [] .endInObject
  | fuel + 1, first, found => do
    match ← key? [] first with
    | none =>
      match found with
      | some v =>
        advance
        return v
      | none =>
        giveUp 125
        mismatch [] (missingField field)
    | some key =>
      if key = field then
        if found.isSome then
          giveUp 125
          mismatch [] (duplicateField field)
        else
          colon []
          let v ← value 1 [.member key]
          fieldWith field fuel false (some v)
      else
        colon []
        skip [.member key]
        fieldWith field fuel false found

end Reader

/-- Read a text that holds an object with the member `field`, or a list of that member alone; errors
call the type `name`. Other members are passed over. -/
def readStruct (name field : String) (text : Bytes) : Except Error Json :=
  let read : Reader Json := do
    let fuel := (← Reader.left) + 1
    match ← Reader.token with
    | some 123 =>
      Reader.advance
      Reader.fieldWith field fuel true none
    | some 91 =>
      Reader.advance
      if ← Reader.hasItem [] true then
        let v ← Reader.value 1 [.item 0]
        match ← Reader.token with
        | some 93 =>
          Reader.advance
          return v
        | some 44 =>
          Reader.advance
          if (← Reader.token) = some 93 then Reader.failNext [] .trailingComma
          else Reader.failNext [] .trailingCharacters
        | some _ => Reader.failNext [] .trailingCharacters
        | none => Reader.failNext [] .endInList
      else
        Reader.giveUp 93
        Reader.mismatch [] (invalidLength 0 s!"struct {name} with 1 element")
    | _ => Reader.unexpected [] s!"struct {name}"
  (do
    let v ← read
    Reader.finish
    return v : Reader Json).run' (Reader.start text)

end Switchboard.Json
