import Switchboard.Text.Alphanumeric
import Switchboard.Text.Blank

/-!
# Patterns for the values of fields

A rule of a filter may name a value that a field has to have, and then the value is a pattern: a
regular expression with alternatives, groups, repetitions and sets of characters. As no event lies
in a span, no value is ever held against a pattern. What matters is whether the pattern could be
used at all (`Pattern.check`).

* It has to be well formed. It holds no comma, no equals sign and no closing brace, because these
  end it, so a repetition with a count is never finished.
* No table of characters of all scripts is at hand: classes such as `\d`, and letters of either
  case, are refused unless the pattern is confined to bytes by the mode `-u`, where in turn nothing
  is right that a part of a longer character could match.
* Groups, repetitions and sets may be nested to a depth of 250.
* The edges of words in all scripts cannot be searched for.
-/

namespace Switchboard.Pattern

/-- Why a pattern cannot be used. -/
inductive Fault where
  | malformed
  /-- It asks for the edges of words in all scripts. -/
  | wordEdge
  deriving DecidableEq, Repr

/-- The wording of why a pattern cannot be used. -/
def Fault.message : Fault → String
  | .malformed => "error building NFA"
  | .wordEdge =>
    "unsupported regex feature for DFAs: cannot build DFAs for regexes with Unicode word " ++
      "boundaries; switch to ASCII word boundaries, or heuristically enable Unicode word " ++
      "boundaries or use a different regex engine"

/-- How the characters of a pattern are taken. -/
structure Modes where
  /-- Letters stand for themselves in either case. -/
  anyCase : Bool := false
  /-- Characters of all scripts are matched, not bytes. -/
  scripts : Bool := true
  /-- Blanks mean nothing, and neither does the rest of a line after `#`. -/
  loose : Bool := false
  deriving DecidableEq, Repr, Inhabited

/-- A part of a sequence: the depth of its nesting, and whether it may be repeated. -/
structure Part where
  depth : Nat := 0
  repeatable : Bool := true
  deriving DecidableEq, Repr, Inhabited

/-- The depth of some things in a row, which are a nesting of their own if there are several. -/
def depthOf : List Nat → Nat
  | [] => 0
  | [d] => d
  | ds => 1 + ds.foldl max 0

/-- What is between two brackets of a group: the depths of the alternatives before this one, and the
parts of this one, the last of them first. -/
structure Body where
  earlier : List Nat := []
  parts : List Part := []
  deriving DecidableEq, Repr, Inhabited

namespace Body

/-- The depth of a body. -/
def depth (b : Body) : Nat :=
  let last := depthOf (b.parts.map (·.depth))
  depthOf (last :: b.earlier)

/-- The body with a further part. -/
def add (b : Body) (p : Part) : Body := { b with parts := p :: b.parts }

/-- The body with its last part repeated, if there is one that may be. -/
def repeatLast? (b : Body) : Option Body :=
  match b.parts with
  | p :: parts =>
    if p.repeatable then some { b with parts := ⟨p.depth + 1, true⟩ :: parts } else none
  | [] => none

/-- The body at the beginning of a further alternative. -/
def alternative (b : Body) : Body := ⟨depthOf (b.parts.map (·.depth)) :: b.earlier, []⟩

end Body

/-! ## Blanks -/

/-- What follows the blanks and the remarks at the beginning of a text, within a remark or not. -/
def afterRemarks : Bool → List Char → List Char
  | _, [] => []
  | true, c :: cs => afterRemarks (c ≠ '\n') cs
  | false, c :: cs =>
    if c = '#' then afterRemarks true cs
    else if Blank.isBlank c then afterRemarks false cs
    else c :: cs

theorem length_afterRemarks_le (within : Bool) (cs : List Char) :
    (afterRemarks within cs).length ≤ cs.length := by
  fun_induction afterRemarks within cs <;> simp_all <;> omega

/-- What follows the blanks that mean nothing. -/
def Modes.skip (m : Modes) (cs : List Char) : List Char :=
  if m.loose then afterRemarks false cs else cs

theorem Modes.length_skip_le (m : Modes) (cs : List Char) : (m.skip cs).length ≤ cs.length := by
  unfold Modes.skip
  split
  · exact length_afterRemarks_le false cs
  · exact Nat.le_refl _

/-- The next character that means something, as far as one can see without reading on: a remark is
taken to be over after its sign and some blanks. -/
def Modes.ahead (m : Modes) (cs : List Char) : Option Char :=
  if m.loose then
    match Blank.trimStart cs with
    | [] => cs.head?
    | '#' :: rest => (Blank.trimStart rest).head?.or cs.head?
    | c :: _ => some c
  else cs.head?

/-! ## Characters after a backslash -/

/-- What a backslash and the characters after it stand for. -/
inductive Escape where
  /-- A character, perhaps given as a byte. -/
  | char (c : Char) (asByte : Bool)
  /-- A class of characters, or all others. -/
  | kind (negated : Bool)
  /-- A place in the text, perhaps the edge of a word. -/
  | place (word : Bool)
  deriving DecidableEq, Repr

/-- The digits of a character's number in base 16, and the rest. -/
def hexDigits? (m : Modes) : Nat → List Char → Option (List Char × List Char)
  | 0, cs => some ([], m.skip cs)
  | n + 1, cs =>
    match m.skip cs with
    | [] => none
    | c :: cs =>
      if c.isDigit || 'a' ≤ c && c ≤ 'f' || 'A' ≤ c && c ≤ 'F' then
        (hexDigits? m n cs).map fun (ds, rest) => (c :: ds, rest)
      else none

/-- The value of a digit in base 16. -/
def hexValue (c : Char) : Nat :=
  if c.isDigit then c.toNat - '0'.toNat else c.toLower.toNat - 'a'.toNat + 10

/-- The character whose number follows in so many digits. -/
def hexChar? (m : Modes) (count : Nat) (cs : List Char) : Option (Char × List Char) := do
  let (ds, rest) ← hexDigits? m count cs
  let n := ds.foldl (fun n c => n * 16 + hexValue c) 0
  if h : n.isValidChar then some (.ofNatAux n h, rest) else none

/-- Whether a character of ASCII stands for itself after a backslash. -/
def isSign (c : Char) : Bool :=
  c.toNat < 0x80 && !c.isAlphanum && c ≠ '<' && c ≠ '>'

/-- Read what follows a backslash. A class named by a property of characters of all scripts is never
at hand, and groups cannot be referred back to. -/
def escape? (m : Modes) : List Char → Option (Escape × List Char)
  | [] => none
  | c :: cs =>
    if c = 'x' then (hexChar? m 2 cs).map fun (d, rest) => (.char d true, rest)
    else if c = 'u' then (hexChar? m 4 cs).map fun (d, rest) => (.char d false, rest)
    else if c = 'U' then (hexChar? m 8 cs).map fun (d, rest) => (.char d false, rest)
    else if c = 'd' || c = 's' || c = 'w' then some (.kind false, cs)
    else if c = 'D' || c = 'S' || c = 'W' then some (.kind true, cs)
    else if c = 'A' || c = 'z' then some (.place false, cs)
    else if c = 'b' || c = 'B' || c = '<' || c = '>' then some (.place true, cs)
    else if isSign c || "aftnrv".toList.contains c then some (.char c false, cs)
    else none

/-! ## Sets of characters -/

/-- Whether a class that is not one of a single character may stand in a pattern: among bytes only,
and there not as all others. -/
def Modes.allowsKind (m : Modes) (negated : Bool) : Bool := !m.scripts && !negated

/-- Whether a character may stand by itself. -/
def Modes.allowsChar (m : Modes) (c : Char) (asByte : Bool) : Bool :=
  if m.scripts then !m.anyCase else c.toNat < 0x80 || !(m.anyCase || asByte)

/-- Whether a class of ASCII, or all others, may stand in a set. -/
def Modes.allowsAscii (m : Modes) (negated : Bool) : Bool :=
  if m.scripts then !m.anyCase else !negated

/-- Whether a character may stand in a set. -/
def Modes.allowsMember (m : Modes) (c : Char) : Bool :=
  if m.scripts then !m.anyCase else c.toNat < 0x80

/-- The names of the classes of ASCII. -/
def asciiKinds : List String :=
  ["alnum", "alpha", "ascii", "blank", "cntrl", "digit", "graph", "lower", "print", "punct",
    "space", "upper", "word", "xdigit"]

/-- Read a class of ASCII after its opening bracket. -/
def asciiKind? : List Char → Option (Bool × List Char)
  | ':' :: cs =>
    let (negated, cs) := match cs with
      | '^' :: cs => (true, cs)
      | cs => (false, cs)
    match cs.dropWhile (· ≠ ':') with
    | ':' :: ']' :: rest =>
      if asciiKinds.contains (.ofList (cs.takeWhile (· ≠ ':'))) then some (negated, rest) else none
    | _ => none
  | _ => none

/-- What is between two brackets of a set: whether all other characters are meant, the depth of what
is before the last operator, and the depths of the members after it. -/
structure CharSet where
  negated : Bool
  before : Option Nat := none
  members : List Nat := []
  deriving DecidableEq, Repr, Inhabited

namespace CharSet

/-- The depth of what is between the brackets. -/
def depth (s : CharSet) : Nat :=
  let last := depthOf s.members
  s.before.elim last fun d => 1 + max d last

/-- The set with a further member. -/
def add (s : CharSet) (depth : Nat) : CharSet := { s with members := depth :: s.members }

/-- The set after an operator. -/
def operator (s : CharSet) : CharSet := { s with before := some s.depth, members := [] }

/-- Read the hyphens that a set begins with, which stand for themselves there. -/
def hyphens (m : Modes) (s : CharSet) (cs : List Char) : CharSet × List Char :=
  match cs with
  | '-' :: cs => hyphens m (s.add 0) (m.skip cs)
  | cs => (s, cs)
  termination_by cs.length
  decreasing_by
    have := m.length_skip_le cs
    simp only [List.length_cons]
    omega

/-- Read the beginning of a set after its opening bracket. A closing bracket stands for itself if it
is the first member. -/
def opening? (m : Modes) (cs : List Char) : Option (CharSet × List Char) :=
  let (negated, cs) := match m.skip cs with
    | '^' :: cs => (true, m.skip cs)
    | cs => (false, cs)
  let (s, cs) := hyphens m { negated } cs
  match cs with
  | [] => none
  | c :: rest =>
    if c = ']' && s.members.isEmpty then some (s.add 0, rest) else some (s, c :: rest)

/-- Read a member from its first character on. -/
def member? (m : Modes) (c : Char) (cs : List Char) : Option (Escape × List Char) :=
  if c = '\\' then escape? m cs else some (.char c false, cs)

/-- Whether something may be a member by itself. -/
def allows (m : Modes) : Escape → Bool
  | .char c _ => m.allowsMember c
  | .kind negated => m.allowsKind negated
  | .place _ => false

/-- Read the end of a range after the hyphen, from which the first character is given. -/
def rangeEnd? (m : Modes) (first : Escape) (cs : List Char) : Option (List Char) :=
  match first, m.skip cs with
  | .char lo _, c :: cs =>
    match member? m c cs with
    | some (.char hi _, rest) =>
      if lo ≤ hi && m.allowsMember lo && m.allowsMember hi then some rest else none
    | _ => none
  | _, _ => none

/-- Read a member or a range of members. A hyphen before the end of the set or before another one
makes no range. -/
def range? (m : Modes) (c : Char) (cs : List Char) : Option (List Char) := do
  let (first, rest) ← member? m c cs
  match m.skip rest with
  | [] => none
  | d :: rest =>
    let next := m.ahead rest
    if d = '-' && next ≠ some ']' && next ≠ some '-' then rangeEnd? m first rest
    else if allows m first then some (d :: rest)
    else none

/-- Read the rest of a set within some others, the innermost of them first: its depth, and what
follows all of them. -/
def rest? (m : Modes) : Nat → CharSet → List CharSet → List Char → Option (Nat × List Char)
  | 0, _, _, _ => none
  | fuel + 1, s, around, cs =>
    match m.skip cs with
    | [] => none
    | '&' :: '&' :: cs | '-' :: '-' :: cs | '~' :: '~' :: cs => rest? m fuel s.operator around cs
    | ']' :: cs =>
      if s.negated && !m.scripts then none
      else
        match around with
        | [] => some (s.depth + 1, cs)
        | t :: around => rest? m fuel (t.add (s.depth + 1)) around cs
    | '[' :: cs =>
      match asciiKind? cs with
      | some (negated, cs) =>
        if m.allowsAscii negated then rest? m fuel (s.add 0) around cs else none
      | none =>
        match opening? m cs with
        | some (t, cs) => rest? m fuel t (s :: around) cs
        | none => none
    | c :: cs =>
      match range? m c cs with
      | some cs => rest? m fuel (s.add 0) around cs
      | none => none

/-- Read a set after its opening bracket: its depth, and what follows it. -/
def read? (m : Modes) (cs : List Char) : Option (Nat × List Char) := do
  let (s, cs) ← opening? m cs
  rest? m (cs.length + 1) s [] cs

end CharSet

/-! ## Groups -/

/-- What is known of a pattern within it. -/
structure State where
  modes : Modes := {}
  body : Body := {}
  /-- The groups that are open, the innermost first, and the modes that are to hold after each. -/
  around : List (Modes × Body) := []
  /-- The names of the groups. -/
  names : List (List Char) := []
  /-- Whether the edge of a word is asked for. -/
  wordEdge : Bool := false
  deriving DecidableEq, Repr, Inhabited

namespace State

/-- The state after a further part. -/
def add (s : State) (p : Part) : State := { s with body := s.body.add p }

/-- The state at the beginning of a group. -/
def enter (s : State) (m : Modes) : State :=
  { s with modes := m, body := {}, around := (s.modes, s.body) :: s.around }

/-- The state at the end of a group, if one is open. -/
def leave? (s : State) : Option State :=
  match s.around with
  | [] => none
  | (m, b) :: around =>
    some { s with modes := m, body := b.add ⟨s.body.depth + 1, true⟩, around }

end State

/-- The letters of the modes, of which those for lines change nothing here. -/
def modeLetters : List Char := ['i', 'm', 's', 'U', 'u', 'R', 'x']

/-- The modes after the letters of some; those after a hyphen are no longer in force. -/
def Modes.set (m : Modes) (letters : List Char) : Modes :=
  (letters.foldl (fun (m, on) c =>
    if c = '-' then (m, false)
    else if c = 'i' then ({ m with anyCase := on }, on)
    else if c = 'u' then ({ m with scripts := on }, on)
    else if c = 'x' then ({ m with loose := on }, on)
    else (m, on)) (m, true)).1

/-- Read modes and the character that ends them: whether a group begins with them, and what
follows. -/
def modes? (m : Modes) (cs : List Char) : Option (Modes × Bool × List Char) :=
  let letters := cs.takeWhile fun c => c ≠ ':' && c ≠ ')'
  match cs.drop letters.length with
  | [] => none
  | c :: rest =>
    if letters.all (fun c => c = '-' || modeLetters.contains c) && decide letters.Nodup &&
        letters.getLast? ≠ some '-' && (c = ':' || !letters.isEmpty) then
      some (m.set letters, c = ':', rest)
    else none

/-- Whether characters may be the name of a group. -/
def isName : List Char → Bool
  | [] => false
  | c :: cs =>
    (c = '_' || Alphanumeric.isLetter c) &&
      cs.all fun c => ['_', '.', '[', ']'].contains c || Alphanumeric.contains c

/-- Read a group with a name, from the name on. -/
def named? (s : State) (cs : List Char) : Option (State × List Char) :=
  let name := cs.takeWhile (· ≠ '>')
  match cs.drop name.length with
  | [] => none
  | _ :: rest =>
    if isName name && !s.names.contains name then
      some ({ s with names := name :: s.names }.enter s.modes, rest)
    else none

/-- Read the beginning of a group after its bracket. Modes may stand between brackets without a
group; they hold up to the end of the group around them, and cannot be repeated. -/
def group? (s : State) (cs : List Char) : Option (State × List Char) :=
  match s.modes.skip cs with
  | '?' :: 'P' :: '<' :: cs | '?' :: '<' :: cs => named? s cs
  | '?' :: cs =>
    match modes? s.modes cs with
    | some (m, true, rest) => some (s.enter m, rest)
    | some (m, false, rest) => some ({ s with modes := m }.add ⟨0, false⟩, rest)
    | none => none
  | cs => some (s.enter s.modes, cs)

/-! ## Whole patterns -/

/-- Read a part of a pattern that is a single character, a class or a place. -/
def State.single? (s : State) : Escape → Option State
  | .char c asByte => if s.modes.allowsChar c asByte then some (s.add {}) else none
  | .kind negated => if s.modes.allowsKind negated then some (s.add {}) else none
  | .place word => some ({ s with wordEdge := s.wordEdge || word && s.modes.scripts }.add {})

/-- Read what a pattern goes on with, from its first character on. -/
def State.step? (s : State) (c : Char) (cs : List Char) : Option (State × List Char) :=
  if c = '(' then group? s cs
  else if c = ')' then s.leave?.map (·, cs)
  else if c = '|' then some ({ s with body := s.body.alternative }, cs)
  else if c = '[' then (CharSet.read? s.modes cs).map fun (d, rest) => (s.add ⟨d, true⟩, rest)
  else if c = '?' || c = '*' || c = '+' then
    let rest := match cs with
      | '?' :: rest => rest
      | cs => cs
    s.body.repeatLast?.map fun b => ({ s with body := b }, rest)
  else if c = '\x7b' then none
  else if c = '\\' then do
    let (e, rest) ← escape? s.modes cs
    (s.single? e).map (·, rest)
  else if c = '.' then if s.modes.scripts then some (s.add {}, cs) else none
  else if c = '^' || c = '$' then some (s.add {}, cs)
  else (s.single? (.char c false)).map (·, cs)

/-- The greatest depth of a pattern. -/
def greatestDepth : Nat := 250

/-- Read the rest of a pattern. -/
def State.finish? : Nat → State → List Char → Option State
  | 0, _, _ => none
  | fuel + 1, s, cs =>
    match s.modes.skip cs with
    | [] => if s.around.isEmpty && s.body.depth ≤ greatestDepth then some s else none
    | c :: cs =>
      match s.step? c cs with
      | some (s, rest) => finish? fuel s rest
      | none => none

/-- Whether a pattern can be used. -/
def check (cs : List Char) : Except Fault Unit :=
  match State.finish? (cs.length + 1) {} cs with
  | none => .error .malformed
  | some s => if s.wordEdge then .error .wordEdge else .ok ()

end Switchboard.Pattern
