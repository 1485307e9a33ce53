import Switchboard.Yaml.Tokens
import Switchboard.Yaml.Value

/-!
# From tokens to values

A node is a scalar, a collection, or an alias for an earlier node, with a tag and an anchor where
they are given. What is left out where a node could stand is the null value. That a key is given
again in a mapping is a fault only if there is no other in the whole text.
-/

namespace Switchboard.Yaml

/-- What is known between two tokens of a text. -/
structure Outline where
  tokens : List Placed
  /-- What is wrong after the tokens. -/
  fault : Option Fault
  /-- The numbers of the anchors of the document. -/
  anchors : List (String × Nat) := []
  /-- The nodes that are complete, by the numbers of their anchors. -/
  nodes : List (Nat × Yaml) := []
  /-- The number of the next anchor. -/
  next : Nat := 1
  /-- What the handles of tags stand for. -/
  handles : List (String × String) := []
  /-- The first key that is given again. -/
  repeated : Option Fault := none

/-- A computation that reads tokens. -/
abbrev Build := StateT Outline (Except Fault)

/-- A mapping in the making: its entries, the latest first, and a key that waits for its value. -/
structure Pairs where
  entries : List (Yaml × Yaml) := []
  waiting : Option Yaml := none

namespace Build

/-- Fail at a place. -/
def failAt (place : Place) (reason : Reason) : Build α := throw { reason, place }

/-- The token that comes next. -/
def peek : Build Placed := do
  let o ← get
  match o.tokens with
  | token :: _ => return token
  | [] => throw (o.fault.getD { reason := .nodeContent, place := ⟨0, 1, 0⟩ })

/-- Pass over a token. -/
def pass : Build Unit := modify fun o => { o with tokens := o.tokens.tail }

/-- Put the next node into a mapping, as a key or as the value of the key that waits. An invalid
value does not wait as a key. -/
def put (v : Yaml) (place : Place) (p : Pairs) : Build Pairs := do
  match p.waiting with
  | none =>
    match v with
    | .invalid => return p
    | key => return { p with waiting := some key }
  | some key =>
    if p.entries.any fun (k, _) => same k key then
      let fault : Fault := { reason := .repeated key.shown, place }
      modify fun o => { o with repeated := o.repeated <|> some fault }
    return { entries := (key, v) :: p.entries.filter fun (k, _) => !same k key }

/-- The mapping that was made. -/
def mapping (p : Pairs) : Yaml := .mapping p.entries.reverse

/-! ## Tags and anchors -/

/-- What the handle of a tag stands for. -/
def meaning (handle : String) (place : Place) : Build String := do
  match (← get).handles.lookup handle with
  | some leading => return leading
  | none =>
    if handle = "!!" then return "tag:yaml.org,2002:"
    else if 2 ≤ handle.length && handle.toList.getLast? = some '!' then failAt place .tagUnknown
    else return handle

/-- Name the node that comes next: the number of its anchor. -/
def anchor (name : String) : Build Nat := do
  let o ← get
  set { o with anchors := (name, o.next) :: o.anchors, next := o.next + 1 }
  return o.next

/-- Read the tag and the anchor of a node, in either order. The tag is the meaning of its handle,
and its name. -/
def properties : Build (Option Nat × Option (String × String)) := do
  let first ← peek
  let tag (handle name : String) : Build (String × String) := do
    pass
    return (← meaning handle first.place, name)
  match first.token with
  | .anchor name =>
    pass
    let number ← anchor name
    match (← peek).token with
    | .tag handle name => return (some number, some (← tag handle name))
    | _ => return (some number, none)
  | .tag handle name =>
    let tag ← tag handle name
    match (← peek).token with
    | .anchor name =>
      pass
      return (some (← anchor name), some tag)
    | _ => return (none, some tag)
  | _ => return (none, none)

/-- The value of a scalar without quotes that may have a tag. -/
def plainValue (tag : Option (String × String)) (s : String) : Yaml :=
  match tag with
  | none => ofPlain s
  | some (leading, name) => if leading = "tag:yaml.org,2002:" then ofTagged name s else .text s

/-- The node that an alias stands for. It is invalid within the node itself. -/
def aliased (name : String) (place : Place) : Build Yaml := do
  let o ← get
  match o.anchors.lookup name with
  | none => failAt place .anchorUnknown
  | some number => return (o.nodes.lookup number).getD .invalid

/-! ## Nodes -/

mutual

/-- Read a node and the place where it ends. `block` tells whether a collection in blocks may be
there, and `itemsHere` whether one whose dashes are indented as the key before them. -/
def node (block itemsHere : Bool) : (fuel : Nat) → Build (Yaml × Place)
  | 0 => return (.null, ⟨0, 0, 0⟩)
  | fuel + 1 => do
    let first ← peek
    match first.token with
    | .alias name =>
      pass
      return (← aliased name first.place, first.place)
    | _ =>
      let (number?, tag) ← properties
      let ⟨place, token⟩ ← peek
      let (v, place) ← match token with
        | .scalar plain s => do
          pass
          pure (if plain then plainValue tag s else .text s, place)
        | .flowSequenceStart => do
          pass
          flowItems true [] fuel
        | .flowMappingStart => do
          pass
          flowPairs true {} fuel
        | .blockSequenceStart =>
          if block then do
            pass
            blockItems [] fuel
          else absent place number? tag
        | .blockMappingStart =>
          if block then do
            pass
            blockPairs {} fuel
          else absent place number? tag
        | .blockEntry => if itemsHere then itemsOfKey [] fuel else absent place number? tag
        | _ => absent place number? tag
      match number? with
      | some number => modify fun o => { o with nodes := (number, v) :: o.nodes }
      | none => pure ()
      return (v, place)

/-- The empty text that a tag or an anchor without anything after it stands before. -/
def absent (place : Place) (number? : Option Nat) (tag : Option (String × String)) :
    Build (Yaml × Place) :=
  if number?.isSome || tag.isSome then return (plainValue tag "", place)
  else failAt place .nodeContent

/-- Read a node, or the null value if one of `absent` is there. -/
def nodeUnless (none? : Token → Bool) (block itemsHere : Bool) :
    (fuel : Nat) → Build (Yaml × Place)
  | 0 => return (.null, ⟨0, 0, 0⟩)
  | fuel + 1 => do
    let ⟨place, token⟩ ← peek
    if none? token then return (.null, place) else node block itemsHere fuel

/-- Read the items of a sequence in a block, and its end. -/
def blockItems (done : List Yaml) : (fuel : Nat) → Build (Yaml × Place)
  | 0 => return (.null, ⟨0, 0, 0⟩)
  | fuel + 1 => do
    let ⟨place, token⟩ ← peek
    match token with
    | .blockEnd =>
      pass
      return (.sequence done.reverse, place)
    | .blockEntry =>
      pass
      let (v, _) ← nodeUnless (fun t => t = .blockEntry || t = .blockEnd) true false fuel
      blockItems (v :: done) fuel
    | _ => failAt place .sequenceItem

/-- Read the items of a sequence whose dashes are indented as the key before them. -/
def itemsOfKey (done : List Yaml) : (fuel : Nat) → Build (Yaml × Place)
  | 0 => return (.null, ⟨0, 0, 0⟩)
  | fuel + 1 => do
    let ⟨place, token⟩ ← peek
    match token with
    | .blockEntry =>
      pass
      let ends (t : Token) : Bool := t = .blockEntry || t = .key || t = .value || t = .blockEnd
      let (v, _) ← nodeUnless ends true false fuel
      itemsOfKey (v :: done) fuel
    | _ => return (.sequence done.reverse, place)

/-- Read the pairs of a mapping in a block, and its end. -/
def blockPairs (done : Pairs) : (fuel : Nat) → Build (Yaml × Place)
  | 0 => return (.null, ⟨0, 0, 0⟩)
  | fuel + 1 => do
    let ends (t : Token) : Bool := t = .key || t = .value || t = .blockEnd
    let ⟨place, token⟩ ← peek
    if token = .blockEnd then
      pass
      return (mapping done, place)
    else
      let (key, keyPlace) ← match token with
        | .key => do
          pass
          nodeUnless ends true true fuel
        | .value => pure (.null, place)
        | _ => failAt place .mappingKey
      let done ← put key keyPlace done
      let ⟨place, token⟩ ← peek
      let (v, place) ← if token = .value then do
          pass
          nodeUnless ends true true fuel
        else pure (.null, place)
      blockPairs (← put v place done) fuel

/-- Read the items of a sequence in flow, and its end. -/
def flowItems (isFirst : Bool) (done : List Yaml) : (fuel : Nat) → Build (Yaml × Place)
  | 0 => return (.null, ⟨0, 0, 0⟩)
  | fuel + 1 => do
    let ⟨place, token⟩ ← peek
    if !isFirst && token ≠ .flowSequenceEnd then
      if token ≠ .flowEntry then failAt place .flowSequence
      pass
    let ⟨place, token⟩ ← peek
    match token with
    | .flowSequenceEnd =>
      pass
      return (.sequence done.reverse, place)
    | .key =>
      pass
      let v ← flowPair fuel
      flowItems false (v :: done) fuel
    | _ =>
      let (v, _) ← node false false fuel
      flowItems false (v :: done) fuel

/-- Read a pair that stands in a sequence in flow without brackets of its own. -/
def flowPair : (fuel : Nat) → Build Yaml
  | 0 => return .null
  | fuel + 1 => do
    let ends (t : Token) : Bool := t = .flowEntry || t = .flowSequenceEnd
    let ⟨place, token⟩ ← peek
    let (key, place) ← if ends token || token = .value then do
        pass
        pure (.null, place)
      else node false false fuel
    let pairs ← put key place {}
    let ⟨place, token⟩ ← peek
    let (v, place) ← if token = .value then do
        pass
        nodeUnless ends false false fuel
      else pure (.null, place)
    return mapping (← put v place pairs)

/-- Read the pairs of a mapping in flow, and its end. -/
def flowPairs (isFirst : Bool) (done : Pairs) : (fuel : Nat) → Build (Yaml × Place)
  | 0 => return (.null, ⟨0, 0, 0⟩)
  | fuel + 1 => do
    let ⟨start, token⟩ ← peek
    if !isFirst && token ≠ .flowMappingEnd then
      if token ≠ .flowEntry then failAt start .flowMapping
      pass
    let ends (t : Token) : Bool := t = .flowEntry || t = .flowMappingEnd
    let ⟨place, token⟩ ← peek
    if token = .flowMappingEnd then
      pass
      return (mapping done, start)
    else
      let (key, keyPlace) ← match token with
        | .key => do
          pass
          nodeUnless (fun t => ends t || t = .value) false false fuel
        | .value => pure (.null, place)
        | _ => node false false fuel
      let done ← put key keyPlace done
      let ⟨place, next⟩ ← peek
      let (v, place) ←
        if (token = .key || token = .value) && next = .value then do
          pass
          let ⟨_, after⟩ ← peek
          if ends after then pure (.null, place) else node false false fuel
        else pure (.null, place)
      flowPairs false (← put v place done) fuel

end

/-! ## Documents -/

/-- Read the directives before a document. -/
def directives : (fuel : Nat) → (versioned : Bool) → Build Unit
  | 0, _ => return ()
  | fuel + 1, versioned => do
    let ⟨place, token⟩ ← peek
    match token with
    | .versionDirective =>
      if versioned then failAt place .versionTwice
      pass
      directives fuel true
    | .tagDirective handle leading =>
      pass
      modify fun o => { o with handles := (handle, leading) :: o.handles }
      directives fuel versioned
    | _ => return ()

/-- Whether a token stands before or after a document and not within it. -/
def isOutside : Token → Bool
  | .versionDirective | .tagDirective _ _ | .documentStart | .documentEnd | .streamEnd => true
  | _ => false

/-- Read the documents of a text, `fuel` tokens at most; `bare` tells whether the next one may begin
without a marker. -/
def documents : (fuel : Nat) → (bare : Bool) → (done : List Yaml) → Build (List Yaml)
  | 0, _, done => return done.reverse
  | fuel + 1, bare, done => do
    modify fun o => { o with anchors := [] }
    let ⟨_, token⟩ ← peek
    match token with
    | .documentEnd =>
      pass
      documents fuel bare done
    | .streamEnd => return done.reverse
    | _ =>
      let size := 4 * (← get).tokens.length + 4
      let (v, _) ←
        if isOutside token || !bare then do
          directives size false
          let ⟨place, token⟩ ← peek
          if token ≠ .documentStart then failAt place .documentStart
          pass
          nodeUnless isOutside true false size
        else node true false size
      modify fun o => { o with handles := [] }
      let ⟨place, token⟩ ← peek
      match token with
      | .documentEnd =>
        pass
        documents fuel true (v :: done)
      | .versionDirective | .tagDirective _ _ => failAt place .documentEnd
      | _ => documents fuel false (v :: done)

end Build

end Switchboard.Yaml
