import Switchboard.Json.Error
import Switchboard.Json.Value

/-!
# Reading JSON

A `Reader` moves a cursor through the bytes of a text. `value` reads any value, `skip` passes over
one without looking at its numbers and escapes closely, and `Json.parse` reads a text that holds one
value and nothing else. The smaller readers are used by those who expect a value of a certain shape.

## Limits and numbers

Values nest at most 127 deep. An integer that fits 64 bits stays one; any other number becomes a
double. Its digits are collected into a 64-bit significand, later ones only move the point; the
significand is then multiplied or divided by a power of ten in double precision.
-/

namespace Switchboard.Json

/-- A place in a text. -/
structure Cursor where
  /-- The bytes still to be read. -/
  rest : Bytes
  /-- The number of bytes read. -/
  index : Nat
  /-- The number of all bytes. -/
  size : Nat

/-- A computation that reads. -/
abbrev Reader := StateT Cursor (Except Error)

namespace Reader

/-- The cursor at the beginning of a text. -/
def start (text : Bytes) : Cursor := ⟨text, 0, text.length⟩

/-- The code of an ASCII character. -/
def code (c : Char) : UInt8 := c.toNat.toUInt8

/-- Fail at the last byte read. -/
def fail (path : List PathStep) (f : Fault) : Reader α := do
  throw ⟨.fault f, some (← get).index, path⟩

/-- Fail before the last byte read. -/
def failBefore (path : List PathStep) (f : Fault) : Reader α := do
  throw ⟨.fault f, some ((← get).index - 1), path⟩

/-- Fail at the byte to be read next. -/
def failNext (path : List PathStep) (f : Fault) : Reader α := do
  let c ← get
  throw ⟨.fault f, some (if c.rest.isEmpty then c.index else c.index + 1), path⟩

/-- Report a value that is not the one asked for, at the last byte read. -/
def mismatch (path : List PathStep) (text : String) : Reader α := do
  throw ⟨.mismatch text, some (← get).index, path⟩

/-- The byte to be read next. -/
def peek : Reader (Option UInt8) := return (← get).rest.head?

/-- Read a byte. -/
def next : Reader (Option UInt8) := do
  let c ← get
  match c.rest with
  | [] => return none
  | b :: rest => set { c with rest, index := c.index + 1 }; return some b

/-- Pass over a byte. -/
def advance : Reader Unit := modify fun c => { c with rest := c.rest.tail, index := c.index + 1 }

/-- The number of bytes still to be read. -/
def left : Reader Nat := return (← get).size - (← get).index

/-- Drop leading bytes of a kind, and count them on from a number. -/
def dropCounted (p : UInt8 → Bool) : Bytes → Nat → Bytes × Nat
  | [], n => ([], n)
  | b :: rest, n => if p b then dropCounted p rest (n + 1) else (b :: rest, n)

/-- Pass over bytes of a kind. -/
def skipWhile (p : UInt8 → Bool) : Reader Unit := modify fun c =>
  let (rest, index) := dropCounted p c.rest c.index
  { c with rest, index }

/-- Whether a byte is white space between tokens. -/
def isSpace (b : UInt8) : Bool := b == 32 || b == 10 || b == 9 || b == 13

/-- Pass over white space and look at the byte after it. -/
def token : Reader (Option UInt8) := do
  skipWhile isSpace
  peek

/-- Whether a byte is a decimal digit. -/
def isDigit (b : UInt8) : Bool := 48 ≤ b && b ≤ 57

/-- Read the rest of a literal name. -/
def ident (path : List PathStep) : List Char → Reader Unit
  | [] => pure ()
  | c :: cs => do
    match ← next with
    | none => fail path .endInValue
    | some b => if b = code c then ident path cs else fail path .expectedIdent

/-! ## Numbers -/

/-- The bound of the significand. -/
def significandBound : Nat := Nat.pow 2 64

/-- The greatest decimal exponent that is kept exactly. -/
def exponentBound : Int := 2147483647

/-- The power `10 ^ k` as a double, for `k` up to 308. -/
def powerOfTen (k : Nat) : Binary64 := .ofNat (Nat.pow 10 k)

/-- Multiply or divide `x` until the exponent is used up; `none` if the result is too large. -/
def scaleByTen : (fuel : Nat) → Binary64 → Int → Option Binary64
  | 0, x, _ => some x
  | fuel + 1, x, exponent =>
    if exponent.natAbs ≤ 308 then
      if 0 ≤ exponent then
        match x.mul (powerOfTen exponent.natAbs) with
        | .infinite _ => none
        | y => some y
      else some (x.div (powerOfTen exponent.natAbs))
    else if x.isZero then some x
    else if 0 ≤ exponent then none
    else scaleByTen fuel (x.div (powerOfTen 308)) (exponent + 308)

/-- The double `± significand · 10 ^ exponent`. -/
def real (path : List PathStep) (positive : Bool) (significand : Nat) (exponent : Int) :
    Reader Json := do
  match scaleByTen 5 (.ofNat significand) exponent with
  | none => fail path .numberOutOfRange
  | some x => return .real (if positive then x else x.neg)

/-- Read further digits of an exponent, `fuel` at most; `none` if it outgrows its bound, the digit
that does so being read. -/
def exponentDigits : (fuel : Nat) → Nat → Reader (Option Nat)
  | 0, e => return some e
  | fuel + 1, e => do
    match ← peek with
    | some b =>
      if isDigit b then
        advance
        let e' := e * 10 + (b.toNat - 48)
        if (e' : Int) > exponentBound then return none else exponentDigits fuel e'
      else return some e
    | none => return some e

/-- Read an exponent from its letter on. -/
def exponentPart (path : List PathStep) (positive : Bool) (significand : Nat) (start : Int) :
    Reader Json := do
  advance
  let up ← match ← peek with
    | some 43 => advance; pure true
    | some 45 => advance; pure false
    | _ => pure true
  match ← next with
  | none => fail path .endInValue
  | some b =>
    if !isDigit b then fail path .invalidNumber
    else
      match ← exponentDigits (← left) (b.toNat - 48) with
      | some e =>
        let e : Int :=
          if up then min (start + e) exponentBound else max (start - e) (-exponentBound - 1)
        real path positive significand e
      | none =>
        if significand ≠ 0 ∧ up then fail path .numberOutOfRange
        else
          skipWhile isDigit
          return .real (if positive then .zero else Binary64.zero.neg)

/-- Read what may follow the digits of a fraction. -/
def afterFraction (path : List PathStep) (positive : Bool) (significand : Nat) (exponent : Int) :
    Reader Json := do
  match ← peek with
  | some 101 | some 69 => exponentPart path positive significand exponent
  | _ => real path positive significand exponent

/-- Read digits into the significand, `fuel` at most: the significand, the number of digits read and
whether a digit is left that does not fit. -/
def significandDigits : (fuel : Nat) → (significand count : Nat) → Reader (Nat × Nat × Bool)
  | 0, significand, count => return (significand, count, false)
  | fuel + 1, significand, count => do
    match ← peek with
    | some b =>
      if isDigit b then
        let s := significand * 10 + (b.toNat - 48)
        if s ≥ significandBound then return (significand, count, true)
        else
          advance
          significandDigits fuel s (count + 1)
      else return (significand, count, false)
    | none => return (significand, count, false)

/-- Read a fraction from its point on; `start` is the exponent of the significand. -/
def fraction (path : List PathStep) (positive : Bool) (significand : Nat) (start : Int) :
    Reader Json := do
  advance
  let (significand, count, more) ← significandDigits (← left) significand 0
  let exponent := start - count
  if more then
    skipWhile isDigit
    afterFraction path positive significand exponent
  else if count = 0 then
    match ← peek with
    | some _ => failNext path .invalidNumber
    | none => failNext path .endInValue
  else afterFraction path positive significand exponent

/-- Read the digits of an integer part that outgrew the significand, and what follows them. -/
def longInteger (path : List PathStep) (positive : Bool) (significand : Nat) : Reader Json := do
  let before := (← get).index
  skipWhile isDigit
  let exponent : Int := (← get).index - before
  match ← peek with
  | some 46 => fraction path positive significand exponent
  | some 101 | some 69 => exponentPart path positive significand exponent
  | _ => real path positive significand exponent

/-- Read what may follow an integer part. -/
def afterInteger (path : List PathStep) (positive : Bool) (significand : Nat) : Reader Json := do
  match ← peek with
  | some 46 => fraction path positive significand 0
  | some 101 | some 69 => exponentPart path positive significand 0
  | _ =>
    if positive then return .integer significand
    else if significand = 0 ∨ significand > Nat.pow 2 63 then
      return .real (Binary64.ofNat significand).neg
    else return .integer (-significand)

/-- Read a number from its first digit on. -/
def number (path : List PathStep) (positive : Bool) : Reader Json := do
  match ← next with
  | none => fail path .endInValue
  | some 48 =>
    match ← peek with
    | some b => if isDigit b then failNext path .invalidNumber else afterInteger path positive 0
    | none => afterInteger path positive 0
  | some b =>
    if !isDigit b then fail path .invalidNumber
    else
      let (significand, _, more) ← significandDigits (← left) (b.toNat - 48) 0
      if more then longInteger path positive significand
      else afterInteger path positive significand

/-! ## Strings -/

/-- The value of a hexadecimal digit. -/
def hexDigit? (b : UInt8) : Option Nat :=
  if 48 ≤ b && b ≤ 57 then some (b.toNat - 48)
  else if 65 ≤ b && b ≤ 70 then some (b.toNat - 55)
  else if 97 ≤ b && b ≤ 102 then some (b.toNat - 87)
  else none

/-- Read four hexadecimal digits. -/
def hexEscape (path : List PathStep) : Reader Nat := do
  match (← get).rest with
  | a :: b :: c :: d :: rest =>
    modify fun cursor => { cursor with rest, index := cursor.index + 4 }
    match hexDigit? a, hexDigit? b, hexDigit? c, hexDigit? d with
    | some a, some b, some c, some d => return ((a * 16 + b) * 16 + c) * 16 + d
    | _, _, _, _ => fail path .invalidEscape
  | rest =>
    modify fun cursor => { cursor with rest := [], index := cursor.index + rest.length }
    fail path .endInString

/-- Read a byte that has to be the given one, between the halves of a surrogate pair. -/
def pairByte (path : List PathStep) (expected : UInt8) : Reader Unit := do
  match ← peek with
  | none => fail path .endInString
  | some b =>
    advance
    if b ≠ expected then fail path .unexpectedEndOfHexEscape

/-- Read a code point escape after its `u`. -/
def unicodeEscape (path : List PathStep) : Reader Bytes := do
  let n ← hexEscape path
  if 0xDC00 ≤ n ∧ n ≤ 0xDFFF then fail path .loneSurrogate
  else if 0xD800 ≤ n ∧ n ≤ 0xDBFF then
    pairByte path 92
    pairByte path 117
    let low ← hexEscape path
    if 0xDC00 ≤ low ∧ low ≤ 0xDFFF then
      return String.utf8EncodeChar (Char.ofNat (0x10000 + (n - 0xD800) * 0x400 + (low - 0xDC00)))
    else fail path .loneSurrogate
  else return String.utf8EncodeChar (Char.ofNat n)

/-- The byte that a one-letter escape stands for. -/
def letterEscape? (b : UInt8) : Option UInt8 :=
  if b = 34 then some 34
  else if b = 92 then some 92
  else if b = 47 then some 47
  else if b = 98 then some 8
  else if b = 102 then some 12
  else if b = 110 then some 10
  else if b = 114 then some 13
  else if b = 116 then some 9
  else none

/-- Read an escape after its backslash. -/
def escape (path : List PathStep) : Reader Bytes := do
  match ← next with
  | none => fail path .endInString
  | some 117 => unicodeEscape path
  | some b =>
    match letterEscape? b with
    | some b => return [b]
    | none => fail path .invalidEscape

/-- Pass over an escape after its backslash; halves of surrogate pairs may stand alone. -/
def skipEscape (path : List PathStep) : Reader Bytes := do
  match ← next with
  | none => fail path .endInString
  | some 117 => let _ ← hexEscape path; return []
  | some b => if (letterEscape? b).isSome then return [] else fail path .invalidEscape

/-- Read a string after its opening quote, `fuel` pieces at most, after the bytes `done` (the latest
first). After a control character `control` goes on. -/
def stringBytes (path : List PathStep) (escape control : Reader Bytes) :
    (fuel : Nat) → Bytes → Reader Bytes
  | 0, _ => fail path .endInString
  | fuel + 1, done => do
    match ← next with
    | none => fail path .endInString
    | some 34 => return done.reverse
    | some 92 => do
      let bytes ← escape
      stringBytes path escape control fuel (bytes.reverse ++ done)
    | some b => if b < 32 then control else stringBytes path escape control fuel (b :: done)

/-- Read a string after its opening quote. -/
def string (path : List PathStep) : Reader String := do
  let control := fail path .controlCharacter
  let bytes ← stringBytes path (escape path) control ((← left) + 1) []
  match Utf8.decode? bytes with
  | some s => return s
  | none => failBefore path .invalidCodePoint

/-- Pass over a string after its opening quote. -/
def skipString (path : List PathStep) : Reader Unit := do
  let control := failBefore path .controlCharacter
  let _ ← stringBytes path (skipEscape path) control ((← left) + 1) []

/-! ## Lists and objects -/

/-- The greatest depth of nesting, plus one. -/
def depthLimit : Nat := 128

/-- Look for the next item of a list, after the opening bracket or an item. -/
def hasItem (path : List PathStep) (first : Bool) : Reader Bool := do
  match ← token with
  | none => failNext path .endInList
  | some 93 => return false
  | some b =>
    if first then return true
    else if b = 44 then
      advance
      match ← token with
      | some 93 => failNext path .trailingComma
      | some _ => return true
      | none => failNext path .endInValue
    else failNext path .expectedListCommaOrEnd

/-- Look for the next member of an object, after the opening brace or a member. -/
def hasMember (path : List PathStep) (first : Bool) : Reader Bool := do
  match ← token with
  | none => failNext path .endInObject
  | some 125 => return false
  | some b =>
    if first then
      if b = 34 then return true else failNext path .keyMustBeString
    else if b = 44 then
      advance
      match ← token with
      | some 34 => return true
      | some 125 => failNext path .trailingComma
      | some _ => failNext path .keyMustBeString
      | none => failNext path .endInValue
    else failNext path .expectedObjectCommaOrEnd

/-- Read the colon after a key. -/
def colon (path : List PathStep) : Reader Unit := do
  match ← token with
  | some 58 => advance
  | some _ => failNext path .expectedColon
  | none => failNext path .endInObject

/-- Read the key of the next member, if there is one. -/
def key? (path : List PathStep) (first : Bool) : Reader (Option String) := do
  let path := path ++ [.unknown]
  if ← hasMember path first then
    advance
    return some (← string path)
  else return none

/-- Pass over the byte that opens a value `depth` levels down. -/
def enter (path : List PathStep) (depth : Nat) : Reader Unit := do
  if depth + 1 ≥ depthLimit then failNext path .recursionLimit else advance

/-- Read the items of a list with `item`, `fuel` at most; `done` are the `count` before, the latest
first. -/
def itemsWith (item : List PathStep → Reader Json) (path : List PathStep) :
    (fuel count : Nat) → List Json → Reader (List Json)
  | 0, _, _ => fail path .endInList
  | fuel + 1, count, done => do
    if ← hasItem path done.isEmpty then
      let value ← item (path ++ [.item count])
      itemsWith item path fuel (count + 1) (value :: done)
    else
      advance
      return done.reverse

/-- Read the members of an object with `value`, `fuel` at most, after the members `done` (the latest
first). -/
def membersWith (value : List PathStep → Reader Json) (path : List PathStep) :
    (fuel : Nat) → List (String × Json) → Reader (List (String × Json))
  | 0, _ => fail path .endInObject
  | fuel + 1, done => do
    match ← key? path done.isEmpty with
    | some key =>
      colon path
      let v ← value (path ++ [.member key])
      membersWith value path fuel ((key, v) :: done)
    | none =>
      advance
      return done.reverse

/-- Read a value that starts with byte `b` and is no list or object. -/
def scalar (path : List PathStep) (b : UInt8) : Reader Json := do
  if b = code 'n' then advance; ident path ['u', 'l', 'l']; return .null
  else if b = code 't' then advance; ident path ['r', 'u', 'e']; return .bool true
  else if b = code 'f' then advance; ident path ['a', 'l', 's', 'e']; return .bool false
  else if b = code '-' then advance; number path false
  else if isDigit b then number path true
  else if b = code '"' then advance; return .string (← string path)
  else failNext path .expectedValue

/-- Read a value at most `fuel` levels deep, itself `depth` levels down. -/
def valueAt : (fuel depth : Nat) → List PathStep → Reader Json
  | 0, _, path => failNext path .recursionLimit
  | fuel + 1, depth, path => do
    match ← token with
    | none => failNext path .endInValue
    | some 91 =>
      enter path depth
      return .array (← itemsWith (valueAt fuel (depth + 1)) path ((← left) + 1) 0 [])
    | some 123 =>
      enter path depth
      return .ofMembers (← membersWith (valueAt fuel (depth + 1)) path ((← left) + 1) [])
    | some b => scalar path b

/-- Read a value, itself `depth` levels down. -/
def value (depth : Nat) (path : List PathStep) : Reader Json := valueAt depthLimit depth path

/-- Read the end of the text. -/
def finish : Reader Unit := do
  match ← token with
  | some _ => failNext [] .trailingCharacters
  | none => pure ()

/-! ## Passing over a value -/

/-- Pass over the digits of a number that must have one. -/
def skipDigits (path : List PathStep) : Reader Unit := do
  match ← peek with
  | some b =>
    if isDigit b then skipWhile isDigit
    else failNext path .invalidNumber
  | none => failNext path .endInValue

/-- Pass over a number from its first digit on. -/
def skipNumber (path : List PathStep) : Reader Unit := do
  match ← next with
  | none => fail path .endInValue
  | some b =>
    if !isDigit b then fail path .invalidNumber
    else
      if b = 48 then
        match ← peek with
        | some d => if isDigit d then failNext path .invalidNumber
        | none => pure ()
      else skipWhile isDigit
      if (← peek) = some 46 then
        advance
        skipDigits path
      match ← peek with
      | some 101 | some 69 =>
        advance
        match ← peek with
        | some 43 | some 45 => advance
        | _ => pure ()
        match ← next with
        | some d =>
          if isDigit d then skipWhile isDigit else fail path .invalidNumber
        | none => fail path .endInValue
      | _ => pure ()

/-- Pass over a value that starts with byte `b` and is no list or object. -/
def skipScalar (path : List PathStep) (b : UInt8) : Reader Unit := do
  if b = code 'n' then advance; ident path ['u', 'l', 'l']
  else if b = code 't' then advance; ident path ['r', 'u', 'e']
  else if b = code 'f' then advance; ident path ['a', 'l', 's', 'e']
  else if b = code '-' then advance; skipNumber path
  else if isDigit b then skipNumber path
  else if b = code '"' then advance; skipString path
  else failNext path .expectedValue

/-- What is being passed over: a list or an object. -/
inductive Enclosure where
  | list
  | object
  deriving DecidableEq

/-- Close enclosures until an item or member follows or all are closed; `after` says that an item or
member precedes. -/
def closeEnclosures (path : List PathStep) (after : Bool) : List Enclosure → Reader (List Enclosure)
  | [] => return []
  | e :: outer => do
    match e, ← token with
    | .list, some 93 | .object, some 125 =>
      advance
      closeEnclosures path true outer
    | e, some b =>
      if after then
        if b = 44 then
          advance
          return e :: outer
        else
          failNext path (if e = .list then .expectedListCommaOrEnd else .expectedObjectCommaOrEnd)
      else return e :: outer
    | e, none => failNext path (if e = .list then .endInList else .endInObject)

/-- Pass over the key of a member and its colon. -/
def skipKey (path : List PathStep) : Reader Unit := do
  match ← token with
  | some 34 => advance
  | some _ => failNext path .keyMustBeString
  | none => failNext path .endInObject
  skipString path
  match ← token with
  | some 58 => advance
  | some _ => failNext path .expectedColon
  | none => failNext path .endInObject

/-- Pass over a value inside the given enclosures and over their rest, `fuel` values at most. -/
def skipWithin (path : List PathStep) : (fuel : Nat) → List Enclosure → Reader Unit
  | 0, _ => fail path .endInValue
  | fuel + 1, enclosures => do
    let enclosures ← match ← token with
      | none => failNext path .endInValue
      | some 91 => advance; closeEnclosures path false (.list :: enclosures)
      | some 123 => advance; closeEnclosures path false (.object :: enclosures)
      | some b => skipScalar path b; closeEnclosures path true enclosures
    match enclosures with
    | [] => pure ()
    | .list :: _ => skipWithin path fuel enclosures
    | .object :: _ => skipKey path; skipWithin path fuel enclosures

/-- Pass over a value. -/
def skip (path : List PathStep) : Reader Unit := do
  skipWithin path ((← left) + 1) []

/-! ## Values that are not the ones asked for -/

/-- Set the cursor after what closes a list or object that was given up, if that follows. -/
def giveUp (close : UInt8) : Reader Unit := do
  match ← token with
  | some b =>
    if b = close then advance
    else if close = 93 ∧ b = 44 then
      advance
      let _ ← token
  | none => pure ()

end Reader

/-- Read a text that holds one value. -/
def parse (text : Bytes) : Except Error Json :=
  (do
    let v ← Reader.value 0 []
    Reader.finish
    return v : Reader Json).run' (Reader.start text)

end Switchboard.Json
