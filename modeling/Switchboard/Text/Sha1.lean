import Switchboard.Text.Utf8

/-!
# The SHA-1 digest

The message is padded with a one bit, zeros and its length in bits to a multiple of 64 bytes, and
its blocks are mixed one after another into a state of five words.
-/

namespace Switchboard.Sha1

/-- The five words of the state. -/
structure State where
  a : UInt32
  b : UInt32
  c : UInt32
  d : UInt32
  e : UInt32
  deriving DecidableEq, Repr

/-- The state before the first block. -/
def initial : State := ⟨0x67452301, 0xEFCDAB89, 0x98BADCFE, 0x10325476, 0xC3D2E1F0⟩

/-- Rotation to the left. -/
def rotate (x : UInt32) (n : UInt32) : UInt32 := (x <<< n) ||| (x >>> (32 - n))

/-- The bytes of a number, the most significant first. -/
def bytesOf (count n : Nat) : Bytes :=
  (List.range count).reverse.map fun i => (n / Nat.pow 256 i).toUInt8

/-- A message with its padding. -/
def pad (bs : Bytes) : Bytes :=
  bs ++ 0x80 :: (List.replicate ((119 - bs.length % 64) % 64) 0 ++ bytesOf 8 (bs.length * 8))

/-- Words of four bytes each. -/
def words : Bytes → List UInt32
  | a :: b :: c :: d :: rest =>
    let word := (a.toUInt32 <<< 24) ||| (b.toUInt32 <<< 16) ||| (c.toUInt32 <<< 8) ||| d.toUInt32
    word :: words rest
  | _ => []

/-- The words of a schedule after the first sixteen, `fuel` of them, for a schedule so far (the
latest first). -/
def extend : (fuel : Nat) → List UInt32 → List UInt32
  | 0, ws => ws
  | fuel + 1, ws =>
    let at' (i : Nat) : UInt32 := ws.getD i 0
    extend fuel (rotate (at' 2 ^^^ at' 7 ^^^ at' 13 ^^^ at' 15) 1 :: ws)

/-- The function of a round and its constant. -/
def roundFunction (t : Nat) (s : State) : UInt32 × UInt32 :=
  if t < 20 then ((s.b &&& s.c) ||| (~~~s.b &&& s.d), 0x5A827999)
  else if t < 40 then (s.b ^^^ s.c ^^^ s.d, 0x6ED9EBA1)
  else if t < 60 then ((s.b &&& s.c) ||| (s.b &&& s.d) ||| (s.c &&& s.d), 0x8F1BBCDC)
  else (s.b ^^^ s.c ^^^ s.d, 0xCA62C1D6)

/-- A round with the word of the schedule at its place. -/
def round (s : State) (entry : UInt32 × Nat) : State :=
  let (f, k) := roundFunction entry.2 s
  ⟨rotate s.a 5 + f + s.e + k + entry.1, s.a, rotate s.b 30, s.c, s.d⟩

/-- Mix a block of sixteen words into the state. -/
def mix (s : State) (block : List UInt32) : State :=
  let schedule := (extend 64 block.reverse).reverse
  let t := schedule.zipIdx.foldl round s
  ⟨s.a + t.a, s.b + t.b, s.c + t.c, s.d + t.d, s.e + t.e⟩

/-- Blocks of sixteen words, `fuel` of them at most. -/
def blocks : (fuel : Nat) → List UInt32 → List (List UInt32)
  | 0, _ => []
  | fuel + 1, ws => if ws.isEmpty then [] else ws.take 16 :: blocks fuel (ws.drop 16)

/-- The digest of some bytes. -/
def digest (bs : Bytes) : Bytes :=
  let ws := words (pad bs)
  let s := (blocks ws.length ws).foldl mix initial
  [s.a, s.b, s.c, s.d, s.e].flatMap fun w => bytesOf 4 w.toNat

end Switchboard.Sha1
