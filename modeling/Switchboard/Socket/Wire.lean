import Switchboard.Text.Utf8

/-!
# Frames as bytes

On the wire a frame begins with two bytes: whether it is the last of its message, three reserved
bits, what it is for, whether it is masked, and its length, which the next two or eight bytes give
if it exceeds 125. A key of four bytes follows if the frame is masked; every byte of the payload is
then combined with one byte of the key, in turn. A peer masks what it sends, a server does not.

`Wire.scan` says what a byte list begins with, and `Wire.encode` is how a frame is written.
-/

namespace Switchboard.Wire

/-- What a frame on the wire is for. -/
inductive Opcode where
  | continuation
  | text
  | binary
  | close
  | ping
  | pong
  deriving DecidableEq, Repr, Inhabited

namespace Opcode

/-- The number that stands for a purpose. -/
def toNat : Opcode → Nat
  | .continuation => 0
  | .text => 1
  | .binary => 2
  | .close => 8
  | .ping => 9
  | .pong => 10

/-- The purpose a number stands for. -/
def ofNat? (n : Nat) : Option Opcode :=
  [continuation, text, binary, close, ping, pong].find? fun o => o.toNat = n

/-- Whether frames of a purpose speak about the exchange itself. -/
def isControl : Opcode → Bool
  | .close | .ping | .pong => true
  | _ => false

end Opcode

/-- What stands before the payload of a frame. -/
structure Header where
  final : Bool
  /-- Whether a reserved bit is set. -/
  reserved : Bool
  /-- The number of the purpose. -/
  code : Nat
  key : Option Bytes
  /-- The length of the payload. -/
  length : Nat
  deriving DecidableEq, Repr, Inhabited

/-- The number that some bytes spell, the most significant first. -/
def number (bs : Bytes) : Nat := bs.foldl (fun n b => n * 256 + b.toNat) 0

/-- The `count` bytes that spell a number, the most significant first. -/
def spell : (count : Nat) → Nat → Bytes
  | 0, _ => []
  | count + 1, n => spell count (n / 256) ++ [(n % 256).toUInt8]

/-- The number of bytes that give a length after the first two bytes announced it as `short`. -/
def lengthSize (short : Nat) : Nat := if short = 126 then 2 else if short = 127 then 8 else 0

/-- The header that `a`, `b` and `rest` begin with, and the number of bytes of `rest` that belong to
it. -/
def header? (a b : UInt8) (rest : Bytes) : Option (Header × Nat) :=
  let short := b.toNat % 128
  let wide := lengthSize short
  let masked := decide (128 ≤ b)
  let size := wide + if masked then 4 else 0
  if rest.length < size then none
  else
    let header : Header :=
      { final := decide (128 ≤ a)
        reserved := a.toNat / 16 % 8 ≠ 0
        code := a.toNat % 16
        key := if masked then some ((rest.drop wide).take 4) else none
        length := if wide = 0 then short else number (rest.take wide) }
    some (header, size)

/-- Combine a payload with a key, byte by byte and in turn. -/
def mask (key payload : Bytes) : Bytes :=
  payload.zipIdx.map fun (b, i) => b ^^^ key.getD (i % 4) 0

/-- What a byte list begins with. -/
inductive Scan where
  /-- The beginning of a header. -/
  | short
  /-- A header with the given number of bytes after the first two, and what follows it. -/
  | header (h : Header) (size : Nat) (rest : Bytes)
  deriving DecidableEq, Repr

/-- What a byte list begins with. -/
def scan : Bytes → Scan
  | a :: b :: rest =>
    match header? a b rest with
    | some (h, size) => .header h size (rest.drop size)
    | none => .short
  | _ => .short

/-- What follows a header is shorter than the whole. -/
theorem length_lt_of_scan {bs rest : Bytes} {h : Header} {size : Nat}
    (hs : scan bs = .header h size rest) : rest.length < bs.length := by
  unfold scan at hs
  split at hs
  · split at hs
    · simp only [Scan.header.injEq] at hs
      rw [← hs.2.2]
      simp only [List.length_drop, List.length_cons]
      omega
    · simp at hs
  · simp at hs

/-- The first bytes of a frame that is the whole of its message. -/
def head (o : Opcode) (key : Option Bytes) (length : Nat) : Bytes :=
  let flag := if key.isSome then 128 else 0
  let first : UInt8 := (128 + o.toNat).toUInt8
  let sized (short wide : Nat) : Bytes := first :: (flag + short).toUInt8 :: spell wide length
  let announced :=
    if length < 126 then sized length 0 else if length < 65536 then sized 126 2 else sized 127 8
  announced ++ key.getD []

/-- A frame that is the whole of its message. -/
def encode (o : Opcode) (key : Option Bytes) (payload : Bytes) : Bytes :=
  head o key payload.length ++ key.elim payload fun k => mask k payload

/-- The number of bytes of an unmasked frame. -/
def size (length : Nat) : Nat :=
  length + if length < 126 then 2 else if length < 65536 then 4 else 10

end Switchboard.Wire
