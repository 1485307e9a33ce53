/-!
# UTF-8 over byte lists

Payloads are byte lists, and only some of them are text. `Utf8.head` says what a byte list begins
with: a character, a sequence that no continuation can repair, or a legal beginning that the input
cuts short. Everything else is built on it: `decode` reads text or names the first fault, and
`decodeLossy` puts U+FFFD in the place of each maximal faulty sequence.

## Shape of a character

A lead byte fixes how many continuation bytes follow and the bounds of the first of them; the
narrower bounds after `E0`, `ED`, `F0` and `F4` keep out overlong forms, surrogates and code points
above U+10FFFF.
-/

namespace Switchboard

/-- A payload: its bytes in order. -/
abbrev Bytes := List UInt8

namespace Utf8

/-- The bytes of a text. -/
def encode (s : String) : Bytes :=
  s.toList.flatMap String.utf8EncodeChar

/-- The number of continuation bytes a lead byte of a longer character asks for, and the bounds of
the first of them. -/
def lead (b : UInt8) : Option (Nat × UInt8 × UInt8) :=
  if b < 0xC2 then none
  else if b < 0xE0 then some (1, 0x80, 0xBF)
  else if b = 0xE0 then some (2, 0xA0, 0xBF)
  else if b = 0xED then some (2, 0x80, 0x9F)
  else if b < 0xF0 then some (2, 0x80, 0xBF)
  else if b = 0xF0 then some (3, 0x90, 0xBF)
  else if b < 0xF4 then some (3, 0x80, 0xBF)
  else if b = 0xF4 then some (3, 0x80, 0x8F)
  else none

/-- What a byte list begins with. The count is that of the bytes after the first one that belong to
the sequence. -/
inductive Head where
  /-- A whole character. -/
  | char (c : Char) (extra : Nat)
  /-- A maximal sequence that starts no character. -/
  | invalid (extra : Nat)
  /-- The beginning of a character, at the end of the input. -/
  | truncated (extra : Nat)
  deriving DecidableEq, Repr

/-- Read `need` continuation bytes, the first of them between `lo` and `hi`; `code` is the code
point so far and `extra` the number of continuation bytes already read. -/
def tail : (need : Nat) → (lo hi : UInt8) → (code extra : Nat) → Bytes → Head
  | 0, _, _, code, extra, _ => .char (Char.ofNat code) extra
  | _ + 1, _, _, _, extra, [] => .truncated extra
  | need + 1, lo, hi, code, extra, b :: rest =>
    if lo ≤ b ∧ b ≤ hi then
      tail need 0x80 0xBF (code * 64 + (b.toNat - 0x80)) (extra + 1) rest
    else .invalid extra

/-- What the bytes `b :: rest` begin with. -/
def head (b : UInt8) (rest : Bytes) : Head :=
  if b < 0x80 then .char (Char.ofNat b.toNat) 0
  else match lead b with
    | none => .invalid 0
    | some (need, lo, hi) =>
      let bits :=
        b.toNat - if need = 1 then 0xC0 else if need = 2 then 0xE0 else 0xF0
      tail need lo hi bits 0 rest

/-- Why a byte list is not text: the first fault starts at `index`; `length` counts the bytes of the
faulty sequence, and is absent if the input ends within a character. -/
structure Fault where
  index : Nat
  length : Option Nat
  deriving DecidableEq, Repr

/-- The wording of a fault. -/
def Fault.message (f : Fault) : String :=
  match f.length with
  | some n => s!"invalid utf-8 sequence of {n} bytes from index {f.index}"
  | none => s!"incomplete utf-8 byte sequence from index {f.index}"

/-- The characters of a byte list that is text, or its first fault, after the characters `done` (the
latest first) that `index` bytes before the list spelled. -/
def charsAfter (done : List Char) (index : Nat) : Bytes → Except Fault (List Char)
  | [] => .ok done.reverse
  | b :: rest =>
    match head b rest with
    | .char c extra => charsAfter (c :: done) (index + extra + 1) (rest.drop extra)
    | .invalid extra => .error ⟨index, some (extra + 1)⟩
    | .truncated _ => .error ⟨index, none⟩
termination_by bs => bs.length
decreasing_by simp only [List.length_drop, List.length_cons]; omega

/-- The text of a byte list, or its first fault. -/
def decode (bs : Bytes) : Except Fault String :=
  (charsAfter [] 0 bs).map String.ofList

/-- The text of a byte list that is text. -/
def decode? (bs : Bytes) : Option String :=
  (decode bs).toOption

/-- Whether a byte list is text. -/
def isValid (bs : Bytes) : Bool :=
  (decode? bs).isSome

/-- The characters of a byte list, with U+FFFD for each maximal faulty sequence, after the
characters `done` (the latest first). -/
def charsLossyAfter (done : List Char) : Bytes → List Char
  | [] => done.reverse
  | b :: rest =>
    match head b rest with
    | .char c extra => charsLossyAfter (c :: done) (rest.drop extra)
    | .invalid extra => charsLossyAfter ('\uFFFD' :: done) (rest.drop extra)
    | .truncated _ => ('\uFFFD' :: done).reverse
termination_by bs => bs.length
decreasing_by all_goals simp only [List.length_drop, List.length_cons]; omega

/-- The text of a byte list, with U+FFFD for each maximal faulty sequence. -/
def decodeLossy (bs : Bytes) : String :=
  String.ofList (charsLossyAfter [] bs)

/-! ## Bytes of characters -/

theorem toByteArray_eq_encode (s : String) : s.toByteArray = (encode s).toByteArray :=
  calc s.toByteArray = (String.ofList s.toList).toByteArray := by rw [String.ofList_toList]
    _ = s.toList.utf8Encode := String.toByteArray_ofList
    _ = (encode s).toByteArray := rfl

/-- Texts with the same bytes are the same. -/
theorem encode_injective {s t : String} (h : encode s = encode t) : s = t := by
  rw [← String.toByteArray_inj, toByteArray_eq_encode, h, ← toByteArray_eq_encode]

theorem encodeChar_of_ascii {c : Char} (h : c.toNat < 128) :
    String.utf8EncodeChar c = [UInt8.ofNat c.toNat] := by
  rw [String.utf8EncodeChar]
  exact if_pos (Nat.le_of_lt_succ h)

/-- The bytes of a character beyond ASCII have their highest bit set. -/
theorem le_of_mem_encodeChar {c : Char} (h : 128 ≤ c.toNat) {b : UInt8}
    (hb : b ∈ String.utf8EncodeChar c) : 128 ≤ b.toNat := by
  have hne : ¬ c.val.toNat ≤ 127 := Nat.not_le.mpr h
  rw [String.utf8EncodeChar] at hb
  simp only [if_neg hne] at hb
  -- one case for each number of bytes
  split at hb
  · simp only [List.mem_cons, List.not_mem_nil, or_false] at hb
    rcases hb with rfl | rfl <;> rw [UInt8.toNat_ofNat'] <;> omega
  · split at hb
    · simp only [List.mem_cons, List.not_mem_nil, or_false] at hb
      rcases hb with rfl | rfl | rfl <;> rw [UInt8.toNat_ofNat'] <;> omega
    · simp only [List.mem_cons, List.not_mem_nil, or_false] at hb
      rcases hb with rfl | rfl | rfl | rfl <;> rw [UInt8.toNat_ofNat'] <;> omega

end Utf8

end Switchboard
