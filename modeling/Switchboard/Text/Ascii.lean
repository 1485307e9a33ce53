import Switchboard.Text.Utf8

/-!
# Text up to ASCII case

Names of headers, origins and settings are compared without regard to the case of ASCII letters, and
of no others.

Bytes are compared in the same way. A byte list of ASCII characters spells the text
`Ascii.ofBytes`.
-/

namespace Switchboard.Ascii

/-- A text with its ASCII letters in lower case. -/
def lower (s : String) : String := s.map Char.toLower

/-- Whether two texts are the same up to the case of ASCII letters. -/
def sameText (s t : String) : Bool := lower s = lower t

/-- A byte, in lower case if it is an ASCII letter. -/
def lowerByte (b : UInt8) : UInt8 := if 65 ≤ b ∧ b ≤ 90 then b + 32 else b

/-- Whether two byte lists are the same up to the case of ASCII letters. -/
def sameBytes (a b : Bytes) : Bool := a.map lowerByte = b.map lowerByte

/-- The text that ASCII bytes spell. -/
def ofBytes (bs : Bytes) : String := .ofList (bs.map fun b => Char.ofNat b.toNat)

/-! ## Lower case, of texts and of bytes -/

theorem lowerByte_of_high {b : UInt8} (h : 128 ≤ b.toNat) : lowerByte b = b := by
  refine if_neg fun hletter => ?_
  have hle : b.toNat ≤ 90 := UInt8.le_iff_toNat_le.mp hletter.2
  omega

theorem toLower_of_high {c : Char} (h : 128 ≤ c.toNat) : c.toLower = c := by
  refine dif_neg fun hletter => ?_
  have hle : c.toNat ≤ 90 := UInt32.le_iff_toNat_le.mp hletter.2
  omega

/-- ASCII characters are put in lower case as their bytes are. -/
theorem toLower_of_ascii : ∀ n : Fin 128, (Char.ofNat n).toLower.toNat < 128 ∧
    UInt8.ofNat (Char.ofNat n).toLower.toNat = lowerByte (UInt8.ofNat n) := by
  decide

theorem encodeChar_toLower (c : Char) :
    String.utf8EncodeChar c.toLower = (String.utf8EncodeChar c).map lowerByte := by
  by_cases hc : c.toNat < 128
  · obtain ⟨hlow, hbyte⟩ := toLower_of_ascii ⟨c.toNat, hc⟩
    rw [Char.ofNat_toNat] at hlow hbyte
    rw [Utf8.encodeChar_of_ascii hc, Utf8.encodeChar_of_ascii hlow, hbyte, List.map_singleton]
  · have hhigh : 128 ≤ c.toNat := Nat.not_lt.mp hc
    have hsame : (String.utf8EncodeChar c).map lowerByte = (String.utf8EncodeChar c).map id :=
      List.map_congr_left fun b hb => lowerByte_of_high (Utf8.le_of_mem_encodeChar hhigh hb)
    rw [toLower_of_high hhigh, hsame, List.map_id]

theorem encode_lower (s : String) : Utf8.encode (lower s) = (Utf8.encode s).map lowerByte := by
  rw [Utf8.encode, Utf8.encode, lower, String.toList_map, List.map_flatMap, List.flatMap_map]
  exact congrArg (List.flatMap · s.toList) (funext encodeChar_toLower)

/-- Texts are the same up to case if their bytes are. -/
theorem sameText_eq_sameBytes (s t : String) :
    sameText s t = sameBytes (Utf8.encode s) (Utf8.encode t) := by
  have hiff : lower s = lower t ↔
      (Utf8.encode s).map lowerByte = (Utf8.encode t).map lowerByte := by
    rw [← encode_lower, ← encode_lower]
    exact ⟨congrArg Utf8.encode, Utf8.encode_injective⟩
  exact decide_eq_decide.mpr hiff

theorem toNat_ofNat : ∀ n : Fin 128, (Char.ofNat n).toNat = n := by decide

theorem encode_ofBytes {bs : Bytes} (h : ∀ b ∈ bs, b.toNat < 128) :
    Utf8.encode (ofBytes bs) = bs := by
  rw [Utf8.encode, ofBytes, String.toList_ofList, List.flatMap_map]
  induction bs with
  | nil => rfl
  | cons b rest ih =>
    have hb : b.toNat < 128 := h b List.mem_cons_self
    have hchar : (Char.ofNat b.toNat).toNat = b.toNat := toNat_ofNat ⟨b.toNat, hb⟩
    rw [List.flatMap_cons, ih fun x hx => h x (List.mem_cons_of_mem b hx),
      Utf8.encodeChar_of_ascii (by omega), hchar, UInt8.ofNat_toNat, List.singleton_append]

end Switchboard.Ascii
