import Mathlib.Algebra.Group.Nat.Defs
import Switchboard.Proofs.Utf8
import Switchboard.Transport.Socket

/-!
# Messages on the wire

A peer sends a message in one frame or in several, of which the first says what the message is and
the others go on with it. `Wire.pieces` are the bytes of such a message. This module says what a web
socket makes of them: the message, unchanged, if it is within the limit (`Inbound.next_of_fits`),
and a fault if it is not (`Inbound.next_of_long`). Both speak of a message of which a part may have
been taken before, so that it does not matter how its frames come in and what comes between them.

## Shape of the proof

A frame is read as it was written (`Wire.scan_frame`), whatever follows it, and unmasking undoes the
mask. `Inbound.data_of_awaits` says what a single piece does to the message under way; a message in
pieces follows by induction. That the pieces of a text are not refused before it is whole needs that
every beginning of a text may yet become one (`Utf8.decode_of_prefix`).
-/

namespace Switchboard

/-! ## Frames -/

namespace Wire

/-- A frame of a peer, masked with a key. -/
def frame (final : Bool) (o : Opcode) (key payload : Bytes) : Bytes :=
  ((if final then 128 else 0) + o.toNat).toUInt8 :: (encode o (some key) payload).tail

variable {final : Bool} {o : Opcode} {key payload : Bytes}

theorem number_concat (bs : Bytes) (b : UInt8) :
    number (bs ++ [b]) = number bs * 256 + b.toNat := by
  rw [number, number, List.foldl_concat]

theorem number_spell (count n : Nat) : number (spell count n) = n % 256 ^ count := by
  induction count generalizing n with
  | zero => rw [spell, Nat.pow_zero, Nat.mod_one]; rfl
  | succ count ih =>
    have hbyte : ((n % 256).toUInt8).toNat = n % 256 := by
      rw [Nat.toUInt8_eq, UInt8.toNat_ofNat']
      omega
    rw [spell, number_concat, ih, hbyte, Nat.pow_succ, Nat.mul_comm (256 ^ count) 256,
      Nat.mod_mul, Nat.add_comm, Nat.mul_comm]

theorem length_spell (count n : Nat) : (spell count n).length = count := by
  induction count generalizing n with
  | zero => rfl
  | succ count ih => rw [spell, List.length_append, ih, List.length_singleton]

theorem length_mask (key payload : Bytes) : (mask key payload).length = payload.length := by
  rw [mask, List.length_map, List.length_zipIdx]

/-- Masking twice is not masking. -/
theorem mask_mask (key payload : Bytes) : mask key (mask key payload) = payload := by
  refine List.ext_getElem (by rw [length_mask, length_mask]) fun i h₁ h₂ => ?_
  simp only [mask, List.getElem_map, List.getElem_zipIdx, Nat.zero_add]
  rw [UInt8.xor_assoc, UInt8.xor_self, UInt8.xor_zero]

theorem ofNat?_toNat (o : Opcode) : Opcode.ofNat? o.toNat = some o := by
  cases o <;> rfl

/-- The first byte of a frame tells whether it is the last of its message, and what it is for. -/
theorem first_byte (final : Bool) (o : Opcode) :
    let first := ((if final then 128 else 0) + o.toNat).toUInt8
    decide ((128 : UInt8) ≤ first) = final ∧ first.toNat / 16 % 8 = 0 ∧
      first.toNat % 16 = o.toNat := by
  cases final <;> cases o <;> decide

/-- The header of a masked frame that announces its length as `short` and gives it in `wide`. -/
theorem header?_of_masked {a : UInt8} {short : Nat} {wide : Bytes} (hshort : short < 128)
    (hwide : wide.length = lengthSize short) (hkey : key.length = 4) (rest : Bytes) :
    header? a (128 + short).toUInt8 (wide ++ (key ++ rest)) = some
      ({ final := decide (128 ≤ a)
         reserved := a.toNat / 16 % 8 ≠ 0
         code := a.toNat % 16
         key := some key
         length := if lengthSize short = 0 then short else number wide }, wide.length + 4) := by
  have hbyte : (128 + short).toUInt8.toNat = 128 + short := by
    rw [Nat.toUInt8_eq, UInt8.toNat_ofNat']
    omega
  have hmasked : (128 : UInt8) ≤ (128 + short).toUInt8 := by
    rw [UInt8.le_iff_toNat_le, hbyte]
    exact Nat.le_add_right 128 short
  have hmod : (128 + short) % 128 = short := by omega
  rw [header?]
  dsimp only
  rw [hbyte, hmod, decide_eq_true hmasked, ← hwide, if_pos rfl, List.length_append,
    List.length_append, hkey, if_neg (by omega), List.take_left, List.drop_left, if_pos rfl,
    ← hkey, List.take_left]

/-- However its length is given, a masked frame is two bytes, the length, the key and the
payload. -/
theorem exists_encode (o : Opcode) (key : Bytes) (hlength : payload.length < 2 ^ 64) :
    ∃ short wide, short < 128 ∧ wide.length = lengthSize short ∧
      (if lengthSize short = 0 then short else number wide) = payload.length ∧
      encode o (some key) payload = (128 + o.toNat).toUInt8 :: (128 + short).toUInt8 ::
        (wide ++ (key ++ mask key payload)) := by
  by_cases hsmall : payload.length < 126
  · have hsize : lengthSize payload.length = 0 := by
      rw [lengthSize, if_neg (by omega), if_neg (by omega)]
    refine ⟨payload.length, [], by omega, hsize.symm, if_pos hsize, ?_⟩
    simp [encode, head, hsmall, spell]
  · by_cases hmiddle : payload.length < 65536
    · refine ⟨126, spell 2 payload.length, by omega, length_spell _ _, ?_, ?_⟩
      · rw [if_neg (by decide), number_spell]
        exact Nat.mod_eq_of_lt hmiddle
      · simp [encode, head, hsmall, hmiddle]
    · refine ⟨127, spell 8 payload.length, by omega, length_spell _ _, ?_, ?_⟩
      · rw [if_neg (by decide), number_spell]
        exact Nat.mod_eq_of_lt hlength
      · simp [encode, head, hsmall, hmiddle]

theorem frame_true (o : Opcode) (key : Bytes) (hlength : payload.length < 2 ^ 64) :
    frame true o key payload = encode o (some key) payload := by
  obtain ⟨short, wide, -, -, -, hencode⟩ := exists_encode o key hlength
  rw [frame, hencode]
  rfl

/-- **A frame is read as it was written**, whatever follows it. -/
theorem scan_frame (final : Bool) (o : Opcode) (hkey : key.length = 4)
    (hlength : payload.length < 2 ^ 64) (rest : Bytes) :
    ∃ size, scan (frame final o key payload ++ rest) =
      .header ⟨final, false, o.toNat, some key, payload.length⟩ size
        (mask key payload ++ rest) := by
  obtain ⟨hfinal, hreserved, hcode⟩ := first_byte final o
  obtain ⟨short, wide, hshort, hwide, hgiven, hencode⟩ := exists_encode o key hlength
  have hdrop : (wide ++ (key ++ (mask key payload ++ rest))).drop (wide.length + 4) =
      mask key payload ++ rest := by
    rw [← hkey, ← List.length_append, ← List.append_assoc, List.drop_left]
  have hframe : frame final o key payload ++ rest =
      ((if final then 128 else 0) + o.toNat).toUInt8 :: (128 + short).toUInt8 ::
        (wide ++ (key ++ (mask key payload ++ rest))) := by
    rw [frame, hencode, List.tail_cons]
    simp only [List.cons_append, List.append_assoc]
  refine ⟨wide.length + 4, ?_⟩
  rw [hframe, scan, header?_of_masked hshort hwide hkey]
  dsimp only
  rw [hdrop, hgiven, hfinal, hreserved, hcode]
  rfl

/-! ## Messages in pieces -/

/-- A part of a message, and the key it is masked with. -/
structure Piece where
  key : Bytes
  payload : Bytes

/-- A piece can be sent: a key has four bytes, and a length 64 bits. -/
structure Piece.Sendable (p : Piece) : Prop where
  key : p.key.length = 4
  payload : p.payload.length < 2 ^ 64

/-- The bytes of a message that is sent in pieces: the first frame says what it is, the others go on
with it, and the last is marked. -/
def pieces : Opcode → List Piece → Bytes
  | _, [] => []
  | o, p :: rest => frame rest.isEmpty o p.key p.payload ++ pieces .continuation rest

/-- The payload of a message that is sent in pieces. -/
def whole (ps : List Piece) : Bytes := ps.flatMap Piece.payload

theorem whole_cons (p : Piece) (ps : List Piece) : whole (p :: ps) = p.payload ++ whole ps :=
  List.flatMap_cons

theorem length_le_whole {ps : List Piece} {p : Piece} (hp : p ∈ ps) :
    p.payload.length ≤ (whole ps).length := by
  induction ps with
  | nil => cases hp
  | cons q ps ih =>
    rw [whole_cons, List.length_append]
    rcases List.mem_cons.mp hp with rfl | hp
    · exact Nat.le_add_right _ _
    · exact Nat.le_add_left_of_le (ih hp)

/-- A message in one piece. -/
theorem pieces_singleton (o : Opcode) {p : Piece} (hp : p.Sendable) :
    pieces o [p] = encode o (some p.key) p.payload := by
  rw [pieces, pieces, List.append_nil]
  exact frame_true o p.key hp.payload

end Wire

/-! ## What a web socket makes of a message -/

namespace Inbound

open Wire (Opcode Piece)

variable {i : Inbound} {kind : FrameKind} {o : Opcode} {seen payload rest : Bytes}

/-- A message of a kind is under way, `seen` being there of it, or none is and nothing is there: its
next frame is for the purpose `o`. -/
structure Awaits (i : Inbound) (kind : FrameKind) (seen : Bytes) (o : Opcode) : Prop where
  data : kind.isData = true
  next : i.partialMessage = none ∧ seen = [] ∧ o = SocketLink.opcodeOf kind ∨
    i.partialMessage = some (kind, seen) ∧ o = .continuation

theorem Awaits.isControl (awaits : i.Awaits kind seen o) : o.isControl = false := by
  rcases awaits.next with ⟨-, -, rfl⟩ | ⟨-, rfl⟩
  · have hdata := awaits.data
    cases kind with
    | text | binary => rfl
    | ping | pong | close => cases hdata
  · rfl

/-- A payload that may be one of a kind: text must be text. -/
def Suits (kind : FrameKind) (payload : Bytes) : Prop :=
  kind = .text → Utf8.isValid payload = true

theorem message_of_suits (hdata : kind.isData = true) (suits : Suits kind payload) :
    ∃ m, message kind payload = .ok m ∧ m.toFrame = ⟨kind, payload⟩ := by
  cases kind with
  | text =>
    obtain ⟨s, rfl⟩ := Utf8.isValid_iff.mp (suits rfl)
    refine ⟨.text s, ?_, rfl⟩
    rw [message, if_pos rfl, textOf, Utf8.decode_encode]
    rfl
  | binary => exact ⟨.binary payload, rfl, rfl⟩
  | ping | pong | close => cases hdata

/-- The beginning of a text is not refused, nor is a text. -/
theorem checkText_of_suits {final : Bool} {more : Bytes} (suits : Suits kind (payload ++ more))
    (hfinal : final = true → more = []) (htext : kind = .text) :
    checkText final payload = .ok () := by
  have hvalid := suits htext
  rcases Utf8.decode_of_prefix hvalid with ⟨s, hdecode⟩ | ⟨index, hdecode⟩
  · rw [checkText, hdecode]
  · rw [checkText, hdecode]
    cases final with
    | false => rfl
    | true =>
      -- a text does not end within a character
      rw [hfinal rfl, List.append_nil] at hvalid
      obtain ⟨s, rfl⟩ := Utf8.isValid_iff.mp hvalid
      rw [Utf8.decode_encode] at hdecode
      cases hdecode

theorem extend_of_long {final : Bool} (hlong : i.limit < (seen ++ payload).length) :
    i.extend final kind seen payload = .error (.tooLong (seen ++ payload).length i.limit) := by
  rw [extend]
  exact if_pos hlong

theorem extend_of_short {final : Bool} (hfits : (seen ++ payload).length ≤ i.limit) :
    i.extend final kind seen payload =
      (if kind = .text then checkText final (seen ++ payload) else .ok ()).bind fun _ =>
        if final then (message kind (seen ++ payload)).map
          fun m => (some m, { i with partialMessage := none })
        else .ok (none, { i with partialMessage := some (kind, seen ++ payload) }) := by
  rw [extend]
  dsimp only
  rw [if_neg (Nat.not_lt.mpr hfits)]
  by_cases htext : kind = .text
  · rw [if_pos htext, if_pos htext]
    cases checkText final (seen ++ payload) <;> cases message kind (seen ++ payload) <;>
      cases final <;> rfl
  · rw [if_neg htext, if_neg htext]
    cases message kind (seen ++ payload) <;> cases final <;> rfl

theorem extend_of_suits {final : Bool} {more : Bytes} (hfits : (seen ++ payload).length ≤ i.limit)
    (suits : Suits kind (seen ++ payload ++ more)) (hfinal : final = true → more = []) :
    i.extend final kind seen payload =
      if final then (message kind (seen ++ payload)).map
        fun m => (some m, { i with partialMessage := none })
      else .ok (none, { i with partialMessage := some (kind, seen ++ payload) }) := by
  have hcheck : (if kind = .text then checkText final (seen ++ payload) else .ok ()) = .ok () := by
    split
    · rename_i htext
      exact checkText_of_suits suits hfinal htext
    · rfl
  rw [extend_of_short hfits, hcheck]
  rfl

/-- What the next piece of a message does to an exchange in which it is awaited. -/
theorem data_of_awaits (awaits : i.Awaits kind seen o) (final : Bool) (payload : Bytes) :
    i.data final o payload = i.extend final kind seen payload ∨
      (final = true ∧ seen = [] ∧ i.partialMessage = none ∧ i.data final o payload =
        if payload.length > i.limit then .error (.tooLong payload.length i.limit)
        else (message kind payload).map fun m => (some m, i)) := by
  rcases awaits.next with ⟨hnone, rfl, rfl⟩ | ⟨hsome, rfl⟩
  · have hdata := awaits.data
    unfold data
    rw [hnone]
    cases kind with
    | text | binary =>
      cases final with
      | false => exact .inl rfl
      | true => exact .inr ⟨rfl, rfl, rfl, rfl⟩
    | ping | pong | close => cases hdata
  · unfold data
    rw [hsome]
    exact .inl rfl

theorem data_of_long (awaits : i.Awaits kind seen o) (final : Bool)
    (hlong : i.limit < (seen ++ payload).length) :
    i.data final o payload = .error (.tooLong (seen ++ payload).length i.limit) := by
  rcases data_of_awaits awaits final payload with heq | ⟨-, rfl, -, heq⟩
  · rw [heq, extend_of_long hlong]
  · rw [heq]
    exact if_pos hlong

/-- The last piece of a message that is within the limit completes it. -/
theorem data_of_last (awaits : i.Awaits kind seen o) (hfits : (seen ++ payload).length ≤ i.limit)
    (suits : Suits kind (seen ++ payload)) :
    ∃ m, m.toFrame = ⟨kind, seen ++ payload⟩ ∧
      i.data true o payload = .ok (some m, { i with partialMessage := none }) := by
  obtain ⟨m, hm, hframe⟩ := message_of_suits awaits.data suits
  refine ⟨m, hframe, ?_⟩
  rcases data_of_awaits awaits true payload with heq | ⟨-, rfl, hnone, heq⟩
  · rw [← List.append_nil (seen ++ payload)] at suits
    rw [heq, extend_of_suits hfits suits fun _ => rfl, if_pos rfl, hm]
    rfl
  · rw [List.nil_append] at hfits hm
    rw [heq, if_neg (Nat.not_lt.mpr hfits), hm, ← hnone]
    rfl

/-- Any other piece that keeps it within the limit is kept. -/
theorem data_of_more {more : Bytes} (awaits : i.Awaits kind seen o)
    (hfits : (seen ++ payload).length ≤ i.limit) (suits : Suits kind (seen ++ payload ++ more)) :
    i.data false o payload =
      .ok (none, { i with partialMessage := some (kind, seen ++ payload) }) := by
  rcases data_of_awaits awaits false payload with heq | ⟨hfinal, -⟩
  · rw [heq, extend_of_suits hfits suits fun hfinal => absurd hfinal (by decide)]
    rfl
  · cases hfinal

/-- Of a masked data frame only the payload matters. -/
theorem judge_of_masked {key : Bytes} {length : Nat} (i : Inbound) (final : Bool)
    (hcontrol : o.isControl = false) :
    i.judge ⟨final, false, o.toNat, some key, length⟩ o (Wire.mask key payload) =
      i.data final o payload := by
  rw [judge]
  dsimp only
  rw [Wire.mask_mask, if_neg (by decide), if_neg (by simp [hcontrol])]

/-- The next frame is judged by its payload. -/
theorem next_of_frame {final : Bool} {key : Bytes} (hcontrol : o.isControl = false)
    (hkey : key.length = 4) (hlength : payload.length < 2 ^ 64)
    (hbytes : i.bytes = Wire.frame final o key payload ++ rest) :
    i.next =
      if payload.length > maxFrame then .error (.tooLong payload.length maxFrame)
      else match ({ i with bytes := rest } : Inbound).data final o payload with
        | .error fault => .error fault
        | .ok (some m, after) => .ok (some m, after)
        | .ok (none, after) => ({ after with bytes := rest } : Inbound).next := by
  obtain ⟨size, hscan⟩ := Wire.scan_frame final o hkey hlength rest
  have hmask := Wire.length_mask key payload
  rw [next]
  split
  · rename_i hshort
    rw [hbytes, hscan] at hshort
    cases hshort
  · rename_i header _ found hfound
    rw [hbytes, hscan] at hfound
    obtain ⟨rfl, -, rfl⟩ := Wire.Scan.header.inj hfound
    dsimp only
    rw [Wire.ofNat?_toNat]
    dsimp only
    split
    · rfl
    · rw [if_neg (by rw [List.length_append, hmask]; omega), ← hmask, List.take_left,
        List.drop_left]
      exact judge_of_masked ({ i with bytes := rest } : Inbound) final hcontrol ▸ rfl

/-- The first piece of a message is judged by its length, and then by what it does to the
exchange. -/
theorem next_of_piece {p : Piece} {ps : List Piece} (hp : p.Sendable)
    (awaits : i.Awaits kind seen o) (hbytes : i.bytes = Wire.pieces o (p :: ps) ++ rest) :
    i.next =
      if p.payload.length > maxFrame then .error (.tooLong p.payload.length maxFrame)
      else match ({ i with bytes := Wire.pieces .continuation ps ++ rest } : Inbound).data
          ps.isEmpty o p.payload with
        | .error fault => .error fault
        | .ok (some m, after) => .ok (some m, after)
        | .ok (none, after) =>
          ({ after with bytes := Wire.pieces .continuation ps ++ rest } : Inbound).next := by
  refine next_of_frame awaits.isControl hp.key hp.payload ?_
  rw [hbytes, Wire.pieces, List.append_assoc]

/-- A piece that is within the limits is kept if others follow it, and these are awaited. -/
theorem next_of_more {p : Piece} {ps : List Piece} (hne : ps ≠ []) (hp : p.Sendable)
    (hframe : p.payload.length ≤ maxFrame) (awaits : i.Awaits kind seen o)
    (hbytes : i.bytes = Wire.pieces o (p :: ps) ++ rest)
    (hfits : (seen ++ p.payload).length ≤ i.limit)
    (suits : Suits kind (seen ++ p.payload ++ Wire.whole ps)) :
    i.next = ({ i with
      bytes := Wire.pieces .continuation ps ++ rest
      partialMessage := some (kind, seen ++ p.payload) } : Inbound).next := by
  have awaits' : ({ i with bytes := Wire.pieces .continuation ps ++ rest } : Inbound).Awaits
    kind seen o := ⟨awaits.data, awaits.next⟩
  have hnotLast : ps.isEmpty = false := by simp [hne]
  rw [next_of_piece hp awaits hbytes, if_neg (Nat.not_lt.mpr hframe), hnotLast,
    data_of_more awaits' hfits suits]

/-- **A message within the limit is taken unchanged**, in however many pieces it comes, if none of
them exceeds the limit for frames. -/
theorem next_of_fits {ps : List Piece} (hne : ps ≠ []) (hsendable : ∀ p ∈ ps, p.Sendable)
    (hframes : ∀ p ∈ ps, p.payload.length ≤ maxFrame) (awaits : i.Awaits kind seen o)
    (hbytes : i.bytes = Wire.pieces o ps ++ rest)
    (hfits : (seen ++ Wire.whole ps).length ≤ i.limit)
    (suits : Suits kind (seen ++ Wire.whole ps)) :
    ∃ m, m.toFrame = ⟨kind, seen ++ Wire.whole ps⟩ ∧
      i.next = .ok (some m, { i with bytes := rest, partialMessage := none }) := by
  induction ps generalizing i seen o with
  | nil => exact absurd rfl hne
  | cons p ps ih =>
    have hp := hsendable p List.mem_cons_self
    have hframe := hframes p List.mem_cons_self
    rw [Wire.whole_cons, ← List.append_assoc] at hfits suits ⊢
    by_cases hlast : ps = []
    · subst hlast
      have hnone : Wire.whole ([] : List Piece) = [] := rfl
      rw [hnone, List.append_nil] at hfits suits ⊢
      have awaits' : ({ i with bytes := rest } : Inbound).Awaits kind seen o :=
        ⟨awaits.data, awaits.next⟩
      obtain ⟨m, hm, hdata⟩ := data_of_last awaits' hfits suits
      refine ⟨m, hm, ?_⟩
      rw [next_of_piece hp awaits hbytes, if_neg (Nat.not_lt.mpr hframe)]
      simp only [Wire.pieces, List.nil_append, List.isEmpty_nil, hdata]
    · have hsofar : (seen ++ p.payload).length ≤ i.limit := by
        rw [List.length_append] at hfits
        exact Nat.le_of_add_right_le hfits
      rw [next_of_more hlast hp hframe awaits hbytes hsofar suits]
      exact ih hlast (fun q hq => hsendable q (List.mem_cons_of_mem p hq))
        (fun q hq => hframes q (List.mem_cons_of_mem p hq)) ⟨awaits.data, .inr ⟨rfl, rfl⟩⟩ rfl hfits
        suits

/-- **A message beyond the limit is refused**, in however many pieces it comes. -/
theorem next_of_long {ps : List Piece} (hne : ps ≠ []) (hsendable : ∀ p ∈ ps, p.Sendable)
    (awaits : i.Awaits kind seen o) (hbytes : i.bytes = Wire.pieces o ps ++ rest)
    (hlong : i.limit < (seen ++ Wire.whole ps).length)
    (suits : Suits kind (seen ++ Wire.whole ps)) :
    ∃ length limit, limit < length ∧ i.next = .error (.tooLong length limit) := by
  induction ps generalizing i seen o with
  | nil => exact absurd rfl hne
  | cons p ps ih =>
    have hp := hsendable p List.mem_cons_self
    have hnext := next_of_piece hp awaits hbytes
    rw [Wire.whole_cons, ← List.append_assoc] at hlong suits
    -- the limit is passed with this piece, or with a later one
    by_cases hframe : p.payload.length > maxFrame
    · exact ⟨_, _, hframe, hnext.trans (if_pos hframe)⟩
    by_cases hsofar : i.limit < (seen ++ p.payload).length
    · have awaits' : ({ i with bytes := Wire.pieces .continuation ps ++ rest } : Inbound).Awaits
        kind seen o := ⟨awaits.data, awaits.next⟩
      rw [if_neg hframe, data_of_long awaits' _ hsofar] at hnext
      exact ⟨_, _, hsofar, hnext⟩
    · have hmore : ps ≠ [] := by
        rintro rfl
        have hnone : Wire.whole ([] : List Piece) = [] := rfl
        rw [hnone, List.append_nil] at hlong
        exact hsofar hlong
      rw [next_of_more hmore hp (Nat.le_of_not_lt hframe) awaits hbytes (Nat.le_of_not_lt hsofar)
        suits]
      exact ih hmore (fun q hq => hsendable q (List.mem_cons_of_mem p hq))
        ⟨awaits.data, .inr ⟨rfl, rfl⟩⟩ rfl hlong suits

end Inbound

end Switchboard
