import WebSocket.Frame.Stream
import WebSocket.Proofs.Wire

/-!
# Decoding in place reads the wire

`Frame.decode` works inside a buffer and gives out a header. Its verdict is the
one of `Wire.read` (`decode_agrees`): an incomplete or refused buffer is left as it
is, and a complete frame is unmasked where it stands.
-/

namespace WebSocket

open Wire (lengthSize tailSize unmask)

-- ---------------------------------------------------------------------------
-- The second byte
-- ---------------------------------------------------------------------------

theorem and_0x0F (b : UInt8) : b &&& 0x0F = b % 16 := by
  apply UInt8.toNat_inj.mp
  rw [UInt8.toNat_and, UInt8.toNat_mod]
  exact Nat.and_two_pow_sub_one_eq_mod b.toNat 4

theorem toNat_and_0x7F (b : UInt8) : (b &&& 0x7F).toNat = b.toNat % 128 := by
  rw [UInt8.toNat_and]
  exact Nat.and_two_pow_sub_one_eq_mod b.toNat 7

theorem and_128_ne_zero_iff : ∀ n : Fin 256, n.val &&& 128 ≠ 0 ↔ 128 ≤ n.val := by decide +kernel

theorem and_0x80_ne_zero (b : UInt8) : (b &&& 0x80 != 0) = decide (128 ≤ b.toNat) := by
  rw [Bool.eq_iff_iff, bne_iff_ne, decide_eq_true_iff, ← and_128_ne_zero_iff ⟨b.toNat, b.toNat_lt⟩,
    Ne, ← UInt8.toNat_inj, UInt8.toNat_and]
  rfl

theorem and_0x7F_eq_iff (b : UInt8) {n : Nat} (hn : n < 256) :
    b &&& 0x7F = UInt8.ofNat n ↔ b.toNat % 128 = n := by
  rw [← UInt8.toNat_inj, toNat_and_0x7F, UInt8.toNat_ofNat_of_lt' hn]

namespace FrameHeader

theorem extendedSize_eq (second : UInt8) : extendedSize second = lengthSize second := by
  have h126 : second &&& 0x7F = 126 ↔ _ := and_0x7F_eq_iff second (n := 126) (by decide)
  have h127 : second &&& 0x7F = 127 ↔ _ := and_0x7F_eq_iff second (n := 127) (by decide)
  simp only [extendedSize, lengthSize, h126, h127]

theorem maskBit_eq (second : UInt8) : maskBit second = decide (128 ≤ second.toNat) :=
  and_0x80_ne_zero second

theorem sizeOfSecond_eq (second : UInt8) : sizeOfSecond second = 2 + tailSize second := by
  have h : sizeOfSecond second = 2 + extendedSize second + if maskBit second then 4 else 0 := rfl
  rw [h, extendedSize_eq, maskBit_eq, tailSize, Nat.add_assoc]
  simp only [decide_eq_true_eq]

theorem toNat_take_lt (bytes : List UInt8) {n : Nat} (h : n ≤ 8) :
    BigEndian.toNat (bytes.take n) < UInt64.size := by
  have hb := BigEndian.toNat_lt (bytes.take n)
  have hl : (bytes.take n).length ≤ 8 := by
    rw [List.length_take]
    omega
  refine Nat.lt_of_lt_of_le hb ?_
  generalize (bytes.take n).length = m at hl
  match m, hl with
  | 0, _ | 1, _ | 2, _ | 3, _ | 4, _ | 5, _ | 6, _ | 7, _ | 8, _ => decide

theorem toNat_announcedLength (second : UInt8) (rest : List UInt8) :
    (announcedLength second rest).toNat = Wire.payloadLength second rest := by
  have hs : second.toNat % 128 < 128 := Nat.mod_lt _ (by decide)
  unfold announcedLength Wire.payloadLength
  rw [extendedSize_eq]
  by_cases hb : second.toNat % 128 < 126
  · have hz : lengthSize second = 0 := by
      unfold lengthSize
      rw [if_neg (by omega), if_neg (by omega)]
    rw [if_pos hz, if_pos hb, UInt8.toNat_toUInt64, toNat_and_0x7F]
  · have hz : lengthSize second ≠ 0 ∧ lengthSize second ≤ 8 := by
      unfold lengthSize
      split
      · decide
      · rw [if_pos (by omega)]
        decide
    rw [if_neg hz.1, if_neg hb, UInt64.toNat_ofNat', Nat.mod_eq_of_lt (toNat_take_lt rest hz.2)]

theorem size_ofWire (opcode : Opcode) (first second : UInt8) (rest : List UInt8) :
    (ofWire opcode first second rest).size = 2 + tailSize second :=
  sizeOfSecond_eq second

theorem frameLength_ofWire (opcode : Opcode) (first second : UInt8) (rest : List UInt8) :
    (ofWire opcode first second rest).frameLength =
      2 + tailSize second + Wire.payloadLength second rest := by
  rw [frameLength, size_ofWire, ofWire, toNat_announcedLength]

theorem payload_ofWire (opcode : Opcode) (first second : UInt8) (rest bytes : List UInt8) :
    (ofWire opcode first second rest).payload bytes =
      (bytes.drop (2 + tailSize second)).take (Wire.payloadLength second rest) := by
  rw [payload, size_ofWire, ofWire, toNat_announcedLength]

theorem parse?_cons_cons (limit : Nat) (first second : UInt8) (rest : List UInt8) :
    parse? limit (first :: second :: rest) =
      match Opcode.ofByte? (first % 16) with
      | none => .error (.invalidOpcode (first % 16))
      | some opcode =>
        if rest.length < tailSize second then .ok none
        else if limit < Wire.payloadLength second rest ∨
            UInt64.size ≤ 2 + tailSize second + Wire.payloadLength second rest then
          .error (.frameTooLarge (Wire.payloadLength second rest))
        else .ok (some (ofWire opcode first second rest)) := by
  simp only [parse?, and_0x0F]
  cases Opcode.ofByte? (first % 16) with
  | none => rfl
  | some opcode =>
    have hs : ((first :: second :: rest).take (2 + tailSize second)).length < 2 + tailSize second ↔
        rest.length < tailSize second := by
      simp only [List.length_take, List.length_cons]
      omega
    have hl : (ofWire opcode first second rest).payloadLength.toNat = _ :=
      toNat_announcedLength second rest
    simp only [size_ofWire, frameLength_ofWire, hl, hs]

/-- What a header that was read has to do with the bytes it was read from. -/
structure Parsed (limit : Nat) (header : FrameHeader) (first second : UInt8)
    (rest : List UInt8) : Prop where
  opcode : Opcode.ofByte? (first % 16) = some header.opcode
  whole : tailSize second ≤ rest.length
  fits : Wire.payloadLength second rest ≤ limit
  counted : 2 + tailSize second + Wire.payloadLength second rest < UInt64.size
  eq : header = ofWire header.opcode first second rest

theorem parsed_of_parse? {limit : Nat} {buffer : List UInt8} {header : FrameHeader}
    (h : parse? limit buffer = .ok (some header)) :
    ∃ first second rest, buffer = first :: second :: rest ∧
      Parsed limit header first second rest := by
  match buffer with
  | [] | [_] => cases h
  | first :: second :: rest =>
    rw [parse?_cons_cons] at h
    split at h
    · cases h
    · next opcode ho =>
      split at h
      · cases h
      · next hw =>
        split at h
        · cases h
        · next hl =>
          cases h
          exact ⟨first, second, rest, rfl, ho, by omega, by omega, by omega, rfl⟩

namespace Parsed

variable {limit : Nat} {header : FrameHeader} {first second : UInt8} {rest : List UInt8}

theorem size_eq (h : Parsed limit header first second rest) :
    header.size = 2 + tailSize second := by
  rw [h.eq]
  exact size_ofWire ..

theorem payloadLength_eq (h : Parsed limit header first second rest) :
    header.payloadLength.toNat = Wire.payloadLength second rest := by
  rw [h.eq]
  exact toNat_announcedLength ..

theorem masked_eq (h : Parsed limit header first second rest) :
    header.masked = decide (128 ≤ second.toNat) := by
  rw [h.eq]
  exact maskBit_eq second

theorem isSome_mask (h : Parsed limit header first second rest) :
    header.mask.isSome = header.masked := by
  rw [h.eq, ofWire]
  cases maskBit second <;> rfl

theorem frameLength_lt (h : Parsed limit header first second rest) :
    header.frameLength < UInt64.size := by
  rw [frameLength, h.size_eq, h.payloadLength_eq]
  exact h.counted

end Parsed

-- ---------------------------------------------------------------------------
-- The parts of a buffer
-- ---------------------------------------------------------------------------

section
variable {header : FrameHeader} {buffer : List UInt8}

theorem parts_eq (header : FrameHeader) (buffer : List UInt8) :
    buffer.take header.size ++ header.payload buffer ++ buffer.drop header.frameLength =
      buffer := by
  rw [List.append_assoc, payload, frameLength, ← List.drop_drop, List.take_append_drop,
    List.take_append_drop]

theorem length_take_size (h : header.frameLength ≤ buffer.length) :
    (buffer.take header.size).length = header.size :=
  List.length_take_of_le (Nat.le_trans (Nat.le_add_right ..) h)

theorem length_payload (h : header.frameLength ≤ buffer.length) :
    (header.payload buffer).length = header.payloadLength.toNat := by
  rw [frameLength] at h
  rw [payload, List.length_take, List.length_drop]
  omega

end

end FrameHeader

-- ---------------------------------------------------------------------------
-- The payload
-- ---------------------------------------------------------------------------

theorem MaskKey.byte_ofBytes_take (bytes : List UInt8) (i : Nat) :
    (ofBytes (bytes.take 4)).byte i = bytes.getD (i % 4) 0 := by
  have hi : i % 4 < 4 := Nat.mod_lt _ (by decide)
  have hg : ∀ n, n < 4 → (bytes.take 4).getD n 0 = bytes.getD n 0 := fun n hn => by
    rw [List.getD_eq_getElem?_getD, List.getElem?_take_of_lt hn, List.getD_eq_getElem?_getD]
  rw [← hg _ hi]
  unfold byte
  match i % 4, hi with
  | 0, _ | 1, _ | 2, _ | 3, _ => rfl

theorem Frame.applyMask_ofWire (opcode : Opcode) (first second : UInt8) (rest data : List UInt8) :
    applyMask (FrameHeader.ofWire opcode first second rest).mask data =
      unmask second rest data := by
  unfold unmask FrameHeader.ofWire
  simp only [FrameHeader.maskBit_eq, FrameHeader.extendedSize_eq, decide_eq_true_eq]
  by_cases hm : 128 ≤ second.toNat
  · rw [if_pos hm, if_neg (by omega)]
    simp only [applyMask, MaskKey.mask, MaskKey.byte_ofBytes_take]
  · rw [if_neg hm, if_pos (by omega)]
    rfl

-- ---------------------------------------------------------------------------
-- The three readings of a buffer
-- ---------------------------------------------------------------------------

namespace Frame

/-- What decoding a buffer has to answer, given what its front amounts to. The
payload of a complete frame is found unmasked behind the header, and what
follows the frame has not changed. -/
def Agrees (limit : Nat) (buffer : List UInt8) : Wire.Reading → Prop
  | .incomplete => decode limit buffer = (.ok none, buffer)
  | .refused e => decode limit buffer = (.error e, buffer)
  | .piece p rest => ∃ header bytes, decode limit buffer = (.ok (some header), bytes) ∧
      header.fin = p.fin ∧ header.opcode = p.opcode ∧ header.payload bytes = p.payload ∧
      bytes.drop header.frameLength = rest

section
variable {limit : Nat} {buffer : List UInt8} {header : FrameHeader}

theorem decode_of_le (hp : FrameHeader.parse? limit buffer = .ok (some header))
    (hl : header.frameLength ≤ buffer.length) :
    decode limit buffer = (.ok (some header), buffer.take header.size ++
      applyMask header.mask (header.payload buffer) ++ buffer.drop header.frameLength) := by
  simp only [decode, hp]
  rw [if_neg (by rw [List.length_take]; omega)]

theorem decode_complete (hp : FrameHeader.parse? limit buffer = .ok (some header))
    (hl : header.frameLength ≤ buffer.length) :
    ∃ bytes, decode limit buffer = (.ok (some header), bytes) ∧
      header.payload bytes = applyMask header.mask (header.payload buffer) ∧
      bytes.drop header.frameLength = buffer.drop header.frameLength := by
  have hhead := FrameHeader.length_take_size hl
  have hbody : (applyMask header.mask (header.payload buffer)).length =
      header.payloadLength.toNat := by
    rw [length_applyMask, FrameHeader.length_payload hl]
  refine ⟨_, decode_of_le hp hl, ?_, ?_⟩
  · rw [FrameHeader.payload, List.append_assoc, List.drop_left' hhead, List.take_left' hbody]
  · refine List.drop_left' ?_
    rw [List.length_append, hhead, hbody, FrameHeader.frameLength]

/-- Unless a whole frame is there, decoding answers no header and leaves the buffer alone. -/
theorem decode_cases (limit : Nat) (buffer : List UInt8) :
    (∃ header, FrameHeader.parse? limit buffer = .ok (some header) ∧
      header.frameLength ≤ buffer.length) ∨
    ∃ answer, (∀ header, answer ≠ .ok (some header)) ∧ decode limit buffer = (answer, buffer) := by
  unfold decode
  cases hp : FrameHeader.parse? limit buffer with
  | error e => exact .inr ⟨.error e, nofun, rfl⟩
  | ok parsed =>
    cases parsed with
    | none => exact .inr ⟨.ok none, nofun, rfl⟩
    | some header =>
      by_cases hl : header.frameLength ≤ buffer.length
      · exact .inl ⟨header, rfl, hl⟩
      · have hcut : (buffer.take header.frameLength).length < header.frameLength := by
          rw [List.length_take]
          omega
        simp only [if_pos hcut]
        exact .inr ⟨.ok none, nofun, rfl⟩

end

theorem decode_agrees (limit : Nat) (buffer : List UInt8) :
    Agrees limit buffer (Wire.read limit buffer) := by
  match buffer with
  | [] => rfl
  | [_] => rfl
  | first :: second :: tail =>
    have hp := FrameHeader.parse?_cons_cons limit first second tail
    simp only [Wire.read]
    cases ho : Opcode.ofByte? (first % 16) with
    | none => simp only [Agrees, decode, hp, ho]
    | some opcode =>
      simp only [ho] at hp
      have hlen := FrameHeader.frameLength_ofWire opcode first second tail
      by_cases ht : tail.length < tailSize second
      · simp only [Agrees, decode, hp, if_pos ht]
      simp only [if_neg ht] at hp ⊢
      by_cases hl : limit < Wire.payloadLength second tail ∨
          UInt64.size ≤ 2 + tailSize second + Wire.payloadLength second tail
      · simp only [Agrees, decode, hp, if_pos hl]
      simp only [if_neg hl] at hp ⊢
      by_cases hb : tail.length < tailSize second + Wire.payloadLength second tail
      · simp only [if_pos hb, Agrees, decode, hp]
        rw [if_pos]
        simp only [List.length_take, List.length_cons]
        omega
      · obtain ⟨bytes, hd, hpay, hrest⟩ := decode_complete hp (by
          rw [hlen]
          simp only [List.length_cons]
          omega)
        simp only [if_neg hb]
        refine ⟨_, bytes, hd, and_0x80_ne_zero first, rfl, ?_, ?_⟩
        · rw [hpay, applyMask_ofWire, FrameHeader.payload_ofWire, Nat.add_comm 2]
          rfl
        · rw [hrest, hlen, Nat.add_assoc, Nat.add_comm 2]
          rfl

section
variable {limit : Nat} {buffer bytes : List UInt8}

theorem read_of_decode_error {e : Error} (h : decode limit buffer = (.error e, bytes)) :
    Wire.read limit buffer = .refused e := by
  have ha := decode_agrees limit buffer
  cases hr : Wire.read limit buffer with
  | incomplete => simp [hr, Agrees, h] at ha
  | refused e' =>
    simp only [hr, Agrees, h] at ha
    cases ha
    rfl
  | piece p rest => simp [hr, Agrees, h] at ha

theorem read_of_decode_none (h : decode limit buffer = (.ok none, bytes)) :
    Wire.read limit buffer = .incomplete := by
  have ha := decode_agrees limit buffer
  cases hr : Wire.read limit buffer with
  | incomplete => rfl
  | refused e => simp [hr, Agrees, h] at ha
  | piece p rest => simp [hr, Agrees, h] at ha

theorem read_of_decode_some {header : FrameHeader}
    (h : decode limit buffer = (.ok (some header), bytes)) :
    ∃ p, Wire.read limit buffer = .piece p (bytes.drop header.frameLength) ∧
      header.fin = p.fin ∧ header.opcode = p.opcode ∧ header.payload bytes = p.payload := by
  have ha := decode_agrees limit buffer
  cases hr : Wire.read limit buffer with
  | incomplete => simp [hr, Agrees, h] at ha
  | refused e => simp [hr, Agrees, h] at ha
  | piece p rest =>
    simp only [hr, Agrees, h] at ha
    obtain ⟨_, _, hd, hf, ho, hp, hrest⟩ := ha
    cases hd
    exact ⟨p, by rw [hrest], hf, ho, hp⟩

end

end Frame

end WebSocket
