import WebSocket.Proofs.Wire.Decoding
import WebSocket.Proofs.Wire.Encoding

/-!
# Headers read back

A header that has the size its length needs, and a key exactly if it says so, is read
back as it was (`parse?_encode`): from its own bytes and whatever follows them, at each
size of the length. That holds of every header for a payload, up to the largest length of
64 bits, and writing it takes the bytes that its second byte implies (`writeOver_ofPayload`).
-/

namespace WebSocket.FrameHeader

open Wire (Announces keyBytes tailSize lengthSize)

/-- A header whose fields agree: it is masked if it has a key, and it takes the bytes
that its length needs. -/
structure Consistent (header : FrameHeader) : Prop where
  masked_eq : header.masked = header.mask.isSome
  size_eq : header.size = encodedSize header.payloadLength header.masked

theorem ofPayload_consistent (opcode : Opcode) (n : UInt64) (mask : Option MaskKey) :
    (ofPayload opcode n mask).Consistent := ⟨rfl, rfl⟩

variable {header : FrameHeader} {second : UInt8} {extended : List UInt8}

-- ---------------------------------------------------------------------------
-- Sizes
-- ---------------------------------------------------------------------------

theorem length_lengthBytes (header : FrameHeader) :
    header.lengthBytes.length + 1 + (if header.masked then 4 else 0) =
      encodedSize header.payloadLength header.masked := by
  have hsize : encodedSize header.payloadLength header.masked = 2 +
      (if mediumLimit < header.payloadLength then 8
        else if smallLimit < header.payloadLength then 2 else 0) +
      if header.masked then 4 else 0 := rfl
  rw [hsize, lengthBytes]
  by_cases hs : header.payloadLength ≤ smallLimit
  · have hm : header.payloadLength ≤ mediumLimit := UInt64.le_trans hs (by decide)
    simp [hs, UInt64.not_lt.mpr hs, UInt64.not_lt.mpr hm]
  · by_cases hm : header.payloadLength ≤ mediumLimit
    · simp [hs, hm, UInt64.not_le.mp hs, UInt64.not_lt.mpr hm]
    · simp [hs, hm, UInt64.not_le.mp hm]

theorem length_encode (h : header.Consistent) : header.encode.length = header.size := by
  rw [h.size_eq, ← length_lengthBytes, h.masked_eq, ← Wire.length_keyBytes, encode,
    List.length_append, List.length_cons]
  rfl

theorem Consistent.parts (h : header.Consistent) : ∃ second extended,
    header.encode = header.firstByte :: second :: (extended ++ keyBytes header.mask) ∧
      Announces second extended header.mask.isSome header.payloadLength.toNat ∧
      2 + tailSize second = header.size := by
  obtain ⟨second, extended, hl, ha⟩ := Wire.announces_lengthBytes header
  rw [h.masked_eq] at ha
  have hbytes : header.encode =
      header.firstByte :: second :: (extended ++ keyBytes header.mask) := by
    rw [encode, hl]
    rfl
  refine ⟨second, extended, hbytes, ha, ?_⟩
  rw [← length_encode h, hbytes, ha.tailSize_eq]
  simp only [List.length_cons]
  omega

-- ---------------------------------------------------------------------------
-- Reading
-- ---------------------------------------------------------------------------

theorem firstByte_mod (header : FrameHeader) :
    Opcode.ofByte? (header.firstByte % 16) = some header.opcode := by
  unfold firstByte
  cases header.opcode <;> cases header.fin <;> decide

theorem firstByte_and (header : FrameHeader) : (header.firstByte &&& 0x80 != 0) = header.fin := by
  unfold firstByte
  cases header.opcode <;> cases header.fin <;> decide

theorem ofWire_encode (h : header.Consistent)
    (ha : Announces second extended header.mask.isSome header.payloadLength.toNat)
    (hsize : 2 + tailSize second = header.size) (rest : List UInt8) :
    ofWire header.opcode header.firstByte second (extended ++ (keyBytes header.mask ++ rest)) =
      header := by
  have hmasked : maskBit second = header.masked := by
    rw [maskBit_eq, h.masked_eq, Bool.eq_iff_iff, decide_eq_true_iff]
    exact ha.masked_iff
  have hlength : announcedLength second (extended ++ (keyBytes header.mask ++ rest)) =
      header.payloadLength := by
    apply UInt64.toNat_inj.mp
    rw [toNat_announcedLength, ha.payloadLength_eq]
  have hkey : (if maskBit second then
      some (MaskKey.ofBytes (((extended ++ (keyBytes header.mask ++ rest)).drop
        (extendedSize second)).take 4)) else none) = header.mask := by
    rw [hmasked, h.masked_eq, extendedSize_eq, ha.lengthSize_eq, List.drop_left]
    cases header.mask with
    | none => rfl
    | some key => rfl
  rw [ofWire, firstByte_and, hkey, hmasked, hlength, sizeOfSecond_eq, hsize]

theorem parse?_encode (h : header.Consistent) (limit : Nat) (rest : List UInt8) :
    parse? limit (header.encode ++ rest) =
      if limit < header.payloadLength.toNat ∨ UInt64.size ≤ header.frameLength then
        .error (.frameTooLarge header.payloadLength.toNat)
      else .ok (some header) := by
  obtain ⟨second, extended, hbytes, ha, hsize⟩ := h.parts
  have hwhole : ¬(extended ++ (keyBytes header.mask ++ rest)).length < tailSize second := by
    rw [ha.tailSize_eq]
    simp
  rw [hbytes, List.cons_append, List.cons_append, List.append_assoc, parse?_cons_cons,
    firstByte_mod]
  simp only [if_neg hwhole, ha.payloadLength_eq, hsize, ofWire_encode h ha hsize]
  rfl

/-- As long as any byte of a header is missing the header is waited for, also when its
payload is too long. -/
theorem parse?_take_encode (h : header.Consistent) (limit : Nat) {n : Nat}
    (hn : n < header.size) : parse? limit (header.encode.take n) = .ok none := by
  obtain ⟨second, extended, hbytes, ha, hsize⟩ := h.parts
  rw [hbytes]
  match n with
  | 0 | 1 => rfl
  | m + 2 =>
    have hcut : ((extended ++ keyBytes header.mask).take m).length < tailSize second := by
      rw [List.length_take]
      omega
    simp only [List.take_succ_cons, parse?_cons_cons, firstByte_mod, if_pos hcut]

-- ---------------------------------------------------------------------------
-- Headers for a payload
-- ---------------------------------------------------------------------------

/-- The header of a payload takes between 2 and 14 bytes, as many as its second byte
implies, and what stands behind them in the buffer stays. It is read back from them as it
is if the payload is not too long and the frame has a length in 64 bits, and refused
otherwise; no part of it is enough to read or refuse anything. -/
theorem writeOver_ofPayload (opcode : Opcode) (fin : Bool) (n : UInt64) (mask : Option MaskKey)
    {out : List UInt8} (hout : out.length = maxSize) :
    let header := { ofPayload opcode n mask with fin := fin }
    let raw := (header.writeOver out).1
    (header.writeOver out).2 = header.size ∧ header.size = encodedSize n mask.isSome ∧
      raw[1]?.map sizeOfSecond = some header.size ∧ 2 ≤ header.size ∧ header.size ≤ maxSize ∧
      raw.length = maxSize ∧ raw.drop header.size = out.drop header.size ∧
      (∀ limit rest, parse? limit (raw.take header.size ++ rest) =
        if n.toNat ≤ limit ∧ n.toNat + header.size < UInt64.size then .ok (some header)
        else .error (.frameTooLarge n.toNat)) ∧
      ∀ limit, ∀ k < header.size, parse? limit (raw.take k) = .ok none := by
  intro header raw
  have hc : header.Consistent := ⟨rfl, rfl⟩
  obtain ⟨second, extended, hbytes, -, hsecond⟩ := hc.parts
  have hsize : header.encode.length = header.size := length_encode hc
  have hle : header.size ≤ maxSize := by
    have := Wire.tailSize_le second
    rw [← hsecond, maxSize]
    omega
  have hraw : raw = header.encode ++ out.drop header.size := by
    rw [← hsize]
    rfl
  have hfront : ∀ k ≤ header.size, raw.take k = header.encode.take k := fun k hk => by
    rw [hraw, List.take_append_of_le_length (hsize ▸ hk)]
  refine ⟨hsize, rfl, ?_, by omega, hle, ?_, ?_, fun limit rest => ?_, fun limit k hk => ?_⟩
  · rw [hraw, hbytes]
    exact congrArg some ((sizeOfSecond_eq second).trans hsecond)
  · rw [hraw, List.length_append, List.length_drop, hsize]
    omega
  · rw [hraw, List.drop_left' hsize]
  · rw [hfront _ (Nat.le_refl _), ← hsize, List.take_length, parse?_encode hc, hsize]
    have hframe : header.frameLength = header.size + n.toNat := rfl
    have hlength : header.payloadLength.toNat = n.toNat := rfl
    rw [hframe, hlength]
    by_cases hfits : n.toNat ≤ limit ∧ n.toNat + header.size < UInt64.size
    · rw [if_pos hfits, if_neg (by omega)]
    · rw [if_neg hfits, if_pos (by omega)]
  · rw [hfront k (Nat.le_of_lt hk), parse?_take_encode hc limit hk]

/-- 14 bytes short of 64 bits a masked payload leaves no length for its frame, and one
without a key does. -/
theorem writeOver_ofPayload_huge :
    let out := List.replicate 14 (0xFF : UInt8)
    let n : UInt64 := 18446744073709551602
    let masked := { ofPayload .binary n (some ⟨1, 2, 3, 4⟩) with fin := false }
    let bare := { ofPayload .binary n none with fin := false }
    out.length = maxSize ∧ masked.size = 14 ∧ bare.size = 10 ∧
      (∀ k < 14, parse? n.toNat ((masked.writeOver out).1.take k) = .ok none) ∧
      (∀ rest, parse? n.toNat ((masked.writeOver out).1.take 14 ++ rest) =
        .error (.frameTooLarge n.toNat)) ∧
      (bare.writeOver out).1.drop 10 = [0xFF, 0xFF, 0xFF, 0xFF] ∧
      ∀ rest, parse? n.toNat ((bare.writeOver out).1.take 10 ++ rest) = .ok (some bare) := by
  intro out n masked bare
  have hout : out.length = maxSize := rfl
  obtain ⟨-, -, -, -, -, -, -, hread, hcut⟩ :=
    writeOver_ofPayload .binary false n (some ⟨1, 2, 3, 4⟩) hout
  obtain ⟨-, -, -, -, -, -, hdrop, hbare, -⟩ := writeOver_ofPayload .binary false n none hout
  refine ⟨hout, rfl, rfl, fun k hk => hcut _ k hk, fun rest => ?_, hdrop, fun rest => ?_⟩
  · exact (hread n.toNat rest).trans (if_neg (by decide))
  · exact (hbare n.toNat rest).trans (if_pos (by decide))

end WebSocket.FrameHeader
