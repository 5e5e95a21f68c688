import WebSocket.Proofs.Wire.Headers

/-!
# The canonical form of a header

Reading a header drops its reserved bits, and accepts a length in a longer form than it
needs. Writing the header again gives back the bytes that it was read from exactly if
neither is the case (`encode_eq_take_iff`), so a header has one canonical form.
-/

namespace WebSocket

theorem MaskKey.toList_ofBytes {bytes : List UInt8} (h : bytes.length = 4) :
    (ofBytes bytes).toList = bytes := by
  match bytes, h with
  | [_, _, _, _], _ => rfl

namespace FrameHeader

open Wire (lengthSize tailSize keyBytes lengthSize_le_tailSize toNat_mask_or)

def Unreserved : List UInt8 → Prop
  | first :: _ => first &&& 0x70 = 0
  | [] => True

/-- The second byte announces the length `n` in the shortest form: two bytes of extended
length stand for more than 125, and eight for more than 65535. -/
def Shortest (n : UInt64) : List UInt8 → Prop
  | _ :: second :: _ =>
    (second &&& 0x7F = 126 → 125 < n) ∧ (second &&& 0x7F = 127 → 65535 < n)
  | _ => True

instance : DecidablePred Unreserved
  | first :: _ => inferInstanceAs (Decidable (first &&& 0x70 = 0))
  | [] => .isTrue trivial

instance (n : UInt64) : DecidablePred (Shortest n)
  | _ :: second :: _ => inferInstanceAs (Decidable ((second &&& 0x7F = 126 → 125 < n) ∧ _))
  | [] | [_] => .isTrue trivial

variable {limit : Nat} {header : FrameHeader} {first second : UInt8} {rest buffer : List UInt8}

-- ---------------------------------------------------------------------------
-- The first byte
-- ---------------------------------------------------------------------------

theorem nibble_or_high_iff : ∀ n : Fin 256,
    UInt8.ofNat n % 16 ||| (if UInt8.ofNat n &&& 0x80 != 0 then 0x80 else 0) = UInt8.ofNat n ↔
      UInt8.ofNat n &&& 0x70 = 0 := by
  decide +kernel

theorem Parsed.firstByte_eq_iff (h : Parsed limit header first second rest) :
    header.firstByte = first ↔ first &&& 0x70 = 0 := by
  have hfin : header.fin = (first &&& 0x80 != 0) := by rw [h.eq]; rfl
  have hb := nibble_or_high_iff ⟨first.toNat, first.toNat_lt⟩
  rw [UInt8.ofNat_toNat] at hb
  rw [firstByte, ← Opcode.ofByte?_eq_some_iff.mp h.opcode, hfin, hb]

-- ---------------------------------------------------------------------------
-- The length
-- ---------------------------------------------------------------------------

theorem Parsed.forms (h : Parsed limit header first second rest) :
    (second.toNat % 128 < 126 ∧ lengthSize second = 0 ∧
        header.payloadLength.toNat = second.toNat % 128) ∨
      (second.toNat % 128 = 126 ∧ lengthSize second = 2 ∧
        header.payloadLength.toNat = BigEndian.toNat (rest.take 2) ∧
        header.payloadLength.toNat ≤ 65535) ∨
      (second.toNat % 128 = 127 ∧ lengthSize second = 8 ∧
        header.payloadLength.toNat = BigEndian.toNat (rest.take 8)) := by
  have hn := h.payloadLength_eq
  unfold Wire.payloadLength at hn
  by_cases hs : second.toNat % 128 < 126
  · rw [if_pos hs] at hn
    exact .inl ⟨hs, by rw [lengthSize, if_neg (by omega), if_neg (by omega)], hn⟩
  rw [if_neg hs] at hn
  by_cases hm : second.toNat % 128 = 126
  · have hl : lengthSize second = 2 := by rw [lengthSize, if_pos hm]
    rw [hl] at hn
    have htwo : (rest.take 2).length = 2 := by
      have := lengthSize_le_tailSize second
      have := h.whole
      rw [List.length_take]
      omega
    have hlt := BigEndian.toNat_lt (rest.take 2)
    rw [htwo, ← hn] at hlt
    exact .inr (.inl ⟨hm, hl, hn, Nat.le_of_lt_succ hlt⟩)
  · have hm' : second.toNat % 128 = 127 := by omega
    have hl : lengthSize second = 8 := by rw [lengthSize, if_neg hm, if_pos hm']
    rw [hl] at hn
    exact .inr (.inr ⟨hm', hl, hn⟩)

theorem shortest_iff (n : UInt64) : Shortest n (first :: second :: rest) ↔
    (second.toNat % 128 = 126 → 125 < n.toNat) ∧
      (second.toNat % 128 = 127 → 65535 < n.toNat) := by
  have h126 : second &&& 0x7F = 126 ↔ _ := and_0x7F_eq_iff second (n := 126) (by decide)
  have h127 : second &&& 0x7F = 127 ↔ _ := and_0x7F_eq_iff second (n := 127) (by decide)
  have hdef : Shortest n (first :: second :: rest) ↔
      (second &&& 0x7F = 126 → 125 < n) ∧ (second &&& 0x7F = 127 → 65535 < n) := Iff.rfl
  rw [hdef, h126, h127, UInt64.lt_iff_toNat_lt, UInt64.lt_iff_toNat_lt]
  rfl

theorem Parsed.size_eq_iff (h : Parsed limit header first second rest) :
    header.size = encodedSize header.payloadLength header.masked ↔
      Shortest header.payloadLength (first :: second :: rest) := by
  have hsize : encodedSize header.payloadLength header.masked = 2 +
      (if 65535 < header.payloadLength.toNat then 8
        else if 125 < header.payloadLength.toNat then 2 else 0) +
      if header.masked then 4 else 0 := rfl
  have hkey : (if header.masked then 4 else 0) = if 128 ≤ second.toNat then 4 else 0 := by
    rw [h.masked_eq]
    simp only [decide_eq_true_eq]
  rw [h.size_eq, tailSize, hsize, hkey, shortest_iff]
  generalize (if 128 ≤ second.toNat then 4 else 0) = key
  obtain ⟨hs, hl, hn⟩ | ⟨hs, hl, -, hn⟩ | ⟨hs, hl, -⟩ := h.forms
  · rw [hl, if_neg (by omega), if_neg (by omega)]
    omega
  · rw [hl, if_neg (by omega)]
    split <;> omega
  · rw [hl]
    split
    · omega
    · split <;> omega

theorem mask_or_eq {b : UInt8} (hb : b.toNat < 128) (h : second.toNat % 128 = b.toNat) :
    (if decide (128 ≤ second.toNat) then 0x80 else 0) ||| b = second := by
  apply UInt8.toNat_inj.mp
  have := second.toNat_lt
  rw [toNat_mask_or _ hb]
  simp only [decide_eq_true_eq]
  split <;> omega

theorem ofNat_toNat_take {n : Nat} (h : n ≤ rest.length) :
    BigEndian.ofNat n (BigEndian.toNat (rest.take n)) = rest.take n := by
  have hr := BigEndian.ofNat_toNat (rest.take n)
  rwa [List.length_take_of_le h] at hr

theorem Parsed.lengthBytes_eq (h : Parsed limit header first second rest)
    (hs : Shortest header.payloadLength (first :: second :: rest)) :
    header.lengthBytes = second :: rest.take (lengthSize second) := by
  have hsmall : header.payloadLength ≤ smallLimit ↔ header.payloadLength.toNat ≤ 125 := Iff.rfl
  have hmedium : header.payloadLength ≤ mediumLimit ↔ header.payloadLength.toNat ≤ 65535 := Iff.rfl
  have hwhole := Nat.le_trans (lengthSize_le_tailSize second) h.whole
  rw [shortest_iff] at hs
  rw [lengthBytes, h.masked_eq]
  simp only [hsmall, hmedium]
  obtain ⟨hb, hl, hn⟩ | ⟨hb, hl, hn, hle⟩ | ⟨hb, hl, hn⟩ := h.forms
  · have hbyte : header.payloadLength.toUInt8.toNat = header.payloadLength.toNat := by
      rw [UInt64.toNat_toUInt8]
      omega
    rw [if_pos (by omega), hl, mask_or_eq (by omega) (by omega)]
    rfl
  · have h125 := hs.1 hb
    rw [hl] at hwhole
    rw [if_neg (by omega), if_pos hle, hl, mask_or_eq (by decide) hb, hn, ofNat_toNat_take hwhole]
  · have h65535 := hs.2 hb
    rw [hl] at hwhole
    rw [if_neg (by omega), if_neg (by omega), hl, mask_or_eq (by decide) hb, hn,
      ofNat_toNat_take hwhole]

-- ---------------------------------------------------------------------------
-- The whole header
-- ---------------------------------------------------------------------------

theorem Parsed.keyBytes_eq (h : Parsed limit header first second rest) :
    keyBytes header.mask = (rest.drop (lengthSize second)).take
      (if 128 ≤ second.toNat then 4 else 0) := by
  have hmask : header.mask = if 128 ≤ second.toNat then
      some (MaskKey.ofBytes ((rest.drop (lengthSize second)).take 4)) else none := by
    rw [h.eq, ofWire]
    simp only [maskBit_eq, extendedSize_eq, decide_eq_true_eq]
  have hwhole := h.whole
  unfold tailSize at hwhole
  rw [hmask]
  by_cases hm : 128 ≤ second.toNat
  · rw [if_pos hm] at hwhole
    rw [if_pos hm, if_pos hm]
    refine MaskKey.toList_ofBytes ?_
    rw [List.length_take, List.length_drop]
    omega
  · rw [if_neg hm, if_neg hm]
    rfl

theorem Parsed.take_size (h : Parsed limit header first second rest) :
    (first :: second :: rest).take header.size =
      first :: second :: (rest.take (lengthSize second) ++ keyBytes header.mask) := by
  rw [h.size_eq, h.keyBytes_eq, Nat.add_comm 2, tailSize, ← List.take_add]
  rfl

theorem Parsed.length_encode (h : Parsed limit header first second rest) :
    header.encode.length = encodedSize header.payloadLength header.masked := by
  rw [← length_lengthBytes, ← h.isSome_mask, ← Wire.length_keyBytes, encode, List.length_append,
    List.length_cons]
  rfl

theorem Parsed.encode_eq_iff (h : Parsed limit header first second rest) :
    header.encode = (first :: second :: rest).take header.size ↔
      first &&& 0x70 = 0 ∧ Shortest header.payloadLength (first :: second :: rest) := by
  constructor
  · intro he
    have hle : header.size ≤ (first :: second :: rest).length := by
      have := h.whole
      rw [h.size_eq]
      simp only [List.length_cons]
      omega
    have hsize := congrArg List.length he
    rw [h.length_encode, List.length_take_of_le hle] at hsize
    rw [h.take_size] at he
    exact ⟨h.firstByte_eq_iff.mp (List.cons.inj he).1, h.size_eq_iff.mp hsize.symm⟩
  · rintro ⟨hfirst, hshort⟩
    rw [h.take_size, encode, h.firstByte_eq_iff.mpr hfirst, h.lengthBytes_eq hshort]
    rfl

/-- A header that was read is written as it was read exactly if it was canonical: no
reserved bit was set, and its length took the shortest form. That form alone decides
whether the header has the size that it needs, and of two canonical texts of one header
neither differs from the other. -/
theorem encode_eq_take_iff (h : parse? limit buffer = .ok (some header)) :
    (header.encode = buffer.take header.size ↔
      Unreserved buffer ∧ Shortest header.payloadLength buffer) ∧
    (header.size = encodedSize header.payloadLength header.masked ↔
      Shortest header.payloadLength buffer) ∧
    ∀ limit' other, parse? limit' other = .ok (some header) →
      Unreserved buffer → Shortest header.payloadLength buffer →
      Unreserved other → Shortest header.payloadLength other →
      other.take header.size = buffer.take header.size := by
  have hiff {limit : Nat} {bytes : List UInt8} (h : parse? limit bytes = .ok (some header)) :
      header.encode = bytes.take header.size ↔
        Unreserved bytes ∧ Shortest header.payloadLength bytes := by
    obtain ⟨first, second, rest, rfl, hp⟩ := parsed_of_parse? h
    exact hp.encode_eq_iff
  refine ⟨hiff h, ?_, fun limit' other ho hu hs hu' hs' => ?_⟩
  · obtain ⟨first, second, rest, rfl, hp⟩ := parsed_of_parse? h
    exact hp.size_eq_iff
  · exact ((hiff ho).mpr ⟨hu', hs'⟩).symm.trans ((hiff h).mpr ⟨hu, hs⟩)

/-- A length of 5 in two bytes of its own, under reserved bits that are all set, and the
shortest length that needs two bytes. -/
theorem encode_eq_take_iff_overlong :
    let overlong : List UInt8 := [0xF1, 0xFE, 0x00, 0x05, 1, 2, 3, 4]
    let canonical : List UInt8 := [0x81, 0xFE, 0x00, 0x7E, 1, 2, 3, 4]
    let short : FrameHeader := ⟨true, .text, true, 5, some ⟨1, 2, 3, 4⟩, 8⟩
    let long : FrameHeader := ⟨true, .text, true, 126, some ⟨1, 2, 3, 4⟩, 8⟩
    parse? 126 overlong = .ok (some short) ∧ short.encode ≠ overlong.take 8 ∧
      short.size ≠ encodedSize 5 true ∧
      parse? 126 canonical = .ok (some long) ∧ long.encode = canonical.take 8 ∧
      long.size = encodedSize 126 true := by
  intro overlong canonical short long
  have hshort : parse? 126 overlong = .ok (some short) := rfl
  have hlong : parse? 126 canonical = .ok (some long) := rfl
  obtain ⟨hencode, hsize, -⟩ := encode_eq_take_iff hshort
  obtain ⟨hencode', hsize', -⟩ := encode_eq_take_iff hlong
  exact ⟨hshort, fun h => absurd (hencode.mp h) (by decide),
    fun h => absurd (hsize.mp h) (by decide), hlong, hencode'.mpr (by decide),
    hsize'.mpr (by decide)⟩

end FrameHeader

end WebSocket
