import WebSocket.Frame.Codec
import WebSocket.Proofs.Wire

/-!
# The wire form of a frame reads back

Reading an encoded frame gives its opcode and payload back, at each size of the
length and with or without a key (`read_encode`). What is read of one that is cut
depends on how much of it is there, not on the key (`read_take_encode`).
-/

namespace WebSocket.Wire

-- ---------------------------------------------------------------------------
-- The length
-- ---------------------------------------------------------------------------

theorem toNat_mask_or (masked : Bool) {b : UInt8} (hb : b.toNat < 128) :
    ((if masked then 0x80 else 0) ||| b).toNat = (if masked then 128 else 0) + b.toNat := by
  rw [UInt8.toNat_or]
  cases masked with
  | false => simp
  | true => exact (Nat.two_pow_add_eq_or_of_lt (i := 7) hb 1).symm

/-- A second byte and the bytes of extended length announce this length, and
whether a key follows. -/
structure Announces (second : UInt8) (extended : List UInt8) (masked : Bool) (n : Nat) : Prop where
  masked_iff : 128 ≤ second.toNat ↔ masked = true
  lengthSize_eq : lengthSize second = extended.length
  payloadLength_eq : ∀ rest, payloadLength second (extended ++ rest) = n

section
variable {masked : Bool} {b : UInt8} {extended : List UInt8} {n : Nat}

theorem announces_of_low (hb : b.toNat < 128) (he : lengthSize b = extended.length)
    (hn : ∀ rest, payloadLength b (extended ++ rest) = n) :
    Announces ((if masked then 0x80 else 0) ||| b) extended masked n := by
  have hv := toNat_mask_or masked hb
  have hm : ((if masked then 0x80 else 0) ||| b).toNat % 128 = b.toNat % 128 := by
    rw [hv]
    cases masked <;> simp
  have hl : lengthSize ((if masked then 0x80 else 0) ||| b) = lengthSize b := by
    unfold lengthSize
    rw [hm]
  refine ⟨?_, hl.trans he, fun rest => ?_⟩
  · rw [hv]
    cases masked with
    | false => simpa using hb
    | true => simp
  · have hr := hn rest
    unfold payloadLength at hr ⊢
    rwa [hm, hl]

theorem announces_extended (width : Nat) (hb : b.toNat < 128) (hs : ¬b.toNat % 128 < 126)
    (hw : lengthSize b = width) (hn : n < BigEndian.bound width) :
    Announces ((if masked then 0x80 else 0) ||| b) (BigEndian.ofNat width n) masked n := by
  refine announces_of_low hb (by rw [hw, BigEndian.length_ofNat]) fun rest => ?_
  unfold payloadLength
  rw [if_neg hs, hw, List.take_left' (BigEndian.length_ofNat ..), BigEndian.toNat_ofNat,
    Nat.mod_eq_of_lt hn]

end

theorem announces_lengthBytes (header : FrameHeader) : ∃ second extended,
    header.lengthBytes = second :: extended ∧
      Announces second extended header.masked header.payloadLength.toNat := by
  unfold FrameHeader.lengthBytes
  dsimp only
  split
  · next hs =>
    have hs : header.payloadLength.toNat ≤ 125 := hs
    have hb : header.payloadLength.toUInt8.toNat = header.payloadLength.toNat := by
      rw [UInt64.toNat_toUInt8]
      omega
    refine ⟨_, [], rfl, announces_of_low (by omega) ?_ fun rest => ?_⟩
    · unfold lengthSize
      rw [hb, if_neg (by omega), if_neg (by omega)]
      rfl
    · unfold payloadLength
      rw [hb, if_pos (by omega)]
      omega
  · split
    · next hm =>
      have hm : header.payloadLength.toNat ≤ 65535 := hm
      exact ⟨_, _, rfl, announces_extended 2 (by decide) (by decide) rfl
        (Nat.lt_succ_of_le hm)⟩
    · exact ⟨_, _, rfl, announces_extended 8 (by decide) (by decide) rfl
        header.payloadLength.toNat_lt⟩

-- ---------------------------------------------------------------------------
-- The payload
-- ---------------------------------------------------------------------------

def keyBytes (mask : Option MaskKey) : List UInt8 := (mask.map MaskKey.toList).getD []

theorem length_keyBytes (mask : Option MaskKey) :
    (keyBytes mask).length = if mask.isSome then 4 else 0 := by
  cases mask <;> rfl

theorem getD_toList (key : MaskKey) (i : Nat) (rest : List UInt8) :
    (key.toList ++ rest).getD (i % 4) 0 = key.byte i := by
  have hi : i % 4 < 4 := Nat.mod_lt _ (by decide)
  unfold MaskKey.byte
  match i % 4, hi with
  | 0, _ | 1, _ | 2, _ | 3, _ => rfl

section
variable {second : UInt8} {extended : List UInt8} {mask : Option MaskKey} {n : Nat}

theorem Announces.tailSize_eq (h : Announces second extended mask.isSome n) :
    tailSize second = (extended ++ keyBytes mask).length := by
  rw [tailSize, h.lengthSize_eq, List.length_append, length_keyBytes]
  simp only [h.masked_iff]

theorem Announces.unmask_applyMask (h : Announces second extended mask.isSome n)
    (payload rest : List UInt8) :
    unmask second (extended ++ (keyBytes mask ++ rest)) (Frame.applyMask mask payload) =
      payload := by
  have hm := h.masked_iff
  unfold unmask
  rw [h.lengthSize_eq, List.drop_left]
  cases mask with
  | none => exact if_pos (Nat.not_le.mp fun hle => absurd (hm.mp hle) nofun)
  | some key =>
    rw [if_neg (Nat.not_lt.mpr (hm.mpr rfl))]
    refine Eq.trans ?_ (key.mask_mask payload)
    refine congrArg (fun f => List.mapIdx f (key.mask payload)) ?_
    funext i b
    rw [show keyBytes (some key) = key.toList from rfl, getD_toList]

end

-- ---------------------------------------------------------------------------
-- Frames
-- ---------------------------------------------------------------------------

theorem ofByte?_firstByte (opcode : Opcode) :
    Opcode.ofByte? ((opcode.toByte ||| 0x80) % 16) = some opcode := by
  cases opcode <;> decide

theorem le_firstByte (opcode : Opcode) : 128 ≤ (opcode.toByte ||| 0x80).toNat := by
  cases opcode <;> decide

/-- A payload in memory is shorter: no allocation has more bytes than a signed
64-bit size counts. -/
def longest : Nat := UInt64.size / 2

section
variable {limit : Nat} {opcode : Opcode} {payload : List UInt8}

theorem encode_parts (opcode : Opcode) (hs : payload.length < UInt64.size)
    (mask : Option MaskKey) :
    ∃ second extended, Announces second extended mask.isSome payload.length ∧
      Frame.encode opcode payload mask = (opcode.toByte ||| 0x80) :: second ::
        (extended ++ keyBytes mask ++ Frame.applyMask mask payload) ∧
      (Frame.encode opcode payload mask).length = 2 + tailSize second + payload.length := by
  have hn : (UInt64.ofNat payload.length).toNat = payload.length := by
    rw [UInt64.toNat_ofNat', Nat.mod_eq_of_lt hs]
  obtain ⟨second, extended, he, ha⟩ :=
    announces_lengthBytes (.ofPayload opcode (UInt64.ofNat payload.length) mask)
  replace ha : Announces second extended mask.isSome payload.length := hn ▸ ha
  have hbytes : Frame.encode opcode payload mask = (opcode.toByte ||| 0x80) :: second ::
      (extended ++ keyBytes mask ++ Frame.applyMask mask payload) := by
    unfold Frame.encode FrameHeader.encode
    rw [he]
    rfl
  refine ⟨second, extended, ha, hbytes, ?_⟩
  rw [hbytes, ha.tailSize_eq]
  simp only [List.length_cons, List.length_append, Frame.length_applyMask]
  omega

/-- What is read of an encoded frame that is cut anywhere: nothing before its header
is there, then whether it is too long, and the frame when it is whole. -/
theorem read_take_encode (limit : Nat) (opcode : Opcode) (hs : payload.length < UInt64.size)
    (mask : Option MaskKey) (n : Nat) :
    let size := (Frame.encode opcode payload mask).length
    read limit ((Frame.encode opcode payload mask).take n) =
      if n + payload.length < size then .incomplete
      else if limit < payload.length ∨ UInt64.size ≤ size then
        .refused (.frameTooLarge payload.length)
      else if n < size then .incomplete
      else .piece ⟨true, opcode, payload⟩ [] := by
  obtain ⟨second, extended, ha, hbytes, hsize⟩ := encode_parts opcode hs mask
  dsimp only
  rw [hsize, hbytes]
  match n with
  | 0 | 1 => rw [if_pos (by omega)]; rfl
  | m + 2 =>
    simp only [List.take_succ_cons, read, ofByte?_firstByte]
    by_cases ht : m < tailSize second
    · rw [if_pos (by rw [List.length_take]; omega), if_pos (by omega)]
    · -- the cut is behind the header, so what was announced can be read
      have htake : (extended ++ keyBytes mask ++ Frame.applyMask mask payload).take m =
          extended ++ keyBytes mask ++
            (Frame.applyMask mask payload).take (m - tailSize second) := by
        rw [List.take_append, ← ha.tailSize_eq, List.take_of_length_le]
        rw [← ha.tailSize_eq]
        omega
      have hlength : (extended ++ keyBytes mask ++
          (Frame.applyMask mask payload).take (m - tailSize second)).length =
          tailSize second + min (m - tailSize second) payload.length := by
        rw [List.length_append, ← ha.tailSize_eq, List.length_take, Frame.length_applyMask]
      have hdrop : (extended ++ keyBytes mask ++
          (Frame.applyMask mask payload).take (m - tailSize second)).drop (tailSize second) =
          (Frame.applyMask mask payload).take (m - tailSize second) := by
        rw [ha.tailSize_eq, List.drop_left]
      have hannounced : payloadLength second (extended ++ keyBytes mask ++
          (Frame.applyMask mask payload).take (m - tailSize second)) = payload.length := by
        rw [List.append_assoc, ha.payloadLength_eq]
      rw [htake, hannounced, hlength, if_neg (by omega),
        if_neg (show ¬m + 2 + payload.length < 2 + tailSize second + payload.length by omega)]
      refine ite_congr rfl (fun _ => rfl) fun _ => ?_
      by_cases hb : m + 2 < 2 + tailSize second + payload.length
      · rw [if_pos hb, if_pos (by omega)]
      · have hbody := Frame.length_applyMask mask payload
        rw [if_neg hb, if_neg (by omega), ← List.drop_drop, hdrop,
          List.take_of_length_le (by omega), List.take_of_length_le (by omega),
          List.drop_eq_nil_of_le (by omega), List.append_assoc, ha.unmask_applyMask,
          decide_eq_true (le_firstByte opcode)]

theorem read_encode (hl : payload.length ≤ limit) (hs : payload.length < longest)
    (mask : Option MaskKey) (rest : List UInt8) :
    read limit (Frame.encode opcode payload mask ++ rest) =
      .piece ⟨true, opcode, payload⟩ rest := by
  have hword : payload.length < UInt64.size := Nat.lt_trans hs (by decide)
  have hhalf : payload.length < UInt64.size / 2 := hs
  have hsize : UInt64.size = 18446744073709551616 := rfl
  obtain ⟨second, extended, -, -, hlength⟩ := encode_parts opcode hword mask
  have := tailSize_le second
  have hread := read_take_encode limit opcode hword mask
    (Frame.encode opcode payload mask).length
  dsimp only at hread
  rw [List.take_length, if_neg (by omega), if_neg (by omega), if_neg (by omega)] at hread
  exact read_append_piece hread rest

end

end WebSocket.Wire
