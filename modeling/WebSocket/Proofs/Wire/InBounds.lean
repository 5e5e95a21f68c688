import WebSocket.Proofs.Bytes.Access
import WebSocket.Proofs.Masking.Kernels
import WebSocket.Proofs.Wire.RoundTrip

/-!
# Decoding stays inside the buffer

`decodeChecked` decodes with every access checked: each byte, each part of the buffer, each
block that a register takes in, and each sum of lengths in 64 bits. It always has a result,
which is that of `decode`, so no access is out of range. What `decode` changes
is the payload of a complete frame and nothing else (`decode_in_bounds`).
-/

namespace WebSocket

open Access (slice? front? splice? slice?_of_le front?_of_le splice?_of_le)

def sum? (m n : Nat) : Option Nat := if m + n < UInt64.size then some (m + n) else none

-- ---------------------------------------------------------------------------
-- Masking
-- ---------------------------------------------------------------------------

def mapBlocks? (width : Nat) (f : List UInt8 → List UInt8) :
    (count : Nat) → List UInt8 → Option (List UInt8)
  | 0, _ => some []
  | count + 1, data => do
    let (block, data) ← front? width data
    let masked ← mapBlocks? width f count data
    some (f block ++ masked)

theorem mapBlocks?_eq {width count : Nat} {f : List UInt8 → List UInt8} {data : List UInt8}
    (h : width * count ≤ data.length) :
    mapBlocks? width f count data = some (mapBlocks width f count data) := by
  induction count generalizing data with
  | zero => rfl
  | succ count ih =>
    rw [Nat.mul_succ] at h
    have hrest : width * count ≤ (data.drop width).length := by
      rw [List.length_drop]
      omega
    simp [mapBlocks?, mapBlocks, front?_of_le (show width ≤ data.length by omega), ih hrest]

namespace MaskKey

def maskByRegisters? (key : MaskKey) (width : Nat) (rest : List UInt8 → Option (List UInt8))
    (data : List UInt8) : Option (List UInt8) := do
  let count := data.length / width
  let masked ← mapBlocks? width (fun block => List.zipWith (· ^^^ ·) block (key.lanes width))
    count data
  let left ← slice? data (width * count) data.length
  let tail ← rest left
  some (masked ++ tail)

/-- `maskOn` with every access of a register checked. The words are visited one after the
other, without a position. -/
def maskOn? (key : MaskKey) (cpu : Processor) (order : ByteOrder) (cut : Alignment)
    (data : List UInt8) : Option (List UInt8) :=
  let words (data : List UInt8) := some (key.maskWords order cut data)
  let narrow := key.maskByRegisters? 16 words
  match cpu with
  | .x86 avx2 =>
    if avx2 && decide (32 ≤ data.length) then key.maskByRegisters? 32 narrow data
    else if 16 ≤ data.length then narrow data
    else words data
  | .arm64 => if 16 ≤ data.length then narrow data else words data
  | .generic => words data

theorem maskByRegisters?_eq (key : MaskKey) (width : Nat) {rest : List UInt8 → Option (List UInt8)}
    (hw : width % 4 = 0) (hrest : ∀ data, rest data = some (key.mask data)) (data : List UInt8) :
    key.maskByRegisters? width rest data = some (key.mask data) := by
  have hle : width * (data.length / width) ≤ data.length := Nat.mul_div_le ..
  have hmasked := key.maskRegisters_append hw hle
  unfold maskRegisters at hmasked
  simp [maskByRegisters?, mapBlocks?_eq hle, slice?_of_le hle (Nat.le_refl _), hrest, hmasked]

theorem maskOn?_eq (key : MaskKey) (cpu : Processor) (order : ByteOrder) (cut : Alignment)
    (data : List UInt8) : key.maskOn? cpu order cut data = some (key.mask data) := by
  have hwords (data : List UInt8) :
      some (key.maskWords order cut data) = some (key.mask data) := by
    rw [maskWords_eq]
  have hnarrow := key.maskByRegisters?_eq 16 rfl hwords
  have hwide := key.maskByRegisters?_eq 32 rfl hnarrow
  unfold maskOn?
  cases cpu with
  | x86 avx2 =>
    dsimp only
    split
    · exact hwide data
    · split
      · exact hnarrow data
      · exact hwords data
  | arm64 =>
    dsimp only
    split
    · exact hnarrow data
    · exact hwords data
  | generic => exact hwords data

end MaskKey

-- ---------------------------------------------------------------------------
-- Reading the header
-- ---------------------------------------------------------------------------

namespace FrameHeader

open Wire (tailSize lengthSize)

def readLength? (second : UInt8) (cursor : List UInt8) : Option (UInt64 × List UInt8) :=
  if extendedSize second = 0 then some ((second &&& 0x7F).toUInt64, cursor)
  else do
    let (bytes, cursor) ← front? (extendedSize second) cursor
    some (UInt64.ofNat (BigEndian.toNat bytes), cursor)

def readKey? (second : UInt8) (cursor : List UInt8) : Option (Option MaskKey) :=
  if maskBit second then do
    let (bytes, _) ← front? 4 cursor
    some (some (MaskKey.ofBytes bytes))
  else some none

def parseChecked (limit : Nat) (buffer : List UInt8) : Option (Except Error (Option FrameHeader)) :=
  if buffer.length < 2 then some (.ok none)
  else do
    let first ← buffer[0]?
    let second ← buffer[1]?
    match Opcode.ofByte? (first &&& 0x0F) with
    | none => some (.error (.invalidOpcode (first &&& 0x0F)))
    | some opcode =>
      let size := sizeOfSecond second
      if buffer.length < size then some (.ok none)
      else do
        let cursor ← slice? buffer 2 size
        let (payloadLength, cursor) ← readLength? second cursor
        if limit < payloadLength.toNat ∨ sum? payloadLength.toNat size = none then
          some (.error (.frameTooLarge payloadLength.toNat))
        else do
          let mask ← readKey? second cursor
          some (.ok (some {
            fin := first &&& 0x80 != 0
            opcode := opcode
            masked := maskBit second
            payloadLength := payloadLength
            mask := mask
            size := size }))

variable {second : UInt8} {rest : List UInt8}

theorem readLength?_eq (h : tailSize second ≤ rest.length) :
    readLength? second (rest.take (tailSize second)) =
      some (announcedLength second rest,
        (rest.take (tailSize second)).drop (extendedSize second)) := by
  have hle : extendedSize second ≤ tailSize second :=
    extendedSize_eq second ▸ Wire.lengthSize_le_tailSize second
  unfold readLength? announcedLength
  split
  · next hz => rw [hz, List.drop_zero]
  · have hcursor : extendedSize second ≤ (rest.take (tailSize second)).length := by
      rw [List.length_take]
      omega
    simp [front?_of_le hcursor, List.take_take, Nat.min_eq_left hle]

theorem readKey?_eq (h : tailSize second ≤ rest.length) :
    readKey? second ((rest.take (tailSize second)).drop (extendedSize second)) =
      some (if maskBit second then
        some (MaskKey.ofBytes ((rest.drop (extendedSize second)).take 4)) else none) := by
  have hsize : tailSize second =
      extendedSize second + if maskBit second then 4 else 0 := by
    rw [tailSize, extendedSize_eq, maskBit_eq]
    simp only [decide_eq_true_eq]
  unfold readKey?
  by_cases hm : maskBit second = true
  · rw [if_pos hm] at hsize
    have hcursor : (rest.take (tailSize second)).drop (extendedSize second) =
        (rest.drop (extendedSize second)).take 4 := by
      rw [hsize, List.drop_take, Nat.add_sub_cancel_left]
    have hfour : 4 ≤ ((rest.drop (extendedSize second)).take 4).length := by
      rw [List.length_take, List.length_drop]
      omega
    rw [hcursor, if_pos hm, if_pos hm, front?_of_le hfour, List.take_take]
    rfl
  · rw [if_neg hm, if_neg hm]

theorem sum?_eq_none_iff (m n : Nat) : sum? m n = none ↔ UInt64.size ≤ m + n := by
  unfold sum?
  split <;> simp <;> omega

theorem parseChecked_eq (limit : Nat) (buffer : List UInt8) :
    parseChecked limit buffer = some (parse? limit buffer) := by
  match buffer with
  | [] | [_] => rfl
  | first :: second :: rest =>
    rw [parse?_cons_cons, parseChecked, if_neg (by simp)]
    simp only [List.getElem?_cons_zero, List.getElem?_cons_succ, Option.bind_eq_bind,
      Option.bind_some, and_0x0F, sizeOfSecond_eq]
    cases Opcode.ofByte? (first % 16) with
    | none => rfl
    | some opcode =>
      have hcut : (first :: second :: rest).length < 2 + tailSize second ↔
          rest.length < tailSize second := by
        simp only [List.length_cons]
        omega
      simp only [hcut]
      by_cases ht : rest.length < tailSize second
      · rw [if_pos ht, if_pos ht]
      have hwhole : tailSize second ≤ rest.length := Nat.not_lt.mp ht
      have hcursor : slice? (first :: second :: rest) 2 (2 + tailSize second) =
          some (rest.take (tailSize second)) := by
        rw [slice?_of_le (by omega) (by simp only [List.length_cons]; omega), Nat.add_comm 2]
        rfl
      rw [if_neg ht, if_neg ht, hcursor]
      simp only [Option.bind_some, readLength?_eq hwhole, readKey?_eq hwhole, sum?_eq_none_iff,
        toNat_announcedLength, Nat.add_comm (Wire.payloadLength second rest)]
      split
      · rfl
      · rw [ofWire, sizeOfSecond_eq]

end FrameHeader

-- ---------------------------------------------------------------------------
-- Decoding
-- ---------------------------------------------------------------------------

namespace Frame

/-- `decode` with every access checked, also those of the kernel that unmasks. -/
def decodeChecked (cpu : Processor) (order : ByteOrder) (cut : Alignment) (limit : Nat)
    (buffer : List UInt8) : Option (Except Error (Option FrameHeader) × List UInt8) := do
  match ← FrameHeader.parseChecked limit buffer with
  | .ok (some header) =>
    let stop ← sum? header.size header.payloadLength.toNat
    if buffer.length < stop then some (.ok none, buffer)
    else
      match header.mask with
      | none => some (.ok (some header), buffer)
      | some key =>
        let payload ← slice? buffer header.size stop
        let payload ← key.maskOn? cpu order cut payload
        let buffer ← splice? buffer header.size payload
        some (.ok (some header), buffer)
  | answer => some (answer, buffer)

section
variable {limit : Nat} {buffer : List UInt8} {header : FrameHeader}

theorem decodeChecked_eq (cpu : Processor) (order : ByteOrder) (cut : Alignment) (limit : Nat)
    (buffer : List UInt8) :
    decodeChecked cpu order cut limit buffer = some (decode limit buffer) := by
  rw [decodeChecked, FrameHeader.parseChecked_eq, decode]
  cases hp : FrameHeader.parse? limit buffer with
  | error e => rfl
  | ok parsed =>
    cases parsed with
    | none => rfl
    | some header =>
      obtain ⟨first, second, rest, -, hparsed⟩ := FrameHeader.parsed_of_parse? hp
      have hsum : sum? header.size header.payloadLength.toNat = some header.frameLength :=
        if_pos hparsed.frameLength_lt
      have hcut : (buffer.take header.frameLength).length < header.frameLength ↔
          buffer.length < header.frameLength := by
        rw [List.length_take]
        omega
      simp only [Option.bind_eq_bind, Option.bind_some, hsum, hcut]
      by_cases hl : buffer.length < header.frameLength
      · rw [if_pos hl, if_pos hl]
      have hle : header.frameLength ≤ buffer.length := Nat.not_lt.mp hl
      rw [if_neg hl, if_neg hl]
      cases header.mask with
      | none => simp only [applyMask, FrameHeader.parts_eq]
      | some key =>
        have hslice : slice? buffer header.size header.frameLength =
            some (header.payload buffer) := by
          have hstart : header.size ≤ header.frameLength := Nat.le_add_right ..
          rw [slice?_of_le hstart hle, List.drop_take, FrameHeader.frameLength,
            Nat.add_sub_cancel_left]
          rfl
        have hstop : header.size + (key.mask (header.payload buffer)).length =
            header.frameLength := by
          rw [MaskKey.length_mask, FrameHeader.length_payload hle, FrameHeader.frameLength]
        simp only [hslice, Option.bind_some, MaskKey.maskOn?_eq,
          splice?_of_le (Nat.le_trans (Nat.le_of_eq hstop) hle), hstop, applyMask]

-- ---------------------------------------------------------------------------
-- What changes
-- ---------------------------------------------------------------------------

/-- What unmasking a frame in place has done to a buffer that was long enough for it. -/
structure Unmasked (limit : Nat) (header : FrameHeader) (before after : List UInt8) : Prop where
  two_le : 2 ≤ header.size
  le_fourteen : header.size ≤ 14
  counted : header.size + header.payloadLength.toNat < UInt64.size
  whole : header.size + header.payloadLength.toNat ≤ before.length
  fits : header.payloadLength.toNat ≤ limit
  isSome_mask : header.mask.isSome = header.masked
  length_eq : after.length = before.length
  outside : ∀ i, i < header.size ∨ header.frameLength ≤ i → after[i]? = before[i]?
  inside : ∀ i < header.payloadLength.toNat, after[header.size + i]? =
    match header.mask with
    | none => before[header.size + i]?
    | some key => before[header.size + i]?.map (· ^^^ key.byte i)

theorem getElem?_applyMask (mask : Option MaskKey) (payload : List UInt8) (i : Nat) :
    (applyMask mask payload)[i]? =
      match mask with
      | none => payload[i]?
      | some key => payload[i]?.map (· ^^^ key.byte i) := by
  cases mask with
  | none => rfl
  | some key => exact key.getElem?_mask payload i

theorem unmasked_of_parse? (hp : FrameHeader.parse? limit buffer = .ok (some header))
    (hle : header.frameLength ≤ buffer.length) :
    Unmasked limit header buffer (buffer.take header.size ++
      applyMask header.mask (header.payload buffer) ++ buffer.drop header.frameLength) := by
  obtain ⟨first, second, rest, -, hparsed⟩ := FrameHeader.parsed_of_parse? hp
  have htail := Wire.tailSize_le second
  have hsize := hparsed.size_eq
  have hhead := FrameHeader.length_take_size hle
  have hbody := FrameHeader.length_payload hle
  refine ⟨by omega, by omega, hparsed.frameLength_lt, hle, ?_, hparsed.isSome_mask, ?_, ?_, ?_⟩
  · rw [hparsed.payloadLength_eq]
    exact hparsed.fits
  · conv => rhs; rw [← FrameHeader.parts_eq header buffer]
    simp only [List.length_append, length_applyMask]
  · intro i hi
    conv => rhs; rw [← FrameHeader.parts_eq header buffer]
    refine getElem?_outside (length_applyMask ..) ?_
    rw [length_applyMask, hhead, hbody]
    exact hi
  · intro i hi
    have hpayload : buffer[header.size + i]? = (header.payload buffer)[i]? := by
      rw [FrameHeader.payload, List.getElem?_take_of_lt hi, List.getElem?_drop]
    rw [List.append_assoc, List.getElem?_append_right (by omega), hhead, Nat.add_sub_cancel_left,
      List.getElem?_append_left (by rw [length_applyMask]; omega), getElem?_applyMask, hpayload]

end

/-- Whatever the bytes and the limit are, and whichever kernel unmasks, no access is out of
range. A buffer without a complete frame is left as it is, and one that starts with a
complete frame is changed inside the payload only. -/
theorem decode_in_bounds (limit : Nat) (buffer : List UInt8) :
    (∀ cpu order cut, decodeChecked cpu order cut limit buffer = some (decode limit buffer)) ∧
      match decode limit buffer with
      | (.ok (some header), after) => Unmasked limit header buffer after
      | (_, after) => after = buffer := by
  refine ⟨fun cpu order cut => decodeChecked_eq cpu order cut limit buffer, ?_⟩
  obtain ⟨header, hp, hle⟩ | ⟨answer, hanswer, hd⟩ := decode_cases limit buffer
  · rw [decode_of_le hp hle]
    exact unmasked_of_parse? hp hle
  · rw [hd]
    split
    · next header after he =>
      cases he
      exact absurd rfl (hanswer header)
    · next answer' after he =>
      cases he
      rfl

end Frame

end WebSocket
