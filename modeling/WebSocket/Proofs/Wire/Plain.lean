import WebSocket.Proofs.Wire.Encoding
import WebSocket.Proofs.Wire.Segmentation

/-!
# Frames without their keys

What a byte string decodes to, once the keys are left out (`decoded`). An encoded
frame gives its opcode and payload whatever its key, and when it is cut, how much
of it is there decides what is decoded, not the key (`decoded_take`).
-/

namespace WebSocket

structure Plain where
  fin : Bool
  opcode : Opcode
  masked : Bool
  payload : List UInt8
deriving DecidableEq, Repr

def Frame.plain (f : Frame) : Plain := ⟨f.header.fin, f.header.opcode, f.header.masked, f.payload⟩

/-- The frames that a byte string decodes to, and the error that ends it if there is
one. -/
def decoded (limit : Nat) (bytes : List UInt8) : List Plain × Option Error :=
  let (frames, error, _) := (⟨bytes, []⟩ : ByteQueue).takeFrames limit
  (frames.map Frame.plain, error)

variable {limit : Nat} {bytes : List UInt8}

theorem Frame.Takes.decoded_eq {frames : List Frame} {error : Option Error} {rest : List UInt8}
    (h : Frame.Takes limit bytes frames error rest) :
    decoded limit bytes = (frames.map Frame.plain, error) := by
  obtain ⟨hf, he, -⟩ := (ByteQueue.takes_takeFrames limit ⟨bytes, []⟩).unique h
  simp only [decoded, hf, he]

-- ---------------------------------------------------------------------------
-- By the reading of the front
-- ---------------------------------------------------------------------------

theorem decoded_incomplete (h : Wire.read limit bytes = .incomplete) :
    decoded limit bytes = ([], none) := by
  have ha := Frame.decode_agrees limit bytes
  rw [h] at ha
  exact (Frame.Takes.stop ha).decoded_eq

theorem decoded_refused {e : Error} (h : Wire.read limit bytes = .refused e) :
    decoded limit bytes = ([], some e) := by
  have ha := Frame.decode_agrees limit bytes
  rw [h] at ha
  exact (Frame.Takes.refuse ha).decoded_eq

theorem masked_of_decode {first second : UInt8} {rest buffer : List UInt8} {header : FrameHeader}
    (h : Frame.decode limit (first :: second :: rest) = (.ok (some header), buffer)) :
    header.masked = decide (128 ≤ second.toNat) := by
  obtain ⟨_, _, _, hb, hp⟩ := FrameHeader.parsed_of_parse? (Frame.parse?_of_decode h)
  cases hb
  exact hp.masked_eq

theorem decoded_piece {first second : UInt8} {rest more : List UInt8} {p : Wire.Piece}
    (h : Wire.read limit (first :: second :: rest) = .piece p more) :
    decoded limit (first :: second :: rest) =
      (⟨p.fin, p.opcode, decide (128 ≤ second.toNat), p.payload⟩ :: (decoded limit more).1,
        (decoded limit more).2) := by
  have ha := Frame.decode_agrees limit (first :: second :: rest)
  rw [h] at ha
  obtain ⟨header, buffer, hd, hf, ho, hp, hmore⟩ := ha
  have ht := ByteQueue.takes_takeFrames limit ⟨more, []⟩
  rw [← hmore] at ht
  rw [(Frame.Takes.next hd ht).decoded_eq, hmore, List.map_cons]
  simp only [Frame.plain, masked_of_decode hd, hf, ho, hp]
  rfl

-- ---------------------------------------------------------------------------
-- Encoded frames
-- ---------------------------------------------------------------------------

section
variable {opcode : Opcode} {payload : List UInt8}

theorem decoded_encode (hs : payload.length < UInt64.size) {mask : Option MaskKey}
    {more : List UInt8}
    (h : Wire.read limit (Frame.encode opcode payload mask ++ more) =
      .piece ⟨true, opcode, payload⟩ more) :
    decoded limit (Frame.encode opcode payload mask ++ more) =
      (⟨true, opcode, mask.isSome, payload⟩ :: (decoded limit more).1,
        (decoded limit more).2) := by
  obtain ⟨second, extended, ha, hbytes, -⟩ := Wire.encode_parts opcode hs mask
  rw [hbytes, List.cons_append, List.cons_append] at h ⊢
  rw [decoded_piece h, show decide (128 ≤ second.toNat) = mask.isSome by
    rw [Bool.eq_iff_iff, decide_eq_true_iff]; exact ha.masked_iff]

theorem decoded_take (hs : payload.length < UInt64.size) (mask : Option MaskKey)
    (more : List UInt8) (n : Nat) :
    let size := (Frame.encode opcode payload mask).length
    let later := decoded limit (more.take (n - size))
    decoded limit ((Frame.encode opcode payload mask ++ more).take n) =
      if n + payload.length < size then ([], none)
      else if limit < payload.length ∨ UInt64.size ≤ size then
        ([], some (.frameTooLarge payload.length))
      else if n < size then ([], none)
      else (⟨true, opcode, mask.isSome, payload⟩ :: later.1, later.2) := by
  dsimp only
  have hcut := Wire.read_take_encode limit opcode hs mask n
  have hwhole := Wire.read_take_encode limit opcode hs mask
    (Frame.encode opcode payload mask).length
  dsimp only at hcut hwhole
  rw [List.take_length, if_neg (Nat.not_lt.mpr (Nat.le_add_right ..))] at hwhole
  by_cases hn : n < (Frame.encode opcode payload mask).length
  · rw [List.take_append_of_le_length (Nat.le_of_lt hn)]
    split at hcut
    · next hh => rw [if_pos hh, decoded_incomplete hcut]
    · next hh =>
      rw [if_neg hh]
      split at hcut
      · next hl => rw [if_pos hl, decoded_refused hcut]
      · next hl => rw [if_neg hl, if_pos hn, decoded_incomplete hcut]
  · have hle : (Frame.encode opcode payload mask).length ≤ n := Nat.not_lt.mp hn
    rw [List.take_append, List.take_of_length_le hle, if_neg (by omega)]
    split at hwhole
    · next hl => rw [if_pos hl, decoded_refused (Wire.read_append_refused hwhole _)]
    · next hl =>
      rw [if_neg (Nat.lt_irrefl _)] at hwhole
      rw [if_neg hl, if_neg hn, decoded_encode hs (Wire.read_append_piece hwhole _)]

theorem FrameHeader.lengthBytes_congr {header header' : FrameHeader}
    (hm : header.masked = header'.masked) (hl : header.payloadLength = header'.payloadLength) :
    header.lengthBytes = header'.lengthBytes := by
  unfold lengthBytes
  rw [hm, hl]

theorem length_encode_congr {mask mask' : Option MaskKey} (h : mask.isSome = mask'.isSome)
    (opcode : Opcode) (payload : List UInt8) :
    (Frame.encode opcode payload mask).length = (Frame.encode opcode payload mask').length := by
  have hl : (FrameHeader.ofPayload opcode (UInt64.ofNat payload.length) mask).lengthBytes =
      (FrameHeader.ofPayload opcode (UInt64.ofNat payload.length) mask').lengthBytes :=
    FrameHeader.lengthBytes_congr h rfl
  have hk : (Wire.keyBytes mask).length = (Wire.keyBytes mask').length := by
    rw [Wire.length_keyBytes, Wire.length_keyBytes, h]
  have hlength (mask : Option MaskKey) : (Frame.encode opcode payload mask).length =
      (FrameHeader.ofPayload opcode (UInt64.ofNat payload.length) mask).lengthBytes.length + 1 +
        (Wire.keyBytes mask).length + payload.length := by
    rw [Frame.encode, List.length_append, Frame.length_applyMask, FrameHeader.encode,
      List.length_append, List.length_cons]
    rfl
  rw [hlength, hlength, hl, hk]

end

end WebSocket
