import WebSocket.Proofs.Wire.Headers

/-!
# Frames survive the wire

A frame is written behind whatever a queue holds, and decoding it in place gives
its header and payload back (`decode_appendFrame`). The header, the key and what follows the
frame are left as they are, and as long as any of its bytes is missing everything is.
-/

namespace WebSocket.Frame

-- ---------------------------------------------------------------------------
-- Masked twice
-- ---------------------------------------------------------------------------

@[simp] theorem applyMask_applyMask (mask : Option MaskKey) (payload : List UInt8) :
    applyMask mask (applyMask mask payload) = payload := by
  cases mask <;> simp [applyMask]

-- ---------------------------------------------------------------------------
-- Whole frames
-- ---------------------------------------------------------------------------

section
variable {limit : Nat} {payload : List UInt8}

abbrev written (opcode : Opcode) (payload : List UInt8) (mask : Option MaskKey) : FrameHeader :=
  .ofPayload opcode (UInt64.ofNat payload.length) mask

theorem length_payload_lt {opcode : Opcode} {mask : Option MaskKey}
    (hs : (encode opcode payload mask).length < UInt64.size) : payload.length < UInt64.size := by
  refine Nat.lt_of_le_of_lt ?_ hs
  simp [encode]

theorem payloadLength_written (opcode : Opcode) (mask : Option MaskKey)
    (hs : payload.length < UInt64.size) :
    (written opcode payload mask).payloadLength.toNat = payload.length := by
  simp [FrameHeader.ofPayload, Nat.mod_eq_of_lt hs]

theorem frameLength_written (opcode : Opcode) (mask : Option MaskKey)
    (hs : payload.length < UInt64.size) :
    (written opcode payload mask).frameLength = (encode opcode payload mask).length := by
  rw [FrameHeader.frameLength, payloadLength_written opcode mask hs,
    ← FrameHeader.length_encode (FrameHeader.ofPayload_consistent ..)]
  simp [encode]

theorem decode_encode (opcode : Opcode) (mask : Option MaskKey) (rest : List UInt8)
    (hl : payload.length ≤ limit) (hs : (encode opcode payload mask).length < UInt64.size) :
    decode limit (encode opcode payload mask ++ rest) =
      (.ok (some (written opcode payload mask)),
        (written opcode payload mask).encode ++ payload ++ rest) := by
  have hword := length_payload_lt hs
  have hlength := payloadLength_written opcode mask hword
  have hframe := frameLength_written opcode mask hword
  have hconsistent := FrameHeader.ofPayload_consistent opcode (UInt64.ofNat payload.length) mask
  have hsize := FrameHeader.length_encode hconsistent
  have hbytes : encode opcode payload mask ++ rest =
      (written opcode payload mask).encode ++ (applyMask mask payload ++ rest) :=
    List.append_assoc ..
  have hparse : FrameHeader.parse? limit (encode opcode payload mask ++ rest) =
      .ok (some (written opcode payload mask)) := by
    rw [hbytes, FrameHeader.parse?_encode hconsistent, if_neg]
    rw [hlength, hframe]
    omega
  have hpayload : (written opcode payload mask).payload (encode opcode payload mask ++ rest) =
      applyMask mask payload := by
    rw [FrameHeader.payload, hlength, hbytes, List.drop_left' hsize]
    exact List.take_left' (length_applyMask ..)
  have hwhole : (written opcode payload mask).frameLength ≤
      (encode opcode payload mask ++ rest).length := by
    rw [hframe, List.length_append]
    exact Nat.le_add_right ..
  have hmask : applyMask (written opcode payload mask).mask (applyMask mask payload) = payload :=
    applyMask_applyMask mask payload
  rw [decode_of_le hparse hwhole, hpayload, hmask, hframe, List.drop_left, hbytes,
    List.take_left' hsize]

-- ---------------------------------------------------------------------------
-- Cut frames
-- ---------------------------------------------------------------------------

theorem decode_take_encode {n : Nat} (opcode : Opcode) (mask : Option MaskKey)
    (hl : payload.length ≤ limit)
    (hs : (encode opcode payload mask).length < UInt64.size)
    (hn : n < (encode opcode payload mask).length) :
    decode limit ((encode opcode payload mask).take n) =
      (.ok none, (encode opcode payload mask).take n) := by
  have hword := length_payload_lt hs
  have hread := Wire.read_take_encode limit opcode hword mask n
  dsimp only at hread
  rw [if_neg (show ¬(limit < payload.length ∨ _) by omega), if_pos hn, ite_self] at hread
  have ha := decode_agrees limit ((encode opcode payload mask).take n)
  rw [hread] at ha
  exact ha

-- ---------------------------------------------------------------------------
-- Both ways
-- ---------------------------------------------------------------------------

theorem getElem?_outside {head part other rest : List UInt8} (h : part.length = other.length)
    {i : Nat} (hi : i < head.length ∨ head.length + part.length ≤ i) :
    (head ++ part ++ rest)[i]? = (head ++ other ++ rest)[i]? := by
  rw [List.append_assoc, List.append_assoc]
  rcases hi with hi | hi
  · rw [List.getElem?_append_left hi, List.getElem?_append_left hi]
  · have hhead : head.length ≤ i := by omega
    rw [List.getElem?_append_right hhead, List.getElem?_append_right hhead,
      List.getElem?_append_right (by omega), List.getElem?_append_right (by omega), h]

/-- A queue keeps what it holds in front of the frame that is written to it. Decoding
that frame, whatever follows it, gives back its opcode, key and payload, and changes
no byte but those of the payload; a frame of which any byte is missing is waited for,
and not touched. A payload in memory is short enough for its frame to have a length in
64 bits. -/
theorem decode_appendFrame (q : ByteQueue) (opcode : Opcode) (mask : Option MaskKey)
    (rest : List UInt8) (hl : payload.length ≤ limit)
    (hs : (encode opcode payload mask).length < UInt64.size) :
    let wire := encode opcode payload mask
    (q.appendFrame opcode payload mask).contents = q.contents ++ wire ∧
      (∃ header buffer, decode limit (wire ++ rest) = (.ok (some header), buffer) ∧
        header.fin = true ∧ header.opcode = opcode ∧
        header.masked = mask.isSome ∧ header.mask = mask ∧
        header.payloadLength.toNat = payload.length ∧ header.frameLength = wire.length ∧
        header.payload buffer = payload ∧ buffer.length = (wire ++ rest).length ∧
        ∀ i, i < header.size ∨ header.frameLength ≤ i → buffer[i]? = (wire ++ rest)[i]?) ∧
      ∀ n < wire.length, decode limit (wire.take n) = (.ok none, wire.take n) := by
  intro wire
  have hword := length_payload_lt hs
  have hlength := payloadLength_written opcode mask hword
  have hsize := FrameHeader.length_encode
    (FrameHeader.ofPayload_consistent opcode (UInt64.ofNat payload.length) mask)
  refine ⟨ByteQueue.contents_appendFrame .., ⟨_, _, decode_encode opcode mask rest hl hs, rfl, rfl,
    rfl, rfl, hlength, frameLength_written opcode mask hword, ?_, ?_, ?_⟩,
    fun n hn => decode_take_encode opcode mask hl hs hn⟩
  · rw [FrameHeader.payload, List.append_assoc, List.drop_left' hsize, hlength, List.take_left]
  · simp [wire, encode]
  · intro i hi
    refine getElem?_outside (length_applyMask mask payload).symm ?_
    rw [FrameHeader.frameLength, hlength] at hi
    rwa [hsize]

/-- A payload of 126 bytes, the first whose length does not stand in the second byte,
under a key, between other bytes. -/
theorem decode_appendFrame_medium :
    let payload := List.replicate 126 (0x41 : UInt8)
    let mask : Option MaskKey := some ⟨1, 2, 3, 4⟩
    let wire := encode .text payload mask
    payload.length ≤ 126 ∧ wire.length < UInt64.size ∧
      ((⟨[0x88, 0x00], []⟩ : ByteQueue).appendFrame .text payload mask).contents =
        [0x88, 0x00] ++ wire ∧
      wire.length = 134 ∧
      (∀ n < 134, decode 126 (wire.take n) = (.ok none, wire.take n)) ∧
      ∃ header buffer, decode 126 (wire ++ [0x89]) = (.ok (some header), buffer) ∧
        header.payload buffer = payload := by
  intro payload mask wire
  have hl : payload.length ≤ 126 := by simp [payload]
  have hlength : wire.length = 134 := by decide +kernel
  have hs : wire.length < UInt64.size := by
    rw [hlength]
    decide
  obtain ⟨hq, ⟨header, buffer, hd, -, -, -, -, -, -, hp, -, -⟩, hn⟩ :=
    decode_appendFrame ⟨[0x88, 0x00], []⟩ .text mask [0x89] hl hs
  exact ⟨hl, hs, hq, hlength, fun n h => hn n (hlength ▸ h), header, buffer, hd, hp⟩

end

end WebSocket.Frame
