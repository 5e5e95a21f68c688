import WebSocket.Bytes.BigEndian
import WebSocket.Error
import WebSocket.Frame.Opcode
import WebSocket.Masking.Key

/-!
# Frame headers

A header takes 2 to 14 bytes: two fixed bytes, the payload length in 0, 2 or 8
further bytes, and the key of a masked payload. `encode` writes the shortest
form of the length; `parse?` accepts every form, ignores the reserved bits and
looks no further than the header itself.
-/

namespace WebSocket

structure FrameHeader where
  fin : Bool
  opcode : Opcode
  masked : Bool
  payloadLength : UInt64
  mask : Option MaskKey
  /-- Bytes that the header takes on the wire. -/
  size : Nat
deriving DecidableEq, Repr

namespace FrameHeader

-- ---------------------------------------------------------------------------
-- Sizes
-- ---------------------------------------------------------------------------

def maxSize : Nat := 14

/-- The longest payload whose length stands in the second byte itself. -/
def smallLimit : UInt64 := 125

/-- The longest payload whose length takes two further bytes. -/
def mediumLimit : UInt64 := 65535

private def keySize (masked : Bool) : Nat := if masked then 4 else 0

def encodedSize (payloadLength : UInt64) (masked : Bool) : Nat :=
  let extended :=
    if mediumLimit < payloadLength then 8
    else if smallLimit < payloadLength then 2
    else 0
  2 + extended + keySize masked

def extendedSize (second : UInt8) : Nat :=
  if second &&& 0x7F = 126 then 2
  else if second &&& 0x7F = 127 then 8
  else 0

def maskBit (second : UInt8) : Bool := second &&& 0x80 != 0

/-- The header size that the second byte alone implies. -/
def sizeOfSecond (second : UInt8) : Nat :=
  2 + extendedSize second + keySize (maskBit second)

-- ---------------------------------------------------------------------------
-- Writing
-- ---------------------------------------------------------------------------

def ofPayload (opcode : Opcode) (payloadLength : UInt64) (mask : Option MaskKey) : FrameHeader where
  fin := true
  opcode := opcode
  masked := mask.isSome
  payloadLength := payloadLength
  mask := mask
  size := encodedSize payloadLength mask.isSome

def frameLength (header : FrameHeader) : Nat := header.size + header.payloadLength.toNat

def payload (header : FrameHeader) (buffer : List UInt8) : List UInt8 :=
  (buffer.drop header.size).take header.payloadLength.toNat

def firstByte (header : FrameHeader) : UInt8 :=
  header.opcode.toByte ||| (if header.fin then 0x80 else 0)

/-- The second byte with the extended length that follows it. -/
def lengthBytes (header : FrameHeader) : List UInt8 :=
  let maskBit : UInt8 := if header.masked then 0x80 else 0
  if header.payloadLength ≤ smallLimit then [maskBit ||| header.payloadLength.toUInt8]
  else if header.payloadLength ≤ mediumLimit then
    (maskBit ||| 126) :: BigEndian.ofNat 2 header.payloadLength.toNat
  else (maskBit ||| 127) :: BigEndian.ofNat 8 header.payloadLength.toNat

def encode (header : FrameHeader) : List UInt8 :=
  header.firstByte :: header.lengthBytes ++ (header.mask.map MaskKey.toList).getD []

def writeOver (header : FrameHeader) (out : List UInt8) : List UInt8 × Nat :=
  (header.encode ++ out.drop header.encode.length, header.encode.length)

-- ---------------------------------------------------------------------------
-- Reading
-- ---------------------------------------------------------------------------

def announcedLength (second : UInt8) (rest : List UInt8) : UInt64 :=
  if extendedSize second = 0 then (second &&& 0x7F).toUInt64
  else UInt64.ofNat (BigEndian.toNat (rest.take (extendedSize second)))

def ofWire (opcode : Opcode) (first second : UInt8) (rest : List UInt8) : FrameHeader where
  fin := first &&& 0x80 != 0
  opcode := opcode
  masked := maskBit second
  payloadLength := announcedLength second rest
  mask :=
    if maskBit second then some (MaskKey.ofBytes ((rest.drop (extendedSize second)).take 4))
    else none
  size := sizeOfSecond second

/-- Reads the header at the front of `buffer`: `none` while more bytes are
needed. A reserved opcode shows in the first two bytes; a length is refused
when it passes `limit` or when header and payload together do not fit into 64
bits. -/
def parse? (limit : Nat) (buffer : List UInt8) : Except Error (Option FrameHeader) :=
  match buffer with
  | first :: second :: rest =>
    match Opcode.ofByte? (first &&& 0x0F) with
    | none => .error (.invalidOpcode (first &&& 0x0F))
    | some opcode =>
      let header := ofWire opcode first second rest
      if (buffer.take header.size).length < header.size then .ok none
      else if limit < header.payloadLength.toNat ∨ UInt64.size ≤ header.frameLength then
        .error (.frameTooLarge header.payloadLength.toNat)
      else .ok (some header)
  | _ => .ok none

-- ---------------------------------------------------------------------------
-- The size of a header that was read
-- ---------------------------------------------------------------------------

theorem two_le_size {limit : Nat} {buffer : List UInt8} {header : FrameHeader}
    (h : parse? limit buffer = .ok (some header)) : 2 ≤ header.size := by
  unfold parse? at h
  split at h
  · split at h
    · cases h
    · dsimp only at h
      split at h
      · cases h
      · split at h
        · cases h
        · cases h
          simp only [ofWire, sizeOfSecond]
          omega
  · cases h

theorem size_le_length {limit : Nat} {buffer : List UInt8} {header : FrameHeader}
    (h : parse? limit buffer = .ok (some header)) : header.size ≤ buffer.length := by
  unfold parse? at h
  split at h
  · split at h
    · cases h
    · dsimp only at h
      split at h
      · cases h
      · next hl =>
        split at h
        · cases h
        · cases h
          rw [List.length_take] at hl
          omega
  · cases h

end FrameHeader

end WebSocket
