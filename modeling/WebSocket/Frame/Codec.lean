import WebSocket.Bytes.Queue
import WebSocket.Frame.Header

/-!
# Frames on the wire

`decode` works on the front of a buffer and unmasks a complete payload where
it stands; it consumes nothing, so the caller drops the frame when it is done.
`ByteQueue.appendFrame` queues an outbound frame, and `closeFrame` is the one
close frame that is ever sent.
-/

namespace WebSocket

structure Frame where
  header : FrameHeader
  payload : List UInt8
deriving DecidableEq, Repr

namespace Frame

def applyMask (mask : Option MaskKey) (payload : List UInt8) : List UInt8 :=
  match mask with
  | none => payload
  | some key => key.mask payload

def encode (opcode : Opcode) (payload : List UInt8) (mask : Option MaskKey) : List UInt8 :=
  (FrameHeader.ofPayload opcode (UInt64.ofNat payload.length) mask).encode ++ applyMask mask payload

/-- Final, masked with the zero key, without a payload. -/
def closeFrame : List UInt8 := [0x88, 0x80, 0x00, 0x00, 0x00, 0x00]

/-- Decodes the frame at the front of `buffer`. Answers the header once the
whole frame is there, and the buffer after the call: unmasked inside the
payload of a complete frame, untouched otherwise. -/
def decode (limit : Nat) (buffer : List UInt8) : Except Error (Option FrameHeader) × List UInt8 :=
  match FrameHeader.parse? limit buffer with
  | .ok (some header) =>
    if (buffer.take header.frameLength).length < header.frameLength then (.ok none, buffer)
    else
      (.ok (some header),
        buffer.take header.size ++ applyMask header.mask (header.payload buffer) ++
          buffer.drop header.frameLength)
  | answer => (answer, buffer)

end Frame

def ByteQueue.appendFrame (q : ByteQueue) (opcode : Opcode) (payload : List UInt8)
    (mask : Option MaskKey) : ByteQueue :=
  (q.append (FrameHeader.ofPayload opcode (UInt64.ofNat payload.length) mask).encode).append
    (Frame.applyMask mask payload)

@[simp] theorem Frame.length_applyMask (mask : Option MaskKey) (payload : List UInt8) :
    (Frame.applyMask mask payload).length = payload.length := by
  cases mask <;> simp [Frame.applyMask]

@[simp] theorem ByteQueue.contents_appendFrame (q : ByteQueue) (opcode : Opcode)
    (payload : List UInt8) (mask : Option MaskKey) :
    (q.appendFrame opcode payload mask).contents =
      q.contents ++ Frame.encode opcode payload mask := by
  simp [ByteQueue.appendFrame, Frame.encode]

end WebSocket
