import WebSocket.Bytes.Queue
import WebSocket.Error
import WebSocket.Message

/-!
# Reassembly

Data frames of any opcode append to one message. The first frame of a message
fixes its kind and the first final frame completes it. A message that grows
past the limit is dropped with an error, and the next frame starts afresh.
-/

namespace WebSocket

structure Reassembler where
  buffer : ByteQueue
  /-- The kind of the message in flight. -/
  kind : Option MessageKind
  limit : Nat
deriving DecidableEq, Repr

namespace Reassembler

def ofLimit (limit : Nat) : Reassembler := ⟨.empty, none, limit⟩

def inProgress (r : Reassembler) : Bool := r.kind.isSome

def buffered (r : Reassembler) : Nat := r.buffer.length

def reset (r : Reassembler) : Reassembler := { r with buffer := r.buffer.clear, kind := none }

/-- Takes in one data frame, and gives the message that it completes. A final
frame with nothing gathered before it is the whole message. -/
def push (r : Reassembler) (opcode : Opcode) (fin : Bool) (payload : List UInt8) :
    Except Error (Option Message) × Reassembler :=
  let kind := r.kind.getD (MessageKind.ofOpcode opcode)
  let total := r.buffer.length + payload.length
  if r.limit < total then (.error (.messageTooLarge total), r.reset)
  else if fin && r.buffer.isEmpty then (.ok (some ⟨kind, payload⟩), { r with kind := none })
  else
    let buffer := r.buffer.append payload
    if fin then
      (.ok (some ⟨kind, buffer.contents⟩), { r with buffer := buffer.clear, kind := none })
    else (.ok none, { r with buffer := buffer, kind := some kind })

end Reassembler

end WebSocket
