/-!
# Opcodes

The six opcodes of the base framing protocol. Every other value of the opcode
field is reserved.
-/

namespace WebSocket

inductive Opcode
  | continuation | text | binary | close | ping | pong
deriving DecidableEq, Repr

namespace Opcode

def toByte : Opcode → UInt8
  | .continuation => 0x0
  | .text => 0x1
  | .binary => 0x2
  | .close => 0x8
  | .ping => 0x9
  | .pong => 0xA

def ofByte? (b : UInt8) : Option Opcode :=
  if b = 0x0 then some .continuation
  else if b = 0x1 then some .text
  else if b = 0x2 then some .binary
  else if b = 0x8 then some .close
  else if b = 0x9 then some .ping
  else if b = 0xA then some .pong
  else none

def isControl (opcode : Opcode) : Bool := decide (0x8 ≤ opcode.toByte)

def isData (opcode : Opcode) : Bool := decide (opcode.toByte ≤ 0x2)

def name : Opcode → String
  | .continuation => "Continuation"
  | .text => "Text"
  | .binary => "Binary"
  | .close => "Close"
  | .ping => "Ping"
  | .pong => "Pong"

@[simp] theorem ofByte?_toByte (opcode : Opcode) : ofByte? opcode.toByte = some opcode := by
  cases opcode <;> rfl

theorem ofByte?_eq_some_iff {b : UInt8} {opcode : Opcode} :
    ofByte? b = some opcode ↔ b = opcode.toByte := by
  constructor
  · intro h
    simp only [ofByte?] at h
    repeat' split at h
    all_goals first
      | (cases h; assumption)
      | cases h
  · rintro rfl
    simp

end Opcode

end WebSocket
