import WebSocket.Frame.Opcode
import WebSocket.Text

/-!
# Messages

A message is what reaches the application: a kind and the payload of all its
frames. Text is not checked on receipt; `asText?` decodes it on demand.
-/

namespace WebSocket

inductive MessageKind
  | text | binary
deriving DecidableEq, Repr

/-- The kind of a message whose first frame has this opcode. A continuation
frame that continues nothing starts a binary message. -/
def MessageKind.ofOpcode : Opcode → MessageKind
  | .text => .text
  | _ => .binary

structure Message where
  kind : MessageKind
  bytes : List UInt8
deriving DecidableEq, Repr

namespace Message

def isText (message : Message) : Bool := message.kind == .text

def isBinary (message : Message) : Bool := message.kind == .binary

def asText? (message : Message) : Option String :=
  match message.kind with
  | .text => Utf8.decode? message.bytes
  | .binary => none

theorem asText?_text (text : String) : asText? ⟨.text, Utf8.encode text⟩ = some text :=
  Utf8.decode?_encode text

end Message

end WebSocket
