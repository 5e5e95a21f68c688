import WebSocket.Frame.Codec
import WebSocket.Message.Reassembler
import WebSocket.ReadyState
import WebSocket.Upgrade.Handshake

/-!
# Connections

A connection owns its stream and three stores of bytes: what has come in, what
is to go out, and the message being put together. Sending only queues. All
exchange with the stream happens while the connection is polled, and failures
never surface there: they close the connection and stay in `lastError`.
-/

namespace WebSocket

structure Connection (σ : Type) where
  stream : σ
  state : ReadyState
  useMask : Bool
  keys : KeySource
  inbound : ByteQueue
  outbound : ByteQueue
  reassembler : Reassembler
  /-- The longest payload that a frame may have. -/
  frameLimit : Nat
  /-- How much is asked for in one read. -/
  readChunk : Nat
  drainTimeout : Nat
  lastError : Option Error
  /-- Whether the inbound bytes are dropped, because they can no longer be split
  into frames. -/
  discarding : Bool

namespace Connection

variable {σ : Type} [Transport σ]

/-- Runs the handshake over a stream. A failure closes the stream; that the
stream refuses `nodelay` is no failure. -/
def establish (clock : Clock) (keys : KeySource) (s : σ) (endpoint : Endpoint) (config : Config) :
    Except (Error × σ) (Connection σ) :=
  match Handshake.negotiate clock s endpoint config with
  | (.error e, s) => .error (e, Transport.close s)
  | (.ok inbound, s) => .ok {
      stream := (Transport.setNodelay s config.nodelay).2
      state := .open
      useMask := config.useMask
      keys := keys
      inbound := inbound
      outbound := .withCapacity config.writeBufferSize
      reassembler := .ofLimit config.maxMessageSize
      frameLimit := config.maxFrameSize
      readChunk := max config.readChunkSize 1
      drainTimeout := config.drainTimeout
      lastError := none
      discarding := false }

-- ---------------------------------------------------------------------------
-- Sending
-- ---------------------------------------------------------------------------

def bufferedAmount (c : Connection σ) : Nat := c.outbound.length

def queueFrame (c : Connection σ) (opcode : Opcode) (payload : List UInt8) : Connection σ :=
  if c.useMask then
    { c with
      outbound := c.outbound.appendFrame opcode payload (some c.keys.next)
      keys := c.keys.advance }
  else { c with outbound := c.outbound.appendFrame opcode payload none }

def send (c : Connection σ) (opcode : Opcode) (payload : List UInt8) :
    Except Error Unit × Connection σ :=
  if c.state = .open then (.ok (), c.queueFrame opcode payload)
  else (.error (.invalidState "connection is not open"), c)

def sendText (c : Connection σ) (text : String) : Except Error Unit × Connection σ :=
  c.send .text (Utf8.encode text)

def sendBinary (c : Connection σ) (data : List UInt8) : Except Error Unit × Connection σ :=
  c.send .binary data

def sendPing (c : Connection σ) : Except Error Unit × Connection σ := c.send .ping []

-- ---------------------------------------------------------------------------
-- Ending
-- ---------------------------------------------------------------------------

def close (c : Connection σ) : Connection σ :=
  if c.state = .open then
    { c with outbound := c.outbound.append Frame.closeFrame, state := .closing }
  else c

def shutdown (c : Connection σ) : Connection σ :=
  { c with stream := Transport.close c.stream, outbound := c.outbound.clear, state := .closed }

def fail (c : Connection σ) (e : Error) : Connection σ :=
  { c with lastError := some e }.shutdown

/-- The peer has broken the protocol. What it sends is dropped from here on. -/
def violate (c : Connection σ) (e : Error) : Connection σ :=
  { c with
    inbound := c.inbound.clear
    discarding := true
    reassembler := c.reassembler.reset
    lastError := some e }.close

def describe (c : Connection σ) (transport : String) : String :=
  "WebSocket \x7b transport: " ++ transport ++ ", state: " ++ c.state.name ++
    ", use_mask: " ++ toString c.useMask ++ ", inbound: " ++ toString c.inbound.length ++
    ", outbound: " ++ toString c.outbound.length ++ " \x7d"

end Connection

end WebSocket
