import WebSocket.Connection
import WebSocket.Frame.Stream

/-!
# Polling and release

One poll waits for the stream, reads what is there, writes what the stream
takes, and hands the frames that are complete to the application if it listens.
A closing connection is closed once everything has been written. Dispatch comes
last and looks at what has been read even when the stream has failed.

A connection that is given up is closed gracefully: it is polled until it is closed or
the time for that is over.
-/

namespace WebSocket.Connection

variable {σ : Type} [Transport σ]

-- ---------------------------------------------------------------------------
-- Exchange with the stream
-- ---------------------------------------------------------------------------

def fill (c : Connection σ) : Connection σ :=
  match _h : Transport.recv c.stream c.readChunk with
  | (.ok [], s) =>
    { c with stream := s, inbound := c.inbound.reserve c.readChunk }.fail .connectionClosed
  | (.ok (b :: bytes), s) =>
    let inbound := c.inbound.reserve c.readChunk
    fill { c with
      stream := s
      inbound :=
        -- dropped bytes still pass through the storage
        if c.discarding then inbound.fillSpare (b :: bytes) else inbound.append (b :: bytes) }
  | (.error .wouldBlock, s) => { c with stream := s, inbound := c.inbound.reserve c.readChunk }
  | (.error kind, s) =>
    { c with stream := s, inbound := c.inbound.reserve c.readChunk }.fail (.ofIo kind)
termination_by Transport.supply c.stream
decreasing_by exact Transport.supply_lt _h

def flush (c : Connection σ) : Connection σ :=
  if c.outbound.isEmpty then c
  else
    match Transport.send c.stream c.outbound.contents with
    | (.ok 0, s) => { c with stream := s }.fail .connectionClosed
    | (.ok (n + 1), s) => flush { c with stream := s, outbound := c.outbound.consume (n + 1) }
    | (.error .wouldBlock, s) => { c with stream := s }
    | (.error kind, s) => { c with stream := s }.fail (.ofIo kind)
termination_by c.outbound.contents.length
decreasing_by
  next hne =>
    have : c.outbound.contents ≠ [] := by simpa [ByteQueue.isEmpty] using hne
    have := List.length_pos_iff.mpr this
    simp only [ByteQueue.contents_consume, List.length_drop]
    omega

def finish (c : Connection σ) : Connection σ :=
  if c.state = .closing ∧ c.outbound.isEmpty then c.shutdown else c

/-- Everything between the wait and the dispatch. After a failure nothing is
left to write, and a closed connection has nothing to finish. -/
def exchange (c : Connection σ) : Connection σ := c.fill.flush.finish

-- ---------------------------------------------------------------------------
-- Dispatch
-- ---------------------------------------------------------------------------

def handle (c : Connection σ) (frame : Frame) : Except Error (Option Message) × Connection σ :=
  match frame.header.opcode with
  | .text | .binary | .continuation =>
    let (answer, reassembler) :=
      c.reassembler.push frame.header.opcode frame.header.fin frame.payload
    (answer, { c with reassembler := reassembler })
  | .ping => (.ok none, if c.state = .open then c.queueFrame .pong frame.payload else c)
  | .pong => (.ok none, c)
  | .close => (.ok none, c.close)

omit [Transport σ] in
theorem inbound_handle (c : Connection σ) (frame : Frame) :
    (c.handle frame).2.inbound = c.inbound := by
  unfold handle
  split
  any_goals rfl
  · split
    · unfold queueFrame
      split <;> rfl
    · rfl
  · unfold close
    split <;> rfl

def handleFrames (c : Connection σ) : List Message × Connection σ :=
  match _h : Frame.decode c.frameLimit c.inbound.contents with
  | (.error e, _) => ([], c.violate e)
  | (.ok none, _) => ([], c)
  | (.ok (some header), buffer) =>
    match _hh : { c with inbound := c.inbound.overwrite buffer }.handle
        ⟨header, header.payload buffer⟩ with
    | (.error e, c) => ([], c.violate e)
    | (.ok message, next) =>
      let (messages, c) :=
        handleFrames { next with inbound := next.inbound.consume header.frameLength }
      (message.toList ++ messages, c)
termination_by c.inbound.contents.length
decreasing_by
  have hd : (Frame.decode c.frameLimit c.inbound.contents).1 = .ok (some header) := by rw [_h]
  have hl := Frame.frameLength_of_decode hd
  have hb := Frame.length_decode c.frameLimit c.inbound.contents
  have hi := inbound_handle { c with inbound := c.inbound.overwrite buffer }
    ⟨header, header.payload buffer⟩
  simp only [_h] at hb
  simp only [_hh] at hi
  simp only [hi, ByteQueue.contents_consume, ByteQueue.contents_overwrite, List.length_drop]
  omega

def dispatch (c : Connection σ) : List Message × Connection σ :=
  if c.discarding then ([], c) else c.handleFrames

-- ---------------------------------------------------------------------------
-- The cycle
-- ---------------------------------------------------------------------------

def waitReady (c : Connection σ) (timeout : Nat) : Except IoKind Unit × Connection σ :=
  if timeout = 0 then (.ok (), c)
  else
    let (answer, s) := Transport.wait c.stream (.forOutput !c.outbound.isEmpty) timeout
    (answer, { c with stream := s })

/-- One cycle of exchange. Answers the messages handed over, none if the
application does not listen. A closed connection only lets the time pass. -/
def poll (c : Connection σ) (timeout : Nat) (listening : Bool) : List Message × Connection σ :=
  if c.state = .closed then ([], { c with stream := Transport.idle c.stream timeout })
  else
    match c.waitReady timeout with
    | (.error kind, c) => ([], c.fail (.ofIo kind))
    | (.ok (), c) => if listening then c.exchange.dispatch else ([], c.exchange)

-- ---------------------------------------------------------------------------
-- Release
-- ---------------------------------------------------------------------------

def drainInterval : Nat := 1

def drainUntil (c : Connection σ) (deadline : Deadline) : Connection σ :=
  if c.state = .closed then c
  else
    match deadline with
    | [] => c.shutdown
    | left :: later =>
      if left = 0 then c.shutdown else drainUntil (c.poll drainInterval false).2 later

def drain (c : Connection σ) (clock : Clock) : Connection σ :=
  if c.state = .closed then c else c.close.drainUntil (clock.readings c.drainTimeout)

def release (c : Connection σ) (clock : Clock) : Option Error × Connection σ :=
  let drained := c.drain clock
  (drained.lastError, { drained with lastError := none })

end WebSocket.Connection
