import WebSocket.Bytes.Queue
import WebSocket.Config
import WebSocket.Transport
import WebSocket.Upgrade.Request
import WebSocket.Upgrade.Response

/-!
# The opening handshake

The request is written completely before anything is read. The head of the
response is read until there is a verdict on it; the bytes behind the head are
the start of the first frame. One deadline covers both, and only a call that
would block waits.
-/

namespace WebSocket.Handshake

variable {σ : Type} [Transport σ]

def readChunk : Nat := 1024

/-- Waits for what is left of the time. Answers the looks at the clock that are
still to come. -/
def waitUntil (deadline : Deadline) (interest : Interest) (s : σ) : Except Error Deadline × σ :=
  match deadline.look with
  | none => (.error .handshakeTimeout, s)
  | some (left, later) =>
    match Transport.wait s interest left with
    | (.ok (), s) => (.ok later, s)
    | (.error kind, s) => (.error (.ofIo kind), s)

theorem length_lt_of_waitUntil {deadline later : Deadline} {interest : Interest} {s s' : σ}
    (h : waitUntil deadline interest s = (.ok later, s')) : later.length < deadline.length := by
  unfold waitUntil at h
  split at h
  · cases h
  · next hl =>
    split at h
    · cases h
      exact Deadline.length_lt_of_look hl
    · cases h

def sendAll (deadline : Deadline) (s : σ) (pending : List UInt8) : Except Error Deadline × σ :=
  match pending with
  | [] => (.ok deadline, s)
  | b :: rest =>
    match Transport.send s (b :: rest) with
    | (.ok 0, s) => (.error .connectionClosed, s)
    | (.ok (n + 1), s) => sendAll deadline s ((b :: rest).drop (n + 1))
    | (.error .wouldBlock, s) =>
      match _h : waitUntil deadline .write s with
      | (.ok later, s) => sendAll later s (b :: rest)
      | (.error e, s) => (.error e, s)
    | (.error kind, s) => (.error (.ofIo kind), s)
termination_by deadline.length + pending.length
decreasing_by
  · simp only [List.length_cons, List.length_drop]
    omega
  · have := length_lt_of_waitUntil _h
    omega

def checkAccept (verify : Bool) (response : UpgradeResponse) : Except Error Unit :=
  if verify then
    match response.accept with
    | none => .error (.handshakeFailed "missing Sec-WebSocket-Accept")
    | some accept =>
      if acceptKeyMatches handshakeKey accept then .ok ()
      else .error (.handshakeFailed "invalid Sec-WebSocket-Accept")
  else .ok ()

/-- Reads until the response is complete. Answers the bytes behind its head. -/
def readResponse (read : HeadReader) (verify : Bool) (deadline : Deadline) (s : σ)
    (head : ByteQueue) : Except Error (List UInt8) × σ :=
  match _hp : UpgradeResponse.parseWith? read head.contents with
  | .error e => (.error e, s)
  | .ok (some (response, consumed)) =>
    ((checkAccept verify response).map fun _ => head.contents.drop consumed, s)
  | .ok none =>
    let head := head.reserve readChunk
    match Transport.recv s readChunk with
    | (.ok [], s) => (.error .connectionClosed, s)
    | (.ok (b :: bytes), s) => readResponse read verify deadline s (head.append (b :: bytes))
    | (.error .wouldBlock, s) =>
      match _hw : waitUntil deadline .read s with
      | (.ok later, s) => readResponse read verify later s head
      | (.error e, s) => (.error e, s)
    | (.error kind, s) => (.error (.ofIo kind), s)
termination_by (UpgradeResponse.maxHeadSize - head.contents.length) + deadline.length
decreasing_by
  · have := UpgradeResponse.length_lt_of_parseWith?_eq_none _hp
    simp only [ByteQueue.contents_append, ByteQueue.contents_reserve, List.length_append,
      List.length_cons]
    omega
  · have := length_lt_of_waitUntil _hw
    simp only [ByteQueue.contents_reserve]
    omega

/-- The whole handshake, with any reader of heads. Answers a queue that holds the
bytes behind the head. -/
def negotiateWith (read : HeadReader) (clock : Clock) (s : σ) (endpoint : Endpoint)
    (config : Config) : Except Error ByteQueue × σ :=
  match UpgradeRequest.checkOrigin config.origin with
  | .error e => (.error e, s)
  | .ok () =>
    let request := UpgradeRequest.bytes endpoint handshakeKey config.origin
    match sendAll (clock.readings config.handshakeTimeout) s request with
    | (.error e, s) => (.error e, s)
    | (.ok deadline, s) =>
      match readResponse read config.verifyAccept deadline s (.withCapacity readChunk) with
      | (.error e, s) => (.error e, s)
      | (.ok leftover, s) =>
        (.ok ((ByteQueue.withCapacity config.readChunkSize).append leftover), s)

def negotiate (clock : Clock) (s : σ) (endpoint : Endpoint) (config : Config) :
    Except Error ByteQueue × σ :=
  negotiateWith ResponseHead.scan clock s endpoint config

end WebSocket.Handshake
