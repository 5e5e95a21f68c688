import WebSocket.Error
import WebSocket.Text
import WebSocket.Upgrade.ResponseHead

/-!
# Upgrade responses

The verdict on the bytes that have come in after the request: the response of
a complete head and the length of that head, an error, or nothing yet. Only an
incomplete head is held against the size limit. The reader of heads is a
parameter; `ResponseHead.scan` is the one that is used.
-/

namespace WebSocket

structure UpgradeResponse where
  status : Nat
  /-- The last `Sec-WebSocket-Accept` header. -/
  accept : Option String
deriving DecidableEq, Repr

namespace UpgradeResponse

def maxHeadSize : Nat := 8192

def minHeaderSlots : Nat := 16

/-- One slot for each line within the size limit. -/
def headerSlots (buffer : List UInt8) : Nat :=
  max ((buffer.take maxHeadSize).count 0x0A) minHeaderSlots

def lowerByte (b : UInt8) : UInt8 := if 0x41 ≤ b && b ≤ 0x5A then b + 0x20 else b

def isNamed (header : HeaderLine) (name : String) : Bool :=
  header.name.map lowerByte == Utf8.encode name

/-- The last accept key among the headers. All of them have to be text. -/
def acceptAmong (headers : List HeaderLine) : Except Error (Option String) :=
  headers.foldlM (fun found header =>
    if isNamed header "sec-websocket-accept" then
      match Utf8.decode? header.value with
      | some value => .ok (some (trimBlank value))
      | none => .error (.invalidHttp "invalid header value")
    else .ok found) none

def ofHead (head : ResponseHead) : Except Error UpgradeResponse :=
  if head.minorVersion ≠ 1 then .error (.invalidHttp "expected HTTP/1.1")
  else if head.status ≠ 101 then .error (.unexpectedStatus head.status)
  else (acceptAmong head.headers).map fun accept => ⟨head.status, accept⟩

/-- The response at the front of `buffer` and the length of its head, by the head
that `read` finds there; `none` while the head is incomplete. -/
def parseWith? (read : HeadReader) (buffer : List UInt8) :
    Except Error (Option (UpgradeResponse × Nat)) :=
  match read (headerSlots buffer) buffer with
  | .done head rest =>
    (ofHead head).map fun response => some (response, buffer.length - rest.length)
  | .more =>
    if maxHeadSize ≤ buffer.length then .error (.invalidHttp "response head too large")
    else .ok none
  | .bad => .error (.invalidHttp "failed to parse HTTP response")

def parse? (buffer : List UInt8) : Except Error (Option (UpgradeResponse × Nat)) :=
  parseWith? ResponseHead.scan buffer

theorem length_lt_of_parseWith?_eq_none {read : HeadReader} {buffer : List UInt8}
    (h : parseWith? read buffer = .ok none) : buffer.length < maxHeadSize := by
  unfold parseWith? at h
  split at h
  · next head rest _ =>
    cases hr : ofHead head <;> rw [hr] at h <;> cases h
  · split at h
    · cases h
    · omega
  · cases h

end UpgradeResponse

end WebSocket
