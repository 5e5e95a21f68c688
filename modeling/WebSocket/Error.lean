/-!
# Errors

`IoKind` is what a byte stream can report; `Error` is what the library reports.
A stream's report becomes an error by `Error.ofIo`, and each error has one
text, `Error.message`.
-/

namespace WebSocket

inductive IoKind
  | notFound | permissionDenied | connectionRefused | connectionReset | connectionAborted
  | notConnected | addrInUse | brokenPipe | alreadyExists | wouldBlock | invalidInput
  | invalidData | timedOut | writeZero | interrupted | unsupported | unexpectedEof
  | outOfMemory | other
deriving DecidableEq, Repr

def IoKind.message : IoKind → String
  | .notFound => "entity not found"
  | .permissionDenied => "permission denied"
  | .connectionRefused => "connection refused"
  | .connectionReset => "connection reset"
  | .connectionAborted => "connection aborted"
  | .notConnected => "not connected"
  | .addrInUse => "address in use"
  | .brokenPipe => "broken pipe"
  | .alreadyExists => "entity already exists"
  | .wouldBlock => "operation would block"
  | .invalidInput => "invalid input parameter"
  | .invalidData => "invalid data"
  | .timedOut => "timed out"
  | .writeZero => "write zero"
  | .interrupted => "operation interrupted"
  | .unsupported => "unsupported"
  | .unexpectedEof => "unexpected end of file"
  | .outOfMemory => "out of memory"
  | .other => "other error"

inductive Error
  | io (kind : IoKind)
  | invalidUrl (reason : String)
  | unsupportedScheme (scheme : String)
  | hostTooLong (length : Nat)
  | originTooLong (length : Nat)
  | connect (host : String) (port : UInt16) (source : IoKind)
  | invalidHttp (reason : String)
  | unexpectedStatus (status : Nat)
  | handshakeFailed (reason : String)
  | handshakeTimeout
  | connectionClosed
  | connectionReset
  | wouldBlock
  | invalidOpcode (opcode : UInt8)
  | frameTooLarge (length : Nat)
  | messageTooLarge (length : Nat)
  | invalidState (reason : String)
deriving DecidableEq, Repr

namespace Error

/-- The error behind a stream's report. Both ways in which a peer can vanish
count as a closed connection. -/
def ofIo : IoKind → Error
  | .wouldBlock => .wouldBlock
  | .connectionReset => .connectionReset
  | .brokenPipe => .connectionClosed
  | .unexpectedEof => .connectionClosed
  | .timedOut => .handshakeTimeout
  | kind => .io kind

private def bytesInParens (n : Nat) : String := "(" ++ toString n ++ " bytes)"

def message : Error → String
  | .io kind => "I/O error: " ++ kind.message
  | .invalidUrl reason => "invalid URL: " ++ reason
  | .unsupportedScheme scheme => "unsupported URL scheme: " ++ scheme
  | .hostTooLong n => "host name too long " ++ bytesInParens n
  | .originTooLong n => "origin too long " ++ bytesInParens n
  | .connect host port _ => "unable to connect to " ++ host ++ ":" ++ toString port.toNat
  | .invalidHttp reason => "invalid HTTP: " ++ reason
  | .unexpectedStatus status => "unexpected handshake status " ++ toString status
  | .handshakeFailed reason => "handshake failed: " ++ reason
  | .handshakeTimeout => "handshake timed out"
  | .connectionClosed => "connection closed"
  | .connectionReset => "connection reset by peer"
  | .wouldBlock => "would block"
  | .invalidOpcode opcode => "invalid opcode 0x" ++ String.ofList (Nat.toDigits 16 opcode.toNat)
  | .frameTooLarge n => "frame too large " ++ bytesInParens n
  | .messageTooLarge n => "message too large " ++ bytesInParens n
  | .invalidState reason => "invalid state: " ++ reason

def isTransient : Error → Bool
  | .wouldBlock => true
  | _ => false

def source? : Error → Option IoKind
  | .io kind => some kind
  | .connect _ _ kind => some kind
  | _ => none

end Error

end WebSocket
