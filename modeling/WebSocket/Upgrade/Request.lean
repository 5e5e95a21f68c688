import WebSocket.Digest.Sha1
import WebSocket.Endpoint
import WebSocket.Text

/-!
# Upgrade requests

The HTTP/1.1 request that asks a server to switch protocols. The server proves that it
understood by hashing the key of the request together with a fixed identifier.
-/

namespace WebSocket

-- ---------------------------------------------------------------------------
-- Keys
-- ---------------------------------------------------------------------------

def protocolGuid : String := "258EAFA5-E914-47DA-95CA-C5AB0DC85B11"

def handshakeKey : String := "x3JJHMbDL1EzLkh9GBhXDw=="

def acceptKey (key : String) : String :=
  Base64.encode (Sha1.digest (Utf8.encode key ++ Utf8.encode protocolGuid))

def acceptKeyMatches (key received : String) : Bool := acceptKey key == received

-- ---------------------------------------------------------------------------
-- Requests
-- ---------------------------------------------------------------------------

namespace UpgradeRequest

def maxOriginLength : Nat := 200

def checkOrigin (origin : Option String) : Except Error Unit :=
  match origin with
  | some value =>
    if maxOriginLength < value.utf8ByteSize then .error (.originTooLong value.utf8ByteSize)
    else .ok ()
  | none => .ok ()

def crlf : String := "\r\n"

/-- The request as lines. The `Origin` line is there only for a non-empty origin. -/
def lines (endpoint : Endpoint) (key : String) (origin : Option String) : List String :=
  ["GET " ++ endpoint.target ++ " HTTP/1.1",
    "Host: " ++ endpoint.hostHeader,
    "Upgrade: websocket",
    "Connection: Upgrade",
    "Sec-WebSocket-Key: " ++ key,
    "Sec-WebSocket-Version: 13"] ++
  match origin with
  | some value => if value.isEmpty then [] else ["Origin: " ++ value]
  | none => []

def text (endpoint : Endpoint) (key : String) (origin : Option String) : String :=
  String.join ((lines endpoint key origin).map (· ++ crlf)) ++ crlf

def bytes (endpoint : Endpoint) (key : String) (origin : Option String) : List UInt8 :=
  Utf8.encode (text endpoint key origin)

end UpgradeRequest

end WebSocket
