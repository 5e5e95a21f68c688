import WebSocket.Error
import WebSocket.Url

/-!
# Endpoints

Where a WebSocket leads: the host, the port and the request target of a `ws`
address. The texts are ready to be put into a request.
-/

namespace WebSocket

structure Endpoint where
  host : String
  port : UInt16
  /-- Path and query, starting with a slash. -/
  target : String
deriving DecidableEq, Repr

namespace Endpoint

def defaultPort : UInt16 := 80

def maxHostLength : Nat := 255

def ofUrl (url : Url) : Except Error Endpoint :=
  match url with
  | .web ['w', 's'] host port path query =>
    let host := host.text
    if maxHostLength < host.length then .error (.hostTooLong host.length)
    else .ok {
      host := String.ofList host
      port := (port.map UInt16.ofNat).getD defaultPort
      target := String.ofList (path ++ (query.map ('?' :: ·)).getD []) }
  | url => .error (.unsupportedScheme (String.ofList url.scheme))

def parse (text : String) : Except Error Endpoint :=
  if text.toList.any isBlank then .error (.invalidUrl "whitespace in URL")
  else
    match Url.parse text.toList with
    | .error fault => .error (.invalidUrl fault.reason)
    | .ok url => ofUrl url

def hostHeader (endpoint : Endpoint) : String :=
  if endpoint.port = defaultPort then endpoint.host
  else endpoint.host ++ ":" ++ toString endpoint.port.toNat

def display (endpoint : Endpoint) : String :=
  "ws://" ++ endpoint.host ++ ":" ++ toString endpoint.port.toNat ++ endpoint.target

end Endpoint

end WebSocket
