import WebSocket.Connection

/-!
# Connecting

A connection to an address is made in three steps: the address and the origin
are checked, the host is dialed, and the handshake runs over the new stream. Dialing
tries the addresses of the host in turn until one accepts. Only the last refusal is
reported, under the name that was dialed.
-/

namespace WebSocket

variable {α σ : Type}

/-- How hosts are looked up and how their addresses, of type `α`, are reached.
Times are in milliseconds, and every address has the whole time. -/
structure Dialer (α σ : Type) where
  resolve : (host : String) → (port : UInt16) → Except IoKind (List α)
  reach : α → (timeout : Nat) → Except IoKind σ

namespace Dialer

/-- The first stream that an address accepts. `refusal` is the failure of the
addresses before these. -/
def reachFirst (d : Dialer α σ) (timeout : Nat) (refusal : IoKind) : List α → Except IoKind σ
  | [] => .error refusal
  | address :: addresses =>
    match d.reach address timeout with
    | .ok s => .ok s
    | .error kind => d.reachFirst timeout kind addresses

def dial (d : Dialer α σ) (host : String) (port : UInt16) (timeout : Nat) : Except Error σ :=
  ((d.resolve host port).bind (d.reachFirst timeout .notFound)).mapError (.connect host port)

end Dialer

namespace Connection

/-- The endpoint of an address, if nothing speaks against dialing it. A fault of
the address is reported before one of the origin. -/
def preflight (url : String) (config : Config) : Except Error Endpoint :=
  match Endpoint.parse url with
  | .error e => .error e
  | .ok endpoint => (UpgradeRequest.checkOrigin config.origin).map fun _ => endpoint

def connect [Transport σ] (dialer : Dialer α σ) (clock : Clock) (keys : KeySource) (url : String)
    (config : Config) : Except Error (Connection σ) :=
  match preflight url config with
  | .error e => .error e
  | .ok endpoint =>
    match dialer.dial endpoint.host endpoint.port config.connectTimeout with
    | .error e => .error e
    | .ok s => (establish clock keys s endpoint config).mapError (·.1)

end Connection

end WebSocket
