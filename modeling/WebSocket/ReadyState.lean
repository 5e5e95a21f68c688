/-!
# Ready states

The phases of a connection in the order in which they are passed. `connecting`
is left once, when the handshake succeeds, and `closed` is final.
-/

namespace WebSocket

inductive ReadyState
  | connecting | open | closing | closed
deriving DecidableEq, Repr

namespace ReadyState

def rank : ReadyState → Nat
  | .connecting => 0
  | .open => 1
  | .closing => 2
  | .closed => 3

instance : LE ReadyState := ⟨fun a b => a.rank ≤ b.rank⟩

instance (a b : ReadyState) : Decidable (a ≤ b) := inferInstanceAs (Decidable (a.rank ≤ b.rank))

instance : Ord ReadyState := ⟨fun a b => compare a.rank b.rank⟩

def message : ReadyState → String
  | .connecting => "CONNECTING"
  | .open => "OPEN"
  | .closing => "CLOSING"
  | .closed => "CLOSED"

def name : ReadyState → String
  | .connecting => "Connecting"
  | .open => "Open"
  | .closing => "Closing"
  | .closed => "Closed"

end ReadyState

end WebSocket
