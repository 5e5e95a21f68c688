import WebSocket.Error

/-!
# Transports

A connected, non-blocking byte stream. `send` and `recv` answer at once, and
`wouldBlock` means that the call has to be made again after a wait. `recv`
answers no bytes when the peer has shut the stream down. A stream takes no more
bytes than it is offered, gives no more than there is room for, and runs dry:
`supply` bounds how many reads in a row can bring bytes.
-/

namespace WebSocket

structure Interest where
  readable : Bool
  writable : Bool
deriving DecidableEq, Repr

namespace Interest

def read : Interest := ⟨true, false⟩

def write : Interest := ⟨false, true⟩

def both : Interest := ⟨true, true⟩

def forOutput (pending : Bool) : Interest := if pending then both else read

end Interest

/-- The byte streams whose state has type `σ`. Times are in milliseconds. -/
class Transport (σ : Type) where
  /-- Takes some of the bytes, and answers how many. -/
  send : σ → List UInt8 → Except IoKind Nat × σ
  /-- Gives at most as many bytes as there is room for. -/
  recv : σ → (room : Nat) → Except IoKind (List UInt8) × σ
  /-- Waits until the stream is ready or the time is over. -/
  wait : σ → Interest → (timeout : Nat) → Except IoKind Unit × σ
  /-- Lets time pass without any exchange. -/
  idle : σ → (time : Nat) → σ := fun s _ => s
  setNodelay : σ → Bool → Except IoKind Unit × σ := fun s _ => (.ok (), s)
  close : σ → σ
  supply : σ → Nat
  send_le : ∀ {s offered n s'}, send s offered = (.ok n, s') → n ≤ offered.length
  recv_le : ∀ {s room bytes s'}, recv s room = (.ok bytes, s') → bytes.length ≤ room
  supply_lt : ∀ {s room b bytes s'}, recv s room = (.ok (b :: bytes), s') → supply s' < supply s

/-- What is left of a time budget at each later look at the clock. The end of
the list, or nothing left, means that the time is over. -/
abbrev Deadline := List Nat

/-- A clock gives the readings for every budget; no reading exceeds it. -/
structure Clock where
  readings : (budget : Nat) → Deadline
  le_budget : ∀ {budget left}, left ∈ readings budget → left ≤ budget

namespace Deadline

def look : Deadline → Option (Nat × Deadline)
  | [] => none
  | left :: later => if left = 0 then none else some (left, later)

theorem length_lt_of_look {deadline later : Deadline} {left : Nat}
    (h : deadline.look = some (left, later)) : later.length < deadline.length := by
  cases deadline with
  | nil => cases h
  | cons first rest =>
    simp only [look] at h
    split at h
    · cases h
    · cases h
      exact Nat.lt_succ_self _

end Deadline

def Clock.patient (looks : Nat) : Clock where
  readings budget := List.replicate looks budget
  le_budget h := Nat.le_of_eq (List.eq_of_mem_replicate h)

end WebSocket
