/-!
# Scans

A scan reads bytes from left to right and may be asked again when more have
come in. It ends with a value and the bytes after it, refuses what it has seen,
or needs more. A scan that has ended keeps its answer under every extension of
the input; `Stable` says so.
-/

namespace WebSocket

inductive Scan (α : Type)
  | more
  | bad
  | done (value : α) (rest : List UInt8)
deriving DecidableEq, Repr

namespace Scan

variable {α β : Type}

def andThen : Scan α → (α → List UInt8 → Scan β) → Scan β
  | .more, _ => .more
  | .bad, _ => .bad
  | .done value rest, next => next value rest

def map (f : α → β) (s : Scan α) : Scan β := s.andThen fun value rest => .done (f value) rest

/-- What becomes of an ended scan when `tail` comes in behind its input. -/
def extend (s : Scan α) (tail : List UInt8) : Scan α :=
  s.andThen fun value rest => .done value (rest ++ tail)

def Stable (scan : List UInt8 → Scan α) : Prop :=
  ∀ bytes tail, scan bytes ≠ .more → scan (bytes ++ tail) = (scan bytes).extend tail

def literal : (literal : List UInt8) → List UInt8 → Scan Unit
  | [], bytes => .done () bytes
  | _ :: _, [] => .more
  | expected :: literal, b :: bytes => if b = expected then Scan.literal literal bytes else .bad

def byte (f : UInt8 → Option α) : List UInt8 → Scan α
  | [] => .more
  | b :: bytes =>
    match f b with
    | some value => .done value bytes
    | none => .bad

def lineEnd : List UInt8 → Scan Unit
  | [] => .more
  | b :: bytes =>
    if b = 0x0A then .done () bytes
    else if b = 0x0D then literal [0x0A] bytes
    else .bad

/-- Skips line ends. Ends at the first byte that starts none. -/
def skipBlankLines : List UInt8 → Scan Unit
  | [] => .more
  | b :: bytes =>
    if b = 0x0A then skipBlankLines bytes
    else if b = 0x0D then
      match bytes with
      | [] => .more
      | b :: bytes => if b = 0x0A then skipBlankLines bytes else .bad
    else .done () (b :: bytes)

end Scan

end WebSocket
