import WebSocket.Text

/-!
# Range tables

Properties of code points, kept as text. An entry reads `first-last/step=value`
with hexadecimal code points; a range of one code point has no `last`, a step of
one is not written, and a table of mere membership has no values.
-/

namespace WebSocket

structure RangeTable.Entry where
  first : Nat
  last : Nat
  step : Nat
  value : List Char
deriving Repr

/-- Entries in the order in which they are searched. -/
structure RangeTable where
  entries : List RangeTable.Entry

namespace RangeTable

def Entry.covers (entry : Entry) (code : Nat) : Bool :=
  entry.first ≤ code && code ≤ entry.last && (code - entry.first) % entry.step == 0

def hex? (digits : List Char) : Option Nat :=
  if digits.isEmpty then none else Ascii.number? 16 digits

def cut (mark : Char) (text : List Char) : List Char × List Char :=
  (text.takeWhile (· != mark), (text.dropWhile (· != mark)).drop 1)

def Entry.parse? (text : List Char) : Option Entry := do
  let (key, value) := cut '=' text
  let (range, step) := cut '/' key
  let (first, last) := cut '-' range
  let first ← hex? first
  some ⟨first, (hex? last).getD first, (hex? step).getD 1, value⟩

def ofLines (lines : List String) : RangeTable :=
  ⟨lines.flatMap fun line => (line.toList.splitOn ' ').filterMap Entry.parse?⟩

def find? (table : RangeTable) (code : Nat) : Option Entry := table.entries.find? (·.covers code)

def contains (table : RangeTable) (c : Char) : Bool := (table.find? c.toNat).isSome

def value? (table : RangeTable) (c : Char) : Option (List Char) :=
  (table.find? c.toNat).map (·.value)

end RangeTable

end WebSocket
