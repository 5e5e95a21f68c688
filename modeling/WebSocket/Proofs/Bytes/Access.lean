/-!
# Checked accesses

Reading and writing a part of a byte string that has to be inside it. An access out of
range has no result, so a computation made of such accesses has one only if none of them
is out of range.
-/

namespace WebSocket.Access

def slice? (bytes : List UInt8) (start stop : Nat) : Option (List UInt8) :=
  if start ≤ stop ∧ stop ≤ bytes.length then some ((bytes.take stop).drop start) else none

def front? (n : Nat) (bytes : List UInt8) : Option (List UInt8 × List UInt8) :=
  if n ≤ bytes.length then some (bytes.take n, bytes.drop n) else none

def splice? (bytes : List UInt8) (start : Nat) (part : List UInt8) : Option (List UInt8) :=
  if start + part.length ≤ bytes.length then
    some (bytes.take start ++ part ++ bytes.drop (start + part.length))
  else none

variable {bytes : List UInt8} {start stop n : Nat}

theorem slice?_of_le (h : start ≤ stop) (hs : stop ≤ bytes.length) :
    slice? bytes start stop = some ((bytes.take stop).drop start) :=
  if_pos ⟨h, hs⟩

theorem front?_of_le (h : n ≤ bytes.length) : front? n bytes = some (bytes.take n, bytes.drop n) :=
  if_pos h

theorem splice?_of_le {part : List UInt8} (h : start + part.length ≤ bytes.length) :
    splice? bytes start part =
      some (bytes.take start ++ part ++ bytes.drop (start + part.length)) :=
  if_pos h

theorem length_splice? {part after : List UInt8} (h : splice? bytes start part = some after) :
    after.length = bytes.length := by
  unfold splice? at h
  split at h
  · cases h
    simp only [List.length_append, List.length_take, List.length_drop]
    omega
  · cases h

-- ---------------------------------------------------------------------------
-- Behind a front
-- ---------------------------------------------------------------------------

section
variable {front back part : List UInt8}

theorem slice?_behind (h : n ≤ back.length) :
    slice? (front ++ back) front.length (front.length + n) = some (back.take n) := by
  rw [slice?_of_le (Nat.le_add_right ..) (by rw [List.length_append]; omega),
    List.take_length_add_append, List.drop_left]

theorem splice?_behind (h : part.length ≤ back.length) :
    splice? (front ++ back) front.length part =
      some (front ++ part ++ back.drop part.length) := by
  rw [splice?_of_le (by rw [List.length_append]; omega), List.take_left,
    List.drop_length_add_append]

end

end WebSocket.Access
