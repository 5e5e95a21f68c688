/-!
# Byte queues

A growable byte queue: bytes are appended at the end and consumed from the
front. The storage keeps what leaves the queue as `slack`, zero at first, and
`commit` can bring such bytes back into the queue. Growth doubles the
capacity, or takes exactly what is required when doubling is not enough; the
capacity never shrinks.

Lengths are 64-bit numbers. A commit whose length does not fit is a fault in a
build that checks sums, as `commit` does; `commitBy .wrapping` is the same
code in a build that lets them wrap.
-/

namespace WebSocket

structure ByteQueue where
  contents : List UInt8
  slack : List UInt8
deriving DecidableEq, Repr

namespace ByteQueue

-- ---------------------------------------------------------------------------
-- Operations
-- ---------------------------------------------------------------------------

def empty : ByteQueue := ⟨[], []⟩

def withCapacity (capacity : Nat) : ByteQueue := ⟨[], List.replicate capacity 0⟩

def length (q : ByteQueue) : Nat := q.contents.length

def isEmpty (q : ByteQueue) : Bool := q.contents.isEmpty

def capacity (q : ByteQueue) : Nat := q.contents.length + q.slack.length

def grownCapacity (capacity required : Nat) : Nat :=
  if required ≤ capacity then capacity else max (2 * capacity) required

def growTo (q : ByteQueue) (required : Nat) : ByteQueue :=
  { q with slack := q.slack ++
      List.replicate (grownCapacity q.capacity required - q.capacity) 0 }

def append (q : ByteQueue) (bytes : List UInt8) : ByteQueue :=
  let grown := q.growTo (q.length + bytes.length)
  ⟨grown.contents ++ bytes, grown.slack.drop bytes.length⟩

/-- Drops the first `n` bytes. The rest moves to the front of the storage, so
what stood at its end stays behind as slack. -/
def consume (q : ByteQueue) (n : Nat) : ByteQueue :=
  if q.length ≤ n then ⟨[], q.contents ++ q.slack⟩
  else ⟨q.contents.drop n, q.contents.drop (q.length - n) ++ q.slack⟩

def reserve (q : ByteQueue) (additional : Nat) : ByteQueue :=
  q.growTo (q.length + additional)

/-- The free region that `reserve` hands out. -/
def spare (q : ByteQueue) (additional : Nat) : List UInt8 :=
  (q.reserve additional).slack.take additional

def fillSpare (q : ByteQueue) (bytes : List UInt8) : ByteQueue :=
  { q with slack := bytes.take q.slack.length ++ q.slack.drop bytes.length }

inductive CommitFault
  | overflow
  | pastCapacity
deriving DecidableEq, Repr

def CommitFault.message : CommitFault → String
  | .overflow => "attempt to add with overflow"
  | .pastCapacity => "commit past reserved capacity"

/-- What becomes of a sum that does not fit into 64 bits. -/
inductive Addition
  | checked
  | wrapping
deriving DecidableEq, Repr

def Addition.sum : Addition → Nat → UInt64 → Except CommitFault Nat
  | .checked, length, n =>
    if length + n.toNat < UInt64.size then .ok (length + n.toNat) else .error .overflow
  | .wrapping, length, n => .ok ((length + n.toNat) % UInt64.size)

def endAt (q : ByteQueue) (stop : Nat) : Except CommitFault ByteQueue :=
  let storage := q.contents ++ q.slack
  if stop ≤ q.capacity then .ok ⟨storage.take stop, storage.drop stop⟩ else .error .pastCapacity

def commitBy (addition : Addition) (q : ByteQueue) (n : UInt64) :
    Except CommitFault ByteQueue := do
  let stop ← addition.sum q.length n
  q.endAt stop

def commit (q : ByteQueue) (n : UInt64) : Except CommitFault ByteQueue := q.commitBy .checked n

def commit? (q : ByteQueue) (n : UInt64) : Option ByteQueue := (q.commit n).toOption

def clear (q : ByteQueue) : ByteQueue := ⟨[], q.contents ++ q.slack⟩

def overwrite (q : ByteQueue) (bytes : List UInt8) : ByteQueue := { q with contents := bytes }

def describe (q : ByteQueue) : String :=
  "GrowBuffer \x7b len: " ++ toString q.length ++ ", capacity: " ++ toString q.capacity ++ " \x7d"

-- ---------------------------------------------------------------------------
-- Contents after each operation
-- ---------------------------------------------------------------------------

@[simp] theorem contents_growTo (q : ByteQueue) (required : Nat) :
    (q.growTo required).contents = q.contents := rfl

@[simp] theorem contents_append (q : ByteQueue) (bytes : List UInt8) :
    (q.append bytes).contents = q.contents ++ bytes := rfl

@[simp] theorem contents_consume (q : ByteQueue) (n : Nat) :
    (q.consume n).contents = q.contents.drop n := by
  unfold consume length
  split
  · next h => simp [List.drop_eq_nil_of_le h]
  · rfl

@[simp] theorem contents_reserve (q : ByteQueue) (additional : Nat) :
    (q.reserve additional).contents = q.contents := rfl

@[simp] theorem contents_fillSpare (q : ByteQueue) (bytes : List UInt8) :
    (q.fillSpare bytes).contents = q.contents := rfl

@[simp] theorem contents_clear (q : ByteQueue) : q.clear.contents = [] := rfl

@[simp] theorem contents_overwrite (q : ByteQueue) (bytes : List UInt8) :
    (q.overwrite bytes).contents = bytes := rfl

-- ---------------------------------------------------------------------------
-- Capacity after each operation
-- ---------------------------------------------------------------------------

theorem le_grownCapacity (capacity required : Nat) :
    capacity ≤ grownCapacity capacity required ∧ required ≤ grownCapacity capacity required := by
  unfold grownCapacity
  split <;> omega

@[simp] theorem capacity_growTo (q : ByteQueue) (required : Nat) :
    (q.growTo required).capacity = grownCapacity q.capacity required := by
  have h := (le_grownCapacity q.capacity required).1
  unfold growTo
  generalize grownCapacity q.capacity required = grown at h
  simp only [capacity, List.length_append, List.length_replicate] at h ⊢
  omega

theorem growTo_of_le {q : ByteQueue} {required : Nat} (h : required ≤ q.capacity) :
    q.growTo required = q := by
  simp [growTo, grownCapacity, h]

@[simp] theorem capacity_append (q : ByteQueue) (bytes : List UInt8) :
    (q.append bytes).capacity = grownCapacity q.capacity (q.length + bytes.length) := by
  have h := (le_grownCapacity q.capacity (q.length + bytes.length)).2
  rw [← capacity_growTo] at h ⊢
  simp only [append, capacity, contents_growTo, List.length_append, List.length_drop, length] at h ⊢
  omega

@[simp] theorem capacity_consume (q : ByteQueue) (n : Nat) :
    (q.consume n).capacity = q.capacity := by
  unfold consume
  split
  · simp [capacity]
  · simp only [capacity, length, List.length_append, List.length_drop] at *
    omega

@[simp] theorem capacity_reserve (q : ByteQueue) (additional : Nat) :
    (q.reserve additional).capacity = grownCapacity q.capacity (q.length + additional) :=
  capacity_growTo ..

@[simp] theorem capacity_fillSpare (q : ByteQueue) (bytes : List UInt8) :
    (q.fillSpare bytes).capacity = q.capacity := by
  simp only [fillSpare, capacity, List.length_append, List.length_take, List.length_drop]
  omega

@[simp] theorem capacity_clear (q : ByteQueue) : q.clear.capacity = q.capacity := by
  simp [clear, capacity]

theorem le_length_slack_reserve (q : ByteQueue) (additional : Nat) :
    additional ≤ (q.reserve additional).slack.length := by
  have h := (le_grownCapacity q.capacity (q.length + additional)).2
  rw [← capacity_reserve] at h
  simp only [capacity, contents_reserve, length] at h
  omega

-- ---------------------------------------------------------------------------
-- Commits
-- ---------------------------------------------------------------------------

theorem commitBy_of_sum {addition : Addition} {q : ByteQueue} {n : UInt64} {stop : Nat}
    (h : addition.sum q.length n = .ok stop) : q.commitBy addition n = q.endAt stop := by
  rw [commitBy, h]
  rfl

theorem commitBy_of_lt (addition : Addition) {q : ByteQueue} {n : UInt64}
    (h : q.length + n.toNat < UInt64.size) :
    q.commitBy addition n = q.endAt (q.length + n.toNat) := by
  apply commitBy_of_sum
  cases addition with
  | checked => exact if_pos h
  | wrapping => exact congrArg Except.ok (Nat.mod_eq_of_lt h)

theorem commit_of_le {q : ByteQueue} {n : UInt64} (h : UInt64.size ≤ q.length + n.toNat) :
    q.commit n = .error .overflow := by
  have hsum : Addition.checked.sum q.length n = .error .overflow := if_neg (Nat.not_lt.mpr h)
  rw [commit, commitBy, hsum]
  rfl

theorem commit?_of_fits {q : ByteQueue} {n : UInt64} (h : q.length + n.toNat < UInt64.size) :
    q.commit? n =
      if q.length + n.toNat ≤ q.capacity then
        some ⟨q.contents ++ q.slack.take n.toNat, q.slack.drop n.toNat⟩
      else none := by
  rw [commit?, commit, commitBy_of_lt _ h, endAt]
  split
  · simp only [length, List.take_length_add_append, List.drop_length_add_append]
    rfl
  · rfl

/-- A commit of bytes that have been written into the free region appends them. -/
theorem commit?_fillSpare {q : ByteQueue} {bytes : List UInt8}
    (hroom : bytes.length ≤ q.slack.length) (hf : q.length + bytes.length < UInt64.size) :
    (q.fillSpare bytes).commit? (UInt64.ofNat bytes.length) = some (q.append bytes) := by
  have hcount : (UInt64.ofNat bytes.length).toNat = bytes.length :=
    UInt64.toNat_ofNat_of_lt (Nat.lt_of_le_of_lt (Nat.le_add_left ..) hf)
  have hlength : (q.fillSpare bytes).length = q.length := rfl
  have hcapacity : q.length + bytes.length ≤ q.capacity := Nat.add_le_add_left hroom _
  have hslack : (q.fillSpare bytes).slack = bytes ++ q.slack.drop bytes.length := by
    rw [fillSpare, List.take_of_length_le hroom]
  rw [commit?_of_fits (by rwa [hlength, hcount]), hlength, hcount, capacity_fillSpare,
    if_pos hcapacity, hslack, List.take_left, List.drop_left, append,
    growTo_of_le hcapacity]
  rfl

end ByteQueue

end WebSocket
