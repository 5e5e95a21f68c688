import WebSocket.Frame.Codec
import WebSocket.Proofs.Bytes.Access

/-!
# A queue in one block of storage

A byte queue kept in one block of bytes, of which the first `length` are queued: what is
appended overwrites the bytes behind them, what is left after a consumption is copied to
the front, and the block grows at its end. Every access to the block is checked.

A `ByteQueue` keeps the two parts of such a block apart (`Layout`), and each operation
does the same to both.
-/

namespace WebSocket

open Access (slice? splice? slice?_of_le slice?_behind splice?_of_le splice?_behind
  length_splice?)

structure Storage where
  block : List UInt8
  length : Nat
deriving DecidableEq, Repr

namespace Storage

-- ---------------------------------------------------------------------------
-- Operations
-- ---------------------------------------------------------------------------

def ofCapacity (capacity : Nat) : Storage := ⟨List.replicate capacity 0, 0⟩

def capacity (s : Storage) : Nat := s.block.length

def data (s : Storage) : List UInt8 := s.block.take s.length

def grow (s : Storage) (required : Nat) : Storage :=
  if required ≤ s.capacity then s
  else { s with block := s.block ++
    List.replicate (max (2 * s.capacity) required - s.capacity) 0 }

def append? (s : Storage) (bytes : List UInt8) : Option Storage := do
  let stop := s.length + bytes.length
  let block ← splice? (s.grow stop).block s.length bytes
  some ⟨block, stop⟩

def consume? (s : Storage) (n : Nat) : Option Storage :=
  if s.length ≤ n then some { s with length := 0 }
  else do
    let rest ← slice? s.block n s.length
    let block ← splice? s.block 0 rest
    some ⟨block, s.length - n⟩

def reserve? (s : Storage) (additional : Nat) : Option (List UInt8 × Storage) := do
  let stop := s.length + additional
  let region ← slice? (s.grow stop).block s.length stop
  some (region, s.grow stop)

def fill? (s : Storage) (bytes : List UInt8) : Option Storage := do
  let block ← splice? s.block s.length bytes
  some { s with block := block }

def commit? (s : Storage) (n : UInt64) : Option Storage :=
  let stop := s.length + n.toNat
  if stop < UInt64.size ∧ stop ≤ s.capacity then some { s with length := stop } else none

def clear (s : Storage) : Storage := { s with length := 0 }

def write? (s : Storage) (start : Nat) (bytes : List UInt8) : Option Storage := do
  let data ← splice? s.data start bytes
  let block ← splice? s.block 0 data
  some { s with block := block }

/-- Queues a frame: its header, its payload as it is, and then the key over the payload
where it stands. -/
def encode? (s : Storage) (opcode : Opcode) (payload : List UInt8) (mask : Option MaskKey) :
    Option Storage := do
  let header := FrameHeader.ofPayload opcode (UInt64.ofNat payload.length) mask
  let headed ← s.append? header.encode
  let framed ← headed.append? payload
  match mask with
  | none => some framed
  | some key =>
    let payload ← slice? framed.data headed.length framed.length
    framed.write? headed.length (key.mask payload)

end Storage

-- ---------------------------------------------------------------------------
-- The two parts of a block
-- ---------------------------------------------------------------------------

namespace ByteQueue

/-- The block that holds the queued bytes and then what is kept behind them. -/
def storage (q : ByteQueue) : Storage := ⟨q.contents ++ q.slack, q.length⟩

theorem storage_withCapacity (capacity : Nat) :
    (withCapacity capacity).storage = .ofCapacity capacity := rfl

@[simp] theorem block_storage (q : ByteQueue) : q.storage.block = q.contents ++ q.slack := rfl

@[simp] theorem length_storage (q : ByteQueue) : q.storage.length = q.length := rfl

@[simp] theorem data_storage (q : ByteQueue) : q.storage.data = q.contents := List.take_left

@[simp] theorem capacity_storage (q : ByteQueue) : q.storage.capacity = q.capacity :=
  List.length_append

@[simp] theorem grow_storage (q : ByteQueue) (required : Nat) :
    q.storage.grow required = (q.growTo required).storage := by
  rw [Storage.grow, capacity_storage]
  split
  · next h => simp [storage, growTo, grownCapacity, h, length]
  · next h => simp [storage, growTo, grownCapacity, h, length]

theorem append?_storage (q : ByteQueue) (bytes : List UInt8) :
    q.storage.append? bytes = some (q.append bytes).storage := by
  have hsplice : splice? (q.contents ++ (q.growTo (q.length + bytes.length)).slack) q.length
      bytes = some ((q.append bytes).contents ++ (q.append bytes).slack) :=
    splice?_behind (q.le_length_slack_reserve bytes.length)
  simp only [Storage.append?, length_storage, grow_storage, block_storage, contents_growTo, hsplice]
  simp [storage, length]

theorem consume?_storage (q : ByteQueue) (n : Nat) :
    q.storage.consume? n = some (q.consume n).storage := by
  rw [Storage.consume?, consume, length_storage]
  by_cases hn : q.length ≤ n
  · rw [if_pos hn, if_pos hn]
    rfl
  · have hslice : slice? (q.contents ++ q.slack) n q.length = some (q.contents.drop n) := by
      rw [slice?_of_le (by omega) (by simp [length]), length, List.take_left]
    have hsplice : splice? (q.contents ++ q.slack) 0 (q.contents.drop n) =
        some (q.contents.drop n ++ (q.contents.drop (q.length - n) ++ q.slack)) := by
      rw [splice?_of_le (by simp; omega), Nat.zero_add, List.length_drop,
        List.drop_append_of_le_length (Nat.sub_le ..)]
      rfl
    rw [if_neg hn, if_neg hn, block_storage, hslice]
    simp only [Option.bind_eq_bind, Option.bind_some, hsplice]
    simp [storage, length]

theorem reserve?_storage (q : ByteQueue) (n : Nat) :
    q.storage.reserve? n = some (q.spare n, (q.reserve n).storage) := by
  have hslice : slice? (q.contents ++ (q.growTo (q.length + n)).slack) q.length (q.length + n) =
      some (q.spare n) :=
    slice?_behind (q.le_length_slack_reserve n)
  simp [Storage.reserve?, hslice, reserve]

theorem fill?_storage (q : ByteQueue) {bytes : List UInt8} (h : bytes.length ≤ q.slack.length) :
    q.storage.fill? bytes = some (q.fillSpare bytes).storage := by
  have hsplice : splice? (q.contents ++ q.slack) q.length bytes =
      some (q.contents ++ bytes ++ q.slack.drop bytes.length) :=
    splice?_behind h
  simp only [Storage.fill?, block_storage, length_storage, hsplice]
  simp [storage, fillSpare, List.take_of_length_le h, length]

theorem commit?_storage (q : ByteQueue) (n : UInt64) :
    q.storage.commit? n = (q.commit? n).map storage := by
  rw [Storage.commit?, length_storage, capacity_storage]
  by_cases hsize : q.length + n.toNat < UInt64.size
  · rw [commit?_of_fits hsize]
    by_cases hle : q.length + n.toNat ≤ q.capacity
    · have hn : n.toNat ≤ q.slack.length := Nat.add_le_add_iff_left.mp hle
      rw [if_pos ⟨hsize, hle⟩, if_pos hle]
      simp [storage, length, List.length_take_of_le hn]
    · rw [if_neg (mt And.right hle), if_neg hle]
      rfl
  · rw [if_neg (mt And.left hsize), commit?, commit_of_le (Nat.not_lt.mp hsize)]
    rfl

theorem clear_storage (q : ByteQueue) : q.storage.clear = q.clear.storage := rfl

def write? (q : ByteQueue) (start : Nat) (bytes : List UInt8) : Option ByteQueue := do
  let contents ← splice? q.contents start bytes
  some (q.overwrite contents)

theorem write?_storage (q : ByteQueue) (start : Nat) (bytes : List UInt8) :
    q.storage.write? start bytes = (q.write? start bytes).map storage := by
  rw [Storage.write?, write?, data_storage]
  cases hs : splice? q.contents start bytes with
  | none => rfl
  | some contents =>
    have hlength : contents.length = q.contents.length := length_splice? hs
    have hsplice : splice? (q.contents ++ q.slack) 0 contents = some (contents ++ q.slack) := by
      rw [splice?_of_le (by simp [hlength]), Nat.zero_add, hlength, List.drop_left]
      rfl
    simp [hsplice, storage, overwrite, length, hlength]

theorem write?_append (q : ByteQueue) {bytes part : List UInt8} (h : part.length = bytes.length) :
    (q.append bytes).write? q.length part = some (q.append part) := by
  have hsplice : splice? (q.contents ++ bytes) q.length part = some (q.contents ++ part) := by
    have hb : splice? (q.contents ++ bytes) q.length part =
        some (q.contents ++ part ++ bytes.drop part.length) :=
      splice?_behind (Nat.le_of_eq h)
    rwa [h, List.drop_length, List.append_nil] at hb
  simp only [write?, contents_append, hsplice]
  simp [overwrite, append, h]

theorem encode?_storage (q : ByteQueue) (opcode : Opcode) (payload : List UInt8)
    (mask : Option MaskKey) :
    q.storage.encode? opcode payload mask = some (q.appendFrame opcode payload mask).storage := by
  unfold Storage.encode? appendFrame
  extract_lets header
  have hstop : ((q.append header.encode).append payload).length =
      (q.append header.encode).length + payload.length := List.length_append
  have hslice : slice? ((q.append header.encode).append payload).contents
      (q.append header.encode).length ((q.append header.encode).append payload).length =
      some payload := by
    have hb : slice? ((q.append header.encode).contents ++ payload)
        (q.append header.encode).length ((q.append header.encode).length + payload.length) =
        some (payload.take payload.length) :=
      slice?_behind (Nat.le_refl _)
    rwa [List.take_length, ← hstop] at hb
  simp only [append?_storage, Option.bind_eq_bind, Option.bind_some]
  cases mask with
  | none => rfl
  | some key =>
    simp only [data_storage, length_storage, hslice, Option.bind_some, write?_storage,
      write?_append _ (key.length_mask payload)]
    rfl

end ByteQueue

end WebSocket
