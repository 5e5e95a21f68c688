import WebSocket.Proofs.Bytes.Commits
import WebSocket.Proofs.Bytes.Histories

/-!
# How storage grows

A call that requires more room than there is makes the storage behind a queue grow: to
twice its size, or to what is required when that is more. Nothing else changes its size
(`Extends`), so over a whole history it stays within what it began with, or twice the most
that was required (`storage_history`). A copy of a queue has the history of the queue.
-/

namespace WebSocket.Queueing

open Access (splice? splice?_behind)
open ByteQueue (grownCapacity le_grownCapacity)

-- ---------------------------------------------------------------------------
-- What a call requires
-- ---------------------------------------------------------------------------

/-- The totals that a call requires room for, one after the other, when `length` bytes are
queued. A frame is queued in two parts. -/
def Op.totals (length : Nat) : Op → List Nat
  | .append bytes => [length + bytes.length]
  | .reserve n _ => [length + n]
  | .encode opcode payload mask =>
    let header := FrameHeader.ofPayload opcode (UInt64.ofNat payload.length) mask
    [length + header.encode.length, length + header.encode.length + payload.length]
  | .consume _ | .commit _ | .clear | .write .. => []

def Op.written : Op → List UInt8
  | .append bytes => bytes
  | .reserve n bytes => bytes.take n
  | .encode opcode payload mask => Frame.encode opcode payload mask
  | .consume _ | .commit _ | .clear | .write .. => []

def after (q : ByteQueue) : List Op → ByteQueue
  | [] => q
  | op :: ops => after (queues.apply q op).2 ops

def required (q : ByteQueue) : List Op → List Nat
  | [] => []
  | op :: ops => op.totals q.length ++ required (queues.apply q op).2 ops

-- ---------------------------------------------------------------------------
-- The size of the storage
-- ---------------------------------------------------------------------------

section
variable {capacity most : Nat} {totals : List Nat}

theorem le_foldl_grownCapacity (capacity : Nat) (totals : List Nat) :
    capacity ≤ totals.foldl grownCapacity capacity := by
  induction totals generalizing capacity with
  | nil => exact Nat.le_refl _
  | cons total totals ih => exact Nat.le_trans (le_grownCapacity capacity total).1 (ih _)

/-- Storage that has grown was too small for what was required, so twice its size is less
than twice that. -/
theorem grownCapacity_le {total : Nat} (h : total ≤ most) :
    grownCapacity capacity total ≤ max capacity (2 * most) := by
  unfold grownCapacity
  split <;> omega

theorem foldl_grownCapacity_le (h : ∀ total ∈ totals, total ≤ most) :
    totals.foldl grownCapacity capacity ≤ max capacity (2 * most) := by
  induction totals generalizing capacity with
  | nil => exact Nat.le_max_left ..
  | cons total totals ih =>
    obtain ⟨hfirst, hrest⟩ := List.forall_mem_cons.mp h
    refine Nat.le_trans (ih hrest) (Nat.max_le.mpr ⟨?_, Nat.le_max_right ..⟩)
    exact grownCapacity_le hfirst

end

theorem capacity_orRefused {q : ByteQueue} {result : Option ByteQueue}
    (h : ∀ q', result = some q' → q'.capacity = q.capacity) :
    (orRefused q (result.map (.done, ·))).2.capacity = q.capacity := by
  cases result with
  | none => rfl
  | some q' => exact h q' rfl

theorem capacity_write? {q q' : ByteQueue} {start : Nat} {bytes : List UInt8}
    (h : q.write? start bytes = some q') : q'.capacity = q.capacity := by
  obtain ⟨contents, hs, ⟨⟩⟩ := Option.bind_eq_some_iff.mp h
  have hlength : contents.length = q.contents.length := Access.length_splice? hs
  simp [ByteQueue.capacity, ByteQueue.overwrite, hlength]

theorem capacity_apply (q : ByteQueue) (op : Op) :
    (queues.apply q op).2.capacity = (op.totals q.length).foldl grownCapacity q.capacity := by
  cases op with
  | append bytes => simp [queues, Op.totals]
  | consume n => simp [queues, Op.totals]
  | reserve n bytes => simp [queues, Op.totals]
  | commit n =>
    refine capacity_orRefused fun q' h => ?_
    exact (ByteQueue.committed_of_commit (ByteQueue.commit?_eq_some_iff.mp h)).capacity_eq
  | clear => simp [queues, Op.totals]
  | write start bytes => exact capacity_orRefused fun q' h => capacity_write? h
  | encode opcode payload mask =>
    simp [queues, Op.totals, ByteQueue.appendFrame, ByteQueue.length]

theorem capacity_after (q : ByteQueue) (ops : List Op) :
    (after q ops).capacity = (required q ops).foldl grownCapacity q.capacity := by
  induction ops generalizing q with
  | nil => rfl
  | cons op ops ih => rw [after, required, List.foldl_append, ← capacity_apply, ih]

-- ---------------------------------------------------------------------------
-- The bytes in the storage
-- ---------------------------------------------------------------------------

def fresh (q q' : ByteQueue) : List UInt8 := List.replicate (q'.capacity - q.capacity) 0

theorem fresh_trans {q q' q'' : ByteQueue} (h : q.capacity ≤ q'.capacity)
    (h' : q'.capacity ≤ q''.capacity) : fresh q q' ++ fresh q' q'' = fresh q q'' := by
  simp only [fresh, List.replicate_append_replicate]
  congr 1
  omega

/-- What a call puts at the end of the queue takes the place of the first slack, the zeros
that it adds included. -/
structure Fills (q : ByteQueue) (part : List UInt8) (q' : ByteQueue) : Prop where
  room : part.length ≤ (q.slack ++ fresh q q').length
  block_eq : q'.storage.block = q.contents ++ part ++ (q.slack ++ fresh q q').drop part.length

theorem fills_append (q : ByteQueue) (bytes : List UInt8) : Fills q bytes (q.append bytes) := by
  have hslack : q.slack ++ fresh q (q.append bytes) = (q.reserve bytes.length).slack := by
    simp [fresh, ByteQueue.reserve, ByteQueue.growTo]
  refine ⟨?_, ?_⟩
  · rw [hslack]
    exact q.le_length_slack_reserve bytes.length
  · rw [hslack]
    rfl

theorem fills_reserve (q : ByteQueue) (n : Nat) (bytes : List UInt8) :
    Fills q (bytes.take n) ((q.reserve n).fillSpare (bytes.take n)) := by
  have hslack : q.slack ++ fresh q ((q.reserve n).fillSpare (bytes.take n)) =
      (q.reserve n).slack := by
    rw [fresh, ByteQueue.capacity_fillSpare, ByteQueue.capacity_reserve]
    rfl
  have hroom : (bytes.take n).length ≤ (q.reserve n).slack.length :=
    Nat.le_trans (List.length_take_le ..) (q.le_length_slack_reserve n)
  refine ⟨hslack ▸ hroom, ?_⟩
  rw [hslack, ByteQueue.block_storage, ByteQueue.fillSpare, List.take_of_length_le hroom,
    List.append_assoc]
  rfl

theorem Fills.trans {q q' q'' : ByteQueue} {first later : List UInt8} (h : Fills q first q')
    (h' : Fills q' later q'') (hq : q'.contents = q.contents ++ first)
    (hle : q.capacity ≤ q'.capacity) (hle' : q'.capacity ≤ q''.capacity) :
    Fills q (first ++ later) q'' := by
  have hslack : q'.slack ++ fresh q' q'' = (q.slack ++ fresh q q'').drop first.length := by
    have hblock := h.block_eq
    rw [ByteQueue.block_storage, hq] at hblock
    rw [List.append_cancel_left hblock, ← List.drop_append_of_le_length h.room, List.append_assoc,
      fresh_trans hle hle']
  have hroom := h'.room
  have hfirst := h.room
  have hblock := h'.block_eq
  rw [hslack] at hroom hblock
  refine ⟨?_, ?_⟩
  · rw [← fresh_trans hle hle', ← List.append_assoc]
    simp only [List.length_append, List.length_drop, ← fresh_trans hle hle'] at hroom hfirst ⊢
    omega
  · rw [hblock, hq, List.drop_drop, List.length_append, List.append_assoc q.contents]

theorem le_capacity_append (q : ByteQueue) (bytes : List UInt8) :
    q.capacity ≤ (q.append bytes).capacity := by
  rw [ByteQueue.capacity_append]
  exact (le_grownCapacity ..).1

theorem fills_encode (q : ByteQueue) (opcode : Opcode) (payload : List UInt8)
    (mask : Option MaskKey) :
    Fills q (Frame.encode opcode payload mask) (q.appendFrame opcode payload mask) :=
  (fills_append q _).trans (fills_append _ _) (ByteQueue.contents_append ..)
    (le_capacity_append ..) (le_capacity_append ..)

theorem fills_apply (q : ByteQueue) {op : Op} (h : op.totals q.length ≠ []) :
    Fills q op.written (queues.apply q op).2 := by
  cases op with
  | append bytes => exact fills_append q bytes
  | reserve n bytes => exact fills_reserve q n bytes
  | encode opcode payload mask => exact fills_encode q opcode payload mask
  | consume | commit | clear | write => exact absurd rfl h

-- ---------------------------------------------------------------------------
-- Histories
-- ---------------------------------------------------------------------------

/-- What a call does to the storage. Its size changes only where more is required than there
is. A call that makes room leaves every byte where it is, adds zeros behind them, and then
writes at the end of the queue. -/
structure Extends (s : Storage) (op : Op) (s' : Storage) : Prop where
  capacity_le : s.capacity ≤ s'.capacity
  capacity_eq : s'.capacity = (op.totals s.length).foldl (fun capacity total =>
    if total ≤ capacity then capacity else max (2 * capacity) total) s.capacity
  block_eq : op.totals s.length ≠ [] →
    splice? (s.block ++ List.replicate (s'.capacity - s.capacity) 0) s.length op.written =
      some s'.block

theorem extends_apply (q : ByteQueue) (op : Op) :
    Extends q.storage op (queues.apply q op).2.storage := by
  have hcapacity := capacity_apply q op
  refine ⟨?_, ?_, ?_⟩
  · simpa [hcapacity] using le_foldl_grownCapacity q.capacity (op.totals q.length)
  · simp only [ByteQueue.capacity_storage, ByteQueue.length_storage]
    exact hcapacity
  · intro h
    obtain ⟨hroom, hblock⟩ := fills_apply q h
    rw [hblock, ByteQueue.block_storage, ByteQueue.capacity_storage, ByteQueue.capacity_storage,
      List.append_assoc]
    exact splice?_behind hroom

/-- Whatever is called on a queue, and in whatever order: the queue never passes its storage,
the storage never passes the larger of what it began with and twice the largest total that
was required so far, and every call treats it as `Extends` says. -/
theorem storage_history (capacity : Nat) (ops : List Op) :
    let q := after (.withCapacity capacity) ops
    let totals := required (.withCapacity capacity) ops
    q.storage.length ≤ q.storage.capacity ∧
      q.storage.capacity ≤ max capacity (2 * totals.max?.getD 0) ∧
      ∀ op, Extends q.storage op (queues.apply q op).2.storage := by
  intro q totals
  refine ⟨?_, ?_, extends_apply q⟩
  · rw [ByteQueue.capacity_storage]
    exact Nat.le_add_right ..
  · have hstart : (ByteQueue.withCapacity capacity).capacity = capacity := by
      simp [ByteQueue.withCapacity, ByteQueue.capacity]
    rw [ByteQueue.capacity_storage, capacity_after, hstart]
    exact foldl_grownCapacity_le fun _ h => List.le_max?_getD_of_mem h

/-- Doubling is enough for the ninth byte, and not for twenty-three. -/
example :
    (after (.withCapacity 8) [.append [1, 2, 3, 4, 5, 6, 7, 8], .append [9]]).capacity = 16 ∧
      (after (.withCapacity 4) [.append [0, 0, 0], .reserve 20 []]).capacity = 23 := by
  decide

end WebSocket.Queueing
