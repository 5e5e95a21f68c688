import WebSocket.Proofs.Bytes.Storage

/-!
# Histories of byte queues

Calls on a bank of queues, one after the other, and what they show: an answer to each call,
and the bytes and the capacity of every queue after it. A copy of a queue joins the bank,
and from then on goes its own way. Queues that are kept in blocks of storage show the same
as `ByteQueue` does (`sights_blocks`).
-/

namespace WebSocket.Queueing

inductive Op
  | append (bytes : List UInt8)
  | consume (n : Nat)
  /-- Reserves `n` bytes and writes at the start of the region, at most over all of it. -/
  | reserve (n : Nat) (bytes : List UInt8)
  | commit (n : UInt64)
  | clear
  /-- Writes over queued bytes where they stand. -/
  | write (start : Nat) (bytes : List UInt8)
  | encode (opcode : Opcode) (payload : List UInt8) (mask : Option MaskKey)
deriving DecidableEq, Repr

inductive Answer
  | done
  /-- A region of this many bytes is handed out. -/
  | region (size : Nat)
  | refused
deriving DecidableEq, Repr

structure Keeper (τ : Type) where
  apply : τ → Op → Answer × τ
  contents : τ → List UInt8
  capacity : τ → Nat

/-- An operation without a result is refused and changes nothing. -/
def orRefused {τ : Type} (t : τ) (result : Option (Answer × τ)) : Answer × τ :=
  result.getD (.refused, t)

def queues : Keeper ByteQueue where
  apply q
    | .append bytes => (.done, q.append bytes)
    | .consume n => (.done, q.consume n)
    | .reserve n bytes => (.region (q.spare n).length, (q.reserve n).fillSpare (bytes.take n))
    | .commit n => orRefused q ((q.commit? n).map (.done, ·))
    | .clear => (.done, q.clear)
    | .write start bytes => orRefused q ((q.write? start bytes).map (.done, ·))
    | .encode opcode payload mask => (.done, q.appendFrame opcode payload mask)
  contents := ByteQueue.contents
  capacity := ByteQueue.capacity

def blocks : Keeper Storage where
  apply s
    | .append bytes => orRefused s ((s.append? bytes).map (.done, ·))
    | .consume n => orRefused s ((s.consume? n).map (.done, ·))
    | .reserve n bytes => orRefused s do
      let (region, reserved) ← s.reserve? n
      let filled ← reserved.fill? (bytes.take n)
      some (.region region.length, filled)
    | .commit n => orRefused s ((s.commit? n).map (.done, ·))
    | .clear => (.done, s.clear)
    | .write start bytes => orRefused s ((s.write? start bytes).map (.done, ·))
    | .encode opcode payload mask => orRefused s ((s.encode? opcode payload mask).map (.done, ·))
  contents := Storage.data
  capacity := Storage.capacity

-- ---------------------------------------------------------------------------
-- Banks
-- ---------------------------------------------------------------------------

inductive Event
  | call (i : Nat) (op : Op)
  /-- Adds a copy of queue `i` to the bank. -/
  | clone (i : Nat)
deriving DecidableEq, Repr

def Event.index : Event → Nat
  | .call i _ | .clone i => i

/-- What an event shows: its answer, unless there is no such queue, and the bytes and the
capacity of every queue after it. -/
structure Sight where
  answer : Option Answer
  held : List (List UInt8 × Nat)
deriving DecidableEq, Repr

namespace Keeper

variable {τ : Type}

def held (k : Keeper τ) (bank : List τ) : List (List UInt8 × Nat) :=
  bank.map fun t => (k.contents t, k.capacity t)

def act (k : Keeper τ) (bank : List τ) (event : Event) : Option Answer × List τ :=
  match bank[event.index]? with
  | none => (none, bank)
  | some t =>
    match event with
    | .call i op => (some (k.apply t op).1, bank.set i (k.apply t op).2)
    | .clone _ => (some .done, bank ++ [t])

def sights (k : Keeper τ) (bank : List τ) : List Event → List Sight
  | [] => []
  | event :: events =>
    let (answer, bank) := k.act bank event
    ⟨answer, k.held bank⟩ :: k.sights bank events

end Keeper

-- ---------------------------------------------------------------------------
-- Blocks of storage
-- ---------------------------------------------------------------------------

section
variable {τ υ : Type}

@[simp] theorem orRefused_some (t : τ) (result : Answer × τ) :
    orRefused t (some result) = result := rfl

theorem orRefused_map (f : τ → υ) (t : τ) (result : Option τ) :
    orRefused (f t) ((result.map f).map (.done, ·)) =
      ((orRefused t (result.map (.done, ·))).1, f (orRefused t (result.map (.done, ·))).2) := by
  cases result <;> rfl

end

theorem apply_storage (q : ByteQueue) (op : Op) :
    blocks.apply q.storage op = ((queues.apply q op).1, (queues.apply q op).2.storage) := by
  cases op with
  | append bytes => simp [blocks, queues, q.append?_storage]
  | consume n => simp [blocks, queues, q.consume?_storage]
  | reserve n bytes =>
    have hfill : (bytes.take n).length ≤ (q.reserve n).slack.length :=
      Nat.le_trans (List.length_take_le ..) (q.le_length_slack_reserve n)
    simp [blocks, queues, q.reserve?_storage, (q.reserve n).fill?_storage hfill]
  | commit n =>
    rw [blocks, queues]
    simp only [q.commit?_storage, orRefused_map]
  | clear => simp [blocks, queues, q.clear_storage]
  | write start bytes =>
    rw [blocks, queues]
    simp only [q.write?_storage, orRefused_map]
  | encode opcode payload mask => simp [blocks, queues, q.encode?_storage]

theorem act_storage (bank : List ByteQueue) (event : Event) :
    blocks.act (bank.map ByteQueue.storage) event =
      ((queues.act bank event).1, (queues.act bank event).2.map ByteQueue.storage) := by
  rw [Keeper.act, Keeper.act, List.getElem?_map]
  cases bank[event.index]? with
  | none => rfl
  | some q =>
    cases event with
    | call i op => simp [apply_storage]
    | clone i => simp

theorem sights_blocks (bank : List ByteQueue) (events : List Event) :
    blocks.sights (bank.map ByteQueue.storage) events = queues.sights bank events := by
  have hheld (bank : List ByteQueue) :
      blocks.held (bank.map ByteQueue.storage) = queues.held bank := by
    simp [Keeper.held, blocks, queues, Function.comp_def]
  induction events generalizing bank with
  | nil => rfl
  | cons event events ih => simp [Keeper.sights, act_storage, hheld, ih]

end WebSocket.Queueing
