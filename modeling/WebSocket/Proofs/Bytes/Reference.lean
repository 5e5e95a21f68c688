import WebSocket.Proofs.Bytes.Histories

/-!
# Byte queues behave as the reference queue

The reference queue is its bytes, its capacity and what has been written behind it. It says
what each operation does to them and nothing about storage (`Serves`), and a copy of it has
the same bytes and capacity (`Accepts`). Every history of a `ByteQueue` is one
of the reference queue (`accepts_sights`), as long as lengths fit into 64 bits.
-/

namespace WebSocket.Queueing

-- ---------------------------------------------------------------------------
-- The reference queue
-- ---------------------------------------------------------------------------

structure Reference where
  bytes : List UInt8
  capacity : Nat
  /-- What has been written at the start of the free region and not been committed. -/
  written : List UInt8

/-- A capacity that has made room for `required` bytes: it does not shrink, and does not
change when there is room already. -/
structure Grows (capacity required capacity' : Nat) : Prop where
  le : capacity ≤ capacity'
  room : required ≤ capacity'
  eq_of_le : required ≤ capacity → capacity' = capacity

/-- What an operation answers, and what it makes of the reference queue. Bytes that are
committed without having been written may be any. -/
inductive Serves : Reference → Op → Answer → Reference → Prop
  | append {r bytes capacity} (h : Grows r.capacity (r.bytes.length + bytes.length) capacity) :
      Serves r (.append bytes) .done ⟨r.bytes ++ bytes, capacity, r.written.drop bytes.length⟩
  | consume {r n} :
      Serves r (.consume n) .done ⟨r.bytes.drop (min n r.bytes.length), r.capacity, []⟩
  | reserve {r n bytes capacity} (h : Grows r.capacity (r.bytes.length + n) capacity) :
      Serves r (.reserve n bytes) (.region n)
        ⟨r.bytes, capacity, bytes.take n ++ r.written.drop (bytes.take n).length⟩
  | commit {r n stale} (h : r.bytes.length + n.toNat ≤ r.capacity)
      (hl : (r.written.take n.toNat ++ stale).length = n.toNat) :
      Serves r (.commit n) .done
        ⟨r.bytes ++ (r.written.take n.toNat ++ stale), r.capacity, r.written.drop n.toNat⟩
  | overcommit {r n} (h : r.capacity < r.bytes.length + n.toNat) :
      Serves r (.commit n) .refused r
  | clear {r} : Serves r .clear .done ⟨[], r.capacity, []⟩
  | write {r start bytes} (h : start + bytes.length ≤ r.bytes.length) :
      Serves r (.write start bytes) .done { r with
        bytes := r.bytes.take start ++ bytes ++ r.bytes.drop (start + bytes.length) }
  | misplaced {r start bytes} (h : r.bytes.length < start + bytes.length) :
      Serves r (.write start bytes) .refused r
  | encode {r opcode payload mask capacity}
      (h : Grows r.capacity (r.bytes.length + (Frame.encode opcode payload mask).length) capacity) :
      Serves r (.encode opcode payload mask) .done
        ⟨r.bytes ++ Frame.encode opcode payload mask, capacity,
          r.written.drop (Frame.encode opcode payload mask).length⟩

def held (bank : List Reference) : List (List UInt8 × Nat) :=
  bank.map fun r => (r.bytes, r.capacity)

/-- What events may show of a bank of reference queues. An operation changes the queue that
it is about and no other. -/
inductive Accepts : List Reference → List Event → List Sight → Prop
  | nil {bank} : Accepts bank [] []
  | call {bank i op r answer r' events sights} (hi : bank[i]? = some r) (h : Serves r op answer r')
      (t : Accepts (bank.set i r') events sights) :
      Accepts bank (.call i op :: events) (⟨some answer, held (bank.set i r')⟩ :: sights)
  | clone {bank i r events sights} (hi : bank[i]? = some r)
      (t : Accepts (bank ++ [r]) events sights) :
      Accepts bank (.clone i :: events) (⟨some .done, held (bank ++ [r])⟩ :: sights)
  | absent {bank event events sights} (hi : bank[event.index]? = none)
      (t : Accepts bank events sights) :
      Accepts bank (event :: events) (⟨none, held bank⟩ :: sights)

-- ---------------------------------------------------------------------------
-- Lengths in 64 bits
-- ---------------------------------------------------------------------------

def Op.Fits (length : Nat) : Op → Prop
  | .reserve n _ => length + n < UInt64.size
  | .commit n => length + n.toNat < UInt64.size
  | _ => True

def Event.Fits (bank : List ByteQueue) : Event → Prop
  | .call i op => ∀ q ∈ bank[i]?, op.Fits q.length
  | .clone _ => True

/-- Every length that these events ask for fits into 64 bits. -/
def Fits : List ByteQueue → List Event → Prop
  | _, [] => True
  | bank, event :: events => event.Fits bank ∧ Fits (queues.act bank event).2 events

instance (length : Nat) : (op : Op) → Decidable (op.Fits length)
  | .reserve .. | .commit _ => inferInstanceAs (Decidable (_ < _))
  | .append _ | .consume _ | .clear | .write .. | .encode .. => inferInstanceAs (Decidable True)

instance (bank : List ByteQueue) : (event : Event) → Decidable (event.Fits bank)
  | .call i op => inferInstanceAs (Decidable (∀ q ∈ bank[i]?, op.Fits q.length))
  | .clone _ => inferInstanceAs (Decidable True)

instance decidableFits : (bank : List ByteQueue) → (events : List Event) →
    Decidable (Fits bank events)
  | _, [] => inferInstanceAs (Decidable True)
  | bank, event :: events =>
    have := decidableFits (queues.act bank event).2 events
    inferInstanceAs (Decidable (_ ∧ _))

-- ---------------------------------------------------------------------------
-- One operation
-- ---------------------------------------------------------------------------

theorem grows_grownCapacity (capacity required : Nat) :
    Grows capacity required (ByteQueue.grownCapacity capacity required) where
  le := (ByteQueue.le_grownCapacity capacity required).1
  room := (ByteQueue.le_grownCapacity capacity required).2
  eq_of_le h := if_pos h

theorem Grows.trans {capacity capacity' capacity'' required required' : Nat}
    (h : Grows capacity required capacity') (h' : Grows capacity' required' capacity'')
    (hr : required ≤ required') : Grows capacity required' capacity'' where
  le := Nat.le_trans h.le h'.le
  room := h'.room
  eq_of_le hle := by
    have he := h.eq_of_le (Nat.le_trans hr hle)
    exact (h'.eq_of_le (he ▸ hle)).trans he

structure Stands (r : Reference) (q : ByteQueue) : Prop where
  bytes_eq : r.bytes = q.contents
  capacity_eq : r.capacity = q.capacity
  written_le : r.written <+: q.slack

theorem drop_le_drop_append {written slack : List UInt8} (h : written <+: slack)
    (fresh : List UInt8) (n : Nat) : written.drop n <+: (slack ++ fresh).drop n := by
  obtain ⟨stale, rfl⟩ := h
  rw [List.append_assoc, List.drop_append]
  exact List.prefix_append ..

namespace Stands

variable {r : Reference} {q : ByteQueue}

theorem grows_append (h : Stands r q) (bytes : List UInt8) :
    Grows r.capacity (r.bytes.length + bytes.length) (q.append bytes).capacity := by
  rw [h.capacity_eq, h.bytes_eq, ByteQueue.capacity_append]
  exact grows_grownCapacity ..

theorem append (h : Stands r q) (bytes : List UInt8) :
    Stands ⟨r.bytes ++ bytes, (q.append bytes).capacity, r.written.drop bytes.length⟩
      (q.append bytes) where
  bytes_eq := by rw [h.bytes_eq]; rfl
  capacity_eq := rfl
  written_le := drop_le_drop_append h.written_le ..

theorem commit (h : Stands r q) {n : UInt64} (hf : q.length + n.toNat < UInt64.size) :
    ∃ r', Serves r (.commit n) (queues.apply q (.commit n)).1 r' ∧
      Stands r' (queues.apply q (.commit n)).2 := by
  have hlength : r.bytes.length + n.toNat ≤ r.capacity ↔ q.length + n.toNat ≤ q.capacity := by
    rw [h.bytes_eq, h.capacity_eq, ByteQueue.length]
  simp only [queues, ByteQueue.commit?_of_fits hf]
  by_cases hle : q.length + n.toNat ≤ q.capacity
  · -- the written bytes are the first of the slack, so a commit takes them first
    obtain ⟨stale, hslack⟩ := h.written_le
    have htake : q.slack.take n.toNat =
        r.written.take n.toNat ++ stale.take (n.toNat - r.written.length) := by
      rw [← hslack, List.take_append]
    have hroom : n.toNat ≤ q.slack.length := by
      simp only [ByteQueue.length, ByteQueue.capacity] at hle
      omega
    rw [if_pos hle]
    have hcount : (r.written.take n.toNat ++ stale.take (n.toNat - r.written.length)).length =
        n.toNat := by
      rw [← htake, List.length_take_of_le hroom]
    refine ⟨_, .commit (hlength.mpr hle) hcount, ?_, ?_, ?_⟩
    · rw [h.bytes_eq, htake]
      rfl
    · rw [h.capacity_eq]
      simp only [ByteQueue.capacity, Option.map_some, orRefused_some, List.length_append,
        List.length_take_of_le hroom, List.length_drop]
      omega
    · rw [← hslack]
      simp only [Option.map_some, orRefused_some, List.drop_append]
      exact List.prefix_append ..
  · rw [if_neg hle]
    exact ⟨r, .overcommit (Nat.lt_of_not_le (mt hlength.mp hle)), h⟩

theorem write (h : Stands r q) (start : Nat) (bytes : List UInt8) :
    ∃ r', Serves r (.write start bytes) (queues.apply q (.write start bytes)).1 r' ∧
      Stands r' (queues.apply q (.write start bytes)).2 := by
  simp only [queues, ByteQueue.write?]
  by_cases hle : start + bytes.length ≤ q.contents.length
  · rw [Access.splice?_of_le hle]
    refine ⟨_, .write (h.bytes_eq ▸ hle), ?_, ?_, h.written_le⟩
    · rw [h.bytes_eq]
      rfl
    · rw [h.capacity_eq]
      simp only [ByteQueue.capacity, Option.bind_eq_bind, Option.bind_some, Option.map_some,
        orRefused_some, ByteQueue.overwrite, List.length_append, List.length_take,
        List.length_drop]
      omega
  · have hs : Access.splice? q.contents start bytes = none := if_neg hle
    rw [hs]
    exact ⟨r, .misplaced (h.bytes_eq ▸ Nat.lt_of_not_le hle), h⟩

theorem serves (h : Stands r q) {op : Op} (hf : op.Fits q.length) :
    ∃ r', Serves r op (queues.apply q op).1 r' ∧ Stands r' (queues.apply q op).2 := by
  cases op with
  | append bytes => exact ⟨_, .append (h.grows_append bytes), h.append bytes⟩
  | consume n =>
    refine ⟨_, .consume, ?_, ?_, List.nil_prefix⟩
    · simp [queues, h.bytes_eq, List.drop_eq_drop_min]
    · simp [queues, h.capacity_eq]
  | reserve n bytes =>
    have hroom := q.le_length_slack_reserve n
    have hregion : (q.spare n).length = n := List.length_take_of_le hroom
    have hfill : (bytes.take n).length ≤ (q.reserve n).slack.length :=
      Nat.le_trans (List.length_take_le ..) hroom
    simp only [queues, hregion]
    refine ⟨⟨r.bytes, (q.reserve n).capacity, _⟩, .reserve ?_, h.bytes_eq, ?_, ?_⟩
    · rw [h.capacity_eq, h.bytes_eq, ByteQueue.capacity_reserve]
      exact grows_grownCapacity ..
    · rw [ByteQueue.capacity_fillSpare]
    · rw [ByteQueue.fillSpare, List.take_of_length_le hfill]
      exact (List.prefix_append_right_inj _).mpr (drop_le_drop_append h.written_le ..)
  | commit n => exact h.commit hf
  | clear => exact ⟨_, .clear, rfl, by rw [h.capacity_eq]; simp [queues], List.nil_prefix⟩
  | write start bytes => exact h.write start bytes
  | encode opcode payload mask =>
    have hgrows := (h.grows_append
      (FrameHeader.ofPayload opcode (UInt64.ofNat payload.length) mask).encode).trans
      ((h.append _).grows_append (Frame.applyMask mask payload)) (by simp)
    have hstands := (h.append
      (FrameHeader.ofPayload opcode (UInt64.ofNat payload.length) mask).encode).append
      (Frame.applyMask mask payload)
    rw [List.length_append, Nat.add_assoc, ← List.length_append] at hgrows
    rw [List.append_assoc, List.drop_drop, ← List.length_append] at hstands
    exact ⟨_, .encode hgrows, hstands⟩

end Stands

-- ---------------------------------------------------------------------------
-- Histories
-- ---------------------------------------------------------------------------

/-- Each reference queue of a bank is the one that the queue in its place stands for. -/
structure StandsFor (refs : List Reference) (bank : List ByteQueue) : Prop where
  length_eq : refs.length = bank.length
  stands : ∀ {i : Nat} {r : Reference} {q : ByteQueue}, refs[i]? = some r →
    bank[i]? = some q → Stands r q

namespace StandsFor

variable {refs : List Reference} {bank : List ByteQueue} {r : Reference} {q : ByteQueue}

theorem exists_ref (h : StandsFor refs bank) {i : Nat} (hq : bank[i]? = some q) :
    ∃ r, refs[i]? = some r := by
  obtain ⟨hi, -⟩ := List.getElem?_eq_some_iff.mp hq
  rw [← h.length_eq] at hi
  exact ⟨refs[i], List.getElem?_eq_getElem hi⟩

theorem getElem?_eq_none (h : StandsFor refs bank) {i : Nat} (hq : bank[i]? = none) :
    refs[i]? = none := by
  rw [List.getElem?_eq_none_iff] at hq ⊢
  exact h.length_eq ▸ hq

theorem held_eq (h : StandsFor refs bank) : held refs = queues.held bank := by
  apply List.ext_getElem?
  intro i
  simp only [held, Keeper.held, List.getElem?_map]
  cases hq : bank[i]? with
  | none =>
    rw [h.getElem?_eq_none hq]
    rfl
  | some q =>
    obtain ⟨r, hr⟩ := h.exists_ref hq
    have hs := h.stands hr hq
    rw [hr]
    simp [queues, hs.bytes_eq, hs.capacity_eq]

theorem set (h : StandsFor refs bank) (hs : Stands r q) (i : Nat) :
    StandsFor (refs.set i r) (bank.set i q) where
  length_eq := by simpa using h.length_eq
  stands {j r' q'} hr hq := by
    rw [List.getElem?_set] at hr hq
    by_cases hij : i = j
    · rw [if_pos hij] at hr hq
      split at hr
      · split at hq
        · cases hr
          cases hq
          exact hs
        · cases hq
      · cases hr
    · rw [if_neg hij] at hr hq
      exact h.stands hr hq

theorem push (h : StandsFor refs bank) (hs : Stands r q) :
    StandsFor (refs ++ [r]) (bank ++ [q]) where
  length_eq := by simpa using h.length_eq
  stands {j r' q'} hr hq := by
    rw [List.getElem?_append] at hr hq
    rw [h.length_eq] at hr
    split at hr
    · next hj =>
      rw [if_pos hj] at hq
      exact h.stands hr hq
    · next hj =>
      rw [if_neg hj] at hq
      rw [List.getElem?_singleton] at hr hq
      split at hr
      · next hz =>
        rw [if_pos hz] at hq
        cases hr
        cases hq
        exact hs
      · cases hr

theorem accepts (h : StandsFor refs bank) {events : List Event} (hf : Fits bank events) :
    Accepts refs events (queues.sights bank events) := by
  -- over all banks: an event takes a bank that stands for reference queues to one that does
  induction events generalizing refs bank with
  | nil => exact .nil
  | cons event events ih =>
    obtain ⟨hevent, hevents⟩ := hf
    unfold Keeper.sights
    unfold Keeper.act at hevents ⊢
    cases hq : bank[event.index]? with
    | none =>
      have hr := h.getElem?_eq_none hq
      simp only [hq, ← h.held_eq] at hevents ⊢
      exact .absent hr (ih h hevents)
    | some q =>
      obtain ⟨r, hr⟩ := h.exists_ref hq
      simp only [hq] at hevents ⊢
      cases event with
      | call i op =>
        obtain ⟨r', hserves, hs⟩ := (h.stands hr hq).serves (hevent q hq)
        have hnext := h.set hs i
        rw [← hnext.held_eq]
        exact .call hr hserves (ih hnext hevents)
      | clone i =>
        have hnext := h.push (h.stands hr hq)
        rw [← hnext.held_eq]
        exact .clone hr (ih hnext hevents)

end StandsFor

/-- Any history of a queue and its copies is a history of the reference queue, and one of
queues in blocks of storage: after every call the bytes and the capacities are the same. What
is written into a reserved region and then committed is appended. -/
theorem accepts_sights (capacity : Nat) (events : List Event)
    (hf : Fits [.withCapacity capacity] events) :
    Accepts [⟨[], capacity, []⟩] events (queues.sights [.withCapacity capacity] events) ∧
      blocks.sights [.ofCapacity capacity] events =
        queues.sights [.withCapacity capacity] events ∧
      ∀ (q : ByteQueue) (n : Nat) (bytes : List UInt8), bytes.length ≤ n →
        q.length + n < UInt64.size →
        (((q.reserve n).fillSpare bytes).commit? (UInt64.ofNat bytes.length)).map
          ByteQueue.contents = some (q.contents ++ bytes) := by
  have hnone : StandsFor [] [] := ⟨rfl, nofun⟩
  have hstands : StandsFor [⟨[], capacity, []⟩] [.withCapacity capacity] :=
    hnone.push ⟨rfl, by simp [ByteQueue.capacity, ByteQueue.withCapacity], List.nil_prefix⟩
  have hblocks : blocks.sights [.ofCapacity capacity] events =
      queues.sights [.withCapacity capacity] events := by
    rw [← ByteQueue.storage_withCapacity]
    exact sights_blocks [.withCapacity capacity] events
  refine ⟨hstands.accepts hf, hblocks, ?_⟩
  intro q n bytes hn hsize
  have hroom : bytes.length ≤ (q.reserve n).slack.length :=
    Nat.le_trans hn (q.le_length_slack_reserve n)
  have hlength : (q.reserve n).length + bytes.length < UInt64.size :=
    Nat.lt_of_le_of_lt (Nat.add_le_add_left hn _) hsize
  rw [ByteQueue.commit?_fillSpare hroom hlength]
  rfl

def twoQueues : List Event :=
  [.call 0 (.append [1, 2, 3]), .call 0 (.reserve 4 [5, 6]), .call 0 (.commit 2), .clone 0,
    .call 0 (.consume 4), .call 0 (.commit 2), .call 1 (.write 1 [9]),
    .call 1 (.encode .ping [7] (some ⟨1, 2, 3, 4⟩)), .call 1 (.commit 100), .call 0 .clear]

theorem accepts_twoQueues :
    Fits [.withCapacity 4] twoQueues ∧
      Accepts [⟨[], 4, []⟩] twoQueues
        [⟨some .done, [([1, 2, 3], 4)]⟩,
          ⟨some (.region 4), [([1, 2, 3], 8)]⟩,
          ⟨some .done, [([1, 2, 3, 5, 6], 8)]⟩,
          ⟨some .done, [([1, 2, 3, 5, 6], 8), ([1, 2, 3, 5, 6], 8)]⟩,
          ⟨some .done, [([6], 8), ([1, 2, 3, 5, 6], 8)]⟩,
          ⟨some .done, [([6, 2, 3], 8), ([1, 2, 3, 5, 6], 8)]⟩,
          ⟨some .done, [([6, 2, 3], 8), ([1, 9, 3, 5, 6], 8)]⟩,
          ⟨some .done, [([6, 2, 3], 8), ([1, 9, 3, 5, 6, 0x89, 0x81, 1, 2, 3, 4, 6], 16)]⟩,
          ⟨some .refused, [([6, 2, 3], 8), ([1, 9, 3, 5, 6, 0x89, 0x81, 1, 2, 3, 4, 6], 16)]⟩,
          ⟨some .done, [([], 8), ([1, 9, 3, 5, 6, 0x89, 0x81, 1, 2, 3, 4, 6], 16)]⟩] := by
  have hf : Fits [.withCapacity 4] twoQueues := by decide
  exact ⟨hf, (accepts_sights 4 twoQueues hf).1⟩

end WebSocket.Queueing
