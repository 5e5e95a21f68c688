import WebSocket.Proofs.Bytes.Storage

/-!
# Commits at the guard

A commit moves the end of the queue inside the storage, which stays as it is. As long as
sums are checked, it succeeds exactly if the exact sum of the length and the number is
within the capacity (`commit_guarded`).

Where sums wrap, the guard does not see that. A sum that wraps is less than what is queued
already, so it passes the guard, and the commit cuts the queue.
-/

namespace WebSocket.ByteQueue

variable {q q' : ByteQueue} {n : UInt64} {stop : Nat}

/-- What a commit leaves of `q` when it ends the queue at `stop`. -/
structure Committed (q : ByteQueue) (stop : Nat) (q' : ByteQueue) : Prop where
  block_eq : q'.storage.block = q.storage.block
  length_eq : q'.length = stop
  length_le : q'.length ≤ q.capacity

theorem Committed.capacity_eq (h : Committed q stop q') : q'.capacity = q.capacity := by
  have hlength := congrArg List.length h.block_eq
  simpa [capacity] using hlength

theorem committed_of_endAt (h : q.endAt stop = .ok q') : Committed q stop q' := by
  simp only [endAt] at h
  split at h
  · next hle =>
    cases h
    have hlength : ((q.contents ++ q.slack).take stop).length = stop := by
      refine List.length_take_of_le ?_
      simpa [capacity] using hle
    refine ⟨by simp, hlength, ?_⟩
    exact Nat.le_trans (Nat.le_of_eq hlength) hle
  · cases h

theorem endAt_of_le (h : stop ≤ q.capacity) : ∃ q', q.endAt stop = .ok q' ∧ Committed q stop q' := by
  refine ⟨_, if_pos h, ?_⟩
  exact committed_of_endAt (if_pos h)

theorem committed_of_commit (h : q.commit n = .ok q') :
    Committed q (q.length + n.toNat) q' := by
  by_cases hsize : q.length + n.toNat < UInt64.size
  · rw [commit, commitBy_of_lt _ hsize] at h
    exact committed_of_endAt h
  · rw [commit_of_le (Nat.not_lt.mp hsize)] at h
    cases h

theorem commit?_eq_some_iff : q.commit? n = some q' ↔ q.commit n = .ok q' := by
  rw [commit?]
  cases q.commit n with
  | error fault => simp [Except.toOption]
  | ok q => simp [Except.toOption]

theorem commitBy_wrapping_of_le (hc : q.capacity < UInt64.size)
    (h : UInt64.size ≤ q.length + n.toNat) :
    ∃ q', q.commitBy .wrapping n = .ok q' ∧
      Committed q (q.length + n.toNat - UInt64.size) q' ∧ q'.length < q.length := by
  have hn : n.toNat < UInt64.size := n.toNat_lt_size
  have hq : q.length ≤ q.capacity := Nat.le_add_right ..
  have hcut : q.length + n.toNat - UInt64.size < q.length := by omega
  have hsum : Addition.wrapping.sum q.length n = .ok (q.length + n.toNat - UInt64.size) := by
    rw [Addition.sum, Nat.mod_eq_sub_mod h, Nat.mod_eq_of_lt (by omega)]
  obtain ⟨q', hend, hcommitted⟩ := endAt_of_le (Nat.le_trans (Nat.le_of_lt hcut) hq)
  refine ⟨q', ?_, hcommitted, ?_⟩
  · rw [commitBy_of_sum hsum, hend]
  · rw [hcommitted.length_eq]
    exact hcut

/-- As long as the capacity is a 64-bit number, a commit succeeds exactly if the exact sum is
within it, the queue then ends at that sum, and what is refused is refused for the one
reason or the other. Where sums wrap, the guard decides the same for every sum that does
not, and a commit whose sum wraps passes it and shortens the queue. -/
theorem commit_guarded (h : q.capacity < UInt64.size) (n : UInt64) :
    ((∃ q', q.commit n = .ok q') ↔ q.length + n.toNat ≤ q.capacity) ∧
      (∀ q', q.commit n = .ok q' → Committed q (q.length + n.toNat) q' ∧ q.length ≤ q'.length) ∧
      (q.commit n = .error .overflow ↔ UInt64.size ≤ q.length + n.toNat) ∧
      (q.length + n.toNat < UInt64.size → q.commitBy .wrapping n = q.commit n) ∧
      (UInt64.size ≤ q.length + n.toNat → ∃ q', q.commitBy .wrapping n = .ok q' ∧
        Committed q (q.length + n.toNat - UInt64.size) q' ∧ q'.length < q.length) := by
  have hcommit (hsize : q.length + n.toNat < UInt64.size) :
      q.commit n = q.endAt (q.length + n.toNat) := commitBy_of_lt .checked hsize
  refine ⟨⟨?_, ?_⟩, ?_, ⟨?_, commit_of_le⟩, ?_, commitBy_wrapping_of_le h⟩
  · rintro ⟨q', hq'⟩
    have hc := committed_of_commit hq'
    exact hc.length_eq ▸ hc.length_le
  · intro hle
    rw [hcommit (Nat.lt_of_le_of_lt hle h)]
    obtain ⟨q', hend, -⟩ := endAt_of_le hle
    exact ⟨q', hend⟩
  · intro q' hq'
    have hc := committed_of_commit hq'
    refine ⟨hc, ?_⟩
    rw [hc.length_eq]
    exact Nat.le_add_right ..
  · intro hfault
    refine Nat.not_lt.mp fun hsize => ?_
    rw [hcommit hsize, endAt] at hfault
    split at hfault <;> cases hfault
  · intro hsize
    rw [hcommit hsize]
    exact commitBy_of_lt .wrapping hsize

/-- Five bytes in storage for eight, and a commit of all but three of 2 ^ 64 bytes. -/
theorem commit_guarded_short :
    let q := (withCapacity 8).append [1, 2, 3, 4, 5]
    let n : UInt64 := 0xFFFFFFFFFFFFFFFD
    q.capacity < UInt64.size ∧
      ((∃ q', q.commit n = .ok q') ↔ q.length + n.toNat ≤ q.capacity) ∧
      (∀ q', q.commit n = .ok q' → Committed q (q.length + n.toNat) q' ∧ q.length ≤ q'.length) ∧
      (q.commit n = .error .overflow ↔ UInt64.size ≤ q.length + n.toNat) ∧
      (q.length + n.toNat < UInt64.size → q.commitBy .wrapping n = q.commit n) ∧
      (UInt64.size ≤ q.length + n.toNat → ∃ q', q.commitBy .wrapping n = .ok q' ∧
        Committed q (q.length + n.toNat - UInt64.size) q' ∧ q'.length < q.length) := by
  intro q n
  have h : q.capacity < UInt64.size := by decide
  exact ⟨h, commit_guarded h n⟩

/-- It goes past the capacity. The sum wraps to two, so a guard on it lets the commit pass,
and three of the five bytes are lost; a checked sum is a fault. -/
theorem commitBy_wrapping_past_capacity :
    let q := (withCapacity 8).append [1, 2, 3, 4, 5]
    let n : UInt64 := 0xFFFFFFFFFFFFFFFD
    q.capacity < q.length + n.toNat ∧
      q.commitBy .wrapping n = .ok ⟨[1, 2], [3, 4, 5, 0, 0, 0]⟩ ∧
      q.commit n = .error .overflow :=
  ⟨by decide, rfl, rfl⟩

end WebSocket.ByteQueue
