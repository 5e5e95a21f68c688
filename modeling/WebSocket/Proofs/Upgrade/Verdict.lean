import WebSocket.Proofs.Upgrade.ResponseHead
import WebSocket.Upgrade.Handshake

/-!
# The head decides

The verdict on a response is the verdict on the shortest front of it that the
reader of heads does not call incomplete (`Decides`): shorter fronts give none, and
whatever follows changes nothing (`parseWith?_take`, `parseWith?_append`).
-/

namespace WebSocket.UpgradeResponse

/-- `head` is the shortest front of a response on which the reader does not ask
for more, and it is within the size limit. -/
structure Decides (read : HeadReader) (head : List UInt8) : Prop where
  early : ∀ n < head.length, read (headerSlots (head.take n)) (head.take n) = .more
  decided : read (headerSlots head) head ≠ .more
  size_le : head.length ≤ maxHeadSize

theorem count_le_headerSlots {front buffer : List UInt8} (hp : front <+: buffer)
    (hl : front.length ≤ maxHeadSize) : front.count 0x0A ≤ headerSlots buffer := by
  have htake : front <+: buffer.take maxHeadSize := by
    rw [List.prefix_take_iff]
    exact ⟨hp, hl⟩
  exact Nat.le_trans (htake.sublist.count_le _) (Nat.le_max_left ..)

namespace Decides

variable {read : HeadReader} {head : List UInt8}

theorem read_eq (hr : HeadReader.Orderly read) (h : Decides read head) {front buffer : List UInt8}
    (hf : front <+: head) (hb : front <+: buffer) :
    read (headerSlots buffer) front = read (headerSlots front) front := by
  have hl : front.length ≤ maxHeadSize := Nat.le_trans hf.length_le h.size_le
  exact hr.roomy (count_le_headerSlots hb hl) (count_le_headerSlots List.prefix_rfl hl)

theorem rest_eq_nil (hr : HeadReader.Orderly read) (h : Decides read head) {value : ResponseHead}
    {rest : List UInt8} (hd : read (headerSlots head) head = .done value rest) : rest = [] := by
  obtain ⟨front, he, hfront⟩ := (hr.orderly _).exact hd
  have hp : front <+: head := he ▸ List.prefix_append ..
  rw [h.read_eq hr hp hp] at hfront
  -- a shorter front would have been enough
  cases rest with
  | nil => rfl
  | cons b rest =>
    have hl : front.length < head.length := by
      rw [he, List.length_append, List.length_cons]
      omega
    have hmore := h.early front.length hl
    rw [← List.prefix_iff_eq_take.mp hp, hfront] at hmore
    cases hmore

theorem parseWith?_take (h : Decides read head) {n : Nat} (hn : n < head.length) :
    parseWith? read (head.take n) = .ok none := by
  have hl : ¬maxHeadSize ≤ (head.take n).length := by
    have := h.size_le
    rw [List.length_take]
    omega
  rw [parseWith?, h.early n hn]
  exact if_neg hl

theorem parseWith?_append (hr : HeadReader.Orderly read) (h : Decides read head)
    (tail : List UInt8) : parseWith? read (head ++ tail) = parseWith? read head := by
  have hslots := h.read_eq hr List.prefix_rfl (List.prefix_append head tail)
  have hread := (hr.orderly (headerSlots (head ++ tail))).stable head tail
    (by rw [hslots]; exact h.decided)
  rw [hslots] at hread
  unfold parseWith?
  rw [hread]
  cases hd : read (headerSlots head) head with
  | more => exact absurd hd h.decided
  | bad => rfl
  | done value rest =>
    cases h.rest_eq_nil hr hd
    simp [Scan.extend, Scan.andThen]

/-- The verdict on the head: an error, or a response, and then the head is all
that has been read of it. -/
theorem parseWith?_eq (hr : HeadReader.Orderly read) (h : Decides read head) :
    (∃ e, parseWith? read head = .error e) ∨
      ∃ response, parseWith? read head = .ok (some (response, head.length)) := by
  unfold parseWith?
  cases hd : read (headerSlots head) head with
  | more => exact absurd hd h.decided
  | bad => exact .inl ⟨_, rfl⟩
  | done value rest =>
    cases h.rest_eq_nil hr hd
    dsimp only
    cases ofHead value with
    | error e => exact .inl ⟨e, rfl⟩
    | ok response => exact .inr ⟨response, rfl⟩

end Decides

end WebSocket.UpgradeResponse
