import WebSocket.Message.Reassembler
import WebSocket.Proofs.Wire

/-!
# Reassembly gathers frames

`Reassembler.push` has three outcomes (`pushed_of_push`). A reassembler that holds
some frames of a message (`Holds`) completes the message that those frames and
the final one make up, or holds one frame more.
-/

namespace WebSocket.Reassembler

open Wire (Piece)

inductive Pushed (r : Reassembler) (opcode : Opcode) (fin : Bool) (payload : List UInt8) :
    Except Error (Option Message) → Reassembler → Prop
  | overflow (hl : r.limit < r.buffered + payload.length) :
      Pushed r opcode fin payload (.error (.messageTooLarge (r.buffered + payload.length))) r.reset
  | complete {r'} (hl : r.buffered + payload.length ≤ r.limit) (hf : fin = true)
      (hk : r'.kind = none) (hb : r'.buffer.contents = []) (hr : r'.limit = r.limit) :
      Pushed r opcode fin payload
        (.ok (some ⟨r.kind.getD (.ofOpcode opcode), r.buffer.contents ++ payload⟩)) r'
  | more {r'} (hl : r.buffered + payload.length ≤ r.limit) (hf : fin = false)
      (hk : r'.kind = some (r.kind.getD (.ofOpcode opcode)))
      (hb : r'.buffer.contents = r.buffer.contents ++ payload) (hr : r'.limit = r.limit) :
      Pushed r opcode fin payload (.ok none) r'

variable {r r' : Reassembler}

theorem pushed_of_push {opcode : Opcode} {fin : Bool} {payload : List UInt8}
    {answer : Except Error (Option Message)} (h : r.push opcode fin payload = (answer, r')) :
    Pushed r opcode fin payload answer r' := by
  unfold push at h
  dsimp only at h
  split at h
  · next hl =>
    cases h
    exact .overflow hl
  · next hl =>
    have hl : r.buffered + payload.length ≤ r.limit := Nat.not_lt.mp hl
    split at h
    · next he =>
      obtain ⟨hf, he⟩ := Bool.and_eq_true_iff.mp he
      have he : r.buffer.contents = [] := by simpa [ByteQueue.isEmpty] using he
      cases h
      have hc : Pushed r opcode fin payload
          (.ok (some ⟨r.kind.getD (.ofOpcode opcode), r.buffer.contents ++ payload⟩))
          { r with kind := none } := .complete hl hf rfl he rfl
      rwa [he, List.nil_append] at hc
    · split at h
      · next hf =>
        cases h
        exact .complete hl hf rfl rfl rfl
      · next hf =>
        cases h
        exact .more hl (by simpa using hf) rfl rfl rfl

-- ---------------------------------------------------------------------------
-- The frames in flight
-- ---------------------------------------------------------------------------

/-- The message in flight has these frames so far. -/
structure Holds (r : Reassembler) (parts : List Piece) : Prop where
  kind : r.kind = parts.head?.map fun p => .ofOpcode p.opcode
  contents : r.buffer.contents = parts.flatMap Piece.payload

theorem holds_nil (hk : r.kind = none) (hb : r.buffer.contents = []) : r.Holds [] := ⟨hk, hb⟩

namespace Holds

variable {parts : List Piece} {p : Piece}

theorem kind_append (h : r.Holds parts) (p : Piece) :
    some (r.kind.getD (.ofOpcode p.opcode)) =
      (parts ++ [p]).head?.map fun p => MessageKind.ofOpcode p.opcode := by
  rw [h.kind]
  cases parts <;> rfl

theorem joined_append (h : r.Holds parts) (p : Piece) :
    Wire.joined (parts ++ [p]) =
      ⟨r.kind.getD (.ofOpcode p.opcode), r.buffer.contents ++ p.payload⟩ := by
  have hk (q : Piece) : (if q.opcode = .text then MessageKind.text else .binary) =
      .ofOpcode q.opcode := by
    cases q.opcode <;> rfl
  unfold Wire.joined
  rw [h.contents, h.kind, List.flatMap_append]
  cases parts <;> simp [hk]

theorem pushed (h : r.Holds parts) {m : Option Message}
    (hp : Pushed r p.opcode p.fin p.payload (.ok m) r') :
    p.fin = true ∧ m = some (Wire.joined (parts ++ [p])) ∧ r'.Holds [] ∨
      p.fin = false ∧ m = none ∧ r'.Holds (parts ++ [p]) := by
  cases hp with
  | complete hl hf hk hb hr => exact .inl ⟨hf, by rw [h.joined_append], hk, hb⟩
  | more hl hf hk hb hr =>
    refine .inr ⟨hf, rfl, hk.trans (h.kind_append p), ?_⟩
    rw [hb, h.contents]
    simp

theorem push (h : r.Holds parts) {m : Option Message}
    (hp : r.push p.opcode p.fin p.payload = (.ok m, r')) :
    p.fin = true ∧ m = some (Wire.joined (parts ++ [p])) ∧ r'.Holds [] ∨
      p.fin = false ∧ m = none ∧ r'.Holds (parts ++ [p]) :=
  h.pushed (pushed_of_push hp)

end Holds

-- ---------------------------------------------------------------------------
-- The limit
-- ---------------------------------------------------------------------------

@[simp] theorem buffered_reset (r : Reassembler) : r.reset.buffered = 0 := rfl

section
variable {opcode : Opcode} {fin : Bool} {payload : List UInt8}

/-- No push makes the message in flight too long, whatever was in flight before. -/
theorem Pushed.buffered_le {answer : Except Error (Option Message)}
    (h : Pushed r opcode fin payload answer r') : r'.buffered ≤ r.limit := by
  cases h with
  | overflow => simp
  | complete hl hf hk hb hr => simp [buffered, ByteQueue.length, hb]
  | more hl hf hk hb hr =>
    rw [buffered, ByteQueue.length, hb, List.length_append]
    exact hl

theorem Pushed.length_le {m : Message} (h : Pushed r opcode fin payload (.ok (some m)) r') :
    m.bytes.length ≤ r.limit := by
  cases h with
  | complete hl =>
    rw [List.length_append]
    exact hl

end

section
variable {p : Piece}

theorem limit_of_push {opcode : Opcode} {fin : Bool} {payload : List UInt8}
    {answer : Except Error (Option Message)} (h : r.push opcode fin payload = (answer, r')) :
    r'.limit = r.limit := by
  cases pushed_of_push h with
  | overflow => rfl
  | complete _ _ _ _ hr => exact hr
  | more _ _ _ _ hr => exact hr

theorem not_overflows_of_push {limits : Wire.Limits} (hl : limits.message = r.limit)
    {m : Option Message} (h : r.push p.opcode p.fin p.payload = (.ok m, r')) :
    ¬p.overflows limits r.buffered := by
  rintro ⟨-, ho⟩
  rw [hl] at ho
  cases pushed_of_push h with
  | complete hle => omega
  | more hle => omega

theorem overflows_of_push {limits : Wire.Limits} (hl : limits.message = r.limit)
    (hd : p.opcode.isData = true) {e : Error}
    (h : r.push p.opcode p.fin p.payload = (.error e, r')) :
    p.overflows limits r.buffered ∧ e = .messageTooLarge (r.buffered + p.payload.length) := by
  cases pushed_of_push h with
  | overflow ho => exact ⟨⟨hd, hl ▸ ho⟩, rfl⟩

theorem buffered_of_push (hd : p.opcode.isData = true) {m : Option Message}
    (h : r.push p.opcode p.fin p.payload = (.ok m, r')) : r'.buffered = p.gather r.buffered := by
  unfold Piece.gather
  rw [if_pos hd]
  cases pushed_of_push h with
  | complete hl hf hk hb =>
    rw [if_pos hf, buffered, ByteQueue.length, hb]
    rfl
  | more hl hf hk hb =>
    rw [if_neg (by simp [hf]), buffered, ByteQueue.length, hb, List.length_append]
    rfl

end

end WebSocket.Reassembler
