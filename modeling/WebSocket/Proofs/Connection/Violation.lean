import WebSocket.Proofs.Connection.Inbound
import WebSocket.Proofs.Connection.Outbound

/-!
# Violations

A dispatch that finds frames and a violation behind them hands over the messages
that those frames complete and queues the replies to them. The violation itself
adds the close frame, unless one was queued before, and nothing behind it is
acted on (`breaks_dispatch`).
-/

namespace WebSocket.Connection

variable {σ : Type}

section
variable {c d : Connection σ} {p : Wire.Piece} {events : List Event}

theorem Handles.appends (h : Handles c events d) : Appends c (Event.outgoing events) d := by
  induction h with
  | done => exact .none rfl rfl rfl
  | breach h => exact h.appends
  | next h _ ih =>
    rw [Event.outgoing_append]
    exact h.appends.trans ih

theorem Handles.messages_eq {parts : List Wire.Piece} (h : Handles c events d)
    (hp : c.reassembler.Holds parts) :
    Event.messages events =
      Wire.assemble parts (Wire.scan c.limits c.reassembler.buffered c.inbound.contents).1 := by
  induction h generalizing parts with
  | done h =>
    rw [scan_inbound_of_incomplete h]
    rfl
  | breach h =>
    obtain ⟨e, hs, -⟩ := h.scan_inbound
    rw [hs, h.messages_eq]
    rfl
  | next h _ ih =>
    obtain ⟨rest, hr, he⟩ := h.holds hp
    rw [Event.messages_append, ih hr, ← he, h.scan_inbound]

theorem Turns.state_closing (h : Turns c events d) :
    (if d.state = .open then .closing else d.state) =
      if c.state = .open then ReadyState.closing else c.state := by
  cases h with
  | stays hs => rw [hs]
  | closes hc hd => simp [hc, hd]

theorem Handles.lastError_eq (h : Handles c events d) :
    d.lastError =
      (Wire.scan c.limits c.reassembler.buffered c.inbound.contents).2.or c.lastError := by
  induction h with
  | done h => rw [scan_inbound_of_incomplete h]; rfl
  | breach h =>
    obtain ⟨e, hs, he⟩ := h.scan_inbound
    rw [hs, he]
    rfl
  | next h _ ih => rw [h.scan_inbound, ih, h.lastError_eq]

theorem Handles.violated {violation : Error} (h : Handles c events d)
    (he : (Wire.scan c.limits c.reassembler.buffered c.inbound.contents).2 = some violation) :
    d.discarding = true ∧ d.state = if c.state = .open then .closing else c.state := by
  induction h with
  | done h =>
    rw [scan_inbound_of_incomplete h] at he
    cases he
  | breach h =>
    refine ⟨h.discarding_eq, ?_⟩
    cases h with
    | refuse | overflow => exact state_violate ..
  | next h _ ih =>
    rw [h.scan_inbound] at he
    obtain ⟨hd, hstate⟩ := ih he
    exact ⟨hd, hstate.trans h.turns.state_closing⟩

end

/-- The replies to frames, and the close frame that a violation adds if none of
the frames has called for it. -/
theorem replies_violation (pieces : List Wire.Piece) (e : Error) :
    replies pieces (some e) =
      replies pieces none ++ if pieces.any (·.opcode == .close) then [] else [.close] := by
  unfold replies
  by_cases h : pieces.any (·.opcode == .close) = true <;> simp [h]

/-- What the dispatch of `c` leaves that finds the frames `pieces` and, behind
them, the violation `e`. -/
structure Breaks (c : Connection σ) (pieces : List Wire.Piece) (e : Error) (messages : List Message)
    (d : Connection σ) : Prop where
  messages_eq : ∃ parts, c.reassembler.Holds parts ∧ messages = Wire.assemble parts pieces
  appends : Appends c
    (if c.state = .open then
      replies pieces none ++ if pieces.any (·.opcode == .close) then [] else [.close]
    else []) d
  state_eq : d.state = if c.state = .open then .closing else c.state
  lastError_eq : d.lastError = some e
  discarding_eq : d.discarding = true
  stream_eq : d.stream = c.stream

theorem breaks_dispatch {c : Connection σ} {parts : List Wire.Piece} {e : Error}
    (hd : c.discarding = false) (hp : c.reassembler.Holds parts)
    (he : (Wire.scan c.limits c.reassembler.buffered c.inbound.contents).2 = some e) :
    Breaks c (Wire.scan c.limits c.reassembler.buffered c.inbound.contents).1 e c.dispatch.1
      c.dispatch.2 := by
  obtain ⟨events, h, hm⟩ := dispatch_handles hd
  obtain ⟨hdiscarding, hs⟩ := h.violated he
  have hl : c.dispatch.2.lastError = some e := by
    rw [h.lastError_eq, he]
    rfl
  refine ⟨⟨parts, hp, ?_⟩, ?_, hs, hl, hdiscarding, h.stream_eq⟩
  · rw [← hm, h.messages_eq hp]
  · have ho := h.outgoing
    simp only [he, replies_violation] at ho
    rw [← ho]
    exact h.appends

end WebSocket.Connection
