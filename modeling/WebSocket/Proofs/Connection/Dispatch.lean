import WebSocket.Connection.Run
import WebSocket.Proofs.Reassembly
import WebSocket.Proofs.Wire.Decoding

/-!
# Dispatch frame by frame

Dispatch acts on one frame after another (`handleFrames_handles`). What it
queues and what it leaves is told by a scan of the inbound bytes alone: one
frame is taken off the scan by each move (`FrameMove.scan_eq`), a violation
ends it (`Breach.scan_eq`), and an open connection queues the `replies` to what
the scan finds (`Handles.outgoing`).
-/

namespace WebSocket

-- ---------------------------------------------------------------------------
-- Events
-- ---------------------------------------------------------------------------

/-- A frame that a connection queues, before it is masked. -/
inductive Outgoing
  | frame (opcode : Opcode) (payload : List UInt8)
  | close
deriving DecidableEq, Repr

inductive Event
  | queued (out : Outgoing)
  | handed (message : Message)
deriving DecidableEq, Repr

namespace Event

def queued? : Event → Option Outgoing
  | .queued out => some out
  | .handed _ => none

def handed? : Event → Option Message
  | .queued _ => none
  | .handed message => some message

def outgoing (events : List Event) : List Outgoing := events.filterMap queued?

def messages (events : List Event) : List Message := events.filterMap handed?

@[simp] theorem outgoing_nil : outgoing [] = [] := rfl

@[simp] theorem messages_nil : messages [] = [] := rfl

@[simp] theorem outgoing_append (first second : List Event) :
    outgoing (first ++ second) = outgoing first ++ outgoing second :=
  List.filterMap_append

@[simp] theorem messages_append (first second : List Event) :
    messages (first ++ second) = messages first ++ messages second :=
  List.filterMap_append

@[simp] theorem outgoing_queued (out : Outgoing) : outgoing [.queued out] = [out] := rfl

@[simp] theorem outgoing_map_handed (ms : List Message) : outgoing (ms.map .handed) = [] := by
  induction ms with
  | nil => rfl
  | cons m ms ih => exact ih

@[simp] theorem messages_map_handed (ms : List Message) : messages (ms.map .handed) = ms := by
  induction ms with
  | nil => rfl
  | cons m ms ih => exact congrArg (m :: ·) ih

end Event

-- ---------------------------------------------------------------------------
-- Replies
-- ---------------------------------------------------------------------------

def pong? (p : Wire.Piece) : Option Outgoing :=
  if p.opcode = .ping then some (.frame .pong p.payload) else none

/-- What an open connection queues for frames and the violation behind them: a
pong for each ping before the first close frame, and its own close frame if
there is a close frame or a violation. -/
def replies (pieces : List Wire.Piece) (violation : Option Error) : List Outgoing :=
  (pieces.takeWhile (·.opcode != .close)).filterMap pong? ++
    if pieces.any (·.opcode == .close) || violation.isSome then [.close] else []

section
variable {p : Wire.Piece} (pieces : List Wire.Piece) (violation : Option Error)

theorem replies_close (ho : p.opcode = .close) : replies (p :: pieces) violation = [.close] := by
  simp [replies, ho]

theorem replies_ping (ho : p.opcode = .ping) :
    replies (p :: pieces) violation = .frame .pong p.payload :: replies pieces violation := by
  simp [replies, ho, pong?]

theorem replies_other (hc : p.opcode ≠ .close) (hp : p.opcode ≠ .ping) :
    replies (p :: pieces) violation = replies pieces violation := by
  have hb : (p.opcode == .close) = false := by simpa using hc
  simp [replies, hc, hb, pong?, hp]

theorem mem_replies {out : Outgoing} (h : out ∈ replies pieces violation) :
    out = .close ∨ ∃ p ∈ pieces, out = .frame .pong p.payload := by
  rcases List.mem_append.mp h with h | h
  · obtain ⟨p, hm, hp⟩ := List.mem_filterMap.mp h
    refine .inr ⟨p, (List.takeWhile_sublist _).subset hm, ?_⟩
    unfold pong? at hp
    split at hp
    · exact (Option.some.inj hp).symm
    · cases hp
  · split at h
    · exact .inl (List.mem_singleton.mp h)
    · cases h

theorem close_mem_replies :
    .close ∈ replies pieces violation ↔
      (∃ p ∈ pieces, p.opcode = .close) ∨ violation.isSome = true := by
  have hpong : Outgoing.close ∉ (pieces.takeWhile (·.opcode != .close)).filterMap pong? := by
    intro h
    obtain ⟨p, -, hp⟩ := List.mem_filterMap.mp h
    unfold pong? at hp
    split at hp <;> cases hp
  rw [replies, List.mem_append, or_iff_right hpong]
  split
  · next h => simpa using h
  · next h => simpa using h

end

namespace Connection

variable {σ : Type}

def limits (c : Connection σ) : Wire.Limits := ⟨c.frameLimit, c.reassembler.limit⟩

-- ---------------------------------------------------------------------------
-- Fields
-- ---------------------------------------------------------------------------

section
variable (c : Connection σ) (opcode : Opcode) (payload : List UInt8) (e : Error)

@[simp] theorem stream_queueFrame : (c.queueFrame opcode payload).stream = c.stream := by
  unfold queueFrame
  split <;> rfl

@[simp] theorem state_queueFrame : (c.queueFrame opcode payload).state = c.state := by
  unfold queueFrame
  split <;> rfl

@[simp] theorem inbound_queueFrame : (c.queueFrame opcode payload).inbound = c.inbound := by
  unfold queueFrame
  split <;> rfl

@[simp] theorem reassembler_queueFrame :
    (c.queueFrame opcode payload).reassembler = c.reassembler := by
  unfold queueFrame
  split <;> rfl

@[simp] theorem limits_queueFrame : (c.queueFrame opcode payload).limits = c.limits := by
  unfold queueFrame
  split <;> rfl

@[simp] theorem lastError_queueFrame : (c.queueFrame opcode payload).lastError = c.lastError := by
  unfold queueFrame
  split <;> rfl

@[simp] theorem discarding_queueFrame :
    (c.queueFrame opcode payload).discarding = c.discarding := by
  unfold queueFrame
  split <;> rfl

@[simp] theorem stream_close : c.close.stream = c.stream := by
  unfold close
  split <;> rfl

@[simp] theorem state_close :
    c.close.state = if c.state = .open then .closing else c.state := by
  unfold close
  split <;> rfl

@[simp] theorem inbound_close : c.close.inbound = c.inbound := by
  unfold close
  split <;> rfl

@[simp] theorem reassembler_close : c.close.reassembler = c.reassembler := by
  unfold close
  split <;> rfl

@[simp] theorem limits_close : c.close.limits = c.limits := by
  unfold close
  split <;> rfl

@[simp] theorem lastError_close : c.close.lastError = c.lastError := by
  unfold close
  split <;> rfl

@[simp] theorem discarding_close : c.close.discarding = c.discarding := by
  unfold close
  split <;> rfl

@[simp] theorem stream_violate : (c.violate e).stream = c.stream := by
  simp [violate]

@[simp] theorem limits_violate : (c.violate e).limits = c.limits := by
  simp [violate]
  rfl

@[simp] theorem state_violate :
    (c.violate e).state = if c.state = .open then .closing else c.state := by
  simp [violate]

@[simp] theorem lastError_violate : (c.violate e).lastError = some e := by
  simp [violate]

@[simp] theorem discarding_violate : (c.violate e).discarding = true := by
  simp [violate]

end

-- ---------------------------------------------------------------------------
-- Moves
-- ---------------------------------------------------------------------------

def closing (c : Connection σ) : List Event := if c.state = .open then [.queued .close] else []

inductive FrameMove (c : Connection σ) (p : Wire.Piece) : List Event → Connection σ → Prop
  | take {q m r} (hr : Wire.read c.frameLimit c.inbound.contents = .piece p q.contents)
      (hd : p.opcode.isData = true)
      (hp : c.reassembler.push p.opcode p.fin p.payload = (.ok m, r)) :
      FrameMove c p (m.toList.map .handed) { c with inbound := q, reassembler := r }
  | answer {q} (hr : Wire.read c.frameLimit c.inbound.contents = .piece p q.contents)
      (ho : p.opcode = .ping) (hs : c.state = .open) :
      FrameMove c p [.queued (.frame .pong p.payload)]
        ({ c with inbound := q }.queueFrame .pong p.payload)
  | ignore {q} (hr : Wire.read c.frameLimit c.inbound.contents = .piece p q.contents)
      (ho : p.opcode = .pong ∨ p.opcode = .ping ∧ c.state ≠ .open) :
      FrameMove c p [] { c with inbound := q }
  | close {q} (hr : Wire.read c.frameLimit c.inbound.contents = .piece p q.contents)
      (ho : p.opcode = .close) : FrameMove c p c.closing { c with inbound := q }.close

inductive Breach (c : Connection σ) : List Event → Connection σ → Prop
  | refuse {e} (hr : Wire.read c.frameLimit c.inbound.contents = .refused e) :
      Breach c c.closing (c.violate e)
  | overflow {p rest q r e} (hr : Wire.read c.frameLimit c.inbound.contents = .piece p rest)
      (hd : p.opcode.isData = true)
      (hp : c.reassembler.push p.opcode p.fin p.payload = (.error e, r)) :
      Breach c c.closing ({ c with inbound := q, reassembler := r }.violate e)

/-- Frames acted on until none is complete or one violates the protocol. -/
inductive Handles : Connection σ → List Event → Connection σ → Prop
  | done {c} (h : Wire.read c.frameLimit c.inbound.contents = .incomplete) : Handles c [] c
  | breach {c d events} (h : Breach c events d) : Handles c events d
  | next {c d e p first later} (h : FrameMove c p first d) (t : Handles d later e) :
      Handles c (first ++ later) e

theorem FrameMove.stream_eq {c d : Connection σ} {p : Wire.Piece} {events : List Event}
    (h : FrameMove c p events d) : d.stream = c.stream := by
  cases h with
  | take | ignore => rfl
  | answer => exact stream_queueFrame ..
  | close => exact stream_close ..

theorem FrameMove.discarding_eq {c d : Connection σ} {p : Wire.Piece} {events : List Event}
    (h : FrameMove c p events d) : d.discarding = c.discarding := by
  cases h with
  | take | ignore => rfl
  | answer => exact discarding_queueFrame ..
  | close => exact discarding_close ..

theorem FrameMove.lastError_eq {c d : Connection σ} {p : Wire.Piece} {events : List Event}
    (h : FrameMove c p events d) : d.lastError = c.lastError := by
  cases h with
  | take | ignore => rfl
  | answer => exact lastError_queueFrame ..
  | close => exact lastError_close ..

theorem Breach.stream_eq {c d : Connection σ} {events : List Event} (h : Breach c events d) :
    d.stream = c.stream := by
  cases h with
  | refuse | overflow => exact stream_violate ..

/-- What a move without an exchange does to the state: nothing, or it starts
closing and queues the close frame. -/
inductive Turns (c : Connection σ) (events : List Event) (d : Connection σ) : Prop
  | stays (hs : d.state = c.state)
  | closes (hc : c.state = .open) (hd : d.state = .closing) (he : .close ∈ Event.outgoing events)

section
variable {c d : Connection σ} {p : Wire.Piece} {events : List Event}

theorem turns_closing (hs : d.state = c.close.state) : Turns c c.closing d := by
  rw [state_close] at hs
  split at hs
  · next hc =>
    rw [closing, if_pos hc]
    exact .closes hc hs (.head _)
  · exact .stays hs

theorem FrameMove.turns (h : FrameMove c p events d) : Turns c events d := by
  cases h with
  | take | ignore => exact .stays rfl
  | answer => exact .stays (state_queueFrame ..)
  | close => exact turns_closing (by simp)

theorem Breach.turns (h : Breach c events d) : Turns c events d := by
  cases h with
  | refuse | overflow => exact turns_closing (by simp)

theorem Turns.state_le (h : Turns c events d) : c.state ≤ d.state := by
  cases h with
  | stays hs => rw [hs]; exact Nat.le_refl _
  | closes hc hd => rw [hc, hd]; decide

theorem Turns.state_closed (h : Turns c events d) : d.state = .closed ↔ c.state = .closed := by
  cases h with
  | stays hs => rw [hs]
  | closes hc hd => rw [hc, hd]; decide

end

@[simp] theorem messages_closing (c : Connection σ) : Event.messages c.closing = [] := by
  unfold closing
  split <;> rfl

-- ---------------------------------------------------------------------------
-- The loop
-- ---------------------------------------------------------------------------

section

theorem queueFrame_with_inbound (c : Connection σ) (q rest : ByteQueue) (opcode : Opcode)
    (payload : List UInt8) :
    { { c with inbound := q }.queueFrame opcode payload with inbound := rest } =
      { c with inbound := rest }.queueFrame opcode payload := by
  unfold queueFrame
  split <;> rfl

theorem close_with_inbound (c : Connection σ) (q rest : ByteQueue) :
    { { c with inbound := q }.close with inbound := rest } = { c with inbound := rest }.close := by
  unfold close
  split <;> rfl

variable {c d : Connection σ} {f : Frame} {p : Wire.Piece} {q rest : ByteQueue}

theorem frameMove_of_handle {m : Option Message}
    (hr : Wire.read c.frameLimit c.inbound.contents = .piece p rest.contents)
    (hf : f.header.fin = p.fin) (ho : f.header.opcode = p.opcode) (hp : f.payload = p.payload)
    (h : { c with inbound := q }.handle f = (.ok m, d)) :
    ∃ events, FrameMove c p events { d with inbound := rest } ∧
      Event.messages events = m.toList := by
  have hdata (hd : p.opcode.isData = true)
      (h : ((c.reassembler.push p.opcode p.fin p.payload).1, { c with
        inbound := q
        reassembler := (c.reassembler.push p.opcode p.fin p.payload).2 }) = (.ok m, d)) :
      ∃ events, FrameMove c p events { d with inbound := rest } ∧
        Event.messages events = m.toList := by
    obtain ⟨hm, rfl⟩ := Prod.mk.inj h
    exact ⟨_, .take hr hd (Prod.ext hm rfl), Event.messages_map_handed _⟩
  unfold handle at h
  rw [ho, hf, hp] at h
  split at h
  · next ho => exact hdata (by rw [ho]; rfl) (ho ▸ h)
  · next ho => exact hdata (by rw [ho]; rfl) (ho ▸ h)
  · next ho => exact hdata (by rw [ho]; rfl) (ho ▸ h)
  · next ho =>
    cases h
    split
    · next hs =>
      rw [queueFrame_with_inbound]
      exact ⟨_, .answer hr ho hs, rfl⟩
    · next hs => exact ⟨_, .ignore hr (.inr ⟨ho, hs⟩), rfl⟩
  · next ho =>
    cases h
    exact ⟨_, .ignore hr (.inl ho), rfl⟩
  · next ho =>
    cases h
    rw [close_with_inbound]
    exact ⟨_, .close hr ho, messages_closing c⟩

theorem breach_of_handle {bytes : List UInt8} {e : Error}
    (hr : Wire.read c.frameLimit c.inbound.contents = .piece p bytes)
    (hf : f.header.fin = p.fin) (ho : f.header.opcode = p.opcode) (hp : f.payload = p.payload)
    (h : { c with inbound := q }.handle f = (.error e, d)) :
    Breach c c.closing (d.violate e) := by
  have hdata (hd : p.opcode.isData = true)
      (h : ((c.reassembler.push p.opcode p.fin p.payload).1, { c with
        inbound := q
        reassembler := (c.reassembler.push p.opcode p.fin p.payload).2 }) = (.error e, d)) :
      Breach c c.closing (d.violate e) := by
    obtain ⟨hm, rfl⟩ := Prod.mk.inj h
    exact .overflow hr hd (Prod.ext hm rfl)
  unfold handle at h
  rw [ho, hf, hp] at h
  split at h
  · next ho => exact hdata (by rw [ho]; rfl) (ho ▸ h)
  · next ho => exact hdata (by rw [ho]; rfl) (ho ▸ h)
  · next ho => exact hdata (by rw [ho]; rfl) (ho ▸ h)
  all_goals cases h

end

theorem handleFrames_handles (c : Connection σ) :
    ∃ events, Handles c events c.handleFrames.2 ∧ Event.messages events = c.handleFrames.1 := by
  fun_induction handleFrames c with
  | case1 c e buffer h =>
    exact ⟨_, .breach (.refuse (Frame.read_of_decode_error h)), messages_closing c⟩
  | case2 c buffer h => exact ⟨_, .done (Frame.read_of_decode_none h), rfl⟩
  | case3 c header buffer h e d hh =>
    obtain ⟨p, hr, hf, ho, hp⟩ := Frame.read_of_decode_some h
    exact ⟨_, .breach (breach_of_handle hr hf ho hp hh), messages_closing c⟩
  | case4 c header buffer h message next hh messages d hn ih =>
    obtain ⟨p, hr, hf, ho, hp⟩ := Frame.read_of_decode_some h
    have hi := inbound_handle { c with inbound := c.inbound.overwrite buffer }
      ⟨header, header.payload buffer⟩
    rw [hh] at hi
    -- the frame is still in the buffer while it is acted on; a move takes it off first
    have hrest : (next.inbound.consume header.frameLength).contents =
        buffer.drop header.frameLength := by
      rw [ByteQueue.contents_consume, hi, ByteQueue.contents_overwrite]
    obtain ⟨first, hm, hfirst⟩ := frameMove_of_handle (hrest ▸ hr) hf ho hp hh
    obtain ⟨later, ht, hlater⟩ := ih
    rw [hn] at ht hlater
    exact ⟨_, .next hm ht, by rw [Event.messages_append, hfirst, hlater]⟩

theorem dispatch_handles {c : Connection σ} (hd : c.discarding = false) :
    ∃ events, Handles c events c.dispatch.2 ∧ Event.messages events = c.dispatch.1 := by
  unfold dispatch
  rw [if_neg (by simp [hd])]
  exact handleFrames_handles c

theorem dispatch_discarding {c : Connection σ} (hd : c.discarding = true) :
    c.dispatch = ([], c) := by
  unfold dispatch
  rw [if_pos hd]

-- ---------------------------------------------------------------------------
-- Moves and scans
-- ---------------------------------------------------------------------------

section
variable {c d : Connection σ} {p : Wire.Piece} {events : List Event}

theorem FrameMove.scan_eq (h : FrameMove c p events d) (more : List UInt8) :
    Wire.scan c.limits c.reassembler.buffered (c.inbound.contents ++ more) =
      let left := Wire.scan d.limits d.reassembler.buffered (d.inbound.contents ++ more)
      (p :: left.1, left.2) := by
  have control {q : ByteQueue} (hd : p.opcode.isData = false)
      (hr : Wire.read c.frameLimit c.inbound.contents = .piece p q.contents) :
      Wire.scan c.limits c.reassembler.buffered (c.inbound.contents ++ more) =
        let left := Wire.scan c.limits c.reassembler.buffered (q.contents ++ more)
        (p :: left.1, left.2) := by
    have ho : ¬p.overflows c.limits c.reassembler.buffered := by simp [Wire.Piece.overflows, hd]
    rw [Wire.scan_piece (Wire.read_append_piece hr more) ho]
    simp [Wire.Piece.gather, hd]
  cases h with
  | take hr hd hp =>
    have ho := Reassembler.not_overflows_of_push (rfl : c.limits.message = _) hp
    rw [Wire.scan_piece (Wire.read_append_piece hr more) ho, ← Reassembler.buffered_of_push hd hp]
    simp [limits, Reassembler.limit_of_push hp]
  | answer hr ho =>
    rw [limits_queueFrame, reassembler_queueFrame, inbound_queueFrame]
    exact control (by rw [ho]; rfl) hr
  | ignore hr ho =>
    refine control ?_ hr
    rcases ho with ho | ⟨ho, -⟩ <;> rw [ho] <;> rfl
  | close hr ho =>
    rw [limits_close, reassembler_close, inbound_close]
    exact control (by rw [ho]; rfl) hr

theorem Breach.scan_eq (h : Breach c events d) (more : List UInt8) :
    ∃ e, Wire.scan c.limits c.reassembler.buffered (c.inbound.contents ++ more) = ([], some e) ∧
      d.lastError = some e := by
  cases h with
  | @refuse e hr =>
    exact ⟨e, Wire.scan_refused (Wire.read_append_refused hr more), lastError_violate ..⟩
  | overflow hr hd hp =>
    obtain ⟨ho, rfl⟩ := Reassembler.overflows_of_push (rfl : c.limits.message = _) hd hp
    exact ⟨_, Wire.scan_overflow (Wire.read_append_piece hr more) ho, lastError_violate ..⟩

theorem scan_inbound_of_incomplete
    (h : Wire.read c.frameLimit c.inbound.contents = .incomplete) :
    Wire.scan c.limits c.reassembler.buffered c.inbound.contents = ([], none) :=
  Wire.scan_incomplete h

theorem FrameMove.scan_inbound (h : FrameMove c p events d) :
    Wire.scan c.limits c.reassembler.buffered c.inbound.contents =
      let left := Wire.scan d.limits d.reassembler.buffered d.inbound.contents
      (p :: left.1, left.2) := by
  simpa only [List.append_nil] using h.scan_eq []

theorem Breach.scan_inbound (h : Breach c events d) :
    ∃ e, Wire.scan c.limits c.reassembler.buffered c.inbound.contents = ([], some e) ∧
      d.lastError = some e := by
  simpa only [List.append_nil] using h.scan_eq []

theorem outgoing_closing (c : Connection σ) :
    Event.outgoing c.closing = if c.state = .open then [.close] else [] := by
  unfold closing
  split <;> rfl

theorem Handles.stream_eq (h : Handles c events d) : d.stream = c.stream := by
  induction h with
  | done => rfl
  | breach h => exact h.stream_eq
  | next h _ ih => exact ih.trans h.stream_eq

theorem stream_dispatch (c : Connection σ) : c.dispatch.2.stream = c.stream := by
  cases hd : c.discarding with
  | false =>
    obtain ⟨_, h, -⟩ := dispatch_handles hd
    exact h.stream_eq
  | true => rw [dispatch_discarding hd]

theorem FrameMove.replies_eq (h : FrameMove c p events d) (pieces : List Wire.Piece)
    (violation : Option Error) :
    (if c.state = .open then replies (p :: pieces) violation else []) =
      Event.outgoing events ++ if d.state = .open then replies pieces violation else [] := by
  cases h with
  | take hr hd hp =>
    have hc : p.opcode ≠ .close := fun ho => absurd (ho ▸ hd) (by decide)
    have hp : p.opcode ≠ .ping := fun ho => absurd (ho ▸ hd) (by decide)
    simp [replies_other pieces violation hc hp]
  | answer hr ho hs => simp [hs, replies_ping pieces violation ho]
  | ignore hr ho =>
    rcases ho with ho | ⟨-, hs⟩
    · simp [replies_other pieces violation (p := p) (by rw [ho]; nofun) (by rw [ho]; nofun)]
    · simp [hs]
  | close hr ho =>
    rw [replies_close pieces violation ho, outgoing_closing, state_close]
    by_cases hs : c.state = .open <;> simp [hs]

theorem Handles.outgoing (h : Handles c events d) :
    Event.outgoing events =
      let found := Wire.scan c.limits c.reassembler.buffered c.inbound.contents
      if c.state = .open then replies found.1 found.2 else [] := by
  induction h with
  | done h => simp [scan_inbound_of_incomplete h, replies]
  | breach h =>
    obtain ⟨e, hs, -⟩ := h.scan_inbound
    rw [hs]
    cases h <;> simp [outgoing_closing, replies]
  | next h _ ih => simp only [h.scan_inbound, h.replies_eq, Event.outgoing_append, ih]

end

end Connection

end WebSocket
