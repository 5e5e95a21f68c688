import WebSocket.Proofs.Connection.Lifecycle

/-!
# Two connections in lockstep

What a connection reads in one go does not show how it was read (`fill_eq`), and
what it does depends on its streams, its keys and its outbound bytes only through
the answers of the stream. So two connections whose streams cannot tell them
apart (`Likeness`) stay alike through every operation (`Alike.run`) and every
ending (`Alike.conclude`), and answer the same.
-/

namespace WebSocket

-- ---------------------------------------------------------------------------
-- Reading in one go
-- ---------------------------------------------------------------------------

/-- What reads bring until one of them brings nothing: the bytes, the error of the
last read, none at the end of the stream, and the stream after it. -/
structure Intake (σ : Type) where
  bytes : List UInt8
  ending : Option IoKind
  stream : σ

namespace Transport

variable {σ : Type} [Transport σ] {s s' : σ} {room : Nat}

def intake (s : σ) (room : Nat) : Intake σ :=
  match _h : recv s room with
  | (.ok [], s) => ⟨[], none, s⟩
  | (.ok (b :: bytes), s) =>
    let later := intake s room
    { later with bytes := b :: bytes ++ later.bytes }
  | (.error kind, s) => ⟨[], some kind, s⟩
termination_by supply s
decreasing_by exact supply_lt _h

theorem intake_of_end (h : recv s room = (.ok [], s')) : intake s room = ⟨[], none, s'⟩ := by
  rw [intake]
  split <;> rename_i he <;> cases h.symm.trans he
  rfl

theorem intake_of_data {b : UInt8} {bytes : List UInt8}
    (h : recv s room = (.ok (b :: bytes), s')) :
    intake s room = { intake s' room with bytes := b :: bytes ++ (intake s' room).bytes } := by
  rw [intake]
  split <;> rename_i he <;> cases h.symm.trans he
  rfl

theorem intake_of_error {kind : IoKind} (h : recv s room = (.error kind, s')) :
    intake s room = ⟨[], some kind, s'⟩ := by
  rw [intake]
  split <;> rename_i he <;> cases h.symm.trans he
  rfl

end Transport

namespace Connection

variable {σ : Type} [Transport σ]

def heed (c : Connection σ) : Option IoKind → Connection σ
  | none => c.fail .connectionClosed
  | some .wouldBlock => c
  | some kind => c.fail (.ofIo kind)

theorem heed_of_ne {kind : IoKind} (hk : kind ≠ .wouldBlock) (c : Connection σ) :
    c.heed (some kind) = c.fail (.ofIo kind) := by
  unfold heed
  split <;> simp_all

/-- A connection takes all that can be read behind its inbound bytes, or drops it,
and then heeds how the reads ended. -/
theorem fill_eq (c : Connection σ) :
    let read := Transport.intake c.stream c.readChunk
    ∃ q, q.contents =
        (if c.discarding then c.inbound.contents else c.inbound.contents ++ read.bytes) ∧
      c.fill = { c with stream := read.stream, inbound := q }.heed read.ending := by
  fun_induction fill c with
  | case1 c s h =>
    rw [Transport.intake_of_end h]
    exact ⟨c.inbound.reserve c.readChunk, by simp, rfl⟩
  | case2 c b bytes s h inbound ih =>
    obtain ⟨q, hq, he⟩ := ih
    rw [Transport.intake_of_data h]
    refine ⟨q, ?_, he⟩
    rw [hq]
    by_cases hd : c.discarding = true
    · simp [hd, inbound]
    · simp [hd, inbound]
  | case3 c s h =>
    rw [Transport.intake_of_error h]
    exact ⟨c.inbound.reserve c.readChunk, by simp, rfl⟩
  | case4 c s kind hk h =>
    rw [Transport.intake_of_error h]
    exact ⟨c.inbound.reserve c.readChunk, by simp, (heed_of_ne hk _).symm⟩

end Connection

-- ---------------------------------------------------------------------------
-- Likenesses
-- ---------------------------------------------------------------------------

/-- Which streams, sizes of a read, outbound bytes and key sources count as alike,
such that streams that are alike cannot tell them apart. -/
structure Likeness (σ τ : Type) [Transport σ] [Transport τ] where
  streams : σ → τ → Prop
  rooms : Nat → Nat → Prop
  bytes : List UInt8 → List UInt8 → Prop
  keys : KeySource → KeySource → Prop
  bytes_refl : ∀ a, bytes a a
  append : ∀ {a b a' b'}, bytes a b → bytes a' b' → bytes (a ++ a') (b ++ b')
  drop : ∀ {a b}, bytes a b → ∀ n, bytes (a.drop n) (b.drop n)
  length_eq : ∀ {a b}, bytes a b → a.length = b.length
  encode : ∀ {k l : KeySource}, keys k l → ∀ opcode payload,
    bytes (Frame.encode opcode payload (some k.next)) (Frame.encode opcode payload (some l.next))
  advance : ∀ {k l : KeySource}, keys k l → keys k.advance l.advance
  intake : ∀ {s t room room'}, streams s t → rooms room room' →
    (Transport.intake s room).bytes = (Transport.intake t room').bytes ∧
      (Transport.intake s room).ending = (Transport.intake t room').ending ∧
      streams (Transport.intake s room).stream (Transport.intake t room').stream
  send : ∀ {s t a b answer s'}, streams s t → bytes a b → Transport.send s a = (answer, s') →
    ∃ t', Transport.send t b = (answer, t') ∧ streams s' t'
  wait : ∀ {s t interest timeout answer s'}, streams s t →
    Transport.wait s interest timeout = (answer, s') →
    ∃ t', Transport.wait t interest timeout = (answer, t') ∧ streams s' t'
  idle : ∀ {s t}, streams s t → ∀ time, streams (Transport.idle s time) (Transport.idle t time)
  close : ∀ {s t}, streams s t → streams (Transport.close s) (Transport.close t)

namespace Connection

section
variable {σ τ : Type} [Transport σ] [Transport τ] {L : Likeness σ τ}

/-- Two connections that differ only in what their likeness leaves open. -/
structure Alike (L : Likeness σ τ) (c : Connection σ) (d : Connection τ) : Prop where
  stream : L.streams c.stream d.stream
  state : c.state = d.state
  useMask : c.useMask = d.useMask
  keys : L.keys c.keys d.keys
  inbound : c.inbound.contents = d.inbound.contents
  outbound : L.bytes c.outbound.contents d.outbound.contents
  reassembler : c.reassembler = d.reassembler
  frameLimit : c.frameLimit = d.frameLimit
  readChunk : L.rooms c.readChunk d.readChunk
  drainTimeout : c.drainTimeout = d.drainTimeout
  lastError : c.lastError = d.lastError
  discarding : c.discarding = d.discarding

structure Matches {α : Type} (L : Likeness σ τ) (x : α × Connection σ) (y : α × Connection τ) :
    Prop where
  answer : x.1 = y.1
  alike : Alike L x.2 y.2

end

namespace Alike

variable {σ τ : Type} [Transport σ] [Transport τ] {L : Likeness σ τ} {c : Connection σ}
  {d : Connection τ}

theorem isEmpty_outbound (h : Alike L c d) : c.outbound.isEmpty = d.outbound.isEmpty := by
  have hl := L.length_eq h.outbound
  unfold ByteQueue.isEmpty
  cases hc : c.outbound.contents <;> cases hd : d.outbound.contents <;>
    simp_all

theorem limits (h : Alike L c d) : c.limits = d.limits := by
  unfold Connection.limits
  rw [h.frameLimit, h.reassembler]

-- ---------------------------------------------------------------------------
-- Queueing and closing
-- ---------------------------------------------------------------------------

theorem queueFrame (h : Alike L c d) (opcode : Opcode) (payload : List UInt8) :
    Alike L (c.queueFrame opcode payload) (d.queueFrame opcode payload) := by
  unfold Connection.queueFrame
  by_cases hm : c.useMask = true
  · rw [if_pos hm, if_pos (h.useMask ▸ hm)]
    refine { h with keys := L.advance h.keys, outbound := ?_ }
    rw [ByteQueue.contents_appendFrame, ByteQueue.contents_appendFrame]
    exact L.append h.outbound (L.encode h.keys opcode payload)
  · rw [if_neg hm, if_neg (h.useMask ▸ hm)]
    refine { h with outbound := ?_ }
    rw [ByteQueue.contents_appendFrame, ByteQueue.contents_appendFrame]
    exact L.append h.outbound (L.bytes_refl _)

theorem send (h : Alike L c d) (opcode : Opcode) (payload : List UInt8) :
    Matches L (c.send opcode payload) (d.send opcode payload) := by
  unfold Connection.send
  by_cases hs : c.state = .open
  · rw [if_pos hs, if_pos (h.state ▸ hs)]
    exact ⟨rfl, h.queueFrame opcode payload⟩
  · rw [if_neg hs, if_neg (h.state ▸ hs)]
    exact ⟨rfl, h⟩

theorem close (h : Alike L c d) : Alike L c.close d.close := by
  unfold Connection.close
  by_cases hs : c.state = .open
  · rw [if_pos hs, if_pos (h.state ▸ hs)]
    exact { h with state := rfl, outbound := L.append h.outbound (L.bytes_refl _) }
  · rw [if_neg hs, if_neg (h.state ▸ hs)]
    exact h

theorem shutdown (h : Alike L c d) : Alike L c.shutdown d.shutdown :=
  { h with stream := L.close h.stream, state := rfl, outbound := L.bytes_refl _ }

theorem fail (h : Alike L c d) (e : Error) : Alike L (c.fail e) (d.fail e) :=
  shutdown { h with lastError := rfl }

theorem violate (h : Alike L c d) (e : Error) : Alike L (c.violate e) (d.violate e) :=
  close { h with
    inbound := rfl
    discarding := rfl
    reassembler := congrArg Reassembler.reset h.reassembler
    lastError := rfl }

-- ---------------------------------------------------------------------------
-- Dispatch
-- ---------------------------------------------------------------------------

theorem handle (h : Alike L c d) (f : Frame) : Matches L (c.handle f) (d.handle f) := by
  unfold Connection.handle
  rw [h.reassembler]
  split
  · exact ⟨rfl, { h with reassembler := rfl }⟩
  · exact ⟨rfl, { h with reassembler := rfl }⟩
  · exact ⟨rfl, { h with reassembler := rfl }⟩
  · refine ⟨rfl, ?_⟩
    by_cases hs : c.state = .open
    · rw [if_pos hs, if_pos (h.state ▸ hs)]
      exact h.queueFrame _ _
    · rw [if_neg hs, if_neg (h.state ▸ hs)]
      exact h
  · exact ⟨rfl, h⟩
  · exact ⟨rfl, h.close⟩

theorem handleFrames (h : Alike L c d) : Matches L c.handleFrames d.handleFrames := by
  have decoded {answer : Except Error (Option FrameHeader)} {buffer : List UInt8}
      {c : Connection σ} {d : Connection τ} (h : Alike L c d)
      (hc : Frame.decode c.frameLimit c.inbound.contents = (answer, buffer)) :
      Frame.decode d.frameLimit d.inbound.contents = (answer, buffer) := by
    rw [← h.frameLimit, ← h.inbound, hc]
  fun_induction Connection.handleFrames c generalizing d with
  | case1 c e buffer hc =>
    rw [Connection.handleFrames]
    split <;> rename_i he <;> cases (decoded h hc).symm.trans he
    exact ⟨rfl, h.violate e⟩
  | case2 c buffer hc =>
    rw [Connection.handleFrames]
    split <;> rename_i he <;> cases (decoded h hc).symm.trans he
    exact ⟨rfl, h⟩
  | case3 c header buffer hc e next hh =>
    have hbuffer : Alike L { c with inbound := c.inbound.overwrite buffer }
        { d with inbound := d.inbound.overwrite buffer } := { h with inbound := rfl }
    have hm := hbuffer.handle ⟨header, header.payload buffer⟩
    rw [hh] at hm
    rw [Connection.handleFrames]
    split <;> rename_i he <;> cases (decoded h hc).symm.trans he
    split <;> rename_i he <;> rw [he] at hm <;> obtain ⟨⟨⟩, hnext⟩ := hm
    exact ⟨rfl, hnext.violate e⟩
  | case4 c header buffer hc message next hh messages last hn ih =>
    have hbuffer : Alike L { c with inbound := c.inbound.overwrite buffer }
        { d with inbound := d.inbound.overwrite buffer } := { h with inbound := rfl }
    have hm := hbuffer.handle ⟨header, header.payload buffer⟩
    rw [hh] at hm
    rw [Connection.handleFrames]
    split <;> rename_i he <;> cases (decoded h hc).symm.trans he
    split <;> rename_i he <;> rw [he] at hm <;> obtain ⟨⟨⟩, hnext⟩ := hm
    rename_i next'
    have hrest : Alike L { next with inbound := next.inbound.consume header.frameLength }
        { next' with inbound := next'.inbound.consume header.frameLength } := by
      refine { hnext with inbound := ?_ }
      dsimp only
      rw [ByteQueue.contents_consume, ByteQueue.contents_consume, hnext.inbound]
    have hi := ih hrest
    rw [hn] at hi
    exact ⟨congrArg (message.toList ++ ·) hi.answer, hi.alike⟩

theorem dispatch (h : Alike L c d) : Matches L c.dispatch d.dispatch := by
  unfold Connection.dispatch
  by_cases hd : c.discarding = true
  · rw [if_pos hd, if_pos (h.discarding ▸ hd)]
    exact ⟨rfl, h⟩
  · rw [if_neg hd, if_neg (h.discarding ▸ hd)]
    exact h.handleFrames

-- ---------------------------------------------------------------------------
-- Exchange
-- ---------------------------------------------------------------------------

theorem heed (h : Alike L c d) (ending : Option IoKind) :
    Alike L (c.heed ending) (d.heed ending) := by
  unfold Connection.heed
  split
  · exact h.fail _
  · exact h
  · exact h.fail _

theorem fill (h : Alike L c d) : Alike L c.fill d.fill := by
  obtain ⟨q, hq, hc⟩ := c.fill_eq
  obtain ⟨r, hr, hd⟩ := d.fill_eq
  obtain ⟨hbytes, hending, hstream⟩ := L.intake h.stream h.readChunk
  rw [hc, hd, hending]
  refine heed (c := { c with stream := _, inbound := q })
    (d := { d with stream := _, inbound := r })
    { h with stream := hstream, inbound := ?_ } _
  dsimp only
  rw [hq, hr, hbytes, h.inbound, h.discarding]

theorem flush (h : Alike L c d) : Alike L c.flush d.flush := by
  have moved {c : Connection σ} {d : Connection τ} {s : σ} {t : τ} (h : Alike L c d)
      (hst : L.streams s t) : Alike L { c with stream := s } { d with stream := t } :=
    { h with stream := hst }
  fun_induction Connection.flush c generalizing d with
  | case1 c he =>
    rw [Connection.flush, if_pos (h.isEmpty_outbound ▸ he)]
    exact h
  | case2 c he s hs =>
    obtain ⟨t, ht, hst⟩ := L.send h.stream h.outbound hs
    rw [Connection.flush, if_neg (h.isEmpty_outbound ▸ he), ht]
    exact (moved h hst).fail _
  | case3 c he n s hs ih =>
    obtain ⟨t, ht, hst⟩ := L.send h.stream h.outbound hs
    rw [Connection.flush.eq_def d, if_neg (h.isEmpty_outbound ▸ he), ht]
    refine ih { h with stream := hst, outbound := ?_ }
    dsimp only
    rw [ByteQueue.contents_consume, ByteQueue.contents_consume]
    exact L.drop h.outbound _
  | case4 c he s hs =>
    obtain ⟨t, ht, hst⟩ := L.send h.stream h.outbound hs
    rw [Connection.flush, if_neg (h.isEmpty_outbound ▸ he), ht]
    exact moved h hst
  | case5 c he kind s hk hs =>
    obtain ⟨t, ht, hst⟩ := L.send h.stream h.outbound hs
    rw [Connection.flush, if_neg (h.isEmpty_outbound ▸ he), ht]
    split <;> rename_i heq <;> cases heq
    · contradiction
    · exact (moved h hst).fail _

theorem finish (h : Alike L c d) : Alike L c.finish d.finish := by
  unfold Connection.finish
  rw [h.isEmpty_outbound, h.state]
  split
  · exact h.shutdown
  · exact h

theorem exchange (h : Alike L c d) : Alike L c.exchange d.exchange :=
  h.fill.flush.finish

-- ---------------------------------------------------------------------------
-- Operations
-- ---------------------------------------------------------------------------

theorem waitReady (h : Alike L c d) (timeout : Nat) :
    Matches L (c.waitReady timeout) (d.waitReady timeout) := by
  unfold Connection.waitReady
  split
  · exact ⟨rfl, h⟩
  · rw [h.isEmpty_outbound]
    obtain ⟨t, ht, hst⟩ := L.wait h.stream (Prod.eta (Transport.wait c.stream
      (.forOutput !d.outbound.isEmpty) timeout)).symm
    rw [ht]
    exact ⟨rfl, { h with stream := hst }⟩

theorem dispatched? (h : Alike L c d) (operation : Operation) :
    Option.Rel (Alike L) (c.dispatched? operation) (d.dispatched? operation) := by
  unfold Connection.dispatched?
  split
  · next timeout =>
    by_cases hs : c.state = .closed
    · rw [if_pos hs, if_pos (h.state ▸ hs)]
      exact .none
    · rw [if_neg hs, if_neg (h.state ▸ hs)]
      match c.waitReady timeout, d.waitReady timeout, h.waitReady timeout with
      | (.error _, _), (_, _), ⟨rfl, _⟩ => exact .none
      | (.ok (), _), (_, _), ⟨rfl, hm⟩ => exact .some hm.exchange
  · exact .none

theorem poll (h : Alike L c d) (timeout : Nat) (listening : Bool) :
    Matches L (c.poll timeout listening) (d.poll timeout listening) := by
  unfold Connection.poll
  by_cases hs : c.state = .closed
  · rw [if_pos hs, if_pos (h.state ▸ hs)]
    exact ⟨rfl, { h with stream := L.idle h.stream timeout }⟩
  · rw [if_neg hs, if_neg (h.state ▸ hs)]
    match c.waitReady timeout, d.waitReady timeout, h.waitReady timeout with
    | (.error _, _), (_, _), ⟨rfl, hm⟩ => exact ⟨rfl, hm.fail _⟩
    | (.ok (), _), (_, _), ⟨rfl, hm⟩ =>
      cases listening with
      | true => exact hm.exchange.dispatch
      | false => exact ⟨rfl, hm.exchange⟩

theorem apply (h : Alike L c d) (operation : Operation) :
    Matches L (c.apply operation) (d.apply operation) := by
  have sent (opcode : Opcode) (payload : List UInt8) :
      Matches L ((c.send opcode payload).1.map fun _ => ([] : List Message),
          (c.send opcode payload).2)
        ((d.send opcode payload).1.map fun _ => [], (d.send opcode payload).2) :=
    have hm := h.send opcode payload
    ⟨congrArg (Except.map fun _ => []) hm.answer, hm.alike⟩
  cases operation with
  | sendText text => exact sent .text (Utf8.encode text)
  | sendBinary data => exact sent .binary data
  | sendPing => exact sent .ping []
  | close => exact ⟨rfl, h.close⟩
  | poll timeout listening =>
    have hm := h.poll timeout listening
    exact ⟨congrArg Except.ok hm.answer, hm.alike⟩

theorem run (h : Alike L c d) (operations : List Operation) :
    Matches L (c.run operations) (d.run operations) := by
  induction operations generalizing c d with
  | nil => exact ⟨rfl, h⟩
  | cons operation operations ih =>
    have hm := h.apply operation
    have hl := ih hm.alike
    refine ⟨?_, hl.alike⟩
    simp only [Connection.run]
    rw [hm.answer, hl.answer]

theorem queues (h : Alike L c d) (operation : Operation) :
    c.queues operation = d.queues operation := by
  cases operation with
  | sendText | sendBinary | sendPing | close => simp only [Connection.queues, h.state]
  | poll timeout listening =>
    simp only [Connection.queues]
    have hd := h.dispatched? (.poll timeout listening)
    generalize c.dispatched? (.poll timeout listening) = read,
      d.dispatched? (.poll timeout listening) = read' at hd ⊢
    cases hd with
    | none => rfl
    | some hr =>
      dsimp only
      rw [hr.limits, hr.reassembler, hr.inbound, hr.state]

theorem queued (h : Alike L c d) (operations : List Operation) :
    c.queued operations = d.queued operations := by
  induction operations generalizing c d with
  | nil => rfl
  | cons operation operations ih =>
    rw [Connection.queued, Connection.queued, h.queues, ih (h.apply operation).alike]

-- ---------------------------------------------------------------------------
-- Endings
-- ---------------------------------------------------------------------------

theorem drainUntil (h : Alike L c d) (deadline : Deadline) :
    Alike L (c.drainUntil deadline) (d.drainUntil deadline) := by
  fun_induction Connection.drainUntil c deadline generalizing d with
  | case1 c _ hs =>
    rw [Connection.drainUntil.eq_def d, if_pos (h.state ▸ hs)]
    exact h
  | case2 c hs =>
    rw [Connection.drainUntil.eq_def d, if_neg (h.state ▸ hs)]
    exact h.shutdown
  | case3 c hs later =>
    rw [Connection.drainUntil.eq_def d, if_neg (h.state ▸ hs)]
    exact h.shutdown
  | case4 c hs left later hl ih =>
    rw [Connection.drainUntil.eq_def d, if_neg (h.state ▸ hs)]
    dsimp only
    rw [if_neg hl]
    exact ih (h.poll drainInterval false).alike

theorem drain (h : Alike L c d) (clock : Clock) : Alike L (c.drain clock) (d.drain clock) := by
  unfold Connection.drain
  by_cases hs : c.state = .closed
  · rw [if_pos hs, if_pos (h.state ▸ hs)]
    exact h
  · rw [if_neg hs, if_neg (h.state ▸ hs), h.drainTimeout]
    exact h.close.drainUntil _

theorem conclude (h : Alike L c d) (clock later : Clock) (ending : Ending) :
    Matches L (c.conclude clock later ending) (d.conclude clock later ending) := by
  rw [conclude_eq, conclude_eq]
  have hd := h.drain clock
  cases ending with
  | release => exact ⟨hd.lastError, { hd with lastError := rfl }⟩
  | drop => exact ⟨rfl, hd⟩

end Alike

end Connection

end WebSocket
