import WebSocket.Proofs.Connection.Operations

/-!
# The invariant of a connection

Whatever an application does and whatever the stream answers, the fields of a
connection fit together between operations (`Invariant`). Every move keeps them
coherent; that a closing connection has something to write is lost between a
flush and the end of the exchange, and restored by the latter.
-/

namespace WebSocket.Connection

variable {σ : Type}

-- ---------------------------------------------------------------------------
-- The tail of the close frame
-- ---------------------------------------------------------------------------

/-- The last bytes, at most six, are the last bytes of the close frame. -/
def EndsInClose (bytes : List UInt8) : Prop :=
  bytes.drop (bytes.length - min 6 bytes.length) =
    Frame.closeFrame.drop (6 - min 6 bytes.length)

theorem drop_of_suffix {bytes whole : List UInt8} (h : bytes <:+ whole) {n : Nat}
    (hn : n ≤ bytes.length) :
    bytes.drop (bytes.length - n) = whole.drop (whole.length - n) := by
  obtain ⟨front, rfl⟩ := h
  have hf : front.length ≤ front.length + bytes.length - n := by omega
  rw [List.length_append, List.drop_append, List.drop_eq_nil_of_le hf, List.nil_append]
  congr 1
  omega

theorem endsInClose_of_suffix {bytes front : List UInt8} (h : bytes <:+ front ++ Frame.closeFrame) :
    EndsInClose bytes := by
  unfold EndsInClose
  rw [drop_of_suffix h (Nat.min_le_right ..)]
  exact (drop_of_suffix (List.suffix_append ..) (Nat.min_le_left ..)).symm

-- ---------------------------------------------------------------------------
-- Something to write
-- ---------------------------------------------------------------------------

def Pending (c : Connection σ) : Prop := c.state = .closing → c.outbound.contents ≠ []

theorem pending_of_closed {c : Connection σ} (h : c.state = .closed) : c.Pending :=
  fun hs => absurd (h.symm.trans hs) nofun

theorem pending_close {c : Connection σ} (h : c.Pending) : c.close.Pending := by
  unfold close
  split
  · exact fun _ => by simp [Frame.closeFrame]
  · exact h

theorem pending_violate {c : Connection σ} (h : c.Pending) (q : ByteQueue) (r : Reassembler)
    (e : Error) : ({ c with inbound := q, reassembler := r }.violate e).Pending :=
  pending_close h

theorem pending_queueFrame {c : Connection σ} (h : c.state = .open) (opcode : Opcode)
    (payload : List UInt8) : (c.queueFrame opcode payload).Pending := fun hs => by
  rw [state_queueFrame, h] at hs
  cases hs

theorem FrameMove.pending {c d : Connection σ} {p : Wire.Piece} {events : List Event}
    (h : FrameMove c p events d) (hc : c.Pending) : d.Pending := by
  cases h with
  | take | ignore => exact hc
  | @answer q _ _ hs => exact pending_queueFrame (c := { c with inbound := q }) hs _ _
  | @close q => exact pending_close (c := { c with inbound := q }) hc

theorem Handles.pending {c d : Connection σ} {events : List Event} (h : Handles c events d)
    (hc : c.Pending) : d.Pending := by
  induction h with
  | done => exact hc
  | @breach c d events h =>
    cases h with
    | refuse => exact pending_violate hc c.inbound c.reassembler _
    | overflow => exact pending_violate hc _ _ _
  | next h _ ih => exact ih (h.pending hc)

theorem pending_dispatch {c : Connection σ} (h : c.Pending) : c.dispatch.2.Pending := by
  cases hd : c.discarding with
  | false =>
    obtain ⟨_, hh, -⟩ := dispatch_handles hd
    exact hh.pending h
  | true =>
    rw [dispatch_discarding hd]
    exact h

theorem pending_send {c : Connection σ} (h : c.Pending) (opcode : Opcode)
    (payload : List UInt8) : (c.send opcode payload).2.Pending := by
  unfold send
  split
  · next hs => exact pending_queueFrame hs _ _
  · exact h

section
variable [Transport σ]

theorem pending_exchange (c : Connection σ) : c.exchange.Pending := by
  unfold exchange finish
  split
  · exact pending_of_closed rfl
  · next h => exact fun hs he => h ⟨hs, by simp [ByteQueue.isEmpty, he]⟩

theorem pending_poll (c : Connection σ) (timeout : Nat) (listening : Bool) :
    (c.poll timeout listening).2.Pending := by
  unfold poll
  split
  · next hs => exact pending_of_closed hs
  · split
    · exact pending_of_closed rfl
    · split
      · exact pending_dispatch (pending_exchange _)
      · exact pending_exchange _

theorem pending_apply {c : Connection σ} (h : c.Pending) (operation : Operation) :
    (c.apply operation).2.Pending := by
  cases operation with
  | sendText text => exact pending_send h .text (Utf8.encode text)
  | sendBinary data => exact pending_send h .binary data
  | sendPing => exact pending_send h .ping []
  | close => exact pending_close h
  | poll timeout listening => exact pending_poll c timeout listening

end

-- ---------------------------------------------------------------------------
-- Between operations
-- ---------------------------------------------------------------------------

/-- What holds between any two operations of an application. -/
structure Invariant (c : Connection σ) : Prop where
  started : c.state ≠ .connecting
  clean : c.state = .open → c.lastError = none ∧ c.discarding = false
  closing : c.state = .closing → c.outbound.contents ≠ [] ∧ EndsInClose c.outbound.contents
  closed : c.state = .closed → c.outbound.contents = []
  quiet : c.discarding = true → (c.state = .closing ∨ c.state = .closed) ∧
    c.inbound.contents = [] ∧ c.reassembler.kind = none ∧ c.lastError.isSome = true
  idle : c.reassembler.kind = none → c.reassembler.buffer.contents = []

theorem Coherent.invariant {c : Connection σ} (h : c.Coherent) (hp : c.Pending) :
    c.Invariant where
  started := h.started
  clean := h.clean
  closing hs := by
    obtain ⟨front, hf⟩ := h.closing hs
    exact ⟨hp hs, endsInClose_of_suffix hf⟩
  closed := h.closed
  quiet hd := by
    refine ⟨?_, h.quiet hd⟩
    cases hs : c.state with
    | connecting => exact absurd hs h.started
    | «open» => exact absurd (hd.symm.trans (h.clean hs).2) nofun
    | closing => exact .inl rfl
    | closed => exact .inr rfl
  idle := h.idle

variable [Transport σ]

theorem pending_run {c : Connection σ} (h : c.Pending) (operations : List Operation) :
    (c.run operations).2.Pending := by
  induction operations generalizing c with
  | nil => exact h
  | cons operation operations ih => exact ih (pending_apply h operation)

/-- The invariant holds after every run of an established connection, and a
closing connection that a poll leaves with nothing to write is closed by it. -/
theorem invariant_run {clock : Clock} {keys : KeySource} {s : σ} {endpoint : Endpoint}
    {config : Config} {c : Connection σ}
    (h : establish clock keys s endpoint config = .ok c) (operations : List Operation) :
    (c.run operations).2.Invariant ∧ ∀ timeout listening,
      (c.run operations).2.state = .closing →
      ((c.run operations).2.poll timeout listening).2.outbound.contents = [] →
      ((c.run operations).2.poll timeout listening).2.state = .closed := by
  have hc := (fresh_of_establish h).coherent
  have hs := (fresh_of_establish h).state_eq
  have hp : c.Pending := fun hs' => absurd (hs.symm.trans hs') nofun
  have hrun := hc.run operations
  refine ⟨hrun.invariant (pending_run hp operations), ?_⟩
  intro timeout listening hclosing hempty
  have hle := hrun.state_le_run [.poll timeout listening]
  have hinv := hrun.apply (.poll timeout listening)
  have hpend := pending_poll (c.run operations).2 timeout listening
  -- the poll does not reopen the connection, and it does not leave it closing
  rw [hclosing] at hle
  cases hs : ((c.run operations).2.poll timeout listening).2.state with
  | connecting => exact absurd hs hinv.started
  | «open» =>
    have hle : ReadyState.closing ≤ ((c.run operations).2.poll timeout listening).2.state := hle
    rw [hs] at hle
    exact absurd hle (by decide)
  | closing => exact absurd hempty (hpend hs)
  | closed => rfl

/-- A stream that takes the close frame in two pieces leaves the connection closing
after the first poll, and closed after the second. -/
theorem invariant_run_closing :
    ∃ c, scripted {} [] [.accept 2, .block] = .ok c ∧
      (c.run [.close, .poll 0 true]).2.Invariant ∧
      (c.run [.close, .poll 0 true]).2.state = .closing ∧
      ((c.run [.close, .poll 0 true]).2.poll 0 true).2.state = .closed := by
  obtain ⟨c, h, hp⟩ := exists_scripted {} [] [.accept 2, .block]
    (p := fun c => (c.run [.close, .poll 0 true]).2.state = .closing ∧
      ((c.run [.close, .poll 0 true]).2.poll 0 true).2.outbound.contents = [])
    (by decide +kernel)
  obtain ⟨hs, he⟩ := of_decide_eq_true hp
  obtain ⟨hi, hclosed⟩ := invariant_run h [.close, .poll 0 true]
  exact ⟨c, h, hi, hs, hclosed 0 true hs he⟩

end WebSocket.Connection
