import WebSocket.Proofs.Connection.Dispatch

/-!
# What a connection can do

Every operation is a sequence of small moves: one exchange with the stream,
one frame acted on, one frame queued. What each move keeps, each operation and
each run keeps (`Chain.keeps`). Moves speak of the contents of the queues only.
-/

namespace WebSocket

namespace Connection

variable {σ : Type}

-- ---------------------------------------------------------------------------
-- Chains
-- ---------------------------------------------------------------------------

/-- One transition after the other, with all their events. -/
inductive Chain (R : Connection σ → List Event → Connection σ → Prop) :
    Connection σ → List Event → Connection σ → Prop
  | nil {c} : Chain R c [] c
  | cons {c d e first later} (h : R c first d) (t : Chain R d later e) :
      Chain R c (first ++ later) e

namespace Chain

variable {R R' : Connection σ → List Event → Connection σ → Prop} {c d e : Connection σ}
  {first later : List Event}

theorem single (h : R c first d) : Chain R c first d := by
  simpa using Chain.cons h .nil

theorem trans (h : Chain R c first d) (t : Chain R d later e) : Chain R c (first ++ later) e := by
  induction h with
  | nil => exact t
  | cons h _ ih =>
    rw [List.append_assoc]
    exact .cons h (ih t)

theorem silent (h : R c [] d) (t : Chain R d later e) : Chain R c later e :=
  .cons h t

theorem mono (hr : ∀ {c events d}, R c events d → R' c events d) (h : Chain R c later d) :
    Chain R' c later d := by
  induction h with
  | nil => exact .nil
  | cons h _ ih => exact .cons (hr h) ih

theorem keeps {P : Connection σ → List Event → Prop}
    (link : ∀ {c d events past}, R c events d → P c past → P d (past ++ events))
    (h : Chain R c later d) {past : List Event} (hc : P c past) : P d (past ++ later) := by
  induction h generalizing past with
  | nil => simpa using hc
  | cons h _ ih =>
    rw [← List.append_assoc]
    exact ih (link h hc)

theorem invariant {P : Connection σ → Prop}
    (link : ∀ {c d events}, R c events d → P c → P d) (h : Chain R c later d) (hc : P c) : P d := by
  induction h with
  | nil => exact hc
  | cons h _ ih => exact ih (link h hc)

end Chain

variable [Transport σ]

-- ---------------------------------------------------------------------------
-- Moves
-- ---------------------------------------------------------------------------

/-- The ways in which a stream fails a connection: the stream afterwards, and
the error that is kept. -/
inductive Fault (c : Connection σ) : σ → Error → Prop
  | wait {interest timeout kind s}
      (h : Transport.wait c.stream interest timeout = (.error kind, s)) : Fault c s (.ofIo kind)
  | recvEnd {s} (h : Transport.recv c.stream c.readChunk = (.ok [], s)) :
      Fault c s .connectionClosed
  | recv {kind s} (h : Transport.recv c.stream c.readChunk = (.error kind, s))
      (hk : kind ≠ .wouldBlock) : Fault c s (.ofIo kind)
  | sendNone {s} (h : Transport.send c.stream c.outbound.contents = (.ok 0, s)) :
      Fault c s .connectionClosed
  | send {kind s} (h : Transport.send c.stream c.outbound.contents = (.error kind, s))
      (hk : kind ≠ .wouldBlock) : Fault c s (.ofIo kind)

inductive StreamMove (c : Connection σ) : Connection σ → Prop
  | wait {interest timeout s} (h : Transport.wait c.stream interest timeout = (.ok (), s)) :
      StreamMove c { c with stream := s }
  | read {b bytes s q} (hd : c.discarding = false)
      (h : Transport.recv c.stream c.readChunk = (.ok (b :: bytes), s))
      (hq : q.contents = c.inbound.contents ++ b :: bytes) :
      StreamMove c { c with stream := s, inbound := q }
  | drop {b bytes s q} (hd : c.discarding = true)
      (h : Transport.recv c.stream c.readChunk = (.ok (b :: bytes), s))
      (hq : q.contents = c.inbound.contents) : StreamMove c { c with stream := s, inbound := q }
  | pause {s q} (h : Transport.recv c.stream c.readChunk = (.error .wouldBlock, s))
      (hq : q.contents = c.inbound.contents) : StreamMove c { c with stream := s, inbound := q }
  | write {n s} (h : Transport.send c.stream c.outbound.contents = (.ok (n + 1), s)) :
      StreamMove c { c with stream := s, outbound := c.outbound.consume (n + 1) }
  | stall {s} (h : Transport.send c.stream c.outbound.contents = (.error .wouldBlock, s)) :
      StreamMove c { c with stream := s }
  | fail {s q e} (h : Fault c s e) (hq : q.contents = c.inbound.contents) :
      StreamMove c ({ c with stream := s, inbound := q }.fail e)
  | finish (hs : c.state = .closing) (he : c.outbound.contents = []) : StreamMove c c.shutdown

inductive Talk (c : Connection σ) : List Event → Connection σ → Prop
  | intro {d} (hs : c.state ≠ .closed) (h : StreamMove c d) : Talk c [] d

/-- What a connection does of itself while it is polled. -/
inductive Step (c : Connection σ) : List Event → Connection σ → Prop
  | stream {d} (hs : c.state ≠ .closed) (h : StreamMove c d) : Step c [] d
  | idle {time} (hs : c.state = .closed) :
      Step c [] { c with stream := Transport.idle c.stream time }
  | frame {p events d} (h : FrameMove c p events d) : Step c events d
  | breach {events d} (h : Breach c events d) : Step c events d

/-- A step, or what the application asks for between polls. -/
inductive Move (c : Connection σ) : List Event → Connection σ → Prop
  | step {events d} (h : Step c events d) : Move c events d
  | send {opcode payload} (hs : c.state = .open) :
      Move c [.queued (.frame opcode payload)] (c.queueFrame opcode payload)
  | close : Move c c.closing c.close

abbrev Talks (c d : Connection σ) : Prop :=
  Chain Talk c [] d

abbrev Steps (c : Connection σ) (events : List Event) (d : Connection σ) : Prop :=
  Chain Step c events d

abbrev Path (c : Connection σ) (events : List Event) (d : Connection σ) : Prop :=
  Chain Move c events d

theorem Chain.steps {c d : Connection σ} (h : Talks c d) : Steps c [] d :=
  h.mono fun ⟨hs, h⟩ => .stream hs h

theorem Chain.moves {c d : Connection σ} {events : List Event} (h : Steps c events d) :
    Path c events d :=
  h.mono .step

theorem Handles.steps {c d : Connection σ} {events : List Event} (h : Handles c events d) :
    Steps c events d := by
  induction h with
  | done => exact .nil
  | breach h => exact .single (.breach h)
  | next h _ ih => exact .cons (.frame h) ih

-- ---------------------------------------------------------------------------
-- What an exchange leaves alone
-- ---------------------------------------------------------------------------

section
variable {c d : Connection σ}

theorem StreamMove.limits_eq (h : StreamMove c d) : d.limits = c.limits := by
  cases h <;> rfl

theorem StreamMove.reassembler_eq (h : StreamMove c d) : d.reassembler = c.reassembler := by
  cases h <;> rfl

theorem StreamMove.discarding_eq (h : StreamMove c d) : d.discarding = c.discarding := by
  cases h <;> rfl

theorem StreamMove.useMask_eq (h : StreamMove c d) : d.useMask = c.useMask := by
  cases h <;> rfl

theorem StreamMove.keys_eq (h : StreamMove c d) : d.keys = c.keys := by
  cases h <;> rfl

end

-- ---------------------------------------------------------------------------
-- The order of states
-- ---------------------------------------------------------------------------

theorem le_closed (s : ReadyState) : s ≤ .closed := by
  cases s <;> decide

theorem closed_le {s : ReadyState} (h : ReadyState.closed ≤ s) : s = .closed := by
  cases s with
  | closed => rfl
  | connecting | «open» | closing => exact absurd h (by decide)

theorem eq_open_of_le {s : ReadyState} (h : s ≤ .open) (hs : s ≠ .connecting) : s = .open := by
  cases s with
  | connecting => exact absurd rfl hs
  | «open» => rfl
  | closing | closed => exact absurd h (by decide)

theorem StreamMove.state_le {c d : Connection σ} (h : StreamMove c d) : c.state ≤ d.state := by
  cases h with
  | wait | read | drop | pause | write | stall => exact Nat.le_refl _
  | fail | finish => exact le_closed _

theorem Step.state_le {c d : Connection σ} {events : List Event} (h : Step c events d) :
    c.state ≤ d.state := by
  cases h with
  | stream _ h => exact h.state_le
  | idle => exact Nat.le_refl _
  | frame h => exact h.turns.state_le
  | breach h => exact h.turns.state_le

theorem Move.state_le {c d : Connection σ} {events : List Event} (h : Move c events d) :
    c.state ≤ d.state := by
  cases h with
  | step h => exact h.state_le
  | send => rw [state_queueFrame]; exact Nat.le_refl _
  | close => exact (turns_closing rfl).state_le

theorem Chain.state_le {c d : Connection σ} {events : List Event} (h : Path c events d) :
    c.state ≤ d.state := by
  induction h with
  | nil => exact Nat.le_refl _
  | cons h _ ih => exact Nat.le_trans h.state_le ih

-- ---------------------------------------------------------------------------
-- Exchange
-- ---------------------------------------------------------------------------

theorem fill_talks (c : Connection σ) (hs : c.state ≠ .closed) : Talks c c.fill := by
  fun_induction fill c with
  | case1 c s h => exact .single ⟨hs, .fail (.recvEnd h) rfl⟩
  | case2 c b bytes s h inbound ih =>
    refine .silent ⟨hs, ?_⟩ (ih hs)
    by_cases hd : c.discarding = true
    · rw [dif_pos hd]
      exact .drop hd h rfl
    · rw [dif_neg hd]
      exact .read (by simpa using hd) h (ByteQueue.contents_append ..)
  | case3 c s h => exact .single ⟨hs, .pause h rfl⟩
  | case4 c s kind hk h => exact .single ⟨hs, .fail (.recv h hk) rfl⟩

theorem flush_talks (c : Connection σ) (hs : c.state ≠ .closed) : Talks c c.flush := by
  fun_induction flush c with
  | case1 => exact .nil
  | case2 c he s h => exact .single ⟨hs, .fail (.sendNone h) rfl⟩
  | case3 c he n s h ih => exact .silent ⟨hs, .write h⟩ (ih hs)
  | case4 c he s h => exact .single ⟨hs, .stall h⟩
  | case5 c he kind s hk h => exact .single ⟨hs, .fail (.send h hk) rfl⟩

theorem outbound_fill (c : Connection σ) (hs : c.state ≠ .closed) (hf : c.fill.state = .closed) :
    c.fill.outbound.contents = [] := by
  fun_induction fill c with
  | case1 => rfl
  | case2 c b bytes s h inbound ih => exact ih hs hf
  | case3 => exact absurd hf hs
  | case4 => rfl

theorem flush_of_drained (c : Connection σ) (h : c.outbound.contents = []) : c.flush = c := by
  rw [flush, if_pos (by simp [ByteQueue.isEmpty, h])]

theorem flush_fill_talks (c : Connection σ) (hs : c.state ≠ .closed) : Talks c c.fill.flush := by
  by_cases hf : c.fill.state = .closed
  · rw [flush_of_drained _ (outbound_fill c hs hf)]
    exact fill_talks c hs
  · exact (fill_talks c hs).trans (flush_talks _ hf)

theorem finish_talks (c : Connection σ) : Talks c c.finish := by
  unfold finish
  split
  · next h =>
    have he : c.outbound.contents = [] := by simpa [ByteQueue.isEmpty] using h.2
    exact .single ⟨by rw [h.1]; decide, .finish h.1 he⟩
  · exact .nil

theorem exchange_talks (c : Connection σ) (hs : c.state ≠ .closed) : Talks c c.exchange :=
  (flush_fill_talks c hs).trans (finish_talks _)

end Connection

end WebSocket
