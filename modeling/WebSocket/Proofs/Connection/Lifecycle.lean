import WebSocket.Proofs.Connection.Ending
import WebSocket.Proofs.Upgrade.Exchanges

/-!
# The life of a connection

The state of a connection never goes back, its stream is closed once, by the
exchange that closes the connection, and a closed connection does nothing any
more but let time pass (`lifecycle`). That holds up to the release of the
connection, and through the drop behind it.
-/

namespace WebSocket

-- ---------------------------------------------------------------------------
-- When the stream is closed
-- ---------------------------------------------------------------------------

/-- The exchanges of an operation that begins before the connection is closed:
the last of them closes the stream, exactly if the connection ends closed. -/
inductive ClosesLast (state : ReadyState) (exchanges : List Exchange) : Prop
  | going (hs : state ≠ .closed) (hn : .closed ∉ exchanges)
  | closing {first : List Exchange} (hs : state = .closed) (he : exchanges = first ++ [.closed])
      (hn : .closed ∉ first)

/-- The exchanges of a whole life: the stream is closed once, exactly if the
connection is closed, and after that only time passes. -/
inductive ClosedOnce (state : ReadyState) (exchanges : List Exchange) : Prop
  | going (hs : state ≠ .closed) (hn : .closed ∉ exchanges)
  | closed {before : List Exchange} {times : List Nat} (hs : state = .closed)
      (he : exchanges = before ++ .closed :: times.map .idled) (hn : .closed ∉ before)

section
variable {state : ReadyState} {exchanges past : List Exchange}

theorem closed_not_mem_append (hp : .closed ∉ past) (hn : .closed ∉ exchanges) :
    .closed ∉ past ++ exchanges := fun h =>
  (List.mem_append.mp h).elim hp hn

theorem ClosesLast.append (h : ClosesLast state exchanges) (hp : .closed ∉ past) :
    ClosesLast state (past ++ exchanges) := by
  cases h with
  | going hs hn => exact .going hs (closed_not_mem_append hp hn)
  | closing hs he hn =>
    refine .closing hs ?_ (closed_not_mem_append hp hn)
    rw [he, List.append_assoc]

theorem ClosesLast.once (h : ClosesLast state exchanges) : ClosedOnce state exchanges := by
  cases h with
  | going hs hn => exact .going hs hn
  | closing hs he hn =>
    have he : exchanges = _ ++ .closed :: ([] : List Nat).map .idled := he
    exact .closed hs he hn

theorem ClosesLast.congr {after : ReadyState} (h : ClosesLast state exchanges)
    (hi : after = .closed ↔ state = .closed) : ClosesLast after exchanges := by
  cases h with
  | going hs hn => exact .going (fun ha => hs (hi.mp ha)) hn
  | closing hs he hn => exact .closing (hi.mpr hs) he hn

theorem ClosedOnce.append (h : ClosedOnce state past) (hs : state ≠ .closed)
    {after : ReadyState} (ha : ClosesLast after exchanges) :
    ClosedOnce after (past ++ exchanges) := by
  cases h with
  | going _ hn => exact (ha.append hn).once
  | closed hc => exact absurd hc hs

theorem ClosedOnce.idled (h : ClosedOnce state past) (hs : state = .closed) (times : List Nat) :
    ClosedOnce state (past ++ times.map .idled) := by
  cases h with
  | going hn => exact absurd hs hn
  | @closed before first hs he hn =>
    have he : past ++ times.map .idled = before ++ .closed :: (first ++ times).map .idled := by
      rw [he, List.append_assoc, List.cons_append, List.map_append]
    exact .closed hs he hn

end

-- ---------------------------------------------------------------------------
-- Moves
-- ---------------------------------------------------------------------------

section
open Connection (StreamMove Talk LastMove Chain turns_closing)

variable {σ : Type} [Transport σ] {c d : Connection (Traced σ)} {events past : List Event}
  {seen : List Exchange}

theorem Connection.StreamMove.closesLast (h : StreamMove c d) (hs : c.state ≠ .closed) :
    ∃ exchanges, d.stream.exchanges = c.stream.exchanges ++ exchanges ∧
      ClosesLast d.state exchanges := by
  cases h with
  | wait h => exact ⟨_, Traced.exchanges_wait h, .going hs (by simp)⟩
  | read _ h | drop _ h | pause h => exact ⟨_, Traced.exchanges_recv h, .going hs (by simp)⟩
  | write h | stall h => exact ⟨_, Traced.exchanges_send h, .going hs (by simp)⟩
  | fail h =>
    obtain ⟨exchange, hf, ht, -⟩ := h.traced
    refine ⟨[exchange] ++ [.closed], ?_, .closing rfl rfl fun hm => ?_⟩
    · refine (Traced.exchanges_close _).trans ?_
      rw [ht, List.append_assoc]
    · rw [← List.mem_singleton.mp hm] at hf
      cases hf
  | finish => exact ⟨_, Traced.exchanges_close _, .closing rfl (List.nil_append _).symm nofun⟩

theorem ClosesLast.talk (hc : ClosesLast c.state seen) (h : Talk c events d) :
    ∃ exchanges, d.stream.exchanges = c.stream.exchanges ++ exchanges ∧
      ClosesLast d.state (seen ++ exchanges) := by
  obtain ⟨hs, h⟩ := h
  obtain ⟨exchanges, ht, hd⟩ := h.closesLast hs
  cases hc with
  | going _ hn => exact ⟨exchanges, ht, hd.append hn⟩
  | closing hc => exact absurd hc hs

theorem ClosesLast.lastMove (hc : ClosesLast c.state seen) (h : LastMove c events d) :
    ∃ exchanges, d.stream.exchanges = c.stream.exchanges ++ exchanges ∧
      ClosesLast d.state (seen ++ exchanges) := by
  cases h with
  | talk h => exact hc.talk h
  | close =>
    refine ⟨[], by simp, ?_⟩
    rw [List.append_nil]
    exact hc.congr (turns_closing rfl).state_closed
  | abandon hs =>
    refine ⟨_, Traced.exchanges_close _, ?_⟩
    cases hc with
    | going _ hn => exact .closing rfl rfl hn
    | closing hc => exact absurd hc hs

omit [Transport σ] in
theorem Connection.Chain.closesLast
    {R : Connection (Traced σ) → List Event → Connection (Traced σ) → Prop}
    (link : ∀ {c d seen events}, R c events d → ClosesLast c.state seen →
      ∃ exchanges, d.stream.exchanges = c.stream.exchanges ++ exchanges ∧
        ClosesLast d.state (seen ++ exchanges))
    (h : Chain R c events d) (hs : c.state ≠ .closed) :
    ∃ exchanges, d.stream.exchanges = c.stream.exchanges ++ exchanges ∧
      ClosesLast d.state exchanges := by
  have hstart : ClosesLast c.state [] := .going hs nofun
  exact h.carries (P := fun c seen _ => ClosesLast c.state seen) link [] hstart

end

-- ---------------------------------------------------------------------------
-- Operations
-- ---------------------------------------------------------------------------

namespace Connection

section
variable {σ : Type}

theorem Handles.state_closed {c d : Connection σ} {events : List Event}
    (h : Handles c events d) : d.state = .closed ↔ c.state = .closed := by
  induction h with
  | done => rfl
  | breach h => exact h.turns.state_closed
  | next h _ ih => exact ih.trans h.turns.state_closed

theorem state_dispatch_closed (c : Connection σ) :
    c.dispatch.2.state = .closed ↔ c.state = .closed := by
  cases hd : c.discarding with
  | false =>
    obtain ⟨_, h, -⟩ := dispatch_handles hd
    exact h.state_closed
  | true => rw [dispatch_discarding hd]

theorem send_of_not_open {c : Connection σ} (hs : c.state ≠ .open) (opcode : Opcode)
    (payload : List UInt8) :
    c.send opcode payload = (.error (.invalidState "connection is not open"), c) :=
  if_neg hs

end

variable {σ : Type} [Transport σ] {c : Connection (Traced σ)}

omit [Transport σ] in
theorem send_closesLast (hs : c.state ≠ .closed) (opcode : Opcode) (payload : List UInt8) :
    ∃ exchanges, (c.send opcode payload).2.stream.exchanges = c.stream.exchanges ++ exchanges ∧
      ClosesLast (c.send opcode payload).2.state exchanges := by
  unfold send
  split
  · exact ⟨[], by simp, .going (by rwa [state_queueFrame]) nofun⟩
  · exact ⟨[], by simp, .going hs nofun⟩

theorem apply_closesLast (hs : c.state ≠ .closed) (operation : Operation) :
    ∃ exchanges, (c.apply operation).2.stream.exchanges = c.stream.exchanges ++ exchanges ∧
      ClosesLast (c.apply operation).2.state exchanges := by
  cases operation with
  | sendText text => exact send_closesLast hs .text (Utf8.encode text)
  | sendBinary data => exact send_closesLast hs .binary data
  | sendPing => exact send_closesLast hs .ping []
  | close =>
    refine ⟨[], ?_, .going (fun hc => hs ((turns_closing rfl).state_closed.mp hc)) nofun⟩
    rw [List.append_nil]
    exact congrArg Traced.exchanges c.stream_close
  | poll timeout listening =>
    cases h : c.dispatched? (.poll timeout listening) with
    | none =>
      obtain ⟨hp, -⟩ := talks_of_not_dispatched hs h
      exact hp.closesLast (fun h hc => hc.talk h) hs
    | some d =>
      obtain ⟨hp, he⟩ := operation_of_dispatched h
      obtain ⟨exchanges, ht, hd⟩ := hp.closesLast (fun h hc => hc.talk h) hs
      rw [he]
      refine ⟨exchanges, ?_, hd.congr d.state_dispatch_closed⟩
      rw [show d.dispatch.2.stream = d.stream from d.stream_dispatch]
      exact ht

theorem drain_closesLast (hs : c.state ≠ .closed) (clock : Clock) :
    ∃ first, (c.drain clock).stream.exchanges = c.stream.exchanges ++ (first ++ [.closed]) ∧
      .closed ∉ first := by
  obtain ⟨exchanges, ht, hd⟩ := (drain_lasts hs clock).closesLast (fun h hc => hc.lastMove h) hs
  cases hd with
  | going hn => exact absurd (state_drain c clock) hn
  | closing _ he hn => exact ⟨_, he ▸ ht, hn⟩

-- ---------------------------------------------------------------------------
-- Closed connections
-- ---------------------------------------------------------------------------

end Connection

namespace Operation

def isSend : Operation → Bool
  | .sendText _ | .sendBinary _ | .sendPing => true
  | .close | .poll .. => false

def pause? : Operation → Option Nat
  | .poll timeout _ => some timeout
  | _ => none

end Operation

namespace Connection

def restingOutcome (operation : Operation) : Outcome :=
  if operation.isSend then .error (.invalidState "connection is not open") else .ok []

variable {σ : Type} [Transport σ]

def rested (c : Connection σ) (times : List Nat) : Connection σ :=
  { c with stream := times.foldl Transport.idle c.stream }

section
variable {c : Connection σ}

theorem apply_refused (hs : c.state ≠ .open) {operation : Operation} (ho : operation.isSend) :
    c.apply operation = (.error (.invalidState "connection is not open"), c) := by
  cases operation with
  | sendText | sendBinary | sendPing => simp [apply, sendText, sendBinary, sendPing,
      send_of_not_open hs, Except.map]
  | close | poll => cases ho

theorem apply_of_closed (hs : c.state = .closed) (operation : Operation) :
    c.apply operation = (restingOutcome operation, c.rested operation.pause?.toList) := by
  cases operation with
  | sendText | sendBinary | sendPing => exact apply_refused (by simp [hs]) rfl
  | close =>
    have h : c.close = c := if_neg (by simp [hs])
    simp [apply, h, restingOutcome, Operation.isSend, rested, Operation.pause?]
  | poll timeout listening =>
    simp [apply, poll_of_closed hs, restingOutcome, Operation.isSend, rested, Operation.pause?]

theorem rested_append (c : Connection σ) (times later : List Nat) :
    c.rested (times ++ later) = (c.rested times).rested later := by
  unfold rested
  rw [List.foldl_append]

theorem run_of_closed (hs : c.state = .closed) (operations : List Operation) :
    c.run operations =
      (operations.map restingOutcome, c.rested (operations.filterMap Operation.pause?)) := by
  induction operations generalizing c with
  | nil => rfl
  | cons operation operations ih =>
    have hr : (c.rested operation.pause?.toList).state = .closed := hs
    have hp : (operation :: operations).filterMap Operation.pause? =
        operation.pause?.toList ++ operations.filterMap Operation.pause? := by
      cases h : operation.pause? <;> simp [h]
    rw [run, apply_of_closed hs]
    dsimp only
    rw [ih hr, hp, rested_append]
    rfl

end

-- ---------------------------------------------------------------------------
-- Lives
-- ---------------------------------------------------------------------------

section
variable {c : Connection (Traced σ)}

theorem closedOnce_apply (h : ClosedOnce c.state c.stream.exchanges) (operation : Operation) :
    ClosedOnce (c.apply operation).2.state (c.apply operation).2.stream.exchanges := by
  by_cases hs : c.state = .closed
  · rw [apply_of_closed hs]
    dsimp only [rested]
    rw [Traced.exchanges_foldl_idle]
    exact h.idled hs _
  · obtain ⟨exchanges, ht, hd⟩ := apply_closesLast hs operation
    rw [ht]
    exact h.append hs hd

theorem closedOnce_run (h : ClosedOnce c.state c.stream.exchanges)
    (operations : List Operation) :
    ClosedOnce (c.run operations).2.state (c.run operations).2.stream.exchanges := by
  induction operations generalizing c with
  | nil => exact h
  | cons operation operations ih => exact ih (closedOnce_apply h operation)

end

inductive Ending
  | release
  | drop
deriving DecidableEq, Repr

/-- Ends a connection. What has been released is dropped behind that. -/
def conclude (c : Connection σ) (clock later : Clock) : Ending → Option Error × Connection σ
  | .release => ((c.release clock).1, (c.release clock).2.drain later)
  | .drop => (none, c.drain clock)

theorem conclude_eq (c : Connection σ) (clock later : Clock) (ending : Ending) :
    c.conclude clock later ending =
      match ending with
      | .release => ((c.drain clock).lastError, { c.drain clock with lastError := none })
      | .drop => (none, c.drain clock) := by
  cases ending with
  | release =>
    have hs : (c.release clock).2.state = .closed := state_drain c clock
    exact congrArg (Prod.mk _) (drain_of_closed hs later)
  | drop => rfl

/-- Where a connection stands in its life, and what can become of it. -/
structure Lives (c : Connection (Traced σ)) : Prop where
  /-- Over all exchanges so far, those of the handshake included. -/
  once : ClosedOnce c.state c.stream.exchanges
  onward : ∀ operations, c.state ≤ (c.run operations).2.state
  moment : c.state ≠ .closed → ∀ operation, ∃ exchanges,
    (c.apply operation).2.stream.exchanges = c.stream.exchanges ++ exchanges ∧
      ClosesLast (c.apply operation).2.state exchanges
  refuses : c.state ≠ .open → ∀ operation, operation.isSend →
    c.apply operation = (.error (.invalidState "connection is not open"), c)
  final : c.state = .closed → ∀ operations,
    c.run operations =
      (operations.map restingOutcome, c.rested (operations.filterMap Operation.pause?))
  /-- An ending closes the stream unless that has been done, and does nothing behind
  that. -/
  ends : c.state ≠ .closed → ∀ clock later ending,
    (c.conclude clock later ending).2.state = .closed ∧
      ∃ first, (c.conclude clock later ending).2.stream.exchanges =
        c.stream.exchanges ++ (first ++ [.closed]) ∧ .closed ∉ first
  ended : c.state = .closed → ∀ clock later ending,
    c.conclude clock later ending =
      match ending with
      | .release => (c.lastError, { c with lastError := none })
      | .drop => (none, c)
  /-- A release answers the failure that the connection has ended with. -/
  released : ∀ clock later,
    (c.conclude clock later .release).1 = (c.conclude clock later .drop).2.lastError

theorem Coherent.lives {c : Connection (Traced σ)} (hc : c.Coherent)
    (h : ClosedOnce c.state c.stream.exchanges) : Lives c where
  once := h
  onward := hc.state_le_run
  moment := apply_closesLast
  refuses hs _ := apply_refused hs
  final := run_of_closed
  ends hs clock later ending := by
    obtain ⟨first, ht, hn⟩ := drain_closesLast hs clock
    rw [conclude_eq]
    cases ending with
    | release | drop => exact ⟨state_drain c clock, first, ht, hn⟩
  ended hs clock later ending := by
    rw [conclude_eq, drain_of_closed hs]
  released clock later := by
    rw [conclude_eq, conclude_eq]

/-- The state of an established connection never goes back. The stream is closed
once, by the exchange with which the connection becomes closed, be it in an
operation or in the end; after that the connection rests. -/
theorem lifecycle {clock : Clock} {keys : KeySource} {s : σ} {endpoint : Endpoint}
    {config : Config} {c : Connection (Traced σ)}
    (h : establish clock keys (Traced.fresh s) endpoint config = .ok c)
    (operations : List Operation) : c.state = .open ∧ Lives (c.run operations).2 := by
  have hfresh := fresh_of_establish h
  obtain ⟨seen, hs, hn⟩ := unclosed_of_establish h
  have hstart : ClosedOnce c.state c.stream.exchanges := by
    rw [hs]
    exact .going (by rw [hfresh.state_eq]; nofun) fun hm => hn _ hm rfl
  exact ⟨hfresh.state_eq,
    (hfresh.coherent.run operations).lives (closedOnce_run hstart operations)⟩

/-- A stream that takes the close frame in two pieces is closed by the second
poll; the send and the poll behind that find the connection closed. -/
theorem lifecycle_closing :
    ∃ c, scripted {} [] [.accept 2, .block] = .ok c ∧ c.state = .open ∧
      (c.run [.close, .poll 0 true, .poll 5 true, .sendPing, .poll 7 true]).2.state = .closed ∧
      Lives (c.run [.close, .poll 0 true, .poll 5 true, .sendPing, .poll 7 true]).2 := by
  obtain ⟨c, h, hp⟩ := exists_scripted {} [] [.accept 2, .block]
    (p := fun c =>
      (c.run [.close, .poll 0 true, .poll 5 true, .sendPing, .poll 7 true]).2.state = .closed)
    (by decide +kernel)
  obtain ⟨hs, hl⟩ := lifecycle h [.close, .poll 0 true, .poll 5 true, .sendPing, .poll 7 true]
  exact ⟨c, h, hs, of_decide_eq_true hp, hl⟩

end Connection

end WebSocket
