import WebSocket.Proofs.Connection.Lifecycle
import WebSocket.Proofs.Connection.Violation

/-!
# The failure that is kept

A failure of the stream closes the connection at once and is kept as its last error.
The dispatch at the end of the same poll still acts on what has come in before, and a
violation that it finds there takes the place of the failure (`poll_failed`). After
that poll nothing changes the last error any more.
-/

namespace WebSocket.Connection

-- ---------------------------------------------------------------------------
-- What dispatch leaves
-- ---------------------------------------------------------------------------

section
variable {σ : Type} {c : Connection σ}

def violation? (c : Connection σ) : Option Error :=
  (Wire.scan c.limits c.reassembler.buffered c.inbound.contents).2

theorem lastError_dispatch (hc : c.Coherent) :
    c.dispatch.2.lastError = c.violation?.or c.lastError := by
  cases hd : c.discarding with
  | false =>
    obtain ⟨_, h, -⟩ := dispatch_handles hd
    exact h.lastError_eq
  | true =>
    rw [dispatch_discarding hd, violation?, (hc.quiet hd).1, Wire.scan_incomplete rfl]
    rfl

end

-- ---------------------------------------------------------------------------
-- What a failure leaves
-- ---------------------------------------------------------------------------

variable {σ : Type} [Transport σ] {c d : Connection (Traced σ)} {seen : List Exchange}

/-- If the stream has failed in one of these exchanges, the connection is closed and
that failure is its last error. -/
def Blames (c : Connection (Traced σ)) (exchanges : List Exchange) : Prop :=
  ∀ e ∈ exchanges, ∀ error, e.failure? = some error →
    c.state = .closed ∧ c.lastError = some error

omit [Transport σ] in
theorem blames_of_not_failure {e : Exchange} (h : e.failure? = none) : Blames c [e] := by
  intro e' he error hf
  rw [List.mem_singleton.mp he, h] at hf
  cases hf

theorem StreamMove.blames (h : StreamMove c d) :
    ∃ exchanges, d.stream.exchanges = c.stream.exchanges ++ exchanges ∧ Blames d exchanges := by
  cases h with
  | wait h => exact ⟨_, Traced.exchanges_wait h, blames_of_not_failure rfl⟩
  | read _ h | drop _ h | pause h =>
    exact ⟨_, Traced.exchanges_recv h, blames_of_not_failure rfl⟩
  | write h | stall h => exact ⟨_, Traced.exchanges_send h, blames_of_not_failure rfl⟩
  | finish => exact ⟨_, Traced.exchanges_close _, blames_of_not_failure rfl⟩
  | fail h =>
    obtain ⟨exchange, hf, ht, -⟩ := h.traced
    refine ⟨[exchange, .closed], ?_, fun e he error hfe => ⟨rfl, ?_⟩⟩
    · refine (Traced.exchanges_close _).trans ?_
      rw [ht, List.append_assoc]
      rfl
    · rcases List.mem_cons.mp he with rfl | he
      · exact hf.symm.trans hfe
      · rw [List.mem_singleton.mp he] at hfe
        cases hfe

theorem Blames.talk {events : List Event} (hc : Blames c seen) (h : Talk c events d) :
    ∃ exchanges, d.stream.exchanges = c.stream.exchanges ++ exchanges ∧
      Blames d (seen ++ exchanges) := by
  obtain ⟨hs, h⟩ := h
  obtain ⟨exchanges, ht, hd⟩ := h.blames
  refine ⟨exchanges, ht, fun e he error hf => ?_⟩
  rcases List.mem_append.mp he with he | he
  · exact absurd (hc e he error hf).1 hs
  · exact hd e he error hf

theorem Talks.blames (h : Talks c d) : Blames d (d.stream.since c.stream) := by
  have hstart : Blames c [] := nofun
  obtain ⟨exchanges, ht, hd⟩ :=
    h.carries (P := fun c seen _ => Blames c seen) (fun h hc => hc.talk h) [] hstart
  rw [Traced.since_of_eq ht]
  exact hd

-- ---------------------------------------------------------------------------
-- Polls that fail
-- ---------------------------------------------------------------------------

def breach? (c : Connection (Traced σ)) (operation : Operation) : Option Error :=
  (c.dispatched? operation).bind violation?

theorem Coherent.poll_blames (hc : c.Coherent) (hs : c.state ≠ .closed) {timeout : Nat}
    {listening : Bool} {e : Exchange}
    (he : e ∈ (c.poll timeout listening).2.stream.since c.stream) {error : Error}
    (hf : e.failure? = some error) :
    (c.poll timeout listening).2.state = .closed ∧
      (c.poll timeout listening).2.lastError =
        some ((c.breach? (.poll timeout listening)).getD error) := by
  unfold breach?
  cases h : c.dispatched? (.poll timeout listening) with
  | none =>
    obtain ⟨hp, -⟩ := talks_of_not_dispatched hs h
    exact hp.blames e he error hf
  | some d =>
    obtain ⟨hp, happly⟩ := operation_of_dispatched h
    obtain ⟨-, hpoll⟩ := Prod.mk.inj happly
    replace hpoll : (c.poll timeout listening).2 = d.dispatch.2 := hpoll
    have hstream : d.dispatch.2.stream = d.stream := stream_dispatch d
    rw [hpoll, hstream] at he
    obtain ⟨hclosed, hlast⟩ := hp.blames e he error hf
    rw [hpoll, lastError_dispatch (hc.steps hp.steps), hlast]
    refine ⟨(state_dispatch_closed d).mpr hclosed, ?_⟩
    rw [Option.bind_some]
    cases d.violation? <;> rfl

/-- In any run, a poll in which the stream fails leaves the connection closed, and its
last error is that failure, unless the dispatch of the same poll came to a violation,
which is then the last error. No later operation changes either. -/
theorem poll_failed {clock : Clock} {keys : KeySource} {s : σ} {endpoint : Endpoint}
    {config : Config} (h : establish clock keys (Traced.fresh s) endpoint config = .ok c)
    (before : List Operation) (hs : (c.run before).2.state ≠ .closed) (timeout : Nat)
    (listening : Bool) {e : Exchange} {error : Error}
    (he : e ∈ ((c.run before).2.poll timeout listening).2.stream.since (c.run before).2.stream)
    (hf : e.failure? = some error) (after : List Operation) :
    let final := (c.run (before ++ .poll timeout listening :: after)).2
    final.state = .closed ∧
      final.lastError =
        some (((c.run before).2.breach? (.poll timeout listening)).getD error) := by
  have hb := (fresh_of_establish h).coherent.run before
  obtain ⟨hclosed, hlast⟩ := hb.poll_blames hs he hf
  have hrun : (c.run (before ++ .poll timeout listening :: after)).2 =
      (((c.run before).2.poll timeout listening).2.run after).2 := by
    rw [run_append]
    rfl
  dsimp only
  rw [hrun, run_of_closed hclosed]
  exact ⟨hclosed, hlast⟩

/-- The peer sends a text and resets the connection. -/
theorem poll_failed_reset :
    ∃ c, scripted {} [.data [0x81, 0x01, 0x41], .failure .connectionReset] [] = .ok c ∧
      (c.run []).2.state ≠ .closed ∧
      ((c.run []).2.poll 0 true).1 = [⟨.text, [0x41]⟩] ∧
      ∃ e ∈ ((c.run []).2.poll 0 true).2.stream.since (c.run []).2.stream,
        e.failure? = some .connectionReset ∧
          (c.run ([] ++ [.poll 0 true, .sendPing])).2.state = .closed ∧
          (c.run ([] ++ [.poll 0 true, .sendPing])).2.lastError = some .connectionReset := by
  obtain ⟨c, h, hp⟩ := exists_scripted {}
    [.data [0x81, 0x01, 0x41], .failure .connectionReset] []
    (p := fun c => (c.run []).2.state ≠ .closed ∧
      ((c.run []).2.poll 0 true).1 = [⟨.text, [0x41]⟩] ∧
      ((c.run []).2.breach? (.poll 0 true)) = none ∧
      (((c.run []).2.poll 0 true).2.stream.since (c.run []).2.stream).findSome?
        Exchange.failure? = some .connectionReset)
    (by decide +kernel)
  obtain ⟨hs, hm, hb, hf⟩ := of_decide_eq_true hp
  obtain ⟨e, he, hf⟩ := List.exists_of_findSome?_eq_some hf
  obtain ⟨hclosed, hlast⟩ := poll_failed h [] hs 0 true he hf [.sendPing]
  rw [hb] at hlast
  exact ⟨c, h, hs, hm, e, he, hf, hclosed, hlast⟩

/-- The peer sends a frame with a reserved opcode and shuts the stream down. What closes
the connection is the end of the stream, and what it keeps is the opcode. -/
theorem lastError_overwritten :
    ∃ c, scripted {} [.data [0x83, 0x00], .shutdown] [] = .ok c ∧
      ((c.poll 0 true).2.stream.since c.stream).findSome? Exchange.failure? =
        some .connectionClosed ∧
      (c.poll 0 true).2.state = .closed ∧
      (c.poll 0 true).2.lastError = some (.invalidOpcode 3) := by
  obtain ⟨c, h, hp⟩ := exists_scripted {} [.data [0x83, 0x00], .shutdown] []
    (p := fun c => ((c.poll 0 true).2.stream.since c.stream).findSome? Exchange.failure? =
        some .connectionClosed ∧
      (c.poll 0 true).2.state = .closed ∧
      (c.poll 0 true).2.lastError = some (.invalidOpcode 3))
    (by decide +kernel)
  exact ⟨c, h, of_decide_eq_true hp⟩

end WebSocket.Connection
