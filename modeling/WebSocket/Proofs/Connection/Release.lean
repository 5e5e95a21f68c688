import WebSocket.Proofs.Connection.Failure

/-!
# Releasing a connection

A drain is a run that closes and then only polls (`drain_gives_up`). When it ends with
no failure kept, then either the time was over, or all frames ever queued have been
written, the close frame last (`release_clean`).
-/

namespace WebSocket.Connection

variable {σ : Type} [Transport σ]

-- ---------------------------------------------------------------------------
-- Draining as a run
-- ---------------------------------------------------------------------------

def drainPolls (polls : Nat) : List Operation :=
  List.replicate polls (.poll drainInterval false)

def draining (polls : Nat) : List Operation := .close :: drainPolls polls

/-- How `c` is given up as `d`: behind the operations it is closed, or the time is over
and the stream is closed the hard way. -/
inductive GivesUp (c : Connection σ) (operations : List Operation) (left : Deadline)
    (d : Connection σ) : Prop
  | closed (hs : (c.run operations).2.state = .closed) (hd : d = (c.run operations).2)
  | expired (hs : (c.run operations).2.state ≠ .closed) (ht : left.look = none)
      (hd : d = (c.run operations).2.shutdown)

section
variable {c d : Connection σ} {operation : Operation} {operations : List Operation}
  {left : Deadline}

theorem GivesUp.cons (h : GivesUp (c.apply operation).2 operations left d) :
    GivesUp c (operation :: operations) left d := by
  cases h with
  | closed hs hd => exact .closed hs hd
  | expired hs ht hd => exact .expired hs ht hd

theorem drainUntil_gives_up (c : Connection σ) (deadline : Deadline) :
    ∃ polls ≤ deadline.length,
      GivesUp c (drainPolls polls) (deadline.drop polls) (c.drainUntil deadline) := by
  fun_induction drainUntil c deadline with
  | case1 c deadline hs => exact ⟨0, Nat.zero_le _, .closed hs rfl⟩
  | case2 c hs => exact ⟨0, Nat.le_refl _, .expired hs rfl rfl⟩
  | case3 c hs later => exact ⟨0, Nat.zero_le _, .expired hs (by simp [Deadline.look]) rfl⟩
  | case4 c hs left later hl ih =>
    obtain ⟨polls, hle, h⟩ := ih
    have h : GivesUp (c.apply (.poll drainInterval false)).2 _ _ _ := h
    exact ⟨polls + 1, Nat.succ_le_succ hle, h.cons⟩

theorem drain_gives_up (c : Connection σ) (clock : Clock) :
    ∃ polls ≤ (clock.readings c.drainTimeout).length,
      GivesUp c (draining polls) ((clock.readings c.drainTimeout).drop polls)
        (c.drain clock) := by
  unfold drain
  split
  · next hs =>
    have hrun : (c.run (draining 0)).2 = c := if_neg (by simp [hs])
    exact ⟨0, Nat.zero_le _, .closed (by rw [hrun, hs]) hrun.symm⟩
  · obtain ⟨polls, hle, h⟩ := drainUntil_gives_up c.close (clock.readings c.drainTimeout)
    have h : GivesUp (c.apply .close).2 _ _ _ := h
    exact ⟨polls, hle, h.cons⟩

end

section
variable (c : Connection σ) (polls : Nat)

theorem queued_drainPolls : c.queued (drainPolls polls) = [] := by
  induction polls generalizing c with
  | zero => rfl
  | succ polls ih => exact ih _

theorem delivered_drainPolls : delivered (c.run (drainPolls polls)).1 = [] := by
  induction polls generalizing c with
  | zero => rfl
  | succ polls ih =>
    have hm : (c.poll drainInterval false).1 = [] := (poll_of_not_dispatched rfl).2
    have hd := ih (c.poll drainInterval false).2
    show delivered (.ok (c.poll drainInterval false).1 :: _) = []
    rw [delivered_cons, hm]
    exact hd

theorem queued_draining :
    c.queued (draining polls) = if c.state = .open then [.close] else [] := by
  have h := c.close.queued_drainPolls polls
  show _ ++ c.close.queued (drainPolls polls) = _
  rw [h, List.append_nil]
  rfl

theorem delivered_draining : delivered (c.run (draining polls)).1 = [] :=
  c.close.delivered_drainPolls polls

end

-- ---------------------------------------------------------------------------
-- No failure kept
-- ---------------------------------------------------------------------------

variable {c d : Connection (Traced σ)} {keys : KeySource} {config : Config}

/-- The stream has only failed if the connection keeps a failure. -/
def Spotless (c : Connection (Traced σ)) (seen : List Exchange) (_ : List Event) : Prop :=
  c.lastError = none → Exchange.Faultless seen

theorem StreamMove.lastError_none (h : StreamMove c d) (hd : d.lastError = none) :
    c.lastError = none := by
  cases h with
  | fail => cases hd
  | wait | read | drop | pause | write | stall | finish => exact hd

omit [Transport σ] in
theorem Blames.faultless {exchanges : List Exchange} (h : Blames c exchanges)
    (he : c.lastError = none) : Exchange.Faultless exchanges := by
  intro e hm
  cases hf : e.failure? with
  | none => rw [← Exchange.isSome_failure?, hf]; rfl
  | some error => cases he.symm.trans (h e hm error hf).2

theorem spotless_moves : MoveAccount (σ := σ) Spotless where
  stream _ hm ht h he := by
    obtain ⟨exchanges, hs, hb⟩ := hm.blames
    obtain rfl := List.append_cancel_left (hs.symm.trans ht.stream_eq)
    exact Exchange.faultless_append.mpr ⟨h (hm.lastError_none he), hb.faultless he⟩
  idle time _ h he :=
    Exchange.faultless_append.mpr ⟨h he, Exchange.faultless_singleton rfl⟩
  frame hf h he := h (hf.lastError_eq.symm.trans he)
  breach hb _ he := by
    cases hb with
    | refuse | overflow => simp at he
  send _ _ _ h he := h (by simpa using he)
  close h he := h (by simpa using he)

theorem Fresh.faultless_run (h : Fresh keys config c) {operations : List Operation}
    (he : (c.run operations).2.lastError = none) :
    Exchange.Faultless ((c.run operations).2.stream.since c.stream) := by
  obtain ⟨_, hp, -⟩ := run_path h.coherent operations
  have hstart : Spotless c [] [] := fun _ => nofun
  obtain ⟨exchanges, hs, hx⟩ := spotless_moves.path hp hstart
  rw [Traced.since_of_eq hs]
  exact hx he

/-- A run that closes the connection with no failure kept has written all frames that
it has queued, and the last of them is the close frame. -/
theorem Fresh.written_closed (h : Fresh keys config c) {operations : List Operation}
    (hs : (c.run operations).2.state = .closed)
    (he : (c.run operations).2.lastError = none) :
    ∃ front, c.queued operations = front ++ [.close] ∧ .close ∉ front ∧
      c.written operations = Outgoing.encodeAll config.useMask keys (front ++ [.close]) := by
  have hf := h.faultless_run he
  have hm : .close ∈ c.queued operations :=
    (h.close_mem_queued_iff hf).mpr (by rw [hs]; nofun)
  obtain ⟨front, after, hq⟩ := List.append_of_mem hm
  obtain ⟨hn, rfl⟩ := last_of_not_mem_dropLast (h.closes_run operations).last hq
  exact ⟨front, hq, hn, hq ▸ h.written_eq hs hf⟩

-- ---------------------------------------------------------------------------
-- Released
-- ---------------------------------------------------------------------------

theorem Lives.conclude_closed (h : Lives c) (clock later : Clock) (ending : Ending) :
    (c.conclude clock later ending).2.state = .closed ∧
      ClosedOnce .closed (c.conclude clock later ending).2.stream.exchanges := by
  by_cases hs : c.state = .closed
  · rw [h.ended hs clock later ending]
    have honce := h.once
    rw [hs] at honce
    cases ending with
    | release | drop => exact ⟨hs, honce⟩
  · obtain ⟨hd, first, ht, hn⟩ := h.ends hs clock later ending
    rw [ht]
    exact ⟨hd, h.once.append hs (.closing rfl rfl hn)⟩

/-- How `c` ends if it polls so many times before it is given up: closed in time, with
its stream closed once in its life, nothing handed over, and nothing queued but the close
frame. -/
structure Concludes (c : Connection (Traced σ)) (clock later : Clock) (ending : Ending)
    (polls : Nat) : Prop where
  closed : (c.conclude clock later ending).2.state = .closed
  once : ClosedOnce .closed (c.conclude clock later ending).2.stream.exchanges
  timely : polls ≤ (clock.readings c.drainTimeout).length
  drained : GivesUp c (draining polls) ((clock.readings c.drainTimeout).drop polls)
    (c.drain clock)
  silent : delivered (c.run (draining polls)).1 = []
  queued_eq : c.queued (draining polls) = if c.state = .open then [.close] else []

theorem Lives.concludes (h : Lives c) (clock later : Clock) :
    ∃ polls, ∀ ending, c.Concludes clock later ending polls := by
  obtain ⟨polls, hle, hg⟩ := drain_gives_up c clock
  refine ⟨polls, fun ending => ?_⟩
  obtain ⟨hs, honce⟩ := h.conclude_closed clock later ending
  exact ⟨hs, honce, hle, hg, delivered_draining .., queued_draining ..⟩

/-- Whatever an established connection has done, it ends cleanly, released or dropped.
A release that answers no failure has run out of time, or it has written every frame
that was ever queued, the close frame behind all others. -/
theorem release_clean {early : Clock} {s : σ} {endpoint : Endpoint}
    {start : Connection (Traced σ)}
    (h : establish early keys (Traced.fresh s) endpoint config = .ok start)
    (operations : List Operation) (clock later : Clock) :
    let c := (start.run operations).2
    let released := c.conclude clock later .release
    ∃ polls, (∀ ending, c.Concludes clock later ending polls) ∧
      (released.1 = none →
        ((c.run (draining polls)).2.state ≠ .closed ∧
          Deadline.look ((clock.readings c.drainTimeout).drop polls) = none) ∨
        ∃ front, start.queued (operations ++ draining polls) = front ++ [.close] ∧
          .close ∉ front ∧
          Exchange.bytesOut (released.2.stream.since start.stream) =
            Outgoing.encodeAll config.useMask keys (front ++ [.close])) := by
  intro c released
  obtain ⟨polls, hc⟩ := (lifecycle h operations).2.concludes clock later
  refine ⟨polls, hc, fun hanswer => ?_⟩
  have hreleased : released =
      ((c.drain clock).lastError, { c.drain clock with lastError := none }) := conclude_eq ..
  have hrun : (start.run (operations ++ draining polls)).2 = (c.run (draining polls)).2 := by
    rw [run_append]
  rw [hreleased] at hanswer ⊢
  cases (hc .release).drained with
  | expired hs ht => exact .inl ⟨hs, ht⟩
  | closed hs hd =>
    rw [hd] at hanswer ⊢
    rw [← hrun] at hs hanswer ⊢
    exact .inr ((fresh_of_establish h).written_closed hs hanswer)

/-- The stream takes a text and the close frame in two pieces. -/
theorem release_clean_pieces :
    ∃ start, scripted {} [] [.accept 3, .block, .accept 10] = .ok start ∧
      let c := (start.run [.sendText "A"]).2
      let released := c.conclude (.patient 5) (.patient 5) .release
      (∃ polls, ∀ ending, c.Concludes (.patient 5) (.patient 5) ending polls) ∧
        released.1 = none ∧
        Exchange.bytesOut (released.2.stream.since start.stream) =
          [0x81, 0x81, 1, 2, 3, 4, 0x40, 0x88, 0x80, 0, 0, 0, 0] := by
  obtain ⟨start, h, hp⟩ := exists_scripted {} [] [.accept 3, .block, .accept 10]
    (p := fun start =>
      let c := (start.run [.sendText "A"]).2
      let released := c.conclude (.patient 5) (.patient 5) .release
      released.1 = none ∧
        Exchange.bytesOut (released.2.stream.since start.stream) =
          [0x81, 0x81, 1, 2, 3, 4, 0x40, 0x88, 0x80, 0, 0, 0, 0])
    (by decide +kernel)
  obtain ⟨polls, hc, -⟩ := release_clean h [.sendText "A"] (.patient 5) (.patient 5)
  exact ⟨start, h, ⟨polls, hc⟩, of_decide_eq_true hp⟩

end WebSocket.Connection
