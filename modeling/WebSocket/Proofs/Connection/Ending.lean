import WebSocket.Connection.Poll
import WebSocket.Proofs.Connection.Operations

/-!
# Giving a connection up

A connection that drains starts to close, polls without listening, and in the
end is closed the hard way if it has to be (`drain_lasts`). However short the time
for it is, it ends closed (`state_drain`).
-/

namespace WebSocket.Connection

variable {σ : Type} [Transport σ]

/-- What a connection does while it drains. -/
inductive LastMove (c : Connection σ) : List Event → Connection σ → Prop
  | talk {events d} (h : Talk c events d) : LastMove c events d
  | close : LastMove c c.closing c.close
  | abandon (hs : c.state ≠ .closed) : LastMove c [] c.shutdown

abbrev Lasts (c : Connection σ) (events : List Event) (d : Connection σ) : Prop :=
  Chain LastMove c events d

variable {c : Connection σ}

theorem drainUntil_lasts (c : Connection σ) (deadline : Deadline) :
    Lasts c [] (c.drainUntil deadline) ∧ (c.drainUntil deadline).state = .closed := by
  fun_induction drainUntil c deadline with
  | case1 c _ hs => exact ⟨.nil, hs⟩
  | case2 c hs => exact ⟨.single (.abandon hs), rfl⟩
  | case3 c hs => exact ⟨.single (.abandon hs), rfl⟩
  | case4 c hs left later hl ih =>
    have hn : c.dispatched? (.poll drainInterval false) = none := rfl
    obtain ⟨hp, -⟩ := talks_of_not_dispatched hs hn
    exact ⟨(hp.mono .talk).trans ih.1, ih.2⟩

theorem drain_of_closed (hs : c.state = .closed) (clock : Clock) : c.drain clock = c := by
  rw [drain, if_pos hs]

theorem drain_lasts (hs : c.state ≠ .closed) (clock : Clock) :
    Lasts c c.closing (c.drain clock) := by
  rw [drain, if_neg hs]
  have h := (Chain.single (LastMove.close (c := c))).trans
    (drainUntil_lasts c.close (clock.readings c.drainTimeout)).1
  rwa [List.append_nil] at h

theorem state_drain (c : Connection σ) (clock : Clock) : (c.drain clock).state = .closed := by
  unfold drain
  split
  · next hs => exact hs
  · exact (drainUntil_lasts ..).2

end WebSocket.Connection
