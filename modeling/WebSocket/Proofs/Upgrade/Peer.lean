import WebSocket.Proofs.Tracing
import WebSocket.Transport.Script

/-!
# Peers that answer

What a stream has to do for a handshake to get through: it takes what it is offered
piece by piece, gives the bytes of the peer piece by piece, blocks no more than
so many times, and waits succeed (`Obliging`). A scripted peer with nothing but
data and blocks in its queues is such a stream (`Script.obliging`).
-/

namespace WebSocket

/-- `view s blocks rest` says of a state of the stream that it blocks at most
`blocks` more times, and that `rest` is still to be read. -/
structure Obliging {σ : Type} [Transport σ] (view : σ → Nat → List UInt8 → Prop) : Prop where
  /-- A write takes at least one byte, or blocks. -/
  send : ∀ {s blocks rest} offered, view s blocks rest → offered ≠ [] →
    (∃ n s', Transport.send s offered = (.ok (n + 1), s') ∧ view s' blocks rest) ∨
      ∃ fewer s', Transport.send s offered = (.error .wouldBlock, s') ∧ fewer < blocks ∧
        view s' fewer rest
  /-- A read gives at least one byte as long as there are any, or blocks. -/
  recv : ∀ {s blocks rest} room, view s blocks rest → rest ≠ [] → 0 < room →
    (∃ b bytes later s', Transport.recv s room = (.ok (b :: bytes), s') ∧
        rest = b :: bytes ++ later ∧ view s' blocks later) ∨
      ∃ fewer s', Transport.recv s room = (.error .wouldBlock, s') ∧ fewer < blocks ∧
        view s' fewer rest
  wait : ∀ {s blocks rest} interest timeout, view s blocks rest → 0 < timeout →
    ∃ s', Transport.wait s interest timeout = (.ok (), s') ∧ view s' blocks rest

namespace Obliging

variable {σ : Type} [Transport σ] {view : σ → Nat → List UInt8 → Prop} {s s' : σ} {blocks : Nat}
  {rest : List UInt8}

theorem of_send (hv : Obliging view) {offered : List UInt8} {answer : Except IoKind Nat}
    (hs : Transport.send s offered = (answer, s')) (h : view s blocks rest) (ho : offered ≠ []) :
    (∃ n, answer = .ok (n + 1) ∧ view s' blocks rest) ∨
      ∃ fewer, answer = .error .wouldBlock ∧ fewer < blocks ∧ view s' fewer rest := by
  rcases hv.send offered h ho with ⟨n, _, ht, h'⟩ | ⟨fewer, _, ht, hf, h'⟩
  · cases hs.symm.trans ht
    exact .inl ⟨n, rfl, h'⟩
  · cases hs.symm.trans ht
    exact .inr ⟨fewer, rfl, hf, h'⟩

theorem of_recv (hv : Obliging view) {room : Nat} {answer : Except IoKind (List UInt8)}
    (hs : Transport.recv s room = (answer, s')) (h : view s blocks rest) (hn : rest ≠ [])
    (hr : 0 < room) :
    (∃ b bytes later, answer = .ok (b :: bytes) ∧ rest = b :: bytes ++ later ∧
        view s' blocks later) ∨
      ∃ fewer, answer = .error .wouldBlock ∧ fewer < blocks ∧ view s' fewer rest := by
  rcases hv.recv room h hn hr with ⟨b, bytes, later, _, ht, he, h'⟩ | ⟨fewer, _, ht, hf, h'⟩
  · cases hs.symm.trans ht
    exact .inl ⟨b, bytes, later, rfl, he, h'⟩
  · cases hs.symm.trans ht
    exact .inr ⟨fewer, rfl, hf, h'⟩

end Obliging

-- ---------------------------------------------------------------------------
-- Traced peers
-- ---------------------------------------------------------------------------

theorem Obliging.traced {σ : Type} [Transport σ] {view : σ → Nat → List UInt8 → Prop}
    (h : Obliging view) :
    Obliging fun t : Traced σ => view t.peer where
  send offered hv hne := by
    rcases h.send offered hv hne with ⟨n, s, hs, hv⟩ | ⟨fewer, s, hs, hf, hv⟩
    · obtain ⟨t, ht, rfl⟩ := Traced.exists_send hs
      exact .inl ⟨n, t, ht, hv⟩
    · obtain ⟨t, ht, rfl⟩ := Traced.exists_send hs
      exact .inr ⟨fewer, t, ht, hf, hv⟩
  recv room hv hne hr := by
    rcases h.recv room hv hne hr with ⟨b, bytes, later, s, hs, he, hv⟩ | ⟨fewer, s, hs, hf, hv⟩
    · obtain ⟨t, ht, rfl⟩ := Traced.exists_recv hs
      exact .inl ⟨b, bytes, later, t, ht, he, hv⟩
    · obtain ⟨t, ht, rfl⟩ := Traced.exists_recv hs
      exact .inr ⟨fewer, t, ht, hf, hv⟩
  wait interest timeout hv ht := by
    obtain ⟨s, hs, hv⟩ := h.wait interest timeout hv ht
    obtain ⟨t, ht, rfl⟩ := Traced.exists_wait hs
    exact ⟨t, ht, hv⟩

-- ---------------------------------------------------------------------------
-- Scripted peers
-- ---------------------------------------------------------------------------

namespace Script

inductive Gives : List ReadEvent → Nat → List UInt8 → Prop
  | nothing : Gives [] 0 []
  | data {events blocks rest} (bytes : List UInt8) (h : Gives events blocks rest) :
      Gives (.data bytes :: events) blocks (bytes ++ rest)
  | block {events blocks rest} (h : Gives events blocks rest) :
      Gives (.block :: events) (blocks + 1) rest

inductive Takes : List WriteEvent → Nat → Prop
  | nothing : Takes [] 0
  | accept {events blocks} (n : Nat) (h : Takes events blocks) :
      Takes (.accept (n + 1) :: events) blocks
  | block {events blocks} (h : Takes events blocks) : Takes (.block :: events) (blocks + 1)

/-- A script with nothing but data and blocks, whose waits succeed. -/
structure Serves (s : Script) (blocks : Nat) (rest : List UInt8) : Prop where
  queues : ∃ reading writing, Gives s.reads reading rest ∧ Takes s.writes writing ∧
    reading + writing = blocks
  limit : s.writeLimit ≠ some 0
  waits : ∀ outcome ∈ s.waits, outcome = none
  patient : s.impatient = false

theorem Gives.readFrom {events : List ReadEvent} {blocks room : Nat} {rest : List UInt8}
    (h : Gives events blocks rest) (hne : rest ≠ []) (hr : 0 < room) :
    (∃ b bytes later events', Script.readFrom room events = (.ok (b :: bytes), events') ∧
        rest = b :: bytes ++ later ∧ Gives events' blocks later) ∨
      ∃ fewer events', Script.readFrom room events = (.error .wouldBlock, events') ∧
        fewer + 1 = blocks ∧ Gives events' fewer rest := by
  induction h with
  | nothing => exact absurd rfl hne
  | @data events blocks rest bytes h ih =>
    cases bytes with
    | nil => exact ih hne
    | cons b bytes =>
      obtain ⟨n, rfl⟩ := Nat.exists_eq_succ_of_ne_zero (Nat.ne_of_gt hr)
      refine .inl ⟨b, bytes.take n, bytes.drop n ++ rest, _, rfl, ?_, ?_⟩
      · rw [List.cons_append, List.cons_append, ← List.append_assoc, List.take_append_drop]
      · split
        · next hl =>
          rw [List.drop_eq_nil_of_le (by simpa using hl)]
          exact h
        · exact .data _ h
  | @block events blocks rest h => exact .inr ⟨blocks, events, rfl, rfl, h⟩

theorem exists_min_succ {offered : List UInt8} (hne : offered ≠ []) {k : Nat} (hk : k ≠ 0) :
    ∃ n, min k offered.length = n + 1 := by
  have hpos := List.length_pos_iff.mpr hne
  exact Nat.exists_eq_succ_of_ne_zero (by omega)

theorem send_of_writes_nil {s : Script} (hw : s.writes = []) (hl : s.writeLimit ≠ some 0)
    {offered : List UInt8} (hne : offered ≠ []) : ∃ n, s.send offered = (.ok (n + 1), s) := by
  unfold Script.send
  rw [hw]
  dsimp only
  split
  · obtain ⟨n, hn⟩ := exists_min_succ hne (Nat.ne_of_gt (List.length_pos_iff.mpr hne))
    rw [Nat.min_self] at hn
    exact ⟨n, by rw [hn]⟩
  · next hz => exact absurd hz hl
  · next limit hz _ =>
    obtain ⟨n, hn⟩ := exists_min_succ hne (k := limit) (by rintro rfl; exact hz rfl)
    exact ⟨n, by rw [hn]⟩

theorem Takes.send {s : Script} {blocks : Nat} (h : Takes s.writes blocks)
    (hl : s.writeLimit ≠ some 0) {offered : List UInt8} (hne : offered ≠ []) :
    (∃ n writes, s.send offered = (.ok (n + 1), { s with writes := writes }) ∧
        Takes writes blocks) ∨
      ∃ fewer writes, s.send offered = (.error .wouldBlock, { s with writes := writes }) ∧
        fewer + 1 = blocks ∧ Takes writes fewer := by
  generalize hw : s.writes = writes at h
  cases h with
  | nothing =>
    obtain ⟨n, hs⟩ := send_of_writes_nil hw hl hne
    exact .inl ⟨n, s.writes, hs, hw ▸ .nothing⟩
  | accept n h =>
    obtain ⟨m, hm⟩ := exists_min_succ hne (Nat.succ_ne_zero n)
    exact .inl ⟨m, _, by rw [Script.send, hw]; exact congrArg (fun n => (Except.ok n, _)) hm, h⟩
  | block h => exact .inr ⟨_, _, by rw [Script.send, hw], rfl, h⟩

theorem obliging : Obliging Serves where
  send {s blocks rest} offered h hne := by
    obtain ⟨reading, writing, hg, ht, rfl⟩ := h.queues
    rcases ht.send h.limit hne with ⟨n, writes, hs, hv⟩ | ⟨fewer, writes, hs, rfl, hv⟩
    · exact .inl ⟨n, _, hs, ⟨reading, writing, hg, hv, rfl⟩, h.limit, h.waits, h.patient⟩
    · exact .inr ⟨reading + fewer, _, hs, by omega, ⟨reading, fewer, hg, hv, rfl⟩, h.limit,
        h.waits, h.patient⟩
  recv {s blocks rest} room h hne hr := by
    obtain ⟨reading, writing, hg, ht, rfl⟩ := h.queues
    rcases hg.readFrom hne hr with
      ⟨b, bytes, later, events, hs, he, hv⟩ | ⟨fewer, events, hs, rfl, hv⟩
    · refine .inl ⟨b, bytes, later, { s with reads := events }, ?_, he,
        ⟨reading, writing, hv, ht, rfl⟩, h.limit, h.waits, h.patient⟩
      exact congrArg (fun found => (found.1, { s with reads := found.2 })) hs
    · refine .inr ⟨fewer + writing, { s with reads := events }, ?_, by omega,
        ⟨fewer, writing, hv, ht, rfl⟩, h.limit, h.waits, h.patient⟩
      exact congrArg (fun found => (found.1, { s with reads := found.2 })) hs
  wait {s blocks rest} interest timeout h _ := by
    obtain ⟨hq, hl, hw, hp⟩ := h
    show ∃ s', s.wait interest = (.ok (), s') ∧ Serves s' blocks rest
    unfold Script.wait
    split
    · next outcome waits he =>
      rw [he] at hw
      rw [hw outcome (.head _)]
      exact ⟨{ s with waits := waits }, rfl, hq, hl, fun w hm => hw w (.tail _ hm), hp⟩
    · next he =>
      rw [hp]
      exact ⟨s, rfl, hq, hl, hw, hp⟩

end Script

end WebSocket
