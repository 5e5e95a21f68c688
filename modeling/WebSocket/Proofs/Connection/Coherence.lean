import WebSocket.Proofs.Connection.Moves
import WebSocket.Transport.Script
import WebSocket.Transport.Trace

/-!
# Coherence

The fields of a connection fit together between any two moves (`Coherent`): every
move keeps this, and a connection that has just been established starts with it.
-/

namespace WebSocket

namespace Connection

variable {σ : Type}

/-- What holds between any two moves. -/
structure Coherent (c : Connection σ) : Prop where
  started : c.state ≠ .connecting
  clean : c.state = .open → c.lastError = none ∧ c.discarding = false
  closing : c.state = .closing → ∃ front, c.outbound.contents <:+ front ++ Frame.closeFrame
  closed : c.state = .closed → c.outbound.contents = []
  quiet : c.discarding = true →
    c.inbound.contents = [] ∧ c.reassembler.kind = none ∧ c.lastError.isSome = true
  idle : c.reassembler.kind = none → c.reassembler.buffer.contents = []

theorem Coherent.not_discarding {c : Connection σ} (hc : c.Coherent)
    (hr : Wire.read c.frameLimit c.inbound.contents ≠ .incomplete) : c.discarding = false := by
  cases hd : c.discarding with
  | false => rfl
  | true =>
    rw [(hc.quiet hd).1] at hr
    exact absurd rfl hr

theorem FrameMove.not_discarding {c d : Connection σ} {p : Wire.Piece} {events : List Event}
    (h : FrameMove c p events d) (hc : c.Coherent) : c.discarding = false := by
  refine hc.not_discarding ?_
  cases h with
  | take hr | answer hr | ignore hr | close hr => rw [hr]; nofun

theorem Breach.not_discarding {c d : Connection σ} {events : List Event}
    (h : Breach c events d) (hc : c.Coherent) : c.discarding = false := by
  refine hc.not_discarding ?_
  cases h with
  | refuse hr | overflow hr => rw [hr]; nofun

namespace Coherent

section
variable {c d : Connection σ} {events : List Event}

theorem queueFrame (hc : c.Coherent) (hs : c.state = .open) (opcode : Opcode)
    (payload : List UInt8) : (c.queueFrame opcode payload).Coherent where
  started := by simpa using hc.started
  clean _ := by simpa using hc.clean hs
  closing h := by simp [hs] at h
  closed h := by simp [hs] at h
  quiet h := by simpa using hc.quiet (by simpa using h)
  idle := by simpa using hc.idle

theorem close (hc : c.Coherent) : c.close.Coherent := by
  unfold Connection.close
  split
  · next hs =>
    refine ⟨nofun, nofun, fun _ => ⟨_, List.suffix_refl _⟩, nofun, hc.quiet, hc.idle⟩
  · exact hc

theorem violate (hc : c.Coherent) (q : ByteQueue) (r : Reassembler) (e : Error) :
    ({ c with inbound := q, reassembler := r }.violate e).Coherent := by
  unfold Connection.violate Connection.close
  split
  · next hs =>
    exact ⟨nofun, nofun, fun _ => ⟨_, List.suffix_refl _⟩, nofun, fun _ => ⟨rfl, rfl, rfl⟩,
      fun _ => rfl⟩
  · next hs =>
    exact ⟨hc.started, fun h => absurd h hs, hc.closing, hc.closed, fun _ => ⟨rfl, rfl, rfl⟩,
      fun _ => rfl⟩

theorem frameMove {p : Wire.Piece} (hc : c.Coherent) (h : FrameMove c p events d) :
    d.Coherent := by
  have hd := h.not_discarding hc
  have taken (q : ByteQueue) : Coherent { c with inbound := q } :=
    ⟨hc.started, hc.clean, hc.closing, hc.closed, fun h => by simp [hd] at h, hc.idle⟩
  cases h with
  | take hr hdata hp =>
    refine ⟨hc.started, hc.clean, hc.closing, hc.closed, fun h => by simp [hd] at h, fun hk => ?_⟩
    cases Reassembler.pushed_of_push hp with
    | complete _ _ _ hb => exact hb
    | more _ _ hm => exact absurd (hk.symm.trans hm) nofun
  | @answer q _ _ hs => exact (taken q).queueFrame hs _ _
  | @ignore q => exact taken q
  | @close q => exact (taken q).close

theorem breach (hc : c.Coherent) (h : Breach c events d) : d.Coherent := by
  cases h with
  | refuse => exact hc.violate c.inbound c.reassembler _
  | overflow => exact hc.violate _ _ _

variable [Transport σ]

theorem streamMove (hc : c.Coherent) (h : StreamMove c d) : d.Coherent := by
  cases h with
  | wait | stall => exact ⟨hc.started, hc.clean, hc.closing, hc.closed, hc.quiet, hc.idle⟩
  | read hd =>
    exact ⟨hc.started, hc.clean, hc.closing, hc.closed, fun h => by simp [hd] at h, hc.idle⟩
  | drop hd _ hq | pause _ hq =>
    exact ⟨hc.started, hc.clean, hc.closing, hc.closed,
      fun h => ⟨hq.trans (hc.quiet h).1, (hc.quiet h).2⟩, hc.idle⟩
  | write =>
    refine ⟨hc.started, hc.clean, fun h => ?_, fun h => ?_, hc.quiet, hc.idle⟩
    · obtain ⟨front, hf⟩ := hc.closing h
      refine ⟨front, List.IsSuffix.trans ?_ hf⟩
      rw [ByteQueue.contents_consume]
      exact List.drop_suffix ..
    · rw [ByteQueue.contents_consume, hc.closed h, List.drop_nil]
  | fail _ hq =>
    exact ⟨nofun, nofun, nofun, fun _ => rfl,
      fun h => ⟨hq.trans (hc.quiet h).1, (hc.quiet h).2.1, rfl⟩, hc.idle⟩
  | finish => exact ⟨nofun, nofun, nofun, fun _ => rfl, hc.quiet, hc.idle⟩

theorem step (hc : c.Coherent) (h : Step c events d) : d.Coherent := by
  cases h with
  | stream _ h => exact hc.streamMove h
  | idle => exact ⟨hc.started, hc.clean, hc.closing, hc.closed, hc.quiet, hc.idle⟩
  | frame h => exact hc.frameMove h
  | breach h => exact hc.breach h

theorem steps (hc : c.Coherent) (h : Steps c events d) : d.Coherent :=
  h.invariant (fun hm hc => hc.step hm) hc

theorem move (hc : c.Coherent) (h : Move c events d) : d.Coherent := by
  cases h with
  | step h => exact hc.step h
  | send hs => exact hc.queueFrame hs _ _
  | close => exact hc.close

theorem path (hc : c.Coherent) (h : Path c events d) : d.Coherent :=
  h.invariant (fun hm hc => hc.move hm) hc

end

end Coherent

variable [Transport σ]

-- ---------------------------------------------------------------------------
-- The start
-- ---------------------------------------------------------------------------

/-- A connection as the handshake leaves it: open, with nothing queued, nothing
in flight and nothing gone wrong. -/
structure Fresh (keys : KeySource) (config : Config) (c : Connection σ) : Prop where
  state_eq : c.state = .open
  useMask_eq : c.useMask = config.useMask
  keys_eq : c.keys = keys
  outbound_eq : c.outbound.contents = []
  reassembler_eq : c.reassembler = .ofLimit config.maxMessageSize
  frameLimit_eq : c.frameLimit = config.maxFrameSize
  lastError_eq : c.lastError = none
  discarding_eq : c.discarding = false

theorem fresh_of_establish {clock : Clock} {keys : KeySource} {s : σ} {endpoint : Endpoint}
    {config : Config} {c : Connection σ}
    (h : establish clock keys s endpoint config = .ok c) : Fresh keys config c := by
  unfold establish at h
  split at h
  · cases h
  · cases h
    exact ⟨rfl, rfl, rfl, rfl, rfl, rfl, rfl, rfl⟩

namespace Fresh

variable {keys : KeySource} {config : Config} {c : Connection σ}

omit [Transport σ] in
theorem coherent (h : Fresh keys config c) : c.Coherent where
  started := by rw [h.state_eq]; nofun
  clean _ := ⟨h.lastError_eq, h.discarding_eq⟩
  closing hs := by rw [h.state_eq] at hs; cases hs
  closed hs := by rw [h.state_eq] at hs; cases hs
  quiet hd := by rw [h.discarding_eq] at hd; cases hd
  idle _ := by rw [h.reassembler_eq]; rfl

omit [Transport σ] in
theorem limits_eq (h : Fresh keys config c) :
    c.limits = ⟨config.maxFrameSize, config.maxMessageSize⟩ := by
  rw [limits, h.frameLimit_eq, h.reassembler_eq]
  rfl

end Fresh

-- ---------------------------------------------------------------------------
-- A scripted start
-- ---------------------------------------------------------------------------

def scripted (config : Config) (reads : List ReadEvent) (writes : List WriteEvent) :
    Except (Error × Traced Script) (Connection (Traced Script)) :=
  establish (.patient 1) ⟨fun _ => ⟨1, 2, 3, 4⟩, 0⟩
    (Traced.fresh {
      reads := .data (Utf8.encode "HTTP/1.1 101 Switching Protocols\r\n\r\n") :: reads
      writes := .accept 1000 :: writes })
    ⟨"localhost", 80, "/"⟩ config

theorem exists_scripted (config : Config) (reads : List ReadEvent) (writes : List WriteEvent)
    {p : Connection (Traced Script) → Bool}
    (h : (scripted config reads writes).toOption.any p = true) :
    ∃ c, scripted config reads writes = .ok c ∧ p c = true := by
  cases he : scripted config reads writes with
  | error e =>
    rw [he] at h
    cases h
  | ok c =>
    rw [he] at h
    exact ⟨c, rfl, h⟩

end Connection

end WebSocket
