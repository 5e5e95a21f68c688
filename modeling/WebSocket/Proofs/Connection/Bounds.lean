import WebSocket.Proofs.Connection.Inbound
import WebSocket.Proofs.Wire.Encoding

/-!
# What a peer can make a connection hold

However the bytes of the peer come in, the message in flight and the messages handed
over keep to the configured size at every move (`Bounded`), and a dispatch leaves less
than one frame behind (`length_le_of_read`). A run keeps to both limits (`bounded_run`).
-/

namespace WebSocket

-- ---------------------------------------------------------------------------
-- What is left of a frame
-- ---------------------------------------------------------------------------

/-- Bytes that are no frame yet, and are not refused, lack a part of the header or a
part of a payload that is not too long. -/
theorem Wire.length_le_of_read {limit : Nat} {bytes : List UInt8}
    (h : read limit bytes = .incomplete) : bytes.length ≤ limit + 13 := by
  match bytes with
  | [] | [_] => simp
  | first :: second :: rest =>
    have ht := tailSize_le second
    simp only [read] at h
    split at h
    · cases h
    · split at h
      · next hlt =>
        simp only [List.length_cons]
        omega
      · split at h
        · cases h
        · split at h
          · next hlimit hlt =>
            simp only [List.length_cons]
            omega
          · cases h

namespace Connection

variable {σ : Type}

-- ---------------------------------------------------------------------------
-- Moves
-- ---------------------------------------------------------------------------

/-- After the events `past`, the message in flight and all messages handed over are as
short as they have to be. -/
structure Bounded (limits : Wire.Limits) (c : Connection σ) (past : List Event) : Prop where
  limits_eq : c.limits = limits
  held : c.reassembler.buffered ≤ limits.message
  handed : ∀ m ∈ Event.messages past, m.bytes.length ≤ limits.message

section
variable {limits : Wire.Limits} {c d : Connection σ} {p : Wire.Piece} {past events : List Event}

theorem Bounded.limit_eq (h : Bounded limits c past) : c.reassembler.limit = limits.message :=
  congrArg Wire.Limits.message h.limits_eq

theorem Bounded.hold (h : Bounded limits c past) (hl : d.limits = c.limits)
    (hb : d.reassembler.buffered ≤ limits.message) (hm : Event.messages events = []) :
    Bounded limits d (past ++ events) where
  limits_eq := hl.trans h.limits_eq
  held := hb
  handed := by simpa [hm] using h.handed

theorem Bounded.same (h : Bounded limits c past) (hl : d.limits = c.limits)
    (hr : d.reassembler = c.reassembler) (hm : Event.messages events = []) :
    Bounded limits d (past ++ events) :=
  h.hold hl (hr ▸ h.held) hm

theorem Bounded.frame (h : Bounded limits c past) (hf : FrameMove c p events d) :
    Bounded limits d (past ++ events) := by
  have hl := hf.limits_eq
  cases hf with
  | @take q m r hr hd hp =>
    have hp := Reassembler.pushed_of_push hp
    refine ⟨hl.trans h.limits_eq, h.limit_eq ▸ hp.buffered_le, ?_⟩
    intro n hn
    rw [Event.messages_append, Event.messages_map_handed, List.mem_append] at hn
    rcases hn with hn | hn
    · exact h.handed n hn
    · obtain rfl : m = some n := by simpa using hn
      exact h.limit_eq ▸ hp.length_le
  | answer => exact h.same hl (reassembler_queueFrame ..) rfl
  | ignore => exact h.same hl rfl rfl
  | close => exact h.same hl (reassembler_close ..) (messages_closing c)

theorem buffered_violate (c : Connection σ) (e : Error) :
    (c.violate e).reassembler.buffered = 0 := by
  simp [violate]

theorem Bounded.breach (h : Bounded limits c past) (hb : Breach c events d) :
    Bounded limits d (past ++ events) := by
  refine h.hold hb.limits_eq ?_ hb.messages_eq
  cases hb with
  | refuse | overflow => simp [buffered_violate]

variable [Transport σ]

theorem Bounded.step (h : Bounded limits c past) (hm : Step c events d) :
    Bounded limits d (past ++ events) := by
  cases hm with
  | stream _ hm => exact h.same hm.limits_eq hm.reassembler_eq rfl
  | idle => exact h.same rfl rfl rfl
  | frame hf => exact h.frame hf
  | breach hb => exact h.breach hb

theorem Bounded.move (h : Bounded limits c past) (hm : Move c events d) :
    Bounded limits d (past ++ events) := by
  cases hm with
  | step hm => exact h.step hm
  | send => exact h.same (limits_queueFrame ..) (reassembler_queueFrame ..) rfl
  | close => exact h.same (limits_close ..) (reassembler_close ..) (messages_closing c)

theorem Bounded.path (h : Bounded limits c past) (hp : Path c events d) :
    Bounded limits d (past ++ events) :=
  hp.keeps (fun hm h => h.move hm) h

end

-- ---------------------------------------------------------------------------
-- Runs
-- ---------------------------------------------------------------------------

section
variable {keys : KeySource} {config : Config} {c : Connection σ}

theorem Fresh.bounded (h : Fresh keys config c) :
    Bounded ⟨config.maxFrameSize, config.maxMessageSize⟩ c [] where
  limits_eq := h.limits_eq
  held := by
    rw [h.reassembler_eq]
    exact Nat.zero_le _
  handed := nofun

end

variable [Transport σ]

/-- What a peer sends an established connection cannot make it hold more than its
limits allow: the message in flight is bounded at every move, every message that is
handed over is, and whenever a poll has come to its dispatch, less than one frame
that is short enough is left unread. -/
theorem bounded_run {clock : Clock} {keys : KeySource} {s : σ} {endpoint : Endpoint}
    {config : Config} {c : Connection σ}
    (h : establish clock keys s endpoint config = .ok c) (operations : List Operation) :
    (∀ events d, Path c events d → d.reassembler.buffered ≤ config.maxMessageSize) ∧
      (c.run operations).2.reassembler.buffered ≤ config.maxMessageSize ∧
      (∀ m ∈ delivered (c.run operations).1, m.bytes.length ≤ config.maxMessageSize) ∧
      ∀ timeout, ((c.run operations).2.dispatched? (.poll timeout true)).isSome = true →
        let after := ((c.run operations).2.apply (.poll timeout true)).2
        Frame.decode config.maxFrameSize after.inbound.contents =
            (.ok none, after.inbound.contents) ∧
          after.inbound.length ≤ config.maxFrameSize + 13 := by
  have hf := fresh_of_establish h
  have path {events d} (hp : Path c events d) :
      Bounded ⟨config.maxFrameSize, config.maxMessageSize⟩ d events := hf.bounded.path hp
  obtain ⟨events, hp, hm, -⟩ := run_path hf.coherent operations
  refine ⟨fun events d hp => (path hp).held, (path hp).held, hm ▸ (path hp).handed, ?_⟩
  intro timeout hd after
  have hc := hf.coherent.path hp
  obtain ⟨later, hq, -⟩ := apply_path hc (.poll timeout true)
  have hlimit : after.frameLimit = config.maxFrameSize :=
    congrArg Wire.Limits.frame (path (hp.trans hq)).limits_eq
  have hread := (settled_of_dispatched hd).read_eq (hc.apply (.poll timeout true))
  rw [show (Connection.apply _ _).2.frameLimit = _ from hlimit] at hread
  have ha := Frame.decode_agrees config.maxFrameSize after.inbound.contents
  rw [hread] at ha
  exact ⟨ha, Wire.length_le_of_read hread⟩

/-- All bounds are reached: by a message in two fragments, then by two fragments of
another and all but the last byte of a frame that has its length in eight bytes. -/
theorem bounded_run_tight :
    let config : Config := { maxFrameSize := 5, maxMessageSize := 6 }
    ∃ c, scripted config
        [.data [0x02, 0x03, 1, 2, 3, 0x80, 0x03, 4, 5, 6], .block,
          .data [0x01, 0x05, 1, 2, 3, 4, 5, 0x00, 0x01, 6],
          .data [0x00, 0xFF, 0, 0, 0, 0, 0, 0, 0, 5, 1, 2, 3, 4, 5, 6, 7, 8]] [] = .ok c ∧
      delivered (c.run [.poll 0 true]).1 = [⟨.binary, [1, 2, 3, 4, 5, 6]⟩] ∧
      (∀ m ∈ delivered (c.run [.poll 0 true]).1, m.bytes.length ≤ config.maxMessageSize) ∧
      ((c.run [.poll 0 true]).2.dispatched? (.poll 0 true)).isSome = true ∧
      let after := ((c.run [.poll 0 true]).2.apply (.poll 0 true)).2
      after.reassembler.buffered = 6 ∧ after.inbound.length = 18 ∧
        after.inbound.length ≤ config.maxFrameSize + 13 ∧
        Frame.decode config.maxFrameSize after.inbound.contents =
          (.ok none, after.inbound.contents) := by
  intro config
  obtain ⟨c, h, hp⟩ := exists_scripted config
    [.data [0x02, 0x03, 1, 2, 3, 0x80, 0x03, 4, 5, 6], .block,
      .data [0x01, 0x05, 1, 2, 3, 4, 5, 0x00, 0x01, 6],
      .data [0x00, 0xFF, 0, 0, 0, 0, 0, 0, 0, 5, 1, 2, 3, 4, 5, 6, 7, 8]] []
    (p := fun c =>
      let after := ((c.run [.poll 0 true]).2.apply (.poll 0 true)).2
      delivered (c.run [.poll 0 true]).1 = [⟨.binary, [1, 2, 3, 4, 5, 6]⟩] ∧
        ((c.run [.poll 0 true]).2.dispatched? (.poll 0 true)).isSome = true ∧
        after.reassembler.buffered = 6 ∧ after.inbound.length = 18)
    (by decide +kernel)
  obtain ⟨hm, hd, hb, hl⟩ := of_decide_eq_true hp
  obtain ⟨-, -, hmessages, hpoll⟩ := bounded_run h [.poll 0 true]
  obtain ⟨hnone, hle⟩ := hpoll 0 hd
  exact ⟨c, h, hm, hmessages, hd, hb, hl, hle, hnone⟩

end Connection

end WebSocket
