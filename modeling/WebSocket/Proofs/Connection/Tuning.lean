import WebSocket.Proofs.Connection.Lockstep
import WebSocket.Proofs.Tracing

/-!
# The sizes of the buffers do not show

How much is asked for in one read, and how much room the outbound bytes start
with, decide how the storage grows and how many reads are made. Over a stream that
comes in segments all reads of a poll together bring the same (`intake_eq`), so
nothing that the application or the peer can see depends on either (`run_resized`).
-/

namespace WebSocket

-- ---------------------------------------------------------------------------
-- Streams in segments
-- ---------------------------------------------------------------------------

/-- A stream whose bytes come in segments: a read gives what there is room for of
the current segment and never goes on to the next. Between two segments a read
finds what is there, however much room it has. -/
structure Segmented (σ : Type) [Transport σ] where
  /-- What is left of the current segment, nothing between two segments. -/
  segment : σ → List UInt8
  /-- The stream once so many bytes of the segment have been read. -/
  skip : σ → Nat → σ
  recv_segment : ∀ {s room}, segment s ≠ [] → 0 < room →
    Transport.recv s room = (.ok ((segment s).take room), skip s room)
  recv_between : ∀ {s room room'}, segment s = [] → 0 < room → 0 < room' →
    Transport.recv s room = Transport.recv s room'
  segment_skip : ∀ {s n}, n < (segment s).length → segment (skip s n) = (segment s).drop n
  skip_skip : ∀ {s n}, n < (segment s).length → ∀ m, skip (skip s n) m = skip s (n + m)
  skip_of_le : ∀ {s n}, (segment s).length ≤ n → skip s n = skip s (segment s).length

namespace Segmented

variable {σ : Type} [Transport σ] {s : σ} {room room' : Nat}

theorem recv_ne_nil (S : Segmented σ) (hs : S.segment s ≠ []) (hr : 0 < room) :
    ∃ b bytes, (S.segment s).take room = b :: bytes ∧
      Transport.recv s room = (.ok (b :: bytes), S.skip s room) := by
  have he := S.recv_segment hs hr
  cases ht : (S.segment s).take room with
  | nil =>
    rcases List.take_eq_nil_iff.mp ht with h | h
    · omega
    · exact absurd h hs
  | cons b bytes => exact ⟨b, bytes, rfl, ht ▸ he⟩

/-- Reads of any size go through a segment to its end. The induction is on what is
left of the segment. -/
theorem intake_segment (S : Segmented σ) (hs : S.segment s ≠ []) (hr : 0 < room) :
    Transport.intake s room =
      { Transport.intake (S.skip s (S.segment s).length) room with
        bytes := S.segment s ++
          (Transport.intake (S.skip s (S.segment s).length) room).bytes } := by
  induction hn : (S.segment s).length using Nat.strongRecOn generalizing s with
  | _ n ih =>
    obtain ⟨b, bytes, ht, he⟩ := S.recv_ne_nil hs hr
    rw [Transport.intake_of_data he, ← ht]
    by_cases hl : (S.segment s).length ≤ room
    · rw [S.skip_of_le hl, List.take_of_length_le hl, hn]
    · have hlt : room < (S.segment s).length := Nat.not_le.mp hl
      have hskip := S.segment_skip hlt
      have hlength : ((S.segment s).drop room).length = (S.segment s).length - room :=
        List.length_drop
      have hne : S.segment (S.skip s room) ≠ [] := by
        rw [hskip]
        exact List.ne_nil_of_length_pos (by omega)
      have hi := ih _ (by rw [hskip]; omega) hne rfl
      rw [hskip, hlength, S.skip_skip hlt, Nat.add_sub_cancel' (Nat.le_of_lt hlt), hn] at hi
      rw [hi]
      simp only [← List.append_assoc, List.take_append_drop]

/-- However much is asked for in one read, reads until one brings nothing bring the
same bytes, end the same way and leave the same stream. -/
theorem intake_eq (S : Segmented σ) (hr : 0 < room) (hr' : 0 < room') :
    Transport.intake s room = Transport.intake s room' := by
  induction hn : Transport.supply s using Nat.strongRecOn generalizing s with
  | _ n ih =>
    by_cases hs : S.segment s = []
    · have hrecv := S.recv_between hs hr hr'
      match he : Transport.recv s room' with
      | (.ok [], t) =>
        rw [Transport.intake_of_end (hrecv.trans he), Transport.intake_of_end he]
      | (.ok (b :: bytes), t) =>
        rw [Transport.intake_of_data (hrecv.trans he), Transport.intake_of_data he,
          ih _ (hn ▸ Transport.supply_lt he) rfl]
      | (.error kind, t) =>
        rw [Transport.intake_of_error (hrecv.trans he), Transport.intake_of_error he]
    · obtain ⟨b, bytes, -, he⟩ := S.recv_ne_nil hs (List.length_pos_iff.mpr hs)
      rw [S.intake_segment hs hr, S.intake_segment hs hr',
        ih _ (hn ▸ Transport.supply_lt he) rfl]

end Segmented

-- ---------------------------------------------------------------------------
-- Scripts
-- ---------------------------------------------------------------------------

namespace Script

def segmentOf : List ReadEvent → List UInt8
  | .data [] :: events => segmentOf events
  | .data (b :: bytes) :: _ => b :: bytes
  | _ => []

def skipIn (n : Nat) : List ReadEvent → List ReadEvent
  | .data [] :: events => skipIn n events
  | .data (b :: bytes) :: events =>
    if (b :: bytes).length ≤ n then events else .data ((b :: bytes).drop n) :: events
  | events => events

section
variable {events : List ReadEvent} {n : Nat}

theorem readFrom_segment (hs : segmentOf events ≠ []) (room : Nat) :
    readFrom room events = (.ok ((segmentOf events).take room), skipIn room events) := by
  fun_induction segmentOf events with
  | case1 events ih => exact ih hs
  | case2 b bytes events => rfl
  | case3 => exact absurd rfl hs

theorem readFrom_between (hs : segmentOf events = []) (room room' : Nat) :
    readFrom room events = readFrom room' events := by
  fun_induction segmentOf events with
  | case1 events ih => exact ih hs
  | case2 => cases hs
  | case3 events h h' =>
    cases events with
    | nil => rfl
    | cons event events =>
      cases event with
      | data bytes => cases bytes with
        | nil => exact absurd rfl (h events)
        | cons b bytes => exact absurd rfl (h' b bytes events)
      | block | shutdown | failure => rfl

theorem segmentOf_skipIn (hn : n < (segmentOf events).length) :
    segmentOf (skipIn n events) = (segmentOf events).drop n := by
  fun_induction segmentOf events with
  | case1 events ih => exact ih hn
  | case2 b bytes events =>
    rw [skipIn, if_neg (Nat.not_le.mpr hn)]
    have hl : 0 < ((b :: bytes).drop n).length := by
      rw [List.length_drop]
      omega
    cases hd : (b :: bytes).drop n with
    | nil => rw [hd] at hl; cases hl
    | cons => rfl
  | case3 => cases hn

theorem skipIn_skipIn (hn : n < (segmentOf events).length) (m : Nat) :
    skipIn m (skipIn n events) = skipIn (n + m) events := by
  fun_induction segmentOf events with
  | case1 events ih => exact ih hn
  | case2 b bytes events =>
    rw [skipIn, if_neg (Nat.not_le.mpr hn), skipIn]
    have hl : ((b :: bytes).drop n).length = (b :: bytes).length - n := List.length_drop
    cases hd : (b :: bytes).drop n with
    | nil =>
      rw [hd, List.length_nil] at hl
      omega
    | cons b' bytes' =>
      have hle : (b :: bytes).length - n ≤ m ↔ (b :: bytes).length ≤ n + m := by omega
      rw [skipIn, ← hd, hl, List.drop_drop]
      simp only [hle]
  | case3 => cases hn

theorem skipIn_of_le (hn : (segmentOf events).length ≤ n) :
    skipIn n events = skipIn (segmentOf events).length events := by
  fun_induction segmentOf events with
  | case1 events ih => exact ih hn
  | case2 b bytes events => rw [skipIn, skipIn, if_pos hn, if_pos (Nat.le_refl _)]
  | case3 events h h' => rw [skipIn, skipIn] <;> assumption

end

def segmented : Segmented Script where
  segment s := segmentOf s.reads
  skip s n := { s with reads := skipIn n s.reads }
  recv_segment {s room} hs _ := by
    have h := readFrom_segment hs room
    simp only [Transport.recv, recv, h]
  recv_between {s room room'} hs _ _ := by
    have h := readFrom_between hs room room'
    simp only [Transport.recv, recv, h]
  segment_skip hn := segmentOf_skipIn hn
  skip_skip {s n} hn m := congrArg (fun reads => { s with reads := reads }) (skipIn_skipIn hn m)
  skip_of_le {s n} hn := congrArg (fun reads => { s with reads := reads }) (skipIn_of_le hn)

end Script

-- ---------------------------------------------------------------------------
-- Two sizes
-- ---------------------------------------------------------------------------

open Exchange (bytesOut)

section
variable {σ : Type} [Transport σ]

theorem Transport.intake_traced (t : Traced σ) (room : Nat) :
    intake t.peer room = ⟨(intake t room).bytes, (intake t room).ending,
        (intake t room).stream.peer⟩ ∧
      bytesOut (intake t room).stream.exchanges = bytesOut t.exchanges := by
  have silent {t s : Traced σ} {answer : Except IoKind (List UInt8)}
      (h : recv t room = (answer, s)) : bytesOut s.exchanges = bytesOut t.exchanges := by
    rw [Traced.exchanges_recv h, Exchange.bytesOut_append]
    exact List.append_nil _
  fun_induction intake t room with
  | case1 t s h =>
    rw [intake_of_end (Traced.recv_peer h)]
    exact ⟨rfl, silent h⟩
  | case2 t b bytes s h later ih =>
    rw [intake_of_data (Traced.recv_peer h), ih.1]
    exact ⟨rfl, ih.2.trans (silent h)⟩
  | case3 t kind s h =>
    rw [intake_of_error (Traced.recv_peer h)]
    exact ⟨rfl, silent h⟩

/-- Traced streams in the same state to which the same bytes have been written, over
reads of any size but zero. -/
def Segmented.likeness (S : Segmented σ) : Likeness (Traced σ) (Traced σ) where
  streams s t := s.peer = t.peer ∧ bytesOut s.exchanges = bytesOut t.exchanges
  rooms room room' := 0 < room ∧ 0 < room'
  bytes := Eq
  keys := Eq
  bytes_refl _ := rfl
  append h h' := by rw [h, h']
  drop h n := by rw [h]
  length_eq h := congrArg List.length h
  encode h opcode payload := by rw [h]
  advance h := congrArg KeySource.advance h
  intake {s t room room'} h hr := by
    obtain ⟨hs, ho⟩ := Transport.intake_traced s room
    obtain ⟨ht, ho'⟩ := Transport.intake_traced t room'
    rw [h.1, S.intake_eq hr.1 hr.2, ht] at hs
    obtain ⟨hb, he, hp⟩ := Intake.mk.inj hs
    exact ⟨hb.symm, he.symm, hp.symm, ho.trans (h.2.trans ho'.symm)⟩
  send {s t a b answer s'} h hb hs := by
    have hp := Traced.send_peer hs
    rw [h.1, hb] at hp
    obtain ⟨t', ht, hpeer⟩ := Traced.exists_send hp
    refine ⟨t', ht, hpeer.symm, ?_⟩
    rw [Traced.exchanges_send hs, Traced.exchanges_send ht, Exchange.bytesOut_append,
      Exchange.bytesOut_append, h.2, hb]
  wait {s t interest timeout answer s'} h hs := by
    have hp := Traced.wait_peer hs
    rw [h.1] at hp
    obtain ⟨t', ht, hpeer⟩ := Traced.exists_wait hp
    refine ⟨t', ht, hpeer.symm, ?_⟩
    rw [Traced.exchanges_wait hs, Traced.exchanges_wait ht, Exchange.bytesOut_append,
      Exchange.bytesOut_append, h.2]
  idle {s t} h time := by
    refine ⟨congrArg (Transport.idle · time) h.1, ?_⟩
    rw [Traced.exchanges_idle, Traced.exchanges_idle, Exchange.bytesOut_idled,
      Exchange.bytesOut_idled, h.2]
  close {s t} h := by
    refine ⟨congrArg Transport.close h.1, ?_⟩
    rw [Traced.exchanges_close, Traced.exchanges_close, Exchange.bytesOut_append,
      Exchange.bytesOut_append, h.2]

-- ---------------------------------------------------------------------------
-- The start
-- ---------------------------------------------------------------------------

def Config.resized (config : Config) (chunk buffer : Nat) : Config :=
  { config with readChunkSize := chunk, writeBufferSize := buffer }

theorem Handshake.negotiate_resized (clock : Clock) (s : σ) (endpoint : Endpoint)
    (config : Config) (chunk buffer : Nat) :
    negotiate clock s endpoint (config.resized chunk buffer) =
      ((negotiate clock s endpoint config).1.map fun q =>
          (ByteQueue.withCapacity chunk).append q.contents,
        (negotiate clock s endpoint config).2) := by
  simp only [negotiate, negotiateWith, Config.resized]
  cases UpgradeRequest.checkOrigin config.origin with
  | error e => rfl
  | ok =>
    dsimp only
    cases sendAll (clock.readings config.handshakeTimeout) s
        (UpgradeRequest.bytes endpoint handshakeKey config.origin) with
    | mk answer s =>
      cases answer with
      | error e => rfl
      | ok deadline =>
        dsimp only
        cases readResponse ResponseHead.scan config.verifyAccept deadline s
            (.withCapacity readChunk) with
        | mk answer s => cases answer <;> rfl

namespace Connection

variable {clock : Clock} {keys : KeySource} {endpoint : Endpoint} {config : Config}

theorem alike_of_establish (S : Segmented σ) {t : Traced σ} {c : Connection (Traced σ)}
    (h : establish clock keys t endpoint config = .ok c) (chunk buffer : Nat) :
    ∃ d, establish clock keys t endpoint (config.resized chunk buffer) = .ok d ∧
      Alike S.likeness c d := by
  unfold establish at h ⊢
  rw [Handshake.negotiate_resized]
  match hn : Handshake.negotiate clock t endpoint config with
  | (.error e, s) =>
    rw [hn] at h
    cases h
  | (.ok q, s) =>
    rw [hn] at h
    cases h
    refine ⟨_, rfl, ⟨⟨rfl, rfl⟩, rfl, rfl, rfl, rfl, rfl, rfl, rfl, ⟨?_, ?_⟩, rfl, rfl, rfl⟩⟩
    · exact Nat.le_max_right ..
    · exact Nat.le_max_right ..

-- ---------------------------------------------------------------------------
-- Runs
-- ---------------------------------------------------------------------------

/-- All that can be seen of two connections is the same: where they stand, what has
been written and is to be written, what has come in and has not been handed over. -/
structure Indistinct (c d : Connection (Traced σ)) : Prop where
  state : c.state = d.state
  lastError : c.lastError = d.lastError
  written : bytesOut c.stream.exchanges = bytesOut d.stream.exchanges
  outbound : c.outbound.contents = d.outbound.contents
  inbound : c.inbound.contents = d.inbound.contents
  reassembler : c.reassembler = d.reassembler

theorem Alike.indistinct {S : Segmented σ} {c d : Connection (Traced σ)}
    (h : Alike S.likeness c d) : Indistinct c d :=
  ⟨h.state, h.lastError, h.stream.2, h.outbound, h.inbound, h.reassembler⟩

/-- Over a stream in segments a connection with other sizes, be they zero, is
established just as well, and after the same operations, and any ending, it has the
same outcomes and cannot be told from the first. -/
theorem run_resized (S : Segmented σ) {s : σ} {c : Connection (Traced σ)}
    (h : establish clock keys (Traced.fresh s) endpoint config = .ok c) (chunk buffer : Nat) :
    ∃ d, establish clock keys (Traced.fresh s) endpoint (config.resized chunk buffer) = .ok d ∧
      ∀ operations, (c.run operations).1 = (d.run operations).1 ∧
        Indistinct (c.run operations).2 (d.run operations).2 ∧
        ∀ clock later ending,
          ((c.run operations).2.conclude clock later ending).1 =
              ((d.run operations).2.conclude clock later ending).1 ∧
            Indistinct ((c.run operations).2.conclude clock later ending).2
              ((d.run operations).2.conclude clock later ending).2 := by
  obtain ⟨d, hd, halike⟩ := alike_of_establish S h chunk buffer
  refine ⟨d, hd, fun operations => ?_⟩
  have hrun := halike.run operations
  refine ⟨hrun.answer, hrun.alike.indistinct, fun clock later ending => ?_⟩
  have hend := hrun.alike.conclude clock later ending
  exact ⟨hend.answer, hend.alike.indistinct⟩

/-- A text that comes in two segments and a ping with a block between them, read by
two bytes and, where zero is asked for, one by one. -/
theorem run_resized_zero :
    ∃ c d, scripted { readChunkSize := 2 }
        [.data [0x81, 0x02, 0x68], .data [0x69, 0x89], .block, .data [0x00], .shutdown] [] = .ok c ∧
      scripted (Config.resized { readChunkSize := 2 } 0 0)
        [.data [0x81, 0x02, 0x68], .data [0x69, 0x89], .block, .data [0x00], .shutdown] [] = .ok d ∧
      delivered (c.run [.poll 0 true, .sendPing, .poll 0 true]).1 = [⟨.text, [0x68, 0x69]⟩] ∧
      (c.run [.poll 0 true, .sendPing, .poll 0 true]).1 =
        (d.run [.poll 0 true, .sendPing, .poll 0 true]).1 ∧
      Indistinct (c.run [.poll 0 true, .sendPing, .poll 0 true]).2
        (d.run [.poll 0 true, .sendPing, .poll 0 true]).2 := by
  obtain ⟨c, hc, hp⟩ := exists_scripted { readChunkSize := 2 }
    [.data [0x81, 0x02, 0x68], .data [0x69, 0x89], .block, .data [0x00], .shutdown] []
    (p := fun c =>
      delivered (c.run [.poll 0 true, .sendPing, .poll 0 true]).1 = [⟨.text, [0x68, 0x69]⟩])
    (by decide +kernel)
  obtain ⟨d, hd, hrun⟩ := run_resized Script.segmented hc 0 0
  obtain ⟨ho, hi, -⟩ := hrun [.poll 0 true, .sendPing, .poll 0 true]
  exact ⟨c, d, hc, hd, of_decide_eq_true hp, ho, hi⟩

end Connection

end

end WebSocket
