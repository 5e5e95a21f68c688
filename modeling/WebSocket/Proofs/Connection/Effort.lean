import WebSocket.Proofs.Connection.Lifecycle

/-!
# What a poll costs

Every read and every write of a poll but the last of each moves a byte (`poll_spends`), and
every frame that dispatch handles has two bytes at least (`Dispatches.length_le`). So what a
poll does is bounded by the bytes that the stream gives before it blocks, by the bytes that
it takes, and by the bytes that are there (`poll_bounded`).
-/

namespace WebSocket

open Exchange (bytesIn bytesOut)

variable {σ : Type}

-- ---------------------------------------------------------------------------
-- Calls and bytes
-- ---------------------------------------------------------------------------

/-- Every read has room for `room` bytes, and all but `reads` of the reads and `writes` of
the writes move a byte of their own. -/
structure Frugal (room reads writes : Nat) (exchanges : List Exchange) : Prop where
  room_eq : ∀ e ∈ exchanges, e.AsksFor room
  reads_le : exchanges.countP Exchange.isRecv ≤ (bytesIn exchanges).length + reads
  writes_le : exchanges.countP Exchange.isSend ≤ (bytesOut exchanges).length + writes

namespace Frugal

variable {room reads reads' writes writes' : Nat} {first later : List Exchange}

theorem nil : Frugal room 0 0 [] := ⟨nofun, Nat.le_refl _, Nat.le_refl _⟩

theorem append (h : Frugal room reads writes first) (h' : Frugal room reads' writes' later) :
    Frugal room (reads + reads') (writes + writes') (first ++ later) where
  room_eq := List.forall_mem_append.mpr ⟨h.room_eq, h'.room_eq⟩
  reads_le := by
    have := h.reads_le
    have := h'.reads_le
    simp only [List.countP_append, Exchange.bytesIn_append, List.length_append]
    omega
  writes_le := by
    have := h.writes_le
    have := h'.writes_le
    simp only [List.countP_append, Exchange.bytesOut_append, List.length_append]
    omega

theorem mono (h : Frugal room reads writes first) (hr : reads ≤ reads') (hw : writes ≤ writes') :
    Frugal room reads' writes' first :=
  ⟨h.room_eq, Nat.le_trans h.reads_le (Nat.add_le_add_left hr _),
    Nat.le_trans h.writes_le (Nat.add_le_add_left hw _)⟩

theorem other {e : Exchange} (hr : e.isRecv = false) (hs : e.isSend = false) :
    Frugal room 0 0 [e] := by
  refine ⟨List.forall_mem_singleton.mpr ?_, by simp [hr], by simp [hs]⟩
  cases e with
  | received => cases hr
  | sent | waited | idled | nodelaySet | closed => trivial

theorem received {answer : Except IoKind (List UInt8)}
    (h : 1 ≤ (Exchange.received room answer).receivedBytes.length + reads) :
    Frugal room reads 0 [.received room answer] where
  room_eq := List.forall_mem_singleton.mpr rfl
  reads_le := by simpa [bytesIn, Exchange.isRecv] using h
  writes_le := Nat.zero_le _

theorem sent {offered : List UInt8} {answer : Except IoKind Nat}
    (h : 1 ≤ (Exchange.sent offered answer).writtenBytes.length + writes) :
    Frugal room 0 writes [.sent offered answer] where
  room_eq := List.forall_mem_singleton.mpr trivial
  reads_le := Nat.zero_le _
  writes_le := by simpa [bytesOut, Exchange.isSend] using h

end Frugal

abbrev Traced.Spends (room reads writes : Nat) (t s : Traced σ) : Prop :=
  Through (Frugal room reads writes) t s

namespace Traced.Spends

variable {room reads reads' writes writes' : Nat} {t s u : Traced σ}

theorem refl (t : Traced σ) : Spends room 0 0 t t := Through.refl .nil t

theorem trans (h : Spends room reads writes t s) (h' : Spends room reads' writes' s u) :
    Spends room (reads + reads') (writes + writes') t u :=
  Through.trans h h' .append

theorem mono (h : Spends room reads writes t s) (hr : reads ≤ reads') (hw : writes ≤ writes') :
    Spends room reads' writes' t s :=
  Through.mono h (·.mono hr hw)

variable [Transport σ]

theorem recv {answer : Except IoKind (List UInt8)} (h : Transport.recv t room = (answer, s))
    (hn : 1 ≤ (Exchange.received room answer).receivedBytes.length + reads) :
    Spends room reads 0 t s :=
  .single (exchanges_recv h) (.received hn)

theorem send {offered : List UInt8} {answer : Except IoKind Nat}
    (h : Transport.send t offered = (answer, s))
    (hn : 1 ≤ (Exchange.sent offered answer).writtenBytes.length + writes) :
    Spends room 0 writes t s :=
  .single (exchanges_send h) (.sent hn)

theorem write {offered : List UInt8} {n : Nat}
    (h : Transport.send t offered = (.ok (n + 1), s)) : Spends room 0 0 t s := by
  have hle := Transport.send_le h
  refine send h ?_
  simp only [Exchange.writtenBytes, List.length_take]
  omega

theorem wait {interest : Interest} {timeout : Nat} {answer : Except IoKind Unit}
    (h : Transport.wait t interest timeout = (answer, s)) : Spends room 0 0 t s :=
  .single (exchanges_wait h) (.other rfl rfl)

theorem idle (t : Traced σ) (time : Nat) : Spends room 0 0 t (Transport.idle t time) :=
  .single (exchanges_idle t time) (.other rfl rfl)

theorem close (t : Traced σ) : Spends room 0 0 t (Transport.close t) :=
  .single (exchanges_close t) (.other rfl rfl)

end Traced.Spends

namespace Connection

open Traced (Spends)

-- ---------------------------------------------------------------------------
-- Exchange
-- ---------------------------------------------------------------------------

section
variable [Transport σ] (c : Connection (Traced σ))

theorem fill_spends : Spends c.readChunk 1 0 c.stream c.fill.stream := by
  fun_induction fill c with
  | case1 c s h => exact (Spends.recv h (Nat.succ_pos _)).trans (.close s)
  | case2 c b bytes s h inbound ih =>
    have hread : Spends c.readChunk 0 0 c.stream s := .recv h (Nat.succ_pos _)
    exact hread.trans ih
  | case3 c s h => exact .recv h (Nat.succ_pos _)
  | case4 c kind s hk h => exact (Spends.recv h (Nat.succ_pos _)).trans (.close s)

theorem flush_spends (room : Nat) : Spends room 0 1 c.stream c.flush.stream := by
  fun_induction flush c with
  | case1 c he => exact (Spends.refl c.stream).mono (Nat.le_refl 0) (Nat.zero_le 1)
  | case2 c he s h => exact (Spends.send h (Nat.succ_pos _)).trans (.close s)
  | case3 c he n s h ih => exact (Spends.write h).trans ih
  | case4 c he s h => exact .send h (Nat.succ_pos _)
  | case5 c he kind s hk h => exact (Spends.send h (Nat.succ_pos _)).trans (.close s)

theorem finish_spends (room : Nat) : Spends room 0 0 c.stream c.finish.stream := by
  unfold finish
  split
  · exact .close c.stream
  · exact .refl c.stream

theorem exchange_spends : Spends c.readChunk 1 1 c.stream c.exchange.stream :=
  (c.fill_spends.trans (c.fill.flush_spends _)).trans (c.fill.flush.finish_spends _)

theorem poll_spends (timeout : Nat) (listening : Bool) :
    Spends c.readChunk 1 1 c.stream (c.poll timeout listening).2.stream := by
  have hexchange (d : Connection (Traced σ)) : Spends d.readChunk 1 1 d.stream
      (if listening then d.exchange.dispatch else ([], d.exchange)).2.stream := by
    cases listening with
    | true => simpa [stream_dispatch] using d.exchange_spends
    | false => exact d.exchange_spends
  unfold poll
  split
  · exact (Spends.idle c.stream timeout).mono (Nat.zero_le 1) (Nat.zero_le 1)
  · unfold waitReady
    by_cases ht : timeout = 0
    · rw [if_pos ht]
      exact hexchange c
    · rw [if_neg ht]
      cases hw : Transport.wait c.stream (.forOutput !c.outbound.isEmpty) timeout with
      | mk answer s =>
        have hwait : Spends c.readChunk 0 0 c.stream s := .wait hw
        cases answer with
        | error kind => exact (hwait.trans (.close s)).mono (Nat.zero_le 1) (Nat.zero_le 1)
        | ok =>
          have hall := hwait.trans (hexchange { c with stream := s })
          simpa using hall

end

-- ---------------------------------------------------------------------------
-- The size of a read
-- ---------------------------------------------------------------------------

section
variable (c : Connection σ)

theorem readChunk_queueFrame (opcode : Opcode) (payload : List UInt8) :
    (c.queueFrame opcode payload).readChunk = c.readChunk := by
  unfold queueFrame
  split <;> rfl

theorem readChunk_close : c.close.readChunk = c.readChunk := by
  unfold close
  split <;> rfl

theorem readChunk_violate (e : Error) : (c.violate e).readChunk = c.readChunk := by
  rw [violate, readChunk_close]

variable {c} {d : Connection σ} {events : List Event}

theorem FrameMove.readChunk_eq {p : Wire.Piece} (h : FrameMove c p events d) :
    d.readChunk = c.readChunk := by
  cases h with
  | take | ignore => rfl
  | answer => exact readChunk_queueFrame ..
  | close => exact readChunk_close _

theorem Breach.readChunk_eq (h : Breach c events d) : d.readChunk = c.readChunk := by
  cases h with
  | refuse | overflow => exact readChunk_violate ..

variable [Transport σ]

theorem StreamMove.readChunk_eq (h : StreamMove c d) : d.readChunk = c.readChunk := by
  cases h <;> rfl

theorem Step.readChunk_eq (h : Step c events d) : d.readChunk = c.readChunk := by
  cases h with
  | stream _ h => exact h.readChunk_eq
  | idle => rfl
  | frame h => exact h.readChunk_eq
  | breach h => exact h.readChunk_eq

theorem Move.readChunk_eq (h : Move c events d) : d.readChunk = c.readChunk := by
  cases h with
  | step h => exact h.readChunk_eq
  | send => exact readChunk_queueFrame ..
  | close => exact readChunk_close c

theorem Chain.readChunk_eq (h : Path c events d) : d.readChunk = c.readChunk := by
  induction h with
  | nil => rfl
  | cons h _ ih => exact ih.trans h.readChunk_eq

theorem readChunk_run (hc : c.Coherent) (operations : List Operation) :
    (c.run operations).2.readChunk = c.readChunk := by
  obtain ⟨_, hp, -⟩ := run_path hc operations
  exact hp.readChunk_eq

theorem readChunk_of_establish {clock : Clock} {keys : KeySource} {s : σ} {endpoint : Endpoint}
    {config : Config} (h : establish clock keys s endpoint config = .ok c) :
    c.readChunk = max config.readChunkSize 1 := by
  unfold establish at h
  split at h
  · cases h
  · cases h
    rfl

end

-- ---------------------------------------------------------------------------
-- Frames and bytes
-- ---------------------------------------------------------------------------

/-- A frame as dispatch finds it: how long it is, and how many bytes are there. -/
structure Found where
  size : Nat
  held : Nat

/-- The frames that dispatch handles, one after the other. The bytes of a frame that
violates the protocol are dropped with all that is there. -/
inductive Dispatches : Connection σ → List Found → Connection σ → Prop
  | discards {c} (hd : c.discarding = true) : Dispatches c [] c
  | settles {c buffer} (h : Frame.decode c.frameLimit c.inbound.contents = (.ok none, buffer)) :
      Dispatches c [] c
  | refuses {c e buffer} (h : Frame.decode c.frameLimit c.inbound.contents = (.error e, buffer)) :
      Dispatches c [] (c.violate e)
  | rejects {c header buffer e d}
      (h : Frame.decode c.frameLimit c.inbound.contents = (.ok (some header), buffer))
      (hh : { c with inbound := c.inbound.overwrite buffer }.handle
        ⟨header, header.payload buffer⟩ = (.error e, d)) :
      Dispatches c [⟨header.frameLength, c.inbound.length⟩] (d.violate e)
  | takes {c header buffer message next found d}
      (h : Frame.decode c.frameLimit c.inbound.contents = (.ok (some header), buffer))
      (hh : { c with inbound := c.inbound.overwrite buffer }.handle
        ⟨header, header.payload buffer⟩ = (.ok message, next))
      (t : Dispatches { next with inbound := next.inbound.consume header.frameLength } found d) :
      Dispatches c (⟨header.frameLength, c.inbound.length⟩ :: found) d

section
variable {c d : Connection σ} {found : List Found} {header : FrameHeader} {buffer : List UInt8}

theorem handleFrames_dispatches (c : Connection σ) :
    ∃ found, Dispatches c found c.handleFrames.2 := by
  fun_induction handleFrames c with
  | case1 c e buffer h => exact ⟨_, .refuses h⟩
  | case2 c buffer h => exact ⟨_, .settles h⟩
  | case3 c header buffer h e d hh => exact ⟨_, .rejects h hh⟩
  | case4 c header buffer h message next hh messages d hn ih =>
    obtain ⟨found, ht⟩ := ih
    rw [hn] at ht
    exact ⟨_, .takes h hh ht⟩

theorem dispatch_dispatches (c : Connection σ) : ∃ found, Dispatches c found c.dispatch.2 := by
  unfold dispatch
  split
  · next hd => exact ⟨_, .discards hd⟩
  · exact handleFrames_dispatches c

theorem length_consume_of_handle {message : Option Message} {next : Connection σ}
    (h : Frame.decode c.frameLimit c.inbound.contents = (.ok (some header), buffer))
    (hh : { c with inbound := c.inbound.overwrite buffer }.handle
      ⟨header, header.payload buffer⟩ = (.ok message, next)) :
    (next.inbound.consume header.frameLength).length = c.inbound.length - header.frameLength := by
  have hi := inbound_handle { c with inbound := c.inbound.overwrite buffer }
    ⟨header, header.payload buffer⟩
  have hb : buffer.length = c.inbound.contents.length := by
    rw [← Frame.length_decode c.frameLimit c.inbound.contents, h]
  rw [hh] at hi
  replace hi : next.inbound.contents = buffer := by
    rw [hi, ByteQueue.contents_overwrite]
  rw [ByteQueue.length, ByteQueue.contents_consume, List.length_drop, hi, hb]
  rfl

theorem Dispatches.sizes (h : Dispatches c found d) :
    ∀ f ∈ found, 2 ≤ f.size ∧ f.size ≤ f.held := by
  induction h with
  | discards | settles | refuses => exact nofun
  | rejects h =>
    exact List.forall_mem_singleton.mpr (Frame.frameLength_of_decode (congrArg Prod.fst h))
  | takes h _ _ ih =>
    exact List.forall_mem_cons.mpr ⟨Frame.frameLength_of_decode (congrArg Prod.fst h), ih⟩

theorem Dispatches.length_le (h : Dispatches c found d) : 2 * found.length ≤ c.inbound.length := by
  induction h with
  | discards | settles | refuses => exact Nat.zero_le _
  | rejects h =>
    obtain ⟨htwo, hsize⟩ := Frame.frameLength_of_decode (congrArg Prod.fst h)
    exact Nat.le_trans htwo hsize
  | takes h hh _ ih =>
    obtain ⟨htwo, hsize⟩ := Frame.frameLength_of_decode (congrArg Prod.fst h)
    rw [length_consume_of_handle h hh] at ih
    simp only [ByteQueue.length, List.length_cons] at ih ⊢
    omega

end

-- ---------------------------------------------------------------------------
-- Polls
-- ---------------------------------------------------------------------------

variable [Transport σ]

/-- In any run, a poll reads with the chunk that the configuration sets, one byte if that is
none. At most one of its reads and one of its writes move nothing, and dispatch handles at
most one frame for every two bytes that it finds. -/
theorem poll_bounded {clock : Clock} {keys : KeySource} {s : Traced σ} {endpoint : Endpoint}
    {config : Config} {c : Connection (Traced σ)}
    (h : establish clock keys s endpoint config = .ok c) (operations : List Operation)
    (timeout : Nat) (listening : Bool) :
    let d := (c.run operations).2
    let polled := (d.poll timeout listening).2
    Frugal (max config.readChunkSize 1) 1 1 (polled.stream.since d.stream) ∧
      ∀ e, d.dispatched? (.poll timeout listening) = some e →
        ∃ found, Dispatches e found polled ∧ (∀ f ∈ found, 2 ≤ f.size ∧ f.size ≤ f.held) ∧
          found.length ≤ e.inbound.length / 2 := by
  intro d polled
  constructor
  · have hroom : d.readChunk = max config.readChunkSize 1 := by
      rw [readChunk_run (fresh_of_establish h).coherent, readChunk_of_establish h]
    rw [← hroom]
    exact (d.poll_spends timeout listening).since
  · intro e he
    obtain ⟨-, happly⟩ := operation_of_dispatched he
    have hpolled : polled = e.dispatch.2 := (Prod.mk.inj happly).2
    obtain ⟨found, hd⟩ := e.dispatch_dispatches
    rw [hpolled]
    exact ⟨found, hd, hd.sizes, (Nat.le_div_iff_mul_le Nat.two_pos).mpr
      (Nat.mul_comm 2 _ ▸ hd.length_le)⟩

/-- With a chunk of no bytes the stream is read byte by byte: five bytes in six reads, which
make a text and a ping. The text that is queued goes out in two writes. -/
theorem poll_bounded_bytewise :
    ∃ c d e, scripted { readChunkSize := 0 } [.data [0x81, 0x01, 0x41, 0x89, 0x00]]
        [.accept 1, .accept 6] = .ok c ∧
      d = (c.run [.sendText "B"]).2 ∧ d.dispatched? (.poll 0 true) = some e ∧
      ((d.poll 0 true).2.stream.since d.stream).countP Exchange.isRecv = 6 ∧
      Frugal 1 1 1 ((d.poll 0 true).2.stream.since d.stream) ∧
      ∃ found, Dispatches e found (d.poll 0 true).2 ∧
        (∀ f ∈ found, 2 ≤ f.size ∧ f.size ≤ f.held) ∧ found.length ≤ e.inbound.length / 2 := by
  obtain ⟨c, h, hp⟩ := exists_scripted { readChunkSize := 0 }
    [.data [0x81, 0x01, 0x41, 0x89, 0x00]] [.accept 1, .accept 6]
    (p := fun c =>
      ((c.run [.sendText "B"]).2.dispatched? (.poll 0 true)).isSome &&
      ((((c.run [.sendText "B"]).2.poll 0 true).2.stream.since
        (c.run [.sendText "B"]).2.stream).countP Exchange.isRecv == 6))
    (by decide +kernel)
  obtain ⟨hsome, hreads⟩ := Bool.and_eq_true_iff.mp hp
  obtain ⟨e, he⟩ := Option.isSome_iff_exists.mp hsome
  obtain ⟨hfrugal, hdispatch⟩ := poll_bounded h [.sendText "B"] 0 true
  exact ⟨c, _, e, h, rfl, he, eq_of_beq hreads, hfrugal, hdispatch e he⟩

end Connection

end WebSocket
