import WebSocket.Proofs.Upgrade.Endless
import WebSocket.Proofs.Upgrade.HeadLimit

/-!
# What a handshake costs

A call of the handshake blocks, or it is the last, or it takes a byte off what is left to
write or off what may still be read (`Paced`). So only calls that block make a handshake
longer than the request and the size limit of a head, and that does not rest on a peer
that ever falls silent: one that gives bytes for ever gets no further
(`negotiateWith_bounded`).
-/

namespace WebSocket

open Exchange (bytesIn)
open UpgradeResponse (maxHeadSize length_lt_of_parseWith?_eq_none)
open Handshake (readChunk)

variable {σ : Type}

-- ---------------------------------------------------------------------------
-- Calls
-- ---------------------------------------------------------------------------

namespace Exchange

def blocks : Exchange → Bool
  | .sent _ (.error .wouldBlock) => true
  | .received _ (.error .wouldBlock) => true
  | _ => false

def brings (e : Exchange) : Bool := !e.receivedBytes.isEmpty

theorem brings_of_blocks {e : Exchange} (h : e.blocks = true) : e.brings = false := by
  cases e with
  | received _ answer =>
    cases answer with
    | error => rfl
    | ok => cases h
  | sent | waited | idled | nodelaySet | closed => rfl

end Exchange

/-- The reads are of one size, `reads` of them at most bring bytes, and of the calls `calls`
at most neither block nor wait for one that has blocked. -/
structure Paced (calls reads : Nat) (exchanges : List Exchange) : Prop where
  room_eq : ∀ e ∈ exchanges, e.AsksFor readChunk
  reads_le : exchanges.countP Exchange.brings ≤ reads
  calls_le : exchanges.length ≤ calls + 2 * exchanges.countP Exchange.blocks

namespace Paced

variable {calls calls' reads reads' : Nat} {first later : List Exchange} {e : Exchange}

theorem nil : Paced 0 0 [] := ⟨nofun, Nat.le_refl _, Nat.le_refl _⟩

theorem append (h : Paced calls reads first) (h' : Paced calls' reads' later) :
    Paced (calls + calls') (reads + reads') (first ++ later) where
  room_eq := List.forall_mem_append.mpr ⟨h.room_eq, h'.room_eq⟩
  reads_le := by
    rw [List.countP_append]
    exact Nat.add_le_add h.reads_le h'.reads_le
  calls_le := by
    have := h.calls_le
    have := h'.calls_le
    rw [List.countP_append, List.length_append]
    omega

theorem mono (h : Paced calls reads first) (hc : calls ≤ calls') (hr : reads ≤ reads') :
    Paced calls' reads' first :=
  ⟨h.room_eq, Nat.le_trans h.reads_le hr, Nat.le_trans h.calls_le (Nat.add_le_add_right hc _)⟩

theorem single (h : e.AsksFor readChunk) : Paced 1 1 [e] where
  room_eq := List.forall_mem_singleton.mpr h
  reads_le := List.countP_le_length
  calls_le := Nat.le_add_right _ _

theorem silent (h : e.AsksFor readChunk) (hb : e.brings = false) : Paced 1 0 [e] where
  room_eq := List.forall_mem_singleton.mpr h
  reads_le := by simp [hb]
  calls_le := Nat.le_add_right _ _

theorem blocked (h : e.AsksFor readChunk) (hb : e.blocks = true) : Paced 0 0 [e] where
  room_eq := List.forall_mem_singleton.mpr h
  reads_le := by simp [Exchange.brings_of_blocks hb]
  calls_le := by simp [hb]

theorem waited (h : e.AsksFor readChunk) (hb : e.blocks = true) (interest : Interest)
    (timeout : Nat) (answer : Except IoKind Unit) :
    Paced 0 0 [e, .waited interest timeout answer] where
  room_eq := List.forall_mem_cons.mpr ⟨h, List.forall_mem_singleton.mpr trivial⟩
  reads_le := by
    have hw : (Exchange.waited interest timeout answer).brings = false := rfl
    simp [Exchange.brings_of_blocks hb, hw]
  calls_le := by
    have hw : (Exchange.waited interest timeout answer).blocks = false := rfl
    simp [hb, hw]

end Paced

abbrev Traced.Costs (calls reads : Nat) (t s : Traced σ) : Prop := Through (Paced calls reads) t s

namespace Traced.Costs

variable {calls calls' reads reads' : Nat} {t s u : Traced σ}

theorem refl (t : Traced σ) : Costs 0 0 t t := Through.refl .nil t

theorem trans (h : Costs calls reads t s) (h' : Costs calls' reads' s u) :
    Costs (calls + calls') (reads + reads') t u :=
  Through.trans h h' .append

theorem mono (h : Costs calls reads t s) (hc : calls ≤ calls') (hr : reads ≤ reads') :
    Costs calls' reads' t s :=
  Through.mono h (·.mono hc hr)

end Traced.Costs

namespace Handshake

open Traced (Costs)

section
variable [Transport σ]

theorem waitUntil_costs {e : Exchange} {deadline : Deadline} {interest : Interest}
    {t s u : Traced σ} {answer : Except Error Deadline} (hs : s.exchanges = t.exchanges ++ [e])
    (h : e.AsksFor readChunk) (hb : e.blocks = true)
    (hw : waitUntil deadline interest s = (answer, u)) : Costs 0 0 t u := by
  obtain rfl | ⟨timeout, waited, hw⟩ := waitUntil_cases hw
  · exact .single hs (.blocked h hb)
  · refine ⟨[e, .waited interest timeout waited], ?_, .waited h hb ..⟩
    rw [Traced.exchanges_wait hw, hs, List.append_assoc]
    rfl

theorem sendAll_costs (deadline : Deadline) (t : Traced σ) (pending : List UInt8) :
    Costs pending.length 0 t (sendAll deadline t pending).2 := by
  have sent {t s : Traced σ} {offered : List UInt8} {answer : Except IoKind Nat}
      (h : Transport.send t offered = (answer, s)) : Costs 1 0 t s :=
    .single (Traced.exchanges_send h) (.silent trivial rfl)
  fun_induction sendAll deadline t pending with
  | case1 deadline t => exact .refl t
  | case2 deadline t b rest s h => exact (sent h).mono (Nat.le_add_left ..) (Nat.le_refl _)
  | case3 deadline t b rest n s h ih =>
    refine ((sent h).trans ih).mono ?_ (Nat.le_refl _)
    simp only [List.length_drop, List.length_cons]
    omega
  | case4 deadline t b rest s h later u hw ih =>
    have hblocked := waitUntil_costs (Traced.exchanges_send h) trivial rfl hw
    exact (hblocked.trans ih).mono (Nat.le_of_eq (Nat.zero_add _)) (Nat.le_refl _)
  | case5 deadline t b rest s h e u hw =>
    have hblocked := waitUntil_costs (Traced.exchanges_send h) trivial rfl hw
    exact hblocked.mono (Nat.zero_le _) (Nat.le_refl _)
  | case6 deadline t b rest kind s hk h =>
    exact (sent h).mono (Nat.le_add_left ..) (Nat.le_refl _)

/-- Every read that does not block is paid for by a byte that is left below the size limit. -/
theorem readResponse_costs (read : HeadReader) (verify : Bool) (deadline : Deadline)
    (t : Traced σ) (q : ByteQueue) :
    Costs (maxHeadSize - q.contents.length) (maxHeadSize - q.contents.length) t
      (readResponse read verify deadline t q).2 := by
  have silent {t s : Traced σ} {answer : Except IoKind (List UInt8)}
      (h : Transport.recv t readChunk = (answer, s))
      (hn : (Exchange.received readChunk answer).brings = false) : Costs 1 0 t s :=
    .single (Traced.exchanges_recv h) (.silent rfl hn)
  fun_induction readResponse read verify deadline t q with
  | case1 deadline t q e hp => exact (Costs.refl t).mono (Nat.zero_le _) (Nat.zero_le _)
  | case2 deadline t q response consumed hp =>
    exact (Costs.refl t).mono (Nat.zero_le _) (Nat.zero_le _)
  | case3 deadline t q hp s h =>
    have hlt := length_lt_of_parseWith?_eq_none hp
    exact (silent h rfl).mono (Nat.sub_pos_of_lt hlt) (Nat.zero_le _)
  | case4 deadline t q hp q' b bytes s h ih =>
    have hlt := length_lt_of_parseWith?_eq_none hp
    have hread : Costs 1 1 t s := .single (Traced.exchanges_recv h) (.single rfl)
    have hq : (q'.append (b :: bytes)).contents.length = q.contents.length + bytes.length + 1 := by
      rw [ByteQueue.contents_append, ByteQueue.contents_reserve, List.length_append]
      rfl
    rw [hq] at ih
    exact (hread.trans ih).mono (by omega) (by omega)
  | case5 deadline t q hp q' s h later u hw ih =>
    have hblocked := waitUntil_costs (Traced.exchanges_recv h) rfl rfl hw
    exact (hblocked.trans ih).mono (Nat.le_of_eq (Nat.zero_add _)) (Nat.le_of_eq (Nat.zero_add _))
  | case6 deadline t q hp s h e u hw =>
    have hblocked := waitUntil_costs (Traced.exchanges_recv h) rfl rfl hw
    exact hblocked.mono (Nat.zero_le _) (Nat.zero_le _)
  | case7 deadline t q hp kind s hk h =>
    have hlt := length_lt_of_parseWith?_eq_none hp
    exact (silent h rfl).mono (Nat.sub_pos_of_lt hlt) (Nat.zero_le _)

theorem negotiateWith_costs {read : HeadReader} {clock : Clock} {s : σ} {endpoint : Endpoint}
    {config : Config} {answer : Except Error ByteQueue} {t : Traced σ}
    (h : negotiateWith read clock (Traced.fresh s) endpoint config = (answer, t)) :
    Costs ((UpgradeRequest.bytes endpoint handshakeKey config.origin).length + maxHeadSize)
      maxHeadSize (Traced.fresh s) t := by
  obtain ⟨e, -, -, rfl⟩ | ⟨sent, u, hs, h⟩ := negotiateWith_cases h
  · exact (Costs.refl _).mono (Nat.zero_le _) (Nat.zero_le _)
  · have hsend := sendAll_costs (clock.readings config.handshakeTimeout) (Traced.fresh s)
      (UpgradeRequest.bytes endpoint handshakeKey config.origin)
    rw [hs] at hsend
    obtain ⟨e, -, -, rfl⟩ | ⟨later, -, rfl⟩ := h
    · exact hsend.mono (Nat.le_add_right ..) (Nat.zero_le _)
    · have hread := readResponse_costs read config.verifyAccept later u (.withCapacity readChunk)
      exact (hsend.trans hread).mono (Nat.le_refl _) (Nat.le_of_eq (Nat.zero_add _))

end

/-- Whatever the stream and the clock do, a handshake makes every read with `readChunk`
bytes of room, and no more reads bring bytes than a head may have. What has come in passes
the limit by less than one read. The calls that neither block nor wait for one that has
blocked are no more than the bytes of the request and of such a head. No stream has to run
dry for that: where as many reads may bring bytes, an endless peer is not cut off. -/
theorem negotiateWith_bounded (read : HeadReader) (clock : Clock) (endpoint : Endpoint)
    (config : Config) :
    let request := UpgradeRequest.bytes endpoint handshakeKey config.origin
    (∀ {σ : Type} [Transport σ] (s : σ),
      let exchanges := (negotiateWith read clock (Traced.fresh s) endpoint config).2.exchanges
      Paced (request.length + maxHeadSize) maxHeadSize exchanges ∧
        (bytesIn exchanges).length ≤ maxHeadSize - 1 + readChunk) ∧
    ∀ {σ : Type} [Endless σ] (s : σ) (more : Nat),
      let rationed : Rationed σ := ⟨s, maxHeadSize + more⟩
      ∃ s', Endless.Plays s
        (negotiateWith read clock (Traced.fresh rationed) endpoint config).2.exchanges s' := by
  intro request
  constructor
  · intro σ _ s exchanges
    obtain ⟨later, hlater, hpaced⟩ :=
      negotiateWith_costs (rfl : negotiateWith read clock (Traced.fresh s) endpoint config = _)
    obtain ⟨-, hjudged⟩ := negotiateWith_limited read clock s endpoint config
    have he : exchanges = later := hlater
    rw [← he] at hpaced
    exact ⟨hpaced, Nat.le_of_lt_succ hjudged.held⟩
  · intro σ _ s more rationed
    exact ⟨_, negotiateWith_plays
      (rfl : negotiateWith read clock (Traced.fresh rationed) endpoint config = _)
      (Nat.le_add_right ..)⟩

/-- A peer that takes what it is sent and fills every read with the same byte. -/
structure Droning where
  byte : UInt8

instance : Endless Droning where
  send s offered := (.ok offered.length, s)
  recv s room := (.ok (List.replicate room s.byte), s)
  wait s _ _ := (.ok (), s)
  send_le h := by
    cases h
    exact Nat.le_refl _
  recv_le h := by
    cases h
    simp

/-- Such a peer is not cut off either. -/
theorem negotiateWith_bounded_droning :
    ∃ s', Endless.Plays (⟨0x48⟩ : Droning)
      (negotiateWith ResponseHead.scan (.patient 3)
        (Traced.fresh (⟨⟨0x48⟩, maxHeadSize⟩ : Rationed Droning))
        ⟨"localhost", 80, "/"⟩ {}).2.exchanges s' :=
  (negotiateWith_bounded ResponseHead.scan (.patient 3) ⟨"localhost", 80, "/"⟩ {}).2
    (⟨0x48⟩ : Droning) 0

end Handshake

end WebSocket
