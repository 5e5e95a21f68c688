import WebSocket.Proofs.Upgrade.Exchanges
import WebSocket.Proofs.Upgrade.Negotiation

/-!
# How much of a head is read

A head is held against the size limit only while it is incomplete, and before each
read. So no read is made once the limit has been reached, but the last one may go past
it by less than its own size, and a head that is complete then is accepted
(`negotiateWith_limited`). A head that fills the limit and is still incomplete is
refused.
-/

namespace WebSocket.Handshake

open Exchange (bytesIn)
open Traced (Only Carries)
open UpgradeResponse (maxHeadSize parseWith? headerSlots length_lt_of_parseWith?_eq_none)

variable {σ : Type} [Transport σ] {read : HeadReader} {t s u : Traced σ}

-- ---------------------------------------------------------------------------
-- Reads
-- ---------------------------------------------------------------------------

/-- A read of `readChunk` bytes at most, made while what has been heard is no complete
head and below the limit. -/
structure Due (read : HeadReader) (heard : List UInt8) (e : Exchange) : Prop where
  room : ∃ answer, e = .received readChunk answer
  incomplete : parseWith? read heard = .ok none
  below : heard.length < maxHeadSize

def Asks (read : HeadReader) (t s : Traced σ) : Prop :=
  ∃ later, s.exchanges = t.exchanges ++ later ∧
    ∀ before e after, later = before ++ e :: after → e.isRecv = true →
      Due read (bytesIn (t.exchanges ++ before)) e

section

omit [Transport σ]

theorem Asks.of_only (h : Only (·.isRecv = false) t s) : Asks read t s := by
  obtain ⟨later, hs, hn⟩ := h
  refine ⟨later, hs, fun before e after he hr => ?_⟩
  have hm : e ∈ later := by
    rw [he]
    exact List.mem_append_right _ (.head _)
  rw [hn e hm] at hr
  cases hr

theorem Asks.trans (h : Asks read t s) (h' : Asks read s u) : Asks read t u := by
  obtain ⟨first, hs, hf⟩ := h
  obtain ⟨later, hu, hl⟩ := h'
  refine ⟨first ++ later, by rw [hu, hs, List.append_assoc], fun before e after he hr => ?_⟩
  -- the read is among the later exchanges, or among the first ones
  rcases List.append_eq_append_iff.mp he with ⟨before, rfl, hbefore⟩ | ⟨rest, hfirst, hrest⟩
  · have hd := hl before e after hbefore hr
    rwa [hs, List.append_assoc] at hd
  · cases rest with
    | nil =>
      have hd := hl [] e after hrest.symm hr
      rwa [hs, hfirst, List.append_nil, List.append_nil] at hd
    | cons x rest =>
      obtain ⟨rfl, -⟩ := List.cons.inj hrest
      exact hf before e rest hfirst hr

theorem bytesIn_of_only (h : Only (·.isRecv = false) t s) :
    bytesIn s.exchanges = bytesIn t.exchanges := by
  obtain ⟨later, hs, hn⟩ := h
  have hsilent : bytesIn later = [] := by
    refine List.flatMap_eq_nil_iff.mpr fun e he => ?_
    cases e with
    | received => cases hn _ he
    | sent | waited | idled | nodelaySet | closed => rfl
  rw [hs, Exchange.bytesIn_append, hsilent, List.append_nil]

end

theorem Asks.recv {answer : Except IoKind (List UInt8)}
    (hp : parseWith? read (bytesIn t.exchanges) = .ok none)
    (h : Transport.recv t readChunk = (answer, s)) : Asks read t s := by
  refine ⟨_, Traced.exchanges_recv h, fun before e after he hr => ?_⟩
  cases before with
  | nil =>
    obtain ⟨rfl, -⟩ := List.cons.inj he
    rw [List.append_nil]
    exact ⟨⟨answer, rfl⟩, hp, length_lt_of_parseWith?_eq_none hp⟩
  | cons x before => simp at he

-- ---------------------------------------------------------------------------
-- The reading loop
-- ---------------------------------------------------------------------------

section
variable {buffer : List UInt8}

theorem parseWith?_of_more (h : read (headerSlots buffer) buffer = .more)
    (hl : maxHeadSize ≤ buffer.length) :
    parseWith? read buffer = .error (.invalidHttp "response head too large") := by
  simp only [parseWith?, h, if_pos hl]

theorem consumed_le {response : UpgradeResponse} {consumed : Nat}
    (h : parseWith? read buffer = .ok (some (response, consumed))) : consumed ≤ buffer.length := by
  unfold parseWith? at h
  split at h
  · next head rest _ =>
    cases ho : UpgradeResponse.ofHead head with
    | error e => rw [ho] at h; cases h
    | ok response =>
      rw [ho] at h
      cases h
      exact Nat.sub_le ..
  · split at h <;> cases h
  · cases h

end

/-- How reading has ended. The head that is accepted and what follows it are together
all that was read, which passes the limit by less than one read. One that reaches the
limit without an end is refused. -/
structure Judged (read : HeadReader) (t : Traced σ) (answer : Except Error (List UInt8)) :
    Prop where
  held : (bytesIn t.exchanges).length < maxHeadSize + readChunk
  accepted : ∀ leftover, answer = .ok leftover → ∃ response consumed,
    parseWith? read (bytesIn t.exchanges) = .ok (some (response, consumed)) ∧
      leftover = (bytesIn t.exchanges).drop consumed ∧ consumed < maxHeadSize + readChunk
  refused : read (headerSlots (bytesIn t.exchanges)) (bytesIn t.exchanges) = .more →
    maxHeadSize ≤ (bytesIn t.exchanges).length →
    answer = .error (.invalidHttp "response head too large")

section

omit [Transport σ]

theorem Judged.of_incomplete (hp : parseWith? read (bytesIn t.exchanges) = .ok none)
    (e : Error) : Judged read t (.error e) where
  held := Nat.lt_add_right _ (length_lt_of_parseWith?_eq_none hp)
  accepted := nofun
  refused _ hl := absurd hl (Nat.not_le.mpr (length_lt_of_parseWith?_eq_none hp))

theorem Judged.of_unread (h : bytesIn t.exchanges = []) (e : Error) :
    Judged read t (.error e) where
  held := by rw [h]; decide
  accepted := nofun
  refused _ hl := by
    rw [h] at hl
    exact absurd hl (by decide)

end

theorem waitUntil_only_waits {deadline : Deadline} {interest : Interest}
    {answer : Except Error Deadline} (h : waitUntil deadline interest t = (answer, s)) :
    Only (·.isRecv = false) t s :=
  waitUntil_only (fun _ _ _ => rfl) h

theorem readResponse_judged (read : HeadReader) (verify : Bool) (deadline : Deadline)
    (t : Traced σ) (q : ByteQueue) (hq : bytesIn t.exchanges = q.contents)
    (hl : q.contents.length < maxHeadSize + readChunk) :
    Asks read t (readResponse read verify deadline t q).2 ∧
      Judged read (readResponse read verify deadline t q).2
        (readResponse read verify deadline t q).1 := by
  have silent {t s : Traced σ} {answer : Except IoKind (List UInt8)}
      (h : Transport.recv t readChunk = (answer, s))
      (hn : (Exchange.received readChunk answer).receivedBytes = []) :
      bytesIn s.exchanges = bytesIn t.exchanges := by
    rw [(Carries.single (Traced.exchanges_recv h)).bytesIn_eq, hn, List.append_nil]
  fun_induction readResponse read verify deadline t q with
  | case1 deadline t q e hp =>
    rw [← hq] at hp hl
    refine ⟨.of_only (.refl t), hl, fun leftover ha => ?_, fun hm hlimit => ?_⟩
    · cases ha
    · cases hp.symm.trans (parseWith?_of_more hm hlimit)
      rfl
  | case2 deadline t q response consumed hp =>
    rw [← hq] at hp hl ⊢
    refine ⟨.of_only (.refl t), hl, fun leftover ha => ?_, fun hm hlimit => ?_⟩
    · refine ⟨response, consumed, hp, ?_, Nat.lt_of_le_of_lt (consumed_le hp) hl⟩
      cases hc : checkAccept verify response with
      | error e => rw [hc] at ha; cases ha
      | ok => rw [hc] at ha; cases ha; rfl
    · cases hp.symm.trans (parseWith?_of_more hm hlimit)
  | case3 deadline t q hp s h =>
    rw [← hq] at hp
    exact ⟨.recv hp h, .of_incomplete (silent h rfl ▸ hp) _⟩
  | case4 deadline t q hp q' b bytes s h =>
    rename_i ih
    have hlt := length_lt_of_parseWith?_eq_none hp
    have hle := Transport.recv_le h
    have hcontents : (q'.append (b :: bytes)).contents = q.contents ++ b :: bytes := by
      rw [ByteQueue.contents_append, ByteQueue.contents_reserve]
    have hs : bytesIn s.exchanges = (q'.append (b :: bytes)).contents := by
      rw [(Carries.single (Traced.exchanges_recv h)).bytesIn_eq, hcontents, hq]
      rfl
    rw [← hq] at hp
    have hi := ih hs (by rw [hcontents, List.length_append]; omega)
    exact ⟨(Asks.recv hp h).trans hi.1, hi.2⟩
  | case5 deadline t q hp q' s h later u hw =>
    rename_i ih
    have hu := (bytesIn_of_only (waitUntil_only_waits hw)).trans (silent h rfl)
    have hi := ih (hu.trans hq) hl
    rw [← hq] at hp
    exact ⟨((Asks.recv hp h).trans (.of_only (waitUntil_only_waits hw))).trans hi.1, hi.2⟩
  | case6 deadline t q hp s h e u hw =>
    have hu := (bytesIn_of_only (waitUntil_only_waits hw)).trans (silent h rfl)
    rw [← hq] at hp
    exact ⟨(Asks.recv hp h).trans (.of_only (waitUntil_only_waits hw)), .of_incomplete (hu ▸ hp) _⟩
  | case7 deadline t q hp kind s hk h =>
    rw [← hq] at hp
    exact ⟨.recv hp h, .of_incomplete (silent h rfl ▸ hp) _⟩

-- ---------------------------------------------------------------------------
-- The whole handshake
-- ---------------------------------------------------------------------------

/-- Whatever the stream does, a handshake reads only while the head is incomplete and
below the limit, `readChunk` bytes at most each time. So the head that it accepts may
pass the limit, by less than one read. -/
theorem negotiateWith_limited (read : HeadReader) (clock : Clock) (p : σ) (endpoint : Endpoint)
    (config : Config) :
    let outcome := negotiateWith read clock (Traced.fresh p) endpoint config
    Asks read (Traced.fresh p) outcome.2 ∧
      Judged read outcome.2 (outcome.1.map ByteQueue.contents) := by
  have hsend : Only (·.isRecv = false) (Traced.fresh p) _ :=
    sendAll_only (fun _ _ => rfl) (fun _ _ _ => rfl) (clock.readings config.handshakeTimeout) _
      (UpgradeRequest.bytes endpoint handshakeKey config.origin)
  unfold negotiateWith
  split
  · exact ⟨.of_only (.refl _), .of_unread rfl _⟩
  · dsimp only
    split
    · next hs =>
      rw [hs] at hsend
      exact ⟨.of_only hsend, .of_unread (bytesIn_of_only hsend) _⟩
    · next deadline t hs =>
      rw [hs] at hsend
      have hq : bytesIn t.exchanges = (ByteQueue.withCapacity readChunk).contents :=
        bytesIn_of_only hsend
      obtain ⟨hasks, hjudged⟩ := readResponse_judged read config.verifyAccept deadline t
        (.withCapacity readChunk) hq (by decide)
      split <;> next hr =>
        rw [hr] at hasks hjudged
        exact ⟨(Asks.of_only hsend).trans hasks, hjudged⟩

def acceptedLength? (read : HeadReader) : Except Error ByteQueue × Traced σ → Option Nat
  | (.ok _, t) => (parseWith? read (bytesIn t.exchanges)).toOption.bind (Option.map Prod.snd)
  | (.error _, _) => none

/-- A peer that sends a blank line and, behind it, the rest of a head that is one byte
longer than the limit. -/
def overlong : Script where
  reads := [.data [0x0A],
    .data (List.replicate 8175 0x0A ++ Utf8.encode "HTTP/1.1 101 \r\n\r\n")]

/-- Eight reads of the rest begin below the limit, and the last of them brings the end of
the head, which is accepted. -/
theorem negotiateWith_overlong :
    acceptedLength? ResponseHead.scan (negotiateWith ResponseHead.scan (.patient 1)
      (Traced.fresh overlong) ⟨"localhost", 80, "/"⟩ {}) = some (maxHeadSize + 1) := by
  decide +kernel

end WebSocket.Handshake
