import WebSocket.Proofs.Trace
import WebSocket.Proofs.Tracing
import WebSocket.Proofs.Upgrade.Peer
import WebSocket.Proofs.Upgrade.Verdict

/-!
# A handshake does not depend on the cuts

However a stream takes the request and cuts the response, and however often it
blocks while there is time, the handshake writes the whole request and ends with
the verdict on the head of the response (`negotiateWith_answered`). What was read
behind the head and what was not read yet are together what follows the head.
-/

namespace WebSocket

open Exchange (bytesIn bytesOut)

def Deadline.Allows (deadline : Deadline) (waits : Nat) : Prop :=
  waits ≤ (deadline.takeWhile (· != 0)).length

instance (deadline : Deadline) (waits : Nat) : Decidable (deadline.Allows waits) :=
  inferInstanceAs (Decidable (_ ≤ _))

theorem Deadline.Allows.look {deadline : Deadline} {waits fewer : Nat} (h : deadline.Allows waits)
    (hf : fewer < waits) :
    ∃ left later, deadline.look = some (left, later) ∧ 0 < left ∧ Deadline.Allows later fewer := by
  unfold Allows at h
  cases deadline with
  | nil => exact absurd h (by simp; omega)
  | cons left later =>
    by_cases hl : left = 0
    · rw [hl, List.takeWhile_cons_of_neg (by decide)] at h
      exact absurd h (by simp; omega)
    · rw [List.takeWhile_cons_of_pos (by simpa using hl), List.length_cons] at h
      refine ⟨left, later, if_neg hl, Nat.pos_of_ne_zero hl, ?_⟩
      unfold Allows
      omega

-- ---------------------------------------------------------------------------
-- Bytes exchanged
-- ---------------------------------------------------------------------------

structure Traced.Carries {σ : Type} (t s : Traced σ) (received written : List UInt8) : Prop where
  bytesIn_eq : bytesIn s.exchanges = bytesIn t.exchanges ++ received
  bytesOut_eq : bytesOut s.exchanges = bytesOut t.exchanges ++ written

namespace Traced.Carries

variable {σ : Type} {t s u : Traced σ} {received received' written written' : List UInt8}

theorem refl (t : Traced σ) : Carries t t [] [] :=
  ⟨(List.append_nil _).symm, (List.append_nil _).symm⟩

theorem trans (h : Carries t s received written) (h' : Carries s u received' written') :
    Carries t u (received ++ received') (written ++ written') where
  bytesIn_eq := by rw [h'.bytesIn_eq, h.bytesIn_eq, List.append_assoc]
  bytesOut_eq := by rw [h'.bytesOut_eq, h.bytesOut_eq, List.append_assoc]

theorem single {e : Exchange} (h : s.exchanges = t.exchanges ++ [e]) :
    Carries t s e.receivedBytes e.writtenBytes where
  bytesIn_eq := by
    rw [h, Exchange.bytesIn_append]
    exact congrArg _ (List.append_nil _)
  bytesOut_eq := by
    rw [h, Exchange.bytesOut_append]
    exact congrArg _ (List.append_nil _)

end Traced.Carries

namespace Handshake

open Traced (Carries)

variable {σ : Type} [Transport σ] {view : Traced σ → Nat → List UInt8 → Prop}

-- ---------------------------------------------------------------------------
-- Writing the request
-- ---------------------------------------------------------------------------

theorem waitUntil_obliging (hv : Obliging view) {deadline : Deadline} {interest : Interest}
    {t s : Traced σ} {answer : Except Error Deadline}
    (hs : waitUntil deadline interest t = (answer, s)) {fewer blocks : Nat} {rest : List UInt8}
    (h : view t fewer rest) (hd : deadline.Allows blocks) (hf : fewer < blocks) :
    ∃ later, answer = .ok later ∧ view s fewer rest ∧ later.Allows fewer ∧
      Carries t s [] [] := by
  obtain ⟨left, later, hl, hpos, hlater⟩ := hd.look hf
  obtain ⟨u, hw, hu⟩ := hv.wait interest left h hpos
  rw [waitUntil, hl] at hs
  dsimp only at hs
  rw [hw] at hs
  cases hs
  exact ⟨later, rfl, hu, hlater, .single (Traced.exchanges_wait hw)⟩

theorem sendAll_obliging (hv : Obliging view) (deadline : Deadline) (t : Traced σ)
    (pending : List UInt8) {blocks : Nat} {rest : List UInt8} (h : view t blocks rest)
    (hd : deadline.Allows blocks) :
    ∃ later s fewer, sendAll deadline t pending = (.ok later, s) ∧ view s fewer rest ∧
      later.Allows fewer ∧ Carries t s [] pending := by
  fun_induction sendAll deadline t pending generalizing blocks with
  | case1 deadline t => exact ⟨deadline, t, blocks, rfl, h, hd, .refl t⟩
  | case2 deadline t b pending s hs =>
    obtain ⟨_, ⟨⟩, -⟩ | ⟨_, ⟨⟩, -⟩ := hv.of_send hs h (List.cons_ne_nil b pending)
  | case3 deadline t b pending n s hs ih =>
    obtain ⟨_, ⟨⟩, h'⟩ | ⟨_, ⟨⟩, -⟩ := hv.of_send hs h (List.cons_ne_nil b pending)
    obtain ⟨later, u, fewer, he, hview, hl, hc⟩ := ih h' hd
    refine ⟨later, u, fewer, he, hview, hl, ?_⟩
    have hall : Carries t u []
        ((b :: pending).take (n + 1) ++ (b :: pending).drop (n + 1)) :=
      (Carries.single (Traced.exchanges_send hs)).trans hc
    rwa [List.take_append_drop] at hall
  | case4 deadline t b pending s hs later u hw ih =>
    obtain ⟨_, ⟨⟩, -⟩ | ⟨_, -, hf, h'⟩ := hv.of_send hs h (List.cons_ne_nil b pending)
    obtain ⟨_, ⟨⟩, hu, hlater, hwait⟩ := waitUntil_obliging hv hw h' hd hf
    obtain ⟨last, v, fewer, he, hview, hl, hc⟩ := ih hu hlater
    exact ⟨last, v, fewer, he, hview, hl,
      ((Carries.single (Traced.exchanges_send hs)).trans hwait).trans hc⟩
  | case5 deadline t b pending s hs e u hw =>
    obtain ⟨_, ⟨⟩, -⟩ | ⟨_, -, hf, h'⟩ := hv.of_send hs h (List.cons_ne_nil b pending)
    obtain ⟨_, ⟨⟩, -⟩ := waitUntil_obliging hv hw h' hd hf
  | case6 deadline t b pending kind s hk hs =>
    obtain ⟨_, ⟨⟩, -⟩ | ⟨_, ⟨⟩, -⟩ := hv.of_send hs h (List.cons_ne_nil b pending)
    exact absurd rfl hk

-- ---------------------------------------------------------------------------
-- Reading the response
-- ---------------------------------------------------------------------------

/-- The verdict on a response, by its head alone. A head that `Decides` is complete. -/
def verdict (read : HeadReader) (verify : Bool) (head : List UInt8) : Except Error Unit :=
  match UpgradeResponse.parseWith? read head with
  | .error e => .error e
  | .ok none => .ok ()
  | .ok (some (response, _)) => checkAccept verify response

section
variable {read : HeadReader} {head tail contents rest : List UInt8}

theorem take_or_append (h : contents ++ rest = head ++ tail) :
    (contents.length < head.length ∧ contents = head.take contents.length ∧ rest ≠ []) ∨
      ∃ behind, contents = head ++ behind ∧ behind ++ rest = tail := by
  rcases List.append_eq_append_iff.mp h with ⟨missing, rfl, rfl⟩ | ⟨behind, rfl, rfl⟩
  · cases missing with
    | nil => exact .inr ⟨[], by simp⟩
    | cons b missing => exact .inl (by simp)
  · exact .inr ⟨behind, rfl, rfl⟩

theorem rest_ne_nil (hr : HeadReader.Orderly read) (hh : UpgradeResponse.Decides read head)
    (hs : contents ++ rest = head ++ tail)
    (hp : UpgradeResponse.parseWith? read contents = .ok none) : rest ≠ [] := by
  rcases take_or_append hs with ⟨-, -, hne⟩ | ⟨behind, rfl, -⟩
  · exact hne
  · rw [hh.parseWith?_append hr] at hp
    rcases hh.parseWith?_eq hr with ⟨e, he⟩ | ⟨response, he⟩
    · cases hp.symm.trans he
    · cases hp.symm.trans he

theorem exists_behind (hh : UpgradeResponse.Decides read head)
    (hs : contents ++ rest = head ++ tail)
    (hp : UpgradeResponse.parseWith? read contents ≠ .ok none) :
    ∃ behind, contents = head ++ behind ∧ behind ++ rest = tail := by
  rcases take_or_append hs with ⟨hl, he, -⟩ | h
  · rw [he, hh.parseWith?_take hl] at hp
    exact absurd rfl hp
  · exact h

end

theorem readChunk_pos : 0 < readChunk := by decide

theorem readResponse_obliging {read : HeadReader} {head : List UInt8}
    (hr : HeadReader.Orderly read) (hh : UpgradeResponse.Decides read head)
    (hv : Obliging view) (verify : Bool) (deadline : Deadline) (t : Traced σ) (q : ByteQueue)
    {blocks : Nat} {rest tail : List UInt8} (h : view t blocks rest) (hd : deadline.Allows blocks)
    (hs : q.contents ++ rest = head ++ tail) :
    ∃ s fewer unread behind, readResponse read verify deadline t q =
        ((verdict read verify head).map fun _ => behind, s) ∧
      view s fewer unread ∧ behind ++ unread = tail ∧
      ∃ received, Carries t s received [] ∧ received ++ unread = rest := by
  fun_induction readResponse read verify deadline t q generalizing blocks rest with
  | case1 deadline t q e hp =>
    obtain ⟨behind, hq, hb⟩ := exists_behind hh hs (by simp [hp])
    rw [hq, hh.parseWith?_append hr] at hp
    refine ⟨t, blocks, rest, behind, ?_, h, hb, [], .refl t, rfl⟩
    rw [verdict, hp]
    rfl
  | case2 deadline t q response consumed hp =>
    obtain ⟨behind, hq, hb⟩ := exists_behind hh hs (by simp [hp])
    rw [hq, hh.parseWith?_append hr] at hp
    have hl : consumed = head.length := by
      rcases hh.parseWith?_eq hr with ⟨e, he⟩ | ⟨response, he⟩
      · cases hp.symm.trans he
      · cases hp.symm.trans he
        rfl
    refine ⟨t, blocks, rest, behind, ?_, h, hb, [], .refl t, rfl⟩
    rw [verdict, hp, hq, hl, List.drop_left]
  | case3 deadline t q hp s ha =>
    obtain ⟨_, _, _, ⟨⟩, -⟩ | ⟨_, ⟨⟩, -⟩ :=
      hv.of_recv ha h (rest_ne_nil hr hh hs hp) readChunk_pos
  | case4 deadline t q hp q' b bytes s ha =>
    rename_i ih
    obtain ⟨_, _, later, ⟨⟩, rfl, h'⟩ | ⟨_, ⟨⟩, -⟩ :=
      hv.of_recv ha h (rest_ne_nil hr hh hs hp) readChunk_pos
    have hs' : ((q.reserve readChunk).append (b :: bytes)).contents ++ later = head ++ tail := by
      rw [ByteQueue.contents_append, ByteQueue.contents_reserve, List.append_assoc]
      exact hs
    obtain ⟨u, fewer, unread, behind, he, hu, hb, received, hc, hrest⟩ := ih h' hd hs'
    refine ⟨u, fewer, unread, behind, he, hu, hb, b :: bytes ++ received, ?_, ?_⟩
    · exact (Carries.single (Traced.exchanges_recv ha)).trans hc
    · rw [List.append_assoc, hrest]
  | case5 deadline t q hp q' s ha later u hw =>
    rename_i ih
    obtain ⟨_, _, _, ⟨⟩, -⟩ | ⟨_, -, hf, h'⟩ :=
      hv.of_recv ha h (rest_ne_nil hr hh hs hp) readChunk_pos
    obtain ⟨_, ⟨⟩, hu, hlater, hwait⟩ := waitUntil_obliging hv hw h' hd hf
    obtain ⟨v, fewer, unread, behind, he, hview, hb, received, hc, hrest⟩ := ih hu hlater hs
    refine ⟨v, fewer, unread, behind, he, hview, hb, received, ?_, hrest⟩
    exact ((Carries.single (Traced.exchanges_recv ha)).trans hwait).trans hc
  | case6 deadline t q hp s ha e u hw =>
    obtain ⟨_, _, _, ⟨⟩, -⟩ | ⟨_, -, hf, h'⟩ :=
      hv.of_recv ha h (rest_ne_nil hr hh hs hp) readChunk_pos
    obtain ⟨_, ⟨⟩, -⟩ := waitUntil_obliging hv hw h' hd hf
  | case7 deadline t q hp kind s hk ha =>
    obtain ⟨_, _, _, ⟨⟩, -⟩ | ⟨_, ⟨⟩, -⟩ :=
      hv.of_recv ha h (rest_ne_nil hr hh hs hp) readChunk_pos
    exact absurd rfl hk

-- ---------------------------------------------------------------------------
-- The whole handshake
-- ---------------------------------------------------------------------------

/-- What a handshake leaves whose response is `head` and then `tail`. The bytes that
came in behind the head are the leftover, and those not read yet follow them. -/
structure Answered (request head tail : List UInt8) (expected : Except Error Unit)
    (answer : Except Error ByteQueue) (t : Traced σ) (unread : List UInt8) : Prop where
  verdict_eq : answer.map (fun _ => ()) = expected
  written_eq : bytesOut t.exchanges = request
  read_eq : bytesIn t.exchanges ++ unread = head ++ tail
  leftover_eq : ∀ q, answer = .ok q →
    bytesIn t.exchanges = head ++ q.contents ∧ q.contents ++ unread = tail

/-- Over any stream that takes the request and gives the response, in whatever
pieces and with however many blocks there is time for, a handshake ends with the
verdict on the shortest front of the response that the reader of heads does not call
incomplete. Only an origin that is too long is refused before. -/
theorem negotiateWith_answered {read : HeadReader} (hr : HeadReader.Orderly read)
    {head tail : List UInt8} (hh : UpgradeResponse.Decides read head)
    {view : σ → Nat → List UInt8 → Prop} (hv : Obliging view) {s : σ} {blocks : Nat}
    (h : view s blocks (head ++ tail)) (clock : Clock) (endpoint : Endpoint) (config : Config)
    (hd : Deadline.Allows (clock.readings config.handshakeTimeout) blocks) :
    match UpgradeRequest.checkOrigin config.origin with
    | .error e =>
      negotiateWith read clock (Traced.fresh s) endpoint config = (.error e, Traced.fresh s)
    | .ok () => ∃ answer t fewer unread,
      negotiateWith read clock (Traced.fresh s) endpoint config = (answer, t) ∧
        view t.peer fewer unread ∧
        Answered (UpgradeRequest.bytes endpoint handshakeKey config.origin) head tail
          (verdict read config.verifyAccept head) answer t unread := by
  have hfresh : view (Traced.fresh s).peer blocks (head ++ tail) := h
  obtain ⟨later, t, fewer, hsend, ht, hlater, hout⟩ := sendAll_obliging hv.traced _ _
    (UpgradeRequest.bytes endpoint handshakeKey config.origin) hfresh hd
  have hcontents : (ByteQueue.withCapacity readChunk).contents ++ (head ++ tail) = head ++ tail :=
    rfl
  obtain ⟨u, fewest, unread, behind, hread, hu, hb, received, hin, hrest⟩ :=
    readResponse_obliging hr hh hv.traced config.verifyAccept later t
      (.withCapacity readChunk) ht hlater hcontents
  have hall := hout.trans hin
  have hreceived : bytesIn u.exchanges = received := hall.bytesIn_eq
  have hwritten : bytesOut u.exchanges = _ := hall.bytesOut_eq
  rw [List.append_nil] at hwritten
  -- what came in is the head and the bytes behind it, since both leave the same unread
  have hheard : received = head ++ behind := by
    rw [← hb, ← List.append_assoc] at hrest
    exact List.append_cancel_right hrest
  unfold negotiateWith
  cases UpgradeRequest.checkOrigin config.origin with
  | error e => rfl
  | ok =>
    dsimp only
    rw [hsend]
    dsimp only
    rw [hread]
    cases hverdict : verdict read config.verifyAccept head with
    | error e =>
      exact ⟨_, u, fewest, unread, rfl, hu, rfl, hwritten, by rw [hreceived, hrest], nofun⟩
    | ok =>
      refine ⟨_, u, fewest, unread, rfl, hu, rfl, hwritten, by rw [hreceived, hrest], ?_⟩
      rintro q hq
      cases hq
      rw [ByteQueue.contents_append]
      exact ⟨hreceived.trans hheard, hb⟩

/-- The request is taken in two pieces, and the response is cut inside the status and
inside the first frame. -/
theorem negotiateWith_answered_pieces :
    ∃ answer t fewer unread,
      negotiateWith ResponseHead.scan (.patient 3) (Traced.fresh {
          reads := [.data (Utf8.encode "HTTP/1.1 1"), .block,
            .data (Utf8.encode "01 \r\n\r\n" ++ [0x81, 0x02]), .block, .data [0x68, 0x69]]
          writes := [.accept 7, .block] }) ⟨"localhost", 80, "/"⟩ {} = (answer, t) ∧
        Script.Serves t.peer fewer unread ∧
        Answered (UpgradeRequest.bytes ⟨"localhost", 80, "/"⟩ handshakeKey none)
          (Utf8.encode "HTTP/1.1 101 \r\n\r\n") [0x81, 0x02, 0x68, 0x69] (.ok ()) answer t
          unread := by
  have hdecides : UpgradeResponse.Decides ResponseHead.scan
      (Utf8.encode "HTTP/1.1 101 \r\n\r\n") :=
    ⟨by decide +kernel, by decide +kernel, by decide +kernel⟩
  have hpieces : Utf8.encode "HTTP/1.1 101 \r\n\r\n" ++ [0x81, 0x02, 0x68, 0x69] =
      Utf8.encode "HTTP/1.1 1" ++
        (Utf8.encode "01 \r\n\r\n" ++ [0x81, 0x02] ++ ([0x68, 0x69] ++ [])) := by
    decide +kernel
  have hserves : Script.Serves {
      reads := [.data (Utf8.encode "HTTP/1.1 1"), .block,
        .data (Utf8.encode "01 \r\n\r\n" ++ [0x81, 0x02]), .block, .data [0x68, 0x69]]
      writes := [.accept 7, .block] } 3
      (Utf8.encode "HTTP/1.1 101 \r\n\r\n" ++ [0x81, 0x02, 0x68, 0x69]) := by
    rw [hpieces]
    exact ⟨⟨2, 1, .data _ (.block (.data _ (.block (.data _ .nothing)))),
      .accept 6 (.block .nothing), rfl⟩, nofun, nofun, rfl⟩
  have hanswered := negotiateWith_answered ResponseHead.scan_orderly hdecides Script.obliging
    hserves (.patient 3) ⟨"localhost", 80, "/"⟩ {} (by decide)
  -- the origin and the verdict on this head are computed here
  exact hanswered

end Handshake

end WebSocket
