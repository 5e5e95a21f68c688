import WebSocket.Proofs.Upgrade.Exchanges
import WebSocket.Proofs.Upgrade.Request
import WebSocket.Transport.Script

/-!
# The request comes first

A handshake goes on in turns. It offers what is left of the request until all
of it is taken, then it only reads, and it waits only for the call that has just
blocked (`Turn`). Whatever the stream answers, every handshake is made of such
turns, so the request goes out once and before anything is read
(`negotiateWith_request_first`).
-/

namespace WebSocket.Handshake

open Exchange (bytesOut bytesOut_append)

/-- The exchanges that may come next behind `past`, while `request` is sent and then
answered. -/
inductive Turn (request : List UInt8) (past : List Exchange) : Exchange → Prop
  | send (unsent : bytesOut past ++ rest = request) (pending : rest ≠ []) :
    Turn request past (.sent rest answer)
  | receive (complete : bytesOut past = request) : Turn request past (.received room answer)
  | awaitSend (blocked : past.getLast? = some (.sent offered (.error .wouldBlock))) :
    Turn request past (.waited .write timeout answer)
  | awaitReceive (complete : bytesOut past = request)
      (blocked : past.getLast? = some (.received room (.error .wouldBlock))) :
    Turn request past (.waited .read timeout answer)

inductive Turns (request : List UInt8) : List Exchange → Prop
  | start : Turns request []
  | next (before : Turns request past) (turn : Turn request past e) : Turns request (past ++ [e])

namespace Turns

variable {request : List UInt8} {past later : List Exchange}

theorem of_prefix (h : Turns request later) (hp : past <+: later) : Turns request past := by
  induction h with
  | start => rw [List.prefix_nil.mp hp]; exact .start
  | next before turn ih =>
    rcases List.prefix_concat_iff.mp hp with rfl | hp
    · exact .next before turn
    · exact ih hp

theorem turn (h : Turns request (past ++ e :: later)) : Turn request past e := by
  have hp : past ++ [e] <+: past ++ e :: later := ⟨later, by simp⟩
  generalize hw : past ++ [e] = whole at hp
  cases h.of_prefix hp with
  | start => simp at hw
  | next before turn =>
    obtain ⟨rfl, rfl⟩ := List.append_singleton_inj.mp hw
    exact turn

theorem written_front (h : Turns request past) : bytesOut past <+: request := by
  induction h with
  | start => exact List.nil_prefix
  | @next past e before turn ih =>
    rw [bytesOut_append]
    cases turn with
    | @send rest answer unsent pending =>
      cases answer with
      | error kind => simpa [bytesOut, Exchange.writtenBytes] using ih
      | ok n =>
        rw [← unsent]
        simpa [bytesOut, Exchange.writtenBytes] using List.take_prefix n rest
    | receive | awaitSend | awaitReceive => simpa [bytesOut, Exchange.writtenBytes] using ih

theorem unsending (h : Turns request (past ++ later)) (hw : bytesOut past = request)
    (he : e ∈ later) : e.isSend = false := by
  obtain ⟨front, back, rfl⟩ := List.append_of_mem he
  rw [← List.append_assoc] at h
  have turn := h.turn
  cases turn with
  | send unsent pending =>
    rw [bytesOut_append, hw, List.append_assoc, List.append_right_eq_self] at unsent
    exact absurd (List.append_eq_nil_iff.mp unsent).2 pending
  | receive | awaitSend | awaitReceive => rfl

end Turns

variable {σ : Type} [Transport σ] {request : List UInt8}

theorem waitUntil_turns {deadline : Deadline} {interest : Interest} {t s : Traced σ}
    {answer : Except Error Deadline} (hw : waitUntil deadline interest t = (answer, s))
    (h : Turns request t.exchanges)
    (turn : ∀ timeout answer, Turn request t.exchanges (.waited interest timeout answer)) :
    Turns request s.exchanges ∧ bytesOut s.exchanges = bytesOut t.exchanges := by
  obtain rfl | ⟨timeout, waited, hs⟩ := waitUntil_cases hw
  · exact ⟨h, rfl⟩
  · rw [Traced.exchanges_wait hs, bytesOut_append]
    exact ⟨.next h (turn ..), List.append_nil _⟩

theorem sendAll_turns (deadline : Deadline) (t : Traced σ) (pending : List UInt8)
    (h : Turns request t.exchanges) (hp : bytesOut t.exchanges ++ pending = request) :
    Turns request (sendAll deadline t pending).2.exchanges ∧
      ∀ later, (sendAll deadline t pending).1 = .ok later →
        bytesOut (sendAll deadline t pending).2.exchanges = request := by
  have sent {t s : Traced σ} {b : UInt8} {rest : List UInt8} {answer : Except IoKind Nat}
      (hs : Transport.send t (b :: rest) = (answer, s)) (h : Turns request t.exchanges)
      (hp : bytesOut t.exchanges ++ b :: rest = request) : Turns request s.exchanges := by
    rw [Traced.exchanges_send hs]
    exact .next h (.send hp (List.cons_ne_nil b rest))
  have blocked {t s : Traced σ} {offered : List UInt8}
      (hs : Transport.send t offered = (.error .wouldBlock, s)) :
      bytesOut s.exchanges = bytesOut t.exchanges ∧
        ∀ timeout answer, Turn request s.exchanges (.waited .write timeout answer) := by
    rw [Traced.exchanges_send hs, bytesOut_append]
    exact ⟨List.append_nil _, fun _ _ => .awaitSend List.getLast?_concat⟩
  have refused {e : Error} {Q : Prop} (later : Deadline) (he : Except.error e = .ok later) : Q := by
    cases he
  fun_induction sendAll deadline t pending with
  | case1 deadline t => exact ⟨h, fun _ _ => by rw [← hp, List.append_nil]⟩
  | case2 deadline t b rest s hs => exact ⟨sent hs h hp, refused⟩
  | case3 deadline t b rest n s hs ih =>
    refine ih (sent hs h hp) ?_
    rw [Traced.exchanges_send hs, bytesOut_append, ← hp, List.append_assoc]
    -- what was taken and what is offered next are the two parts of what was pending
    simp [bytesOut, Exchange.writtenBytes]
  | case4 deadline t b rest s hs later u hw ih =>
    obtain ⟨hout, hturn⟩ := blocked hs
    obtain ⟨hu, hsame⟩ := waitUntil_turns hw (sent hs h hp) hturn
    exact ih hu (by rw [hsame, hout, hp])
  | case5 deadline t b rest s hs e u hw =>
    exact ⟨(waitUntil_turns hw (sent hs h hp) (blocked hs).2).1, refused⟩
  | case6 deadline t b rest kind s hk hs => exact ⟨sent hs h hp, refused⟩

theorem readResponse_turns (read : HeadReader) (verify : Bool) (deadline : Deadline)
    (t : Traced σ) (head : ByteQueue) (h : Turns request t.exchanges)
    (hw : bytesOut t.exchanges = request) :
    Turns request (readResponse read verify deadline t head).2.exchanges ∧
      bytesOut (readResponse read verify deadline t head).2.exchanges = request := by
  have received {t s : Traced σ} {room : Nat} {answer : Except IoKind (List UInt8)}
      (hs : Transport.recv t room = (answer, s)) (h : Turns request t.exchanges)
      (hw : bytesOut t.exchanges = request) :
      Turns request s.exchanges ∧ bytesOut s.exchanges = request := by
    rw [Traced.exchanges_recv hs, bytesOut_append]
    exact ⟨.next h (.receive hw), (List.append_nil _).trans hw⟩
  have blocked {t s : Traced σ} {room : Nat}
      (hs : Transport.recv t room = (.error .wouldBlock, s))
      (hw : bytesOut s.exchanges = request) (timeout : Nat) (answer : Except IoKind Unit) :
      Turn request s.exchanges (.waited .read timeout answer) := by
    rw [Traced.exchanges_recv hs] at hw ⊢
    exact .awaitReceive hw List.getLast?_concat
  fun_induction readResponse read verify deadline t head with
  | case1 | case2 => exact ⟨h, hw⟩
  | case3 deadline t head hp s hs => exact received hs h hw
  | case4 deadline t head hp head' b bytes s hs ih =>
    obtain ⟨h, hw⟩ := received hs h hw
    exact ih h hw
  | case5 deadline t head hp head' s hs later u hwait ih =>
    obtain ⟨h, hw⟩ := received hs h hw
    obtain ⟨h, hsame⟩ := waitUntil_turns hwait h (blocked hs hw)
    exact ih h (hsame.trans hw)
  | case6 deadline t head hp s hs e u hwait =>
    obtain ⟨h, hw⟩ := received hs h hw
    obtain ⟨h, hsame⟩ := waitUntil_turns hwait h (blocked hs hw)
    exact ⟨h, hsame.trans hw⟩
  | case7 deadline t head hp kind s hk hs => exact received hs h hw

theorem sendAll_starts (deadline : Deadline) (t : Traced σ) {pending : List UInt8}
    (hp : pending ≠ []) :
    ∃ answer later, (sendAll deadline t pending).2.exchanges =
      t.exchanges ++ .sent pending answer :: later := by
  have starts {answer : Except IoKind Nat} {s u : Traced σ}
      (hs : Transport.send t pending = (answer, s)) (hu : Traced.Only (fun _ => True) s u) :
      ∃ answer later, u.exchanges = t.exchanges ++ .sent pending answer :: later := by
    obtain ⟨later, hl, -⟩ := hu
    exact ⟨answer, later, by rw [hl, Traced.exchanges_send hs, List.append_assoc]; rfl⟩
  have onward (deadline : Deadline) (s : Traced σ) (rest : List UInt8) :=
    sendAll_only (P := fun _ => True) (fun _ _ => trivial) (fun _ _ _ => trivial) deadline s rest
  fun_cases sendAll deadline t pending with
  | case1 => exact absurd rfl hp
  | case2 b rest s hs => exact starts hs (.refl s)
  | case3 b rest n s hs => exact starts hs (onward ..)
  | case4 b rest s hs later u hw =>
    exact starts hs ((waitUntil_only (fun _ _ _ => trivial) hw).trans (onward ..))
  | case5 b rest s hs e u hw => exact starts hs (waitUntil_only (fun _ _ _ => trivial) hw)
  | case6 b rest kind s hk hs => exact starts hs (.refl s)

variable {read : HeadReader} {clock : Clock} {s : σ} {endpoint : Endpoint} {config : Config}
  {answer : Except Error ByteQueue} {t : Traced σ}

/-- A refused origin ends the handshake before it begins; else the request is sent and
then the response is read. -/
theorem negotiateWith_cases
    (h : negotiateWith read clock (Traced.fresh s) endpoint config = (answer, t)) :
    (∃ e, UpgradeRequest.checkOrigin config.origin = .error e ∧ answer = .error e ∧
        t = Traced.fresh s) ∨
      ∃ sent u, sendAll (clock.readings config.handshakeTimeout) (Traced.fresh s)
          (UpgradeRequest.bytes endpoint handshakeKey config.origin) = (sent, u) ∧
        ((∃ e, sent = .error e ∧ answer = .error e ∧ t = u) ∨
          ∃ later, sent = .ok later ∧
            t = (readResponse read config.verifyAccept later u (.withCapacity readChunk)).2) := by
  unfold negotiateWith at h
  split at h
  · next e ho =>
    cases h
    exact .inl ⟨e, ho, rfl, rfl⟩
  · refine .inr ⟨_, _, rfl, ?_⟩
    dsimp only at h
    split at h
    · next e u hs =>
      cases h
      exact .inl ⟨e, by rw [hs], rfl, by rw [hs]⟩
    · next later u hs =>
      refine .inr ⟨later, by rw [hs], ?_⟩
      rw [hs]
      split at h <;> next hr => cases h; rw [hr]

theorem negotiateWith_turns
    (h : negotiateWith read clock (Traced.fresh s) endpoint config = (answer, t)) :
    Turns (UpgradeRequest.bytes endpoint handshakeKey config.origin) t.exchanges ∧
      ∀ q, answer = .ok q →
        bytesOut t.exchanges = UpgradeRequest.bytes endpoint handshakeKey config.origin := by
  obtain ⟨e, -, rfl, rfl⟩ | ⟨sent, u, hs, h⟩ := negotiateWith_cases h
  · exact ⟨.start, nofun⟩
  · obtain ⟨hturns, hall⟩ := sendAll_turns (clock.readings config.handshakeTimeout)
      (Traced.fresh s) _ .start (List.nil_append _)
    rw [hs] at hturns hall
    obtain ⟨e, rfl, rfl, rfl⟩ | ⟨later, rfl, rfl⟩ := h
    · exact ⟨hturns, nofun⟩
    · obtain ⟨hread, hout⟩ := readResponse_turns read config.verifyAccept later u
        (.withCapacity readChunk) hturns (hall _ rfl)
      exact ⟨hread, fun _ _ => hout⟩

theorem bytes_ne_nil (endpoint : Endpoint) (key : String) (origin : Option String) :
    UpgradeRequest.bytes endpoint key origin ≠ [] := by
  simp [UpgradeRequest.bytes, UpgradeRequest.text, UpgradeRequest.encode_crlf]

theorem negotiateWith_starts
    (h : negotiateWith read clock (Traced.fresh s) endpoint config = (answer, t))
    (ho : UpgradeRequest.checkOrigin config.origin = .ok ()) :
    ∃ first later, t.exchanges =
      .sent (UpgradeRequest.bytes endpoint handshakeKey config.origin) first :: later := by
  obtain ⟨e, he, -⟩ | ⟨sent, u, hs, h⟩ := negotiateWith_cases h
  · cases ho.symm.trans he
  · obtain ⟨first, later, hu⟩ := sendAll_starts (clock.readings config.handshakeTimeout)
      (Traced.fresh s) (bytes_ne_nil endpoint handshakeKey config.origin)
    rw [hs] at hu
    obtain ⟨e, -, -, rfl⟩ | ⟨left, -, rfl⟩ := h
    · exact ⟨first, later, hu⟩
    · obtain ⟨more, hm, -⟩ :=
        readResponse_unclosed read config.verifyAccept left u (.withCapacity readChunk)
      exact ⟨first, later ++ more, by rw [hm, hu]; rfl⟩

/-- Over any stream, a handshake with an origin that is not refused begins to send its
request, and at every moment a front of the request has gone out. Nothing is read, and
no wait is for reading, before all of it has; behind that nothing more is offered, and
every wait follows a call that would block and is for that call. A handshake that
succeeds has sent the whole request. -/
theorem negotiateWith_request_first
    (h : negotiateWith read clock (Traced.fresh s) endpoint config = (answer, t))
    (ho : UpgradeRequest.checkOrigin config.origin = .ok ()) :
    let request := UpgradeRequest.bytes endpoint handshakeKey config.origin
    (∃ first later, t.exchanges = .sent request first :: later) ∧
      (∀ past, past <+: t.exchanges → bytesOut past <+: request) ∧
      (∀ past e later, t.exchanges = past ++ e :: later → Turn request past e) ∧
      (∀ past later, t.exchanges = past ++ later → bytesOut past = request →
        ∀ e ∈ later, e.isSend = false) ∧
      ∀ q, answer = .ok q → bytesOut t.exchanges = request := by
  obtain ⟨hturns, hall⟩ := negotiateWith_turns h
  refine ⟨negotiateWith_starts h ho, fun past hp => (hturns.of_prefix hp).written_front,
    fun past e later he => ?_, fun past later he hw e hm => ?_, hall⟩
  · rw [he] at hturns
    exact hturns.turn
  · rw [he] at hturns
    exact hturns.unsending hw hm

/-- The request is taken in two pieces with a block between them, and the first read
blocks. -/
theorem negotiateWith_request_first_pieces :
    ∃ q t, negotiateWith ResponseHead.scan (.patient 2) (Traced.fresh {
          reads := [.block, .data (Utf8.encode "HTTP/1.1 101 \r\n\r\n")]
          writes := [.accept 7, .block] : Script }) ⟨"localhost", 80, "/"⟩ {} = (.ok q, t) ∧
      UpgradeRequest.checkOrigin none = .ok () ∧
      t.exchanges.map Exchange.isSend = [true, true, false, true, false, false, false] ∧
      (∀ past e later, t.exchanges = past ++ e :: later →
        Turn (UpgradeRequest.bytes ⟨"localhost", 80, "/"⟩ handshakeKey none) past e) ∧
      bytesOut t.exchanges = UpgradeRequest.bytes ⟨"localhost", 80, "/"⟩ handshakeKey none := by
  generalize hn : negotiateWith ResponseHead.scan (.patient 2) (Traced.fresh {
    reads := [.block, .data (Utf8.encode "HTTP/1.1 101 \r\n\r\n")]
    writes := [.accept 7, .block] : Script }) ⟨"localhost", 80, "/"⟩ {} = outcome
  have hok : outcome.1.toOption.isSome ∧
      outcome.2.exchanges.map Exchange.isSend =
        [true, true, false, true, false, false, false] := by
    rw [← hn]
    decide +kernel
  obtain ⟨answer, t⟩ := outcome
  cases answer with
  | error e => cases hok.1
  | ok q =>
    obtain ⟨-, -, hturn, -, hall⟩ := negotiateWith_request_first hn rfl
    exact ⟨q, t, rfl, rfl, hok.2, hturn, hall q rfl⟩

end WebSocket.Handshake
