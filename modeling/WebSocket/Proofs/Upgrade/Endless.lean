import WebSocket.Proofs.Tracing
import WebSocket.Proofs.Upgrade.Turns

/-!
# Peers without end

A transport gives bytes only so often in a row. A peer need not (`Endless`), but it makes a
transport if its reads are rationed (`Rationed`), and a handshake does not notice a ration
that is no less than the size limit of a head (`negotiateWith_plays`).
-/

namespace WebSocket

open Traced (Through)
open UpgradeResponse (maxHeadSize length_lt_of_parseWith?_eq_none)

variable {σ : Type}

-- ---------------------------------------------------------------------------
-- What a peer answers
-- ---------------------------------------------------------------------------

/-- The byte streams that may give bytes for ever. -/
class Endless (σ : Type) where
  send : σ → List UInt8 → Except IoKind Nat × σ
  recv : σ → (room : Nat) → Except IoKind (List UInt8) × σ
  wait : σ → Interest → (timeout : Nat) → Except IoKind Unit × σ
  send_le : ∀ {s offered n s'}, send s offered = (.ok n, s') → n ≤ offered.length
  recv_le : ∀ {s room bytes s'}, recv s room = (.ok bytes, s') → bytes.length ≤ room

namespace Endless

variable [Endless σ]

inductive Answers (s : σ) : Exchange → σ → Prop
  | sent {offered answer s'} (h : send s offered = (answer, s')) :
      Answers s (.sent offered answer) s'
  | received {room answer s'} (h : recv s room = (answer, s')) :
      Answers s (.received room answer) s'
  | waited {interest timeout answer s'} (h : wait s interest timeout = (answer, s')) :
      Answers s (.waited interest timeout answer) s'

/-- The peer itself answers all of the calls, one after the other. -/
inductive Plays : σ → List Exchange → σ → Prop
  | nil {s} : Plays s [] s
  | cons {s s' s'' e later} (h : Answers s e s') (t : Plays s' later s'') : Plays s (e :: later) s''

theorem Answers.plays {s s' : σ} {e : Exchange} (h : Answers s e s') : Plays s [e] s' :=
  .cons h .nil

theorem Plays.append {s s' s'' : σ} {first later : List Exchange} (h : Plays s first s')
    (h' : Plays s' later s'') : Plays s (first ++ later) s'' := by
  induction h with
  | nil => exact h'
  | cons h _ ih => exact .cons h (ih h')

end Endless

-- ---------------------------------------------------------------------------
-- Rations
-- ---------------------------------------------------------------------------

/-- A peer of which `left` more reads may bring bytes. The next one fails. -/
structure Rationed (σ : Type) where
  peer : σ
  left : Nat

namespace Rationed

def deal (left : Nat) : Except IoKind (List UInt8) × σ → Except IoKind (List UInt8) × Rationed σ
  | (.ok (b :: bytes), s) =>
    match left with
    | 0 => (.error .timedOut, ⟨s, 0⟩)
    | left + 1 => (.ok (b :: bytes), ⟨s, left⟩)
  | (answer, s) => (answer, ⟨s, left⟩)

theorem deal_cases {left : Nat} {outcome : Except IoKind (List UInt8) × σ}
    {answer : Except IoKind (List UInt8)} {t : Rationed σ} (h : deal left outcome = (answer, t)) :
    (∃ b bytes, outcome = (.ok (b :: bytes), t.peer) ∧ answer = .ok (b :: bytes) ∧
        left = t.left + 1) ∨
      (outcome = (answer, t.peer) ∧ left = t.left ∧ ∀ b bytes, answer ≠ .ok (b :: bytes)) ∨
      left = 0 ∧ answer = .error .timedOut := by
  obtain ⟨given, s⟩ := outcome
  cases given with
  | error kind =>
    cases h
    exact .inr (.inl ⟨rfl, rfl, nofun⟩)
  | ok bytes =>
    cases bytes with
    | nil =>
      cases h
      exact .inr (.inl ⟨rfl, rfl, nofun⟩)
    | cons b bytes =>
      cases left with
      | zero =>
        cases h
        exact .inr (.inr ⟨rfl, rfl⟩)
      | succ left =>
        cases h
        exact .inl ⟨b, bytes, rfl, rfl, rfl⟩

instance [Endless σ] : Transport (Rationed σ) where
  send t offered := ((Endless.send t.peer offered).1, ⟨(Endless.send t.peer offered).2, t.left⟩)
  recv t room := deal t.left (Endless.recv t.peer room)
  wait t interest timeout :=
    ((Endless.wait t.peer interest timeout).1, ⟨(Endless.wait t.peer interest timeout).2, t.left⟩)
  close t := t
  supply t := t.left
  send_le h := by
    obtain ⟨h, -⟩ := Prod.mk.inj h
    exact Endless.send_le (Prod.ext h rfl)
  recv_le h := by
    obtain ⟨b, bytes, hr, ha, -⟩ | ⟨hr, -⟩ | ⟨-, ha⟩ := deal_cases h
    · cases ha
      exact Endless.recv_le hr
    · exact Endless.recv_le hr
    · cases ha
  supply_lt h := by
    obtain ⟨b, bytes, -, -, hl⟩ | ⟨-, -, ha⟩ | ⟨-, ha⟩ := deal_cases h
    · exact Nat.lt_of_succ_le (Nat.le_of_eq hl.symm)
    · exact absurd rfl (ha _ _)
    · cases ha

end Rationed

-- ---------------------------------------------------------------------------
-- Calls
-- ---------------------------------------------------------------------------

section
variable [Endless σ] {t s u : Traced (Rationed σ)}

def Genuine (t s : Traced (Rationed σ)) : Prop :=
  Through (Endless.Plays t.peer.peer · s.peer.peer) t s

namespace Genuine

theorem refl (t : Traced (Rationed σ)) : Genuine t t := Through.refl .nil t

theorem trans (h : Genuine t s) (h' : Genuine s u) : Genuine t u := Through.trans h h' .append

theorem recv {room : Nat} {answer : Except IoKind (List UInt8)} (hl : 0 < t.peer.left)
    (h : Transport.recv t room = (answer, s)) :
    Genuine t s ∧
      t.peer.left ≤ s.peer.left + (Exchange.received room answer).receivedBytes.length := by
  have genuine (hr : Endless.recv t.peer.peer room = (answer, s.peer.peer)) : Genuine t s :=
    .single (Traced.exchanges_recv h) (Endless.Answers.received hr).plays
  obtain ⟨b, bytes, hr, rfl, hd⟩ | ⟨hr, hd, -⟩ | ⟨hz, -⟩ := Rationed.deal_cases (Traced.recv_peer h)
  · exact ⟨genuine hr, hd ▸ Nat.add_le_add_left (Nat.succ_pos _) _⟩
  · exact ⟨genuine hr, Nat.le_add_right_of_le (Nat.le_of_eq hd)⟩
  · exact absurd hz (Nat.ne_of_gt hl)

end Genuine

/-- From `t` to `s` the peer itself has answered, and the ration is as it was. -/
structure Unspent (t s : Traced (Rationed σ)) : Prop where
  genuine : Genuine t s
  left_eq : s.peer.left = t.peer.left

namespace Unspent

theorem refl (t : Traced (Rationed σ)) : Unspent t t := ⟨.refl t, rfl⟩

theorem trans (h : Unspent t s) (h' : Unspent s u) : Unspent t u :=
  ⟨h.genuine.trans h'.genuine, h'.left_eq.trans h.left_eq⟩

theorem send {offered : List UInt8} {answer : Except IoKind Nat}
    (h : Transport.send t offered = (answer, s)) : Unspent t s := by
  obtain ⟨ha, hs⟩ := Prod.mk.inj (Traced.send_peer h)
  have hpeer : Endless.send t.peer.peer offered = (answer, s.peer.peer) :=
    Prod.ext ha (congrArg Rationed.peer hs)
  exact ⟨.single (Traced.exchanges_send h) (Endless.Answers.sent hpeer).plays,
    (congrArg Rationed.left hs).symm⟩

theorem wait {interest : Interest} {timeout : Nat} {answer : Except IoKind Unit}
    (h : Transport.wait t interest timeout = (answer, s)) : Unspent t s := by
  obtain ⟨ha, hs⟩ := Prod.mk.inj (Traced.wait_peer h)
  have hpeer : Endless.wait t.peer.peer interest timeout = (answer, s.peer.peer) :=
    Prod.ext ha (congrArg Rationed.peer hs)
  exact ⟨.single (Traced.exchanges_wait h) (Endless.Answers.waited hpeer).plays,
    (congrArg Rationed.left hs).symm⟩

end Unspent

-- ---------------------------------------------------------------------------
-- Handshakes
-- ---------------------------------------------------------------------------

namespace Handshake

theorem waitUntil_unspent {deadline : Deadline} {interest : Interest}
    {answer : Except Error Deadline} (h : waitUntil deadline interest t = (answer, s)) :
    Unspent t s := by
  obtain rfl | ⟨timeout, waited, hw⟩ := waitUntil_cases h
  · exact .refl _
  · exact .wait hw

theorem sendAll_unspent (deadline : Deadline) (t : Traced (Rationed σ)) (pending : List UInt8) :
    Unspent t (sendAll deadline t pending).2 := by
  fun_induction sendAll deadline t pending with
  | case1 deadline t => exact .refl t
  | case2 deadline t b rest s h => exact .send h
  | case3 deadline t b rest n s h ih => exact (Unspent.send h).trans ih
  | case4 deadline t b rest s h later u hw ih =>
    exact ((Unspent.send h).trans (waitUntil_unspent hw)).trans ih
  | case5 deadline t b rest s h e u hw => exact (Unspent.send h).trans (waitUntil_unspent hw)
  | case6 deadline t b rest kind s hk h => exact .send h

/-- As long as the ration and the bytes that are there make up the size limit, no read is
cut off: it is made below the limit only. -/
theorem readResponse_genuine (read : HeadReader) (verify : Bool) (deadline : Deadline)
    (t : Traced (Rationed σ)) (q : ByteQueue)
    (hl : maxHeadSize ≤ t.peer.left + q.contents.length) :
    Genuine t (readResponse read verify deadline t q).2 := by
  have left {t : Traced (Rationed σ)} {q : ByteQueue}
      (hp : UpgradeResponse.parseWith? read q.contents = .ok none)
      (hl : maxHeadSize ≤ t.peer.left + q.contents.length) : 0 < t.peer.left := by
    have := length_lt_of_parseWith?_eq_none hp
    omega
  fun_induction readResponse read verify deadline t q with
  | case1 deadline t | case2 deadline t => exact .refl t
  | case3 deadline t q hp s h => exact (Genuine.recv (left hp hl) h).1
  | case4 deadline t q hp q' b bytes s h ih =>
    obtain ⟨hs, hd⟩ := Genuine.recv (left hp hl) h
    refine hs.trans (ih ?_)
    rw [ByteQueue.contents_append, ByteQueue.contents_reserve, List.length_append]
    simp only [Exchange.receivedBytes] at hd
    omega
  | case5 deadline t q hp q' s h later u hw ih =>
    obtain ⟨hs, hd⟩ := Genuine.recv (left hp hl) h
    have hu := waitUntil_unspent hw
    refine (hs.trans hu.genuine).trans (ih ?_)
    rw [hu.left_eq]
    exact Nat.le_trans hl (Nat.add_le_add_right hd _)
  | case6 deadline t q hp s h e u hw =>
    exact (Genuine.recv (left hp hl) h).1.trans (waitUntil_unspent hw).genuine
  | case7 deadline t q hp kind s hk h => exact (Genuine.recv (left hp hl) h).1

/-- A handshake is one with the peer itself, if the ration is no less than the size limit of
a head. -/
theorem negotiateWith_plays {read : HeadReader} {clock : Clock} {p : Rationed σ}
    {endpoint : Endpoint} {config : Config} {answer : Except Error ByteQueue}
    (h : negotiateWith read clock (Traced.fresh p) endpoint config = (answer, t))
    (hl : maxHeadSize ≤ p.left) : Endless.Plays p.peer t.exchanges t.peer.peer := by
  have plays {t : Traced (Rationed σ)} (h : Genuine (Traced.fresh p) t) :
      Endless.Plays p.peer t.exchanges t.peer.peer := by
    obtain ⟨later, hs, hp⟩ := h
    rw [hs]
    exact hp
  obtain ⟨e, -, -, rfl⟩ | ⟨sent, u, hs, h⟩ := negotiateWith_cases h
  · exact .nil
  · have hsend := sendAll_unspent (clock.readings config.handshakeTimeout) (Traced.fresh p)
      (UpgradeRequest.bytes endpoint handshakeKey config.origin)
    rw [hs] at hsend
    obtain ⟨e, -, -, rfl⟩ | ⟨later, -, rfl⟩ := h
    · exact plays hsend.genuine
    · refine plays (hsend.genuine.trans
        (readResponse_genuine read config.verifyAccept later u _ ?_))
      rw [hsend.left_eq]
      exact Nat.le_add_right_of_le hl

end Handshake

end

end WebSocket
