import WebSocket.Proofs.Trace
import WebSocket.Proofs.Tracing
import WebSocket.Upgrade.Handshake

/-!
# A handshake closes nothing

Whatever comes of a handshake, it has sent, received and waited, and it has not
closed the stream (`negotiateWith_unclosed`). That is left to its caller.
-/

namespace WebSocket

variable {σ : Type}

namespace Traced

abbrev Unclosed (t s : Traced σ) : Prop := Only (· ≠ .closed) t s

namespace Unclosed

variable [Transport σ] {t s : Traced σ}

theorem recv {room : Nat} {answer : Except IoKind (List UInt8)}
    (h : Transport.recv t room = (answer, s)) : Unclosed t s :=
  .single (exchanges_recv h) nofun

theorem setNodelay (t : Traced σ) (value : Bool) :
    Unclosed t (Transport.setNodelay t value).2 := by
  have h : (Transport.setNodelay t value).2.exchanges =
      t.exchanges ++ [.nodelaySet value (Transport.setNodelay t value).1] := List.reverse_cons
  exact .single h nofun

end Unclosed

end Traced

namespace Handshake

variable [Transport σ]

open Traced (Only Unclosed)

theorem waitUntil_cases {deadline : Deadline} {interest : Interest} {s s' : σ}
    {answer : Except Error Deadline} (h : waitUntil deadline interest s = (answer, s')) :
    s' = s ∨ ∃ timeout waited, Transport.wait s interest timeout = (waited, s') := by
  unfold waitUntil at h
  split at h
  · cases h
    exact .inl rfl
  · split at h <;> next hw => cases h; exact .inr ⟨_, _, hw⟩

section
variable {P : Exchange → Prop} (hsend : ∀ offered answer, P (.sent offered answer))
  (hwait : ∀ interest timeout answer, P (.waited interest timeout answer))

include hwait

theorem waitUntil_only {deadline : Deadline} {interest : Interest} {t s : Traced σ}
    {answer : Except Error Deadline} (h : waitUntil deadline interest t = (answer, s)) :
    Only P t s := by
  obtain rfl | ⟨timeout, waited, hw⟩ := waitUntil_cases h
  · exact .refl _
  · exact .single (Traced.exchanges_wait hw) (hwait ..)

include hsend

theorem sendAll_only (deadline : Deadline) (t : Traced σ) (pending : List UInt8) :
    Only P t (sendAll deadline t pending).2 := by
  have sent {t s : Traced σ} {offered : List UInt8} {answer : Except IoKind Nat}
      (h : Transport.send t offered = (answer, s)) : Only P t s :=
    .single (Traced.exchanges_send h) (hsend ..)
  fun_induction sendAll deadline t pending with
  | case1 => exact .refl _
  | case2 deadline t b rest s h => exact sent h
  | case3 deadline t b rest n s h ih => exact (sent h).trans ih
  | case4 deadline t b rest s h later s' hw ih =>
    exact ((sent h).trans (waitUntil_only hwait hw)).trans ih
  | case5 deadline t b rest s h e s' hw => exact (sent h).trans (waitUntil_only hwait hw)
  | case6 deadline t b rest kind s hk h => exact sent h

end

theorem waitUntil_unclosed {deadline : Deadline} {interest : Interest} {t s : Traced σ}
    {answer : Except Error Deadline} (h : waitUntil deadline interest t = (answer, s)) :
    Unclosed t s :=
  waitUntil_only (fun _ _ _ => nofun) h

theorem readResponse_unclosed (read : HeadReader) (verify : Bool) (deadline : Deadline)
    (t : Traced σ) (head : ByteQueue) :
    Unclosed t (readResponse read verify deadline t head).2 := by
  fun_induction readResponse read verify deadline t head with
  | case1 | case2 => exact .refl _
  | case3 deadline t head hp s h => exact .recv h
  | case4 deadline t head hp head' b bytes s h ih => exact (Unclosed.recv h).trans ih
  | case5 deadline t head hp head' s h later s' hw ih =>
    exact ((Unclosed.recv h).trans (waitUntil_unclosed hw)).trans ih
  | case6 deadline t head hp s h e s' hw => exact (Unclosed.recv h).trans (waitUntil_unclosed hw)
  | case7 deadline t head hp kind s hk h => exact .recv h

theorem negotiateWith_unclosed (read : HeadReader) (clock : Clock) (t : Traced σ)
    (endpoint : Endpoint) (config : Config) :
    Unclosed t (negotiateWith read clock t endpoint config).2 := by
  have hsend : Unclosed t _ := sendAll_only (fun _ _ => nofun) (fun _ _ _ => nofun)
    (clock.readings config.handshakeTimeout) t
    (UpgradeRequest.bytes endpoint handshakeKey config.origin)
  unfold negotiateWith
  dsimp only
  split
  · exact .refl _
  · split
    · next hs =>
      rw [hs] at hsend
      exact hsend
    · next deadline s hs =>
      have hread := readResponse_unclosed read config.verifyAccept deadline s
        (.withCapacity readChunk)
      rw [hs] at hsend
      split <;> next hr =>
        rw [hr] at hread
        exact hsend.trans hread

end Handshake

theorem Connection.unclosed_of_establish [Transport σ] {clock : Clock} {keys : KeySource}
    {t : Traced σ} {endpoint : Endpoint} {config : Config} {c : Connection (Traced σ)}
    (h : establish clock keys t endpoint config = .ok c) : Traced.Unclosed t c.stream := by
  have hn := Handshake.negotiateWith_unclosed ResponseHead.scan clock t endpoint config
  unfold establish Handshake.negotiate at h
  split at h
  · cases h
  · next hs =>
    cases h
    rw [hs] at hn
    exact hn.trans (Traced.Unclosed.setNodelay ..)

end WebSocket
