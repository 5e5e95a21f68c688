import WebSocket.Proofs.Connection.Moves
import WebSocket.Transport.Trace

/-!
# Tracing changes nothing

A connection over a traced stream does what it does over the stream itself
(`run_untraced`), from the handshake on (`establish_untraced`). So every run is
the run of a connection that is traced (`exists_traced`), and what is shown of
traced runs holds of all.
-/

namespace WebSocket

variable {σ : Type}

def Connection.untraced (c : Connection (Traced σ)) : Connection σ :=
  { c with stream := c.stream.peer }

namespace Connection

variable (c : Connection (Traced σ))

theorem stream_untraced : c.untraced.stream = c.stream.peer := rfl

theorem state_untraced : c.untraced.state = c.state := rfl

theorem outbound_untraced : c.untraced.outbound = c.outbound := rfl

theorem discarding_untraced : c.untraced.discarding = c.discarding := rfl

theorem queueFrame_untraced (opcode : Opcode) (payload : List UInt8) :
    c.untraced.queueFrame opcode payload = (c.queueFrame opcode payload).untraced := by
  unfold queueFrame
  by_cases h : c.useMask = true
  · rw [if_pos h, if_pos (show c.untraced.useMask = true from h)]
    rfl
  · rw [if_neg h, if_neg (show ¬c.untraced.useMask = true from h)]
    rfl

theorem close_untraced : c.untraced.close = c.close.untraced := by
  unfold close
  by_cases h : c.state = .open
  · rw [state_untraced, if_pos h, if_pos h]
    rfl
  · rw [state_untraced, if_neg h, if_neg h]

theorem violate_untraced (e : Error) : c.untraced.violate e = (c.violate e).untraced := by
  unfold violate
  rw [← close_untraced]
  rfl

theorem send_untraced (opcode : Opcode) (payload : List UInt8) :
    c.untraced.send opcode payload =
      ((c.send opcode payload).1, (c.send opcode payload).2.untraced) := by
  unfold send
  by_cases h : c.state = .open
  · rw [state_untraced, if_pos h, if_pos h, queueFrame_untraced]
  · rw [state_untraced, if_neg h, if_neg h]

-- ---------------------------------------------------------------------------
-- Dispatch
-- ---------------------------------------------------------------------------

theorem handle_untraced (f : Frame) :
    c.untraced.handle f = ((c.handle f).1, (c.handle f).2.untraced) := by
  unfold handle
  split
  · rfl
  · rfl
  · rfl
  · by_cases hs : c.state = .open
    · rw [state_untraced, if_pos hs, if_pos hs, queueFrame_untraced]
    · rw [state_untraced, if_neg hs, if_neg hs]
  · rfl
  · rw [close_untraced]

theorem handleFrames_untraced :
    c.untraced.handleFrames = (c.handleFrames.1, c.handleFrames.2.untraced) := by
  fun_induction handleFrames c with
  | case1 c e buffer h =>
    rw [handleFrames]
    split <;> rename_i he <;> cases h.symm.trans he
    rw [violate_untraced]
  | case2 c buffer h =>
    rw [handleFrames]
    split <;> rename_i he <;> cases h.symm.trans he
    rfl
  | case3 c header buffer h e d hh =>
    have hu := handle_untraced { c with inbound := c.inbound.overwrite buffer }
      ⟨header, header.payload buffer⟩
    rw [hh] at hu
    rw [handleFrames]
    split <;> rename_i he <;> cases h.symm.trans he
    split <;> rename_i he <;> cases hu.symm.trans he
    rw [violate_untraced]
  | case4 c header buffer h message next hh messages d hn ih =>
    have hu := handle_untraced { c with inbound := c.inbound.overwrite buffer }
      ⟨header, header.payload buffer⟩
    rw [hh] at hu
    rw [handleFrames]
    split <;> rename_i he <;> cases h.symm.trans he
    split <;> rename_i he <;> cases hu.symm.trans he
    rw [hn] at ih
    exact congrArg (fun found : List Message × Connection σ =>
      (message.toList ++ found.1, found.2)) ih

theorem dispatch_untraced : c.untraced.dispatch = (c.dispatch.1, c.dispatch.2.untraced) := by
  unfold dispatch
  by_cases hd : c.discarding = true
  · rw [discarding_untraced, if_pos hd, if_pos hd]
  · rw [discarding_untraced, if_neg hd, if_neg hd]
    exact c.handleFrames_untraced

end Connection

variable [Transport σ]

namespace Traced

variable {t s : Traced σ}

theorem send_peer {offered : List UInt8} {answer : Except IoKind Nat}
    (h : Transport.send t offered = (answer, s)) :
    Transport.send t.peer offered = (answer, s.peer) := by
  obtain ⟨rfl, rfl⟩ := Prod.mk.inj h
  rfl

theorem recv_peer {room : Nat} {answer : Except IoKind (List UInt8)}
    (h : Transport.recv t room = (answer, s)) :
    Transport.recv t.peer room = (answer, s.peer) := by
  obtain ⟨rfl, rfl⟩ := Prod.mk.inj h
  rfl

theorem wait_peer {interest : Interest} {timeout : Nat} {answer : Except IoKind Unit}
    (h : Transport.wait t interest timeout = (answer, s)) :
    Transport.wait t.peer interest timeout = (answer, s.peer) := by
  obtain ⟨rfl, rfl⟩ := Prod.mk.inj h
  rfl

theorem exists_send {offered : List UInt8} {answer : Except IoKind Nat} {p : σ}
    (h : Transport.send t.peer offered = (answer, p)) :
    ∃ s, Transport.send t offered = (answer, s) ∧ s.peer = p := by
  obtain ⟨rfl, rfl⟩ := Prod.mk.inj h
  exact ⟨_, rfl, rfl⟩

theorem exists_recv {room : Nat} {answer : Except IoKind (List UInt8)} {p : σ}
    (h : Transport.recv t.peer room = (answer, p)) :
    ∃ s, Transport.recv t room = (answer, s) ∧ s.peer = p := by
  obtain ⟨rfl, rfl⟩ := Prod.mk.inj h
  exact ⟨_, rfl, rfl⟩

theorem exists_wait {interest : Interest} {timeout : Nat} {answer : Except IoKind Unit} {p : σ}
    (h : Transport.wait t.peer interest timeout = (answer, p)) :
    ∃ s, Transport.wait t interest timeout = (answer, s) ∧ s.peer = p := by
  obtain ⟨rfl, rfl⟩ := Prod.mk.inj h
  exact ⟨_, rfl, rfl⟩

end Traced

-- ---------------------------------------------------------------------------
-- The handshake
-- ---------------------------------------------------------------------------

/-- A map of streams that goes along with every call of a handshake. -/
structure Transport.Follows {τ : Type} [Transport τ] (f : σ → τ) : Prop where
  send : ∀ {s offered answer s'}, Transport.send s offered = (answer, s') →
    Transport.send (f s) offered = (answer, f s')
  recv : ∀ {s room answer s'}, Transport.recv s room = (answer, s') →
    Transport.recv (f s) room = (answer, f s')
  wait : ∀ {s interest timeout answer s'}, Transport.wait s interest timeout = (answer, s') →
    Transport.wait (f s) interest timeout = (answer, f s')

theorem Traced.follows_peer : Transport.Follows (Traced.peer : Traced σ → σ) :=
  ⟨send_peer, recv_peer, wait_peer⟩

namespace Handshake

variable {τ : Type} [Transport τ] {f : σ → τ} (hf : Transport.Follows f)

include hf

theorem waitUntil_follows {deadline : Deadline} {interest : Interest} {s s' : σ}
    {answer : Except Error Deadline} (h : waitUntil deadline interest s = (answer, s')) :
    waitUntil deadline interest (f s) = (answer, f s') := by
  unfold waitUntil at h ⊢
  split at h
  · cases h
    rfl
  · split at h
    · next hw =>
      cases h
      rw [hf.wait hw]
    · next hw =>
      cases h
      rw [hf.wait hw]

theorem sendAll_follows (deadline : Deadline) (s : σ) (pending : List UInt8) :
    sendAll deadline (f s) pending =
      ((sendAll deadline s pending).1, f (sendAll deadline s pending).2) := by
  fun_induction sendAll deadline s pending with
  | case1 => rw [sendAll]
  | case2 deadline s b rest s' h => rw [sendAll, hf.send h]
  | case3 deadline s b rest n s' h ih =>
    rw [sendAll, hf.send h]
    exact ih
  | case4 deadline s b rest s' h later s'' hw ih =>
    rw [sendAll, hf.send h]
    dsimp only
    split <;> rename_i he <;> cases (waitUntil_follows hf hw).symm.trans he
    exact ih
  | case5 deadline s b rest s' h e s'' hw =>
    rw [sendAll, hf.send h]
    dsimp only
    split <;> rename_i he <;> cases (waitUntil_follows hf hw).symm.trans he
    rfl
  | case6 deadline s b rest kind s' hk h =>
    rw [sendAll, hf.send h]
    simp

theorem readResponse_follows (read : HeadReader) (verify : Bool) (deadline : Deadline)
    (s : σ) (head : ByteQueue) :
    readResponse read verify deadline (f s) head =
      ((readResponse read verify deadline s head).1,
        f (readResponse read verify deadline s head).2) := by
  fun_induction readResponse read verify deadline s head with
  | case1 deadline s head e hp =>
    rw [readResponse]
    split <;> rename_i he <;> cases hp.symm.trans he
    rfl
  | case2 deadline s head response consumed hp =>
    rw [readResponse]
    split <;> rename_i he <;> cases hp.symm.trans he
    rfl
  | case3 deadline s head hp s' h =>
    rw [readResponse]
    split <;> rename_i he <;> cases hp.symm.trans he
    rw [hf.recv h]
  | case4 deadline s head hp head' b bytes s' h ih =>
    rw [readResponse]
    split <;> rename_i he <;> cases hp.symm.trans he
    rw [hf.recv h]
    exact ih
  | case5 deadline s head hp head' s' h later s'' hw ih =>
    rw [readResponse]
    split <;> rename_i he <;> cases hp.symm.trans he
    rw [hf.recv h]
    dsimp only
    split <;> rename_i he <;> cases (waitUntil_follows hf hw).symm.trans he
    exact ih
  | case6 deadline s head hp s' h e s'' hw =>
    rw [readResponse]
    split <;> rename_i he <;> cases hp.symm.trans he
    rw [hf.recv h]
    dsimp only
    split <;> rename_i he <;> cases (waitUntil_follows hf hw).symm.trans he
    rfl
  | case7 deadline s head hp kind s' hk h =>
    rw [readResponse]
    split <;> rename_i he <;> cases hp.symm.trans he
    rw [hf.recv h]
    simp

theorem negotiateWith_follows (read : HeadReader) (clock : Clock) (s : σ) (endpoint : Endpoint)
    (config : Config) :
    negotiateWith read clock (f s) endpoint config =
      ((negotiateWith read clock s endpoint config).1,
        f (negotiateWith read clock s endpoint config).2) := by
  unfold negotiateWith
  split
  · rfl
  · simp only [sendAll_follows hf]
    cases sendAll (clock.readings config.handshakeTimeout) s
        (UpgradeRequest.bytes endpoint handshakeKey config.origin) with
    | mk answer s =>
      cases answer with
      | error e => rfl
      | ok deadline =>
        simp only [readResponse_follows hf]
        cases readResponse read config.verifyAccept deadline s (.withCapacity readChunk) with
        | mk answer s => cases answer <;> rfl

end Handshake

namespace Connection

theorem establish_untraced (clock : Clock) (keys : KeySource) (t : Traced σ) (endpoint : Endpoint)
    (config : Config) :
    establish clock keys t.peer endpoint config =
      match establish clock keys t endpoint config with
      | .error (e, t) => .error (e, t.peer)
      | .ok c => .ok c.untraced := by
  unfold establish Handshake.negotiate
  rw [Handshake.negotiateWith_follows Traced.follows_peer]
  cases Handshake.negotiateWith ResponseHead.scan clock t endpoint config with
  | mk answer t => cases answer <;> rfl

-- ---------------------------------------------------------------------------
-- Exchange
-- ---------------------------------------------------------------------------

section
variable (c : Connection (Traced σ))

theorem fill_untraced : c.untraced.fill = c.fill.untraced := by
  fun_induction fill c with
  | case1 c s h =>
    rw [fill]
    split <;> rename_i he <;> cases (Traced.recv_peer h).symm.trans he
    rfl
  | case2 c b bytes s h inbound ih =>
    rw [fill]
    split <;> rename_i he <;> cases (Traced.recv_peer h).symm.trans he
    exact ih
  | case3 c s h =>
    rw [fill]
    split <;> rename_i he <;> cases (Traced.recv_peer h).symm.trans he
    · rfl
    · contradiction
  | case4 c s kind hk h =>
    rw [fill]
    split <;> rename_i he <;> cases (Traced.recv_peer h).symm.trans he
    · contradiction
    · rfl

theorem flush_untraced : c.untraced.flush = c.flush.untraced := by
  fun_induction flush c with
  | case1 c he => rw [flush, outbound_untraced, if_pos he]
  | case2 c he s h =>
    rw [flush, outbound_untraced, if_neg he, stream_untraced, Traced.send_peer h]
    rfl
  | case3 c he n s h ih =>
    rw [flush, outbound_untraced, if_neg he, stream_untraced, Traced.send_peer h]
    exact ih
  | case4 c he s h =>
    rw [flush, outbound_untraced, if_neg he, stream_untraced, Traced.send_peer h]
    rfl
  | case5 c he kind s hk h =>
    rw [flush, outbound_untraced, if_neg he, stream_untraced, Traced.send_peer h]
    split <;> rename_i hs <;> cases hs
    · contradiction
    · rfl

theorem finish_untraced : c.untraced.finish = c.finish.untraced := by
  unfold finish
  by_cases h : c.state = .closing ∧ c.outbound.isEmpty = true
  · rw [state_untraced, outbound_untraced, if_pos h, if_pos h]
    rfl
  · rw [state_untraced, outbound_untraced, if_neg h, if_neg h]

theorem exchange_untraced : c.untraced.exchange = c.exchange.untraced := by
  rw [exchange, fill_untraced, flush_untraced, finish_untraced]
  rfl

-- ---------------------------------------------------------------------------
-- Operations
-- ---------------------------------------------------------------------------

theorem waitReady_untraced (timeout : Nat) :
    c.untraced.waitReady timeout =
      ((c.waitReady timeout).1, (c.waitReady timeout).2.untraced) := by
  unfold waitReady
  split
  · rfl
  · rfl

theorem poll_untraced (timeout : Nat) (listening : Bool) :
    c.untraced.poll timeout listening =
      ((c.poll timeout listening).1, (c.poll timeout listening).2.untraced) := by
  unfold poll
  by_cases hs : c.state = .closed
  · rw [state_untraced, if_pos hs, if_pos hs]
    rfl
  · rw [state_untraced, if_neg hs, if_neg hs, waitReady_untraced]
    cases c.waitReady timeout with
    | mk answer d =>
      cases answer with
      | error kind => rfl
      | ok =>
        dsimp only
        rw [exchange_untraced, dispatch_untraced]
        split <;> rfl

theorem apply_untraced (operation : Operation) :
    c.untraced.apply operation = ((c.apply operation).1, (c.apply operation).2.untraced) := by
  cases operation with
  | sendText text =>
    simp only [apply, sendText, send_untraced]
  | sendBinary data =>
    simp only [apply, sendBinary, send_untraced]
  | sendPing =>
    simp only [apply, sendPing, send_untraced]
  | close => simp only [apply, close_untraced]
  | poll timeout listening => simp only [apply, poll_untraced]

end

theorem run_untraced (c : Connection (Traced σ)) (operations : List Operation) :
    c.untraced.run operations = ((c.run operations).1, (c.run operations).2.untraced) := by
  induction operations generalizing c with
  | nil => rfl
  | cons operation operations ih => simp only [run, apply_untraced, ih]

/-- An established connection can be traced from the start, and runs as before. -/
theorem exists_traced {clock : Clock} {keys : KeySource} {s : σ} {endpoint : Endpoint}
    {config : Config} {c : Connection σ}
    (h : establish clock keys s endpoint config = .ok c) :
    ∃ d, establish clock keys (Traced.fresh s) endpoint config = .ok d ∧
      ∀ operations, c.run operations = ((d.run operations).1, (d.run operations).2.untraced) := by
  have ht := establish_untraced clock keys (Traced.fresh s) endpoint config
  rw [show (Traced.fresh s).peer = s from rfl, h] at ht
  cases hd : establish clock keys (Traced.fresh s) endpoint config with
  | error e =>
    rw [hd] at ht
    cases ht
  | ok d =>
    rw [hd] at ht
    cases ht
    exact ⟨d, rfl, run_untraced d⟩

end Connection

end WebSocket
