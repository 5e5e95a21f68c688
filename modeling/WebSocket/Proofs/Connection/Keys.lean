import WebSocket.Proofs.Connection.Lockstep
import WebSocket.Proofs.Connection.Loopback
import WebSocket.Proofs.Tracing
import WebSocket.Proofs.Wire.Plain

/-!
# Keys do not show

Over a stream that only counts the bytes it is offered, two connections that draw
different keys go through the same exchanges, offer as many bytes in each write, and
have the same outcomes. What each of them has queued decodes to the same frames, even
when a failure has cut it inside a key or a payload (`run_rekeyed`).
-/

namespace WebSocket

-- ---------------------------------------------------------------------------
-- Streams that only count
-- ---------------------------------------------------------------------------

/-- A stream that reacts to how many bytes it is offered, not to the bytes. It may
keep them, so its states are alike rather than equal. -/
structure Blind (σ : Type) [Transport σ] where
  alike : σ → σ → Prop
  refl : ∀ s, alike s s
  send : ∀ {s t a b}, alike s t → a.length = b.length →
    (Transport.send s a).1 = (Transport.send t b).1 ∧
      alike (Transport.send s a).2 (Transport.send t b).2
  recv : ∀ {s t}, alike s t → ∀ room,
    (Transport.recv s room).1 = (Transport.recv t room).1 ∧
      alike (Transport.recv s room).2 (Transport.recv t room).2
  wait : ∀ {s t}, alike s t → ∀ interest timeout,
    (Transport.wait s interest timeout).1 = (Transport.wait t interest timeout).1 ∧
      alike (Transport.wait s interest timeout).2 (Transport.wait t interest timeout).2
  idle : ∀ {s t}, alike s t → ∀ time, alike (Transport.idle s time) (Transport.idle t time)
  close : ∀ {s t}, alike s t → alike (Transport.close s) (Transport.close t)

def Script.blind : Blind Script where
  alike := Eq
  refl _ := rfl
  send {s t a b} h hl := by
    have he : Transport.send s a = Transport.send t b := by
      simp only [Transport.send, Script.send, h, hl]
    exact ⟨congrArg Prod.fst he, congrArg Prod.snd he⟩
  recv h room := by rw [h]; exact ⟨rfl, rfl⟩
  wait h interest timeout := by rw [h]; exact ⟨rfl, rfl⟩
  idle h time := by rw [h]
  close h := by rw [h]

namespace Exchange

def blank : Exchange → Exchange
  | .sent offered answer => .sent (List.replicate offered.length 0) answer
  | e => e

theorem blank_sent {a b : List UInt8} (h : a.length = b.length) (answer : Except IoKind Nat) :
    (sent a answer).blank = (sent b answer).blank := by
  rw [blank, blank, h]

theorem length_writtenBytes_blank (e : Exchange) :
    e.blank.writtenBytes.length = e.writtenBytes.length := by
  cases e with
  | sent offered answer => cases answer <;> simp [blank, writtenBytes]
  | received | waited | idled | nodelaySet | closed => rfl

theorem length_bytesOut_blank (exchanges : List Exchange) :
    (bytesOut (exchanges.map blank)).length = (bytesOut exchanges).length := by
  induction exchanges with
  | nil => rfl
  | cons e exchanges ih =>
    simp only [bytesOut, List.map_cons, List.flatMap_cons, List.length_append] at ih ⊢
    rw [ih, length_writtenBytes_blank]

end Exchange

section
variable {σ : Type} [Transport σ]

/-- The exchanges of two traced streams are the same but for the bytes offered. -/
def Blind.Traces (B : Blind σ) (s t : Traced σ) : Prop :=
  B.alike s.peer t.peer ∧ s.exchanges.map Exchange.blank = t.exchanges.map Exchange.blank

namespace Blind

variable {B : Blind σ} {s t s' t' : Traced σ}

theorem Traces.step (h : B.Traces s t) (hp : B.alike s'.peer t'.peer) {e e' : Exchange}
    (hs : s'.exchanges = s.exchanges ++ [e]) (ht : t'.exchanges = t.exchanges ++ [e'])
    (he : e.blank = e'.blank) : B.Traces s' t' := by
  refine ⟨hp, ?_⟩
  rw [hs, ht, List.map_append, List.map_append, h.2, List.map_singleton, List.map_singleton, he]

theorem Traces.send (h : B.Traces s t) {a b : List UInt8} (hl : a.length = b.length)
    {answer : Except IoKind Nat} (hs : Transport.send s a = (answer, s')) :
    ∃ t', Transport.send t b = (answer, t') ∧ B.Traces s' t' := by
  have hp := Traced.send_peer hs
  obtain ⟨ha, hpeer⟩ := B.send h.1 hl
  rw [hp] at ha hpeer
  obtain ⟨t', ht, htp⟩ := Traced.exists_send (Prod.ext ha.symm rfl :
    Transport.send t.peer b = (answer, (Transport.send t.peer b).2))
  exact ⟨t', ht, h.step (htp ▸ hpeer) (Traced.exchanges_send hs) (Traced.exchanges_send ht)
    (Exchange.blank_sent hl answer)⟩

theorem Traces.recv (h : B.Traces s t) {room : Nat} {answer : Except IoKind (List UInt8)}
    (hs : Transport.recv s room = (answer, s')) :
    ∃ t', Transport.recv t room = (answer, t') ∧ B.Traces s' t' := by
  have hp := Traced.recv_peer hs
  obtain ⟨ha, hpeer⟩ := B.recv h.1 room
  rw [hp] at ha hpeer
  obtain ⟨t', ht, htp⟩ := Traced.exists_recv (Prod.ext ha.symm rfl :
    Transport.recv t.peer room = (answer, (Transport.recv t.peer room).2))
  exact ⟨t', ht, h.step (htp ▸ hpeer) (Traced.exchanges_recv hs) (Traced.exchanges_recv ht) rfl⟩

theorem Traces.wait (h : B.Traces s t) {interest : Interest} {timeout : Nat}
    {answer : Except IoKind Unit} (hs : Transport.wait s interest timeout = (answer, s')) :
    ∃ t', Transport.wait t interest timeout = (answer, t') ∧ B.Traces s' t' := by
  have hp := Traced.wait_peer hs
  obtain ⟨ha, hpeer⟩ := B.wait h.1 interest timeout
  rw [hp] at ha hpeer
  obtain ⟨t', ht, htp⟩ := Traced.exists_wait (Prod.ext ha.symm rfl :
    Transport.wait t.peer interest timeout = (answer, (Transport.wait t.peer interest timeout).2))
  exact ⟨t', ht, h.step (htp ▸ hpeer) (Traced.exchanges_wait hs) (Traced.exchanges_wait ht) rfl⟩

theorem Traces.intake (h : B.Traces s t) (room : Nat) :
    (Transport.intake s room).bytes = (Transport.intake t room).bytes ∧
      (Transport.intake s room).ending = (Transport.intake t room).ending ∧
      B.Traces (Transport.intake s room).stream (Transport.intake t room).stream := by
  fun_induction Transport.intake s room generalizing t with
  | case1 s s' hs =>
    obtain ⟨t', ht, hst⟩ := h.recv hs
    rw [Transport.intake_of_end ht]
    exact ⟨rfl, rfl, hst⟩
  | case2 s b bytes s' hs later =>
    rename_i ih
    obtain ⟨t', ht, hst⟩ := h.recv hs
    obtain ⟨hb, he, hlater⟩ := ih hst
    rw [Transport.intake_of_data ht]
    exact ⟨congrArg (b :: bytes ++ ·) hb, he, hlater⟩
  | case3 s kind s' hs =>
    obtain ⟨t', ht, hst⟩ := h.recv hs
    rw [Transport.intake_of_error ht]
    exact ⟨rfl, rfl, hst⟩

end Blind

def Blind.likeness (B : Blind σ) : Likeness (Traced σ) (Traced σ) where
  streams := B.Traces
  rooms := Eq
  bytes a b := a.length = b.length
  keys _ _ := True
  bytes_refl _ := rfl
  append h h' := by rw [List.length_append, List.length_append, h, h']
  drop h n := by rw [List.length_drop, List.length_drop, h]
  length_eq h := h
  encode {k l} _ opcode payload :=
    length_encode_congr (show (some k.next).isSome = (some l.next).isSome from rfl) opcode payload
  advance _ := trivial
  intake h hr := hr ▸ h.intake _
  send h hl hs := h.send hl hs
  wait h hs := h.wait hs
  idle h time :=
    h.step (B.idle h.1 time) (Traced.exchanges_idle ..) (Traced.exchanges_idle ..) rfl
  close h := h.step (B.close h.1) (Traced.exchanges_close _) (Traced.exchanges_close _) rfl

end

-- ---------------------------------------------------------------------------
-- Frames under other keys
-- ---------------------------------------------------------------------------

namespace Outgoing

def opcode : Outgoing → Opcode
  | .frame opcode _ => opcode
  | .close => .close

/-- The key that a frame is masked with. The close frame always has the zero key. -/
def key? (useMask : Bool) (keys : KeySource) : Outgoing → Option MaskKey
  | .frame .. => if useMask then some keys.next else none
  | .close => some ⟨0, 0, 0, 0⟩

theorem encode_eq (useMask : Bool) (keys : KeySource) (out : Outgoing) :
    out.encode useMask keys =
      Frame.encode out.opcode out.payload (out.key? useMask keys) := by
  cases out with
  | frame opcode payload => rfl
  | close => exact (by decide : Frame.closeFrame = Frame.encode .close [] (some ⟨0, 0, 0, 0⟩))

theorem isSome_key? (useMask : Bool) (keys keys' : KeySource) (out : Outgoing) :
    (out.key? useMask keys).isSome = (out.key? useMask keys').isSome := by
  cases out with
  | frame opcode payload => cases useMask <;> rfl
  | close => rfl

/-- Frames decode to the same under any keys, wherever their bytes are cut. The
induction is on the frames, over the keys that are left and the place of the cut. -/
theorem decoded_encodeAll_take (limit : Nat) {outs : List Outgoing}
    (hs : ∀ out ∈ outs, out.payload.length < UInt64.size) (useMask : Bool)
    (keys keys' : KeySource) (n : Nat) :
    decoded limit ((encodeAll useMask keys outs).take n) =
      decoded limit ((encodeAll useMask keys' outs).take n) := by
  induction outs generalizing keys keys' n with
  | nil => rfl
  | cons out outs ih =>
    have hout := hs out (.head _)
    have hsome := isSome_key? useMask keys keys' out
    have hlength := length_encode_congr hsome out.opcode out.payload
    have hlater := ih (fun out ho => hs out (.tail _ ho)) (out.keysAfter useMask keys)
      (out.keysAfter useMask keys')
    simp only [encodeAll, encode_eq, decoded_take hout, hsome, hlength, hlater]

end Outgoing

-- ---------------------------------------------------------------------------
-- What goes out
-- ---------------------------------------------------------------------------

def Operation.payload : Operation → List UInt8
  | .sendText text => Utf8.encode text
  | .sendBinary data => data
  | .sendPing | .close | .poll .. => []

namespace Connection

section
variable {σ : Type} [Transport σ]

theorem length_payload_of_mem_queued {c : Connection σ} {operations : List Operation}
    (hs : ∀ operation ∈ operations, operation.payload.length < UInt64.size) :
    ∀ out ∈ c.queued operations, out.payload.length < UInt64.size := by
  induction operations generalizing c with
  | nil => nofun
  | cons operation operations ih =>
    have hfirst := hs operation (.head _)
    intro out ho
    rcases List.mem_append.mp ho with ho | ho
    · cases operation with
      | sendText | sendBinary | sendPing =>
        simp only [queues] at ho
        split at ho <;> cases ho
        · exact hfirst
        · next ho => cases ho
      | close =>
        simp only [queues] at ho
        split at ho <;> cases ho
        · decide
        · next ho => cases ho
      | poll =>
        obtain ⟨-, rfl | ⟨payload, rfl, hp⟩⟩ := mem_queues_poll ho
        · decide
        · exact hp
    · exact ih (fun operation hm => hs operation (.tail _ hm)) out ho

end

variable {σ : Type} [Transport σ] {keys : KeySource} {config : Config}

/-- The bytes that a run has written, and those it has still to write. -/
def output (c : Connection (Traced σ)) (operations : List Operation) : List UInt8 :=
  c.written operations ++ (c.run operations).2.outbound.contents

/-- The output is the front of the wire form of the frames queued: all of it, unless
the connection was closed. -/
theorem Fresh.output_prefix {c : Connection (Traced σ)} (h : Fresh keys config c)
    (operations : List Operation) :
    c.output operations <+: Outgoing.encodeAll config.useMask keys (c.queued operations) := by
  unfold output
  by_cases hs : (c.run operations).2.state = .closed
  · rw [(h.coherent.run operations).closed hs, List.append_nil]
    exact h.written_prefix hs
  · have he := h.written_append (h.faultless_run_of_not_closed hs)
    exact he ▸ List.prefix_rfl

-- ---------------------------------------------------------------------------
-- Two runs
-- ---------------------------------------------------------------------------

/-- All that can be seen of two connections is the same, but for the bytes that they
write. The exchanges show the interests of the waits, the lengths of the writes and all
answers of the stream. -/
structure Keyless (c d : Connection (Traced σ)) : Prop where
  state : c.state = d.state
  lastError : c.lastError = d.lastError
  inbound : c.inbound.contents = d.inbound.contents
  reassembler : c.reassembler = d.reassembler
  bufferedAmount : c.bufferedAmount = d.bufferedAmount
  exchanges : c.stream.exchanges.map Exchange.blank = d.stream.exchanges.map Exchange.blank

theorem Alike.keyless {B : Blind σ} {c d : Connection (Traced σ)}
    (h : Alike B.likeness c d) : Keyless c d :=
  ⟨h.state, h.lastError, h.inbound, h.reassembler, h.outbound, h.stream.2⟩

theorem establish_rekeyed {clock : Clock} {t : Traced σ} {endpoint : Endpoint}
    {c : Connection (Traced σ)} (h : establish clock keys t endpoint config = .ok c)
    (keys' : KeySource) :
    establish clock keys' t endpoint config = .ok { c with keys := keys' } := by
  unfold establish at h ⊢
  split at h
  · cases h
  · cases h
    rfl

theorem Alike.length_output {B : Blind σ} {c d : Connection (Traced σ)}
    (hstream : c.stream = d.stream) (h : Alike B.likeness c d) (operations : List Operation) :
    (c.output operations).length = (d.output operations).length := by
  have hrun := (h.run operations).alike
  have hsince : ((c.run operations).2.stream.since c.stream).map Exchange.blank =
      ((d.run operations).2.stream.since d.stream).map Exchange.blank := by
    rw [Traced.since, Traced.since, List.map_drop, List.map_drop, hrun.stream.2, hstream]
  unfold output written
  rw [List.length_append, List.length_append, ← Exchange.length_bytesOut_blank, hsince,
    Exchange.length_bytesOut_blank]
  exact congrArg _ hrun.outbound

theorem decoded_output {B : Blind σ} {keys' : KeySource} {c d : Connection (Traced σ)}
    (hc : Fresh keys config c) (hd : Fresh keys' config d) (hstream : c.stream = d.stream)
    (h : Alike B.likeness c d) {operations : List Operation}
    (hs : ∀ operation ∈ operations, operation.payload.length < UInt64.size) (limit : Nat) :
    decoded limit (c.output operations) = decoded limit (d.output operations) := by
  have hp := hc.output_prefix operations
  have hq := hd.output_prefix operations
  rw [List.prefix_iff_eq_take.mp hp, List.prefix_iff_eq_take.mp hq,
    ← h.length_output hstream operations, ← h.queued operations]
  exact Outgoing.decoded_encodeAll_take limit (length_payload_of_mem_queued hs) _ _ _ _

/-- Over a stream that only counts the bytes it is offered, the keys of a connection do
not show in anything but these bytes: not in the outcomes, in what is left after any
operations or any ending, or in the frames that its output decodes to. -/
theorem run_rekeyed (B : Blind σ) {clock : Clock} {s : σ} {endpoint : Endpoint}
    {c : Connection (Traced σ)}
    (h : establish clock keys (Traced.fresh s) endpoint config = .ok c) (keys' : KeySource) :
    ∃ d, establish clock keys' (Traced.fresh s) endpoint config = .ok d ∧
      ∀ operations, (c.run operations).1 = (d.run operations).1 ∧
        Keyless (c.run operations).2 (d.run operations).2 ∧
        ((∀ operation ∈ operations, operation.payload.length < UInt64.size) → ∀ limit,
          decoded limit (c.output operations) = decoded limit (d.output operations)) ∧
        ∀ clock later ending,
          ((c.run operations).2.conclude clock later ending).1 =
              ((d.run operations).2.conclude clock later ending).1 ∧
            Keyless ((c.run operations).2.conclude clock later ending).2
              ((d.run operations).2.conclude clock later ending).2 := by
  have hd := establish_rekeyed h keys'
  have halike : Alike B.likeness c { c with keys := keys' } :=
    ⟨⟨B.refl _, rfl⟩, rfl, rfl, trivial, rfl, rfl, rfl, rfl, rfl, rfl, rfl, rfl⟩
  refine ⟨_, hd, fun operations => ?_⟩
  have hrun := halike.run operations
  refine ⟨hrun.answer, hrun.alike.keyless, fun hs limit => ?_, fun clock later ending => ?_⟩
  · exact decoded_output (fresh_of_establish h) (fresh_of_establish hd) rfl halike hs limit
  · have hend := hrun.alike.conclude clock later ending
    exact ⟨hend.answer, hend.alike.keyless⟩

/-- A text and the pong that a ping calls for, under other keys. The stream takes the
text but for its last byte, which is payload, and the pong is still queued behind it. -/
theorem run_rekeyed_pong :
    ∃ c d, scripted {} [.data [0x89, 0x01, 0x42]] [.accept 6, .block] = .ok c ∧
      establish (.patient 1) ⟨fun _ => ⟨5, 6, 7, 8⟩, 0⟩ (Traced.fresh {
          reads := [.data (Utf8.encode "HTTP/1.1 101 Switching Protocols\r\n\r\n"),
            .data [0x89, 0x01, 0x42]]
          writes := [.accept 1000, .accept 6, .block] }) ⟨"localhost", 80, "/"⟩ {} = .ok d ∧
      c.written [.sendText "A", .poll 0 true] = [0x81, 0x81, 1, 2, 3, 4] ∧
      decoded 10 (c.output [.sendText "A", .poll 0 true]) =
        ([⟨true, .text, true, [0x41]⟩, ⟨true, .pong, true, [0x42]⟩], none) ∧
      decoded 10 (c.output [.sendText "A", .poll 0 true]) =
        decoded 10 (d.output [.sendText "A", .poll 0 true]) ∧
      Keyless (c.run [.sendText "A", .poll 0 true]).2 (d.run [.sendText "A", .poll 0 true]).2 := by
  obtain ⟨c, hc, hp⟩ := exists_scripted {} [.data [0x89, 0x01, 0x42]] [.accept 6, .block]
    (p := fun c => c.written [.sendText "A", .poll 0 true] = [0x81, 0x81, 1, 2, 3, 4] ∧
      decoded 10 (c.output [.sendText "A", .poll 0 true]) =
        ([⟨true, .text, true, [0x41]⟩, ⟨true, .pong, true, [0x42]⟩], none))
    (by decide +kernel)
  obtain ⟨hw, hout⟩ := of_decide_eq_true hp
  obtain ⟨d, hd, hrun⟩ := run_rekeyed Script.blind hc ⟨fun _ => ⟨5, 6, 7, 8⟩, 0⟩
  obtain ⟨-, hk, hframes, -⟩ := hrun [.sendText "A", .poll 0 true]
  exact ⟨c, d, hc, hd, hw, hout, hframes (by decide +kernel) 10, hk⟩

end Connection

end WebSocket
