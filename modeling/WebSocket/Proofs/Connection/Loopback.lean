import WebSocket.Proofs.Connection.Replies
import WebSocket.Proofs.Wire.Encoding

/-!
# Two connections back to back

What one connection sends, another one receives (`loopback`): the bytes written
read back as the frames queued, so an application that only listens is handed
the messages of the other in order, and sees it close.
-/

namespace WebSocket

-- ---------------------------------------------------------------------------
-- Frames read back
-- ---------------------------------------------------------------------------

namespace Outgoing

def payload : Outgoing → List UInt8
  | .frame _ payload => payload
  | .close => []

def piece : Outgoing → Wire.Piece
  | .frame opcode payload => ⟨true, opcode, payload⟩
  | .close => ⟨true, .close, []⟩

def message? : Outgoing → Option Message
  | .frame opcode payload =>
    if opcode.isData then some ⟨.ofOpcode opcode, payload⟩ else none
  | .close => none

/-- The other side takes the payload, and memory can hold it. -/
structure Fits (limits : Wire.Limits) (out : Outgoing) : Prop where
  frame : out.payload.length ≤ limits.frame
  message : out.payload.length ≤ limits.message
  memory : out.payload.length < Wire.longest

instance (limits : Wire.Limits) (out : Outgoing) : Decidable (out.Fits limits) :=
  decidable_of_iff (out.payload.length ≤ limits.frame ∧ out.payload.length ≤ limits.message ∧
    out.payload.length < Wire.longest) ⟨fun ⟨hf, hm, hl⟩ => ⟨hf, hm, hl⟩, fun h => ⟨h.1, h.2, h.3⟩⟩

section
variable {limits : Wire.Limits} {out : Outgoing}

theorem read_encode (h : out.Fits limits) (useMask : Bool) (keys : KeySource) (rest : List UInt8) :
    Wire.read limits.frame (out.encode useMask keys ++ rest) = .piece out.piece rest := by
  cases out with
  | frame opcode payload => exact Wire.read_encode h.frame h.memory _ rest
  | close =>
    rw [encode, show Frame.closeFrame = Frame.encode .close [] (some ⟨0, 0, 0, 0⟩) by decide]
    exact Wire.read_encode h.frame h.memory _ rest

theorem not_overflows (h : out.Fits limits) : ¬out.piece.overflows limits 0 := by
  rintro ⟨-, ho⟩
  have hp : out.piece.payload = out.payload := by cases out <;> rfl
  rw [hp, Nat.zero_add] at ho
  exact absurd h.message (Nat.not_le.mpr ho)

theorem gather_piece (out : Outgoing) : out.piece.gather 0 = 0 := by
  cases out with
  | frame opcode => cases opcode <;> rfl
  | close => rfl

theorem scan_encodeAll {outs : List Outgoing} (h : ∀ out ∈ outs, out.Fits limits)
    (useMask : Bool) (keys : KeySource) :
    Wire.scan limits 0 (encodeAll useMask keys outs) = (outs.map piece, none) := by
  induction outs generalizing keys with
  | nil => exact Wire.scan_incomplete rfl
  | cons out outs ih =>
    have hout := h out (.head _)
    rw [encodeAll, Wire.scan_piece (read_encode hout useMask keys _) (not_overflows hout),
      gather_piece, ih fun out ho => h out (.tail _ ho)]
    rfl

theorem joined_piece {opcode : Opcode} (h : opcode.isData = true) (payload : List UInt8) :
    (frame opcode payload).message? = some (Wire.joined [(frame opcode payload).piece]) := by
  cases opcode with
  | continuation | text | binary => simp [message?, Opcode.isData, Opcode.toByte, Wire.joined,
      piece, MessageKind.ofOpcode]
  | close | ping | pong => cases h

theorem assemble_map_piece (outs : List Outgoing) :
    Wire.assemble [] (outs.map piece) = outs.filterMap message? := by
  induction outs with
  | nil => rfl
  | cons out outs ih =>
    cases out with
    | frame opcode payload =>
      cases hd : opcode.isData with
      | true =>
        rw [List.filterMap_cons_some (joined_piece hd payload), List.map_cons,
          Wire.assemble_final hd rfl, ih]
        rfl
      | false =>
        have hm : (frame opcode payload).message? = none := if_neg (by simp [hd])
        rw [List.filterMap_cons_none hm, List.map_cons, Wire.assemble_control hd, ih]
    | close => rw [List.filterMap_cons_none rfl, List.map_cons, Wire.assemble_control rfl, ih]

theorem close_mem_replies_map {outs : List Outgoing}
    (hf : ∀ payload, .frame .close payload ∉ outs) :
    .close ∈ replies (outs.map piece) none ↔ .close ∈ outs := by
  rw [close_mem_replies]
  constructor
  · rintro (⟨p, hp, ho⟩ | h)
    · obtain ⟨out, hm, rfl⟩ := List.mem_map.mp hp
      cases out with
      | frame opcode payload =>
        cases ho
        exact absurd hm (hf payload)
      | close => exact hm
    · cases h
  · exact fun h => .inl ⟨_, List.mem_map_of_mem h, rfl⟩

end

end Outgoing

-- ---------------------------------------------------------------------------
-- What the application sends
-- ---------------------------------------------------------------------------

/-- What a send brings to the other side: the message, and the text it reads as. -/
def Operation.arrival? : Operation → Option (Message × Option String)
  | .sendText text => some (⟨.text, Utf8.encode text⟩, some text)
  | .sendBinary data => some (⟨.binary, data⟩, none)
  | _ => none

namespace Connection

variable {σ : Type} [Transport σ]

def accepted (c : Connection σ) : List Operation → List Operation
  | [] => []
  | operation :: operations =>
    (if (c.apply operation).1.isOk then [operation] else []) ++
      (c.apply operation).2.accepted operations

theorem mem_queues_poll {c : Connection σ} {timeout : Nat} {listening : Bool} {out : Outgoing}
    (h : out ∈ c.queues (.poll timeout listening)) :
    listening = true ∧ (out = .close ∨
      ∃ payload, out = .frame .pong payload ∧ payload.length < UInt64.size) := by
  simp only [queues] at h
  cases hd : c.dispatched? (.poll timeout listening) with
  | none => simp [hd] at h
  | some d =>
    simp only [hd] at h
    refine ⟨?_, ?_⟩
    · cases listening with
      | true => rfl
      | false => cases hd
    · split at h
      · rcases mem_replies _ _ h with hc | ⟨p, hp, ho⟩
        · exact .inl hc
        · exact .inr ⟨p.payload, ho, Wire.length_payload_of_mem_scan hp⟩
      · cases h

theorem arrivals_queues (c : Connection σ) (operation : Operation) :
    ((c.queues operation).filterMap Outgoing.message?).map (fun m => (m, m.asText?)) =
      (if (c.apply operation).1.isOk then [operation] else []).filterMap Operation.arrival? := by
  have hsend (opcode : Opcode) (payload : List UInt8)
      (hq : c.queues operation = if c.state = .open then [.frame opcode payload] else [])
      (ha : (c.apply operation).1 = (c.send opcode payload).1.map fun _ => [])
      (hm : (Outgoing.frame opcode payload).message?.map (fun m => (m, m.asText?)) =
        operation.arrival?) :
      ((c.queues operation).filterMap Outgoing.message?).map (fun m => (m, m.asText?)) =
        (if (c.apply operation).1.isOk then [operation] else []).filterMap
          Operation.arrival? := by
    rw [hq, ha, List.map_filterMap]
    unfold send
    split
    · change _ = List.filterMap Operation.arrival? [operation]
      simp only [List.filterMap_cons, hm, List.filterMap_nil]
    · rfl
  cases operation with
  | sendText text =>
    refine hsend .text (Utf8.encode text) rfl rfl ?_
    exact congrArg (fun t => some (_, t)) (Message.asText?_text text)
  | sendBinary data => exact hsend .binary data rfl rfl rfl
  | sendPing => exact hsend .ping [] rfl rfl rfl
  | close =>
    rw [queues]
    split <;> rfl
  | poll timeout listening =>
    have hm : (c.queues (.poll timeout listening)).filterMap Outgoing.message? = [] := by
      refine List.filterMap_eq_nil_iff.mpr fun out ho => ?_
      obtain ⟨-, rfl | ⟨payload, rfl, -⟩⟩ := mem_queues_poll ho <;> rfl
    rw [hm]
    split <;> rfl

theorem arrivals_queued (c : Connection σ) (operations : List Operation) :
    ((c.queued operations).filterMap Outgoing.message?).map (fun m => (m, m.asText?)) =
      (c.accepted operations).filterMap Operation.arrival? := by
  induction operations generalizing c with
  | nil => rfl
  | cons operation operations ih =>
    rw [queued, List.filterMap_append, List.map_append, ih, arrivals_queues, accepted,
      List.filterMap_append]

theorem frame_close_not_mem_queued (c : Connection σ) (operations : List Operation)
    (payload : List UInt8) : .frame .close payload ∉ c.queued operations := by
  induction operations generalizing c with
  | nil => nofun
  | cons operation operations ih =>
    refine fun h => (List.mem_append.mp h).elim (fun h => ?_) (ih _)
    cases operation with
    | sendText | sendBinary | sendPing | close => simp [queues] at h
    | poll => obtain ⟨-, h | ⟨_, h, -⟩⟩ := mem_queues_poll h <;> cases h

-- ---------------------------------------------------------------------------
-- An application that only listens
-- ---------------------------------------------------------------------------

section
variable {start c d : Connection (Traced σ)} {seen : List Exchange} {past events : List Event}

/-- The account of a connection that is only polled: all that it queues are replies,
and as long as nothing fails and the peer breaks no rule, nothing is wrong. -/
structure Listens (start c : Connection (Traced σ)) (seen : List Exchange) (past : List Event) :
    Prop extends Replied some start c seen past where
  calm : c.discarding = false → Exchange.Faultless seen → c.lastError = none

theorem Listens.stream {exchanges : List Exchange} (h : Listens start c seen past)
    (hs : c.state ≠ .closed) (hm : StreamMove c d) (ht : Traces c d exchanges) :
    Listens start d (seen ++ exchanges) past where
  toReplied := (replied_steps some start).stream hs hm ht h.toReplied
  calm hd hf := by
    obtain ⟨hseen, hexchanges⟩ := Exchange.faultless_append.mp hf
    have hcalm := h.calm (hm.discarding_eq ▸ hd) hseen
    cases ht.leaves with
    | going _ he | drained _ _ _ _ he => exact he.trans hcalm
    | failed _ _ he => exact absurd he hexchanges.not_failed

theorem listens_steps (start : Connection (Traced σ)) : StepAccount (Listens start) where
  stream hs hm ht h := h.stream hs hm ht
  idle time hs h :=
    ⟨(replied_steps some start).idle time hs h.toReplied,
      fun hd hf => h.calm hd (Exchange.faultless_append.mp hf).1⟩
  frame hf h :=
    ⟨(replied_steps some start).frame hf h.toReplied,
      fun hd hs => hf.lastError_eq.trans (h.calm (hf.discarding_eq ▸ hd) hs)⟩
  breach hb h :=
    ⟨(replied_steps some start).breach hb h.toReplied,
      fun hd => absurd (hb.discarding_eq.symm.trans hd) nofun⟩

def listening (timeouts : List Nat) : List Operation := timeouts.map (.poll · true)

theorem settled_poll {σ : Type} [Transport σ] {c : Connection σ} {timeout : Nat}
    (hc : c.state ≠ .closed ∨ c.Settled)
    (hl : (c.poll timeout true).2.discarding = false → (c.poll timeout true).2.lastError = none) :
    (c.poll timeout true).2.Settled := by
  unfold poll at hl ⊢
  by_cases hs : c.state = .closed
  · rw [if_pos hs]
    exact hc.resolve_left (fun hn => hn hs)
  rw [if_neg hs] at hl ⊢
  cases hw : c.waitReady timeout with
  | mk answer d =>
    cases answer with
    | error kind =>
      simp only [hw] at hl ⊢
      cases hd : d.discarding with
      | true => exact .inl hd
      | false => exact absurd (hl hd) nofun
    | ok => exact settled_dispatch _

omit [Transport σ] in
theorem Fresh.listens {keys : KeySource} {config : Config} (h : Fresh keys config c) :
    Listens c c [] [] where
  toReplied := h.replied
  calm _ _ := h.lastError_eq

theorem Listens.polls (h : Listens start c seen past)
    (hs : Exchange.Faultless seen → c.state ≠ .closed ∨ c.Settled) (timeouts : List Nat) :
    ∃ exchanges events,
      (c.run (listening timeouts)).2.stream.exchanges = c.stream.exchanges ++ exchanges ∧
      Listens start (c.run (listening timeouts)).2 (seen ++ exchanges) (past ++ events) ∧
      Event.messages events = delivered (c.run (listening timeouts)).1 ∧
      Event.outgoing events = c.queued (listening timeouts) ∧
      (Exchange.Faultless (seen ++ exchanges) →
        timeouts = [] ∨ (c.run (listening timeouts)).2.Settled) := by
  induction timeouts generalizing c seen past with
  | nil =>
    refine ⟨[], [], (List.append_nil _).symm, ?_, rfl, rfl, fun _ => .inl rfl⟩
    rw [List.append_nil, List.append_nil]
    exact h
  | cons timeout timeouts ih =>
    obtain ⟨first, hp, hm, ho⟩ := poll_steps h.account.coherent timeout true
    obtain ⟨early, he, hl⟩ := (listens_steps start).steps hp h
    have hsettled (hf : Exchange.Faultless (seen ++ early)) :
        (c.poll timeout true).2.Settled :=
      settled_poll (hs (Exchange.faultless_append.mp hf).1) fun hd => hl.calm hd hf
    obtain ⟨late, later, ht, hd, hn, hq, hend⟩ := ih hl fun hf => .inr (hsettled hf)
    refine ⟨early ++ late, first ++ later, ?_, ?_, ?_, ?_, fun hf => .inr ?_⟩
    · rw [← List.append_assoc, ← he]
      exact ht
    · rw [← List.append_assoc, ← List.append_assoc]
      exact hd
    · rw [Event.messages_append, hm, hn]
      rfl
    · rw [Event.outgoing_append, ho, hq]
      rfl
    · rw [← List.append_assoc] at hf
      rcases hend hf with rfl | hend
      · exact hsettled (Exchange.faultless_append.mp hf).1
      · exact hend

end

-- ---------------------------------------------------------------------------
-- Closing
-- ---------------------------------------------------------------------------

section
variable {σ : Type} [Transport σ]

theorem close_mem_of_close_mem_queued {c : Connection σ} {operations : List Operation}
    (hl : ∀ timeout, .poll timeout true ∉ operations) (h : .close ∈ c.queued operations) :
    .close ∈ operations := by
  induction operations generalizing c with
  | nil => cases h
  | cons operation operations ih =>
    have hrest : ∀ timeout, .poll timeout true ∉ operations :=
      fun timeout hm => hl timeout (.tail _ hm)
    rcases List.mem_append.mp h with h | h
    · cases operation with
      | sendText | sendBinary | sendPing => simp [queues] at h
      | close => exact .head _
      | poll timeout listening =>
        obtain ⟨rfl, -⟩ := mem_queues_poll h
        exact absurd (List.Mem.head _) (hl timeout)
    · exact .tail _ (ih hrest h)

theorem state_ne_open_of_close_mem {c : Connection σ} (hc : c.Coherent)
    {operations : List Operation} (h : .close ∈ operations) :
    (c.run operations).2.state ≠ .open := by
  induction operations generalizing c with
  | nil => cases h
  | cons operation operations ih =>
    have hnext := hc.apply operation
    cases h with
    | head =>
      intro hs
      have hle := hnext.state_le_run operations
      rw [show (((c.apply .close).2.run operations).2).state = .open from hs] at hle
      have hclose : c.close.state = .open := eq_open_of_le hle hnext.started
      rw [state_close] at hclose
      split at hclose
      · cases hclose
      · contradiction
    | tail _ h => exact ih hnext h

end

-- ---------------------------------------------------------------------------
-- Back to back
-- ---------------------------------------------------------------------------

/-- What `a` has written over one stream is what `b` has heard over another, and
neither stream has failed. -/
structure Joined {σ τ : Type} [Transport σ] [Transport τ] (a : Connection (Traced σ))
    (operations : List Operation) (b : Connection (Traced τ)) (timeouts : List Nat) : Prop where
  flushed : (a.run operations).2.outbound.contents = []
  writes : Exchange.Faultless ((a.run operations).2.stream.since a.stream)
  reads : Exchange.Faultless ((b.run (listening timeouts)).2.stream.since b.stream)
  heard_eq : b.heard ((b.run (listening timeouts)).2.stream.since b.stream) = a.written operations

/-- What one connection has sent, the other has been handed: the same messages in
the same order, with the texts they were made of. Nothing is wrong there, and it
has left the open state exactly if the sender has. -/
theorem loopback {σ τ : Type} [Transport σ] [Transport τ] {clock clock' : Clock}
    {keys keys' : KeySource} {s : Traced σ} {t : Traced τ} {endpoint endpoint' : Endpoint}
    {config config' : Config} {a : Connection (Traced σ)} {b : Connection (Traced τ)}
    (ha : establish clock keys s endpoint config = .ok a)
    (hb : establish clock' keys' t endpoint' config' = .ok b)
    {operations : List Operation} {timeouts : List Nat} (ht : timeouts ≠ [])
    (hj : Joined a operations b timeouts)
    (hfits : ∀ out ∈ a.queued operations,
      out.Fits ⟨config'.maxFrameSize, config'.maxMessageSize⟩) :
    let (outcomes, last) := b.run (listening timeouts)
    (delivered outcomes).map (fun m => (m, m.asText?)) =
        (a.accepted operations).filterMap Operation.arrival? ∧
      last.lastError = none ∧
      (last.state ≠ .open ↔ (a.run operations).2.state ≠ .open) ∧
      ((∀ timeout, .poll timeout true ∉ operations) →
        (last.state ≠ .open ↔ .close ∈ operations)) := by
  have hfa := fresh_of_establish ha
  have hfb := fresh_of_establish hb
  have hwritten := hfa.written_append hj.writes
  rw [hj.flushed, List.append_nil] at hwritten
  obtain ⟨seen, events, hstream, hlistens, hmessages, houtgoing, hsettled⟩ :=
    hfb.listens.polls (fun _ => .inl (by rw [hfb.state_eq]; nofun)) timeouts
  have hseen := Traced.since_of_eq hstream
  rw [List.nil_append] at hlistens hsettled
  rw [List.nil_append] at hlistens
  have hreads : Exchange.Faultless seen := hseen ▸ hj.reads
  have hheard : b.heard seen =
      Outgoing.encodeAll config.useMask keys (a.queued operations) := by
    rw [← hseen, hj.heard_eq, hwritten]
  -- the bytes heard break no rule, so the receiver is never discarding
  have hscan := Outgoing.scan_encodeAll hfits config.useMask keys
  rw [← hheard, ← hfb.limits_eq] at hscan
  have hsettled := (hsettled hreads).resolve_left ht
  have hgoing : (b.run (listening timeouts)).2.discarding = false := by
    cases hd : (b.run (listening timeouts)).2.discarding with
    | false => rfl
    | true =>
      have hv := (hlistens.account.settled hd []).2
      rw [List.append_nil, hscan] at hv
      cases hv
  have hclose : .close ∈ b.queued (listening timeouts) ↔ .close ∈ a.queued operations := by
    have hreplies := hlistens.outgoing_eq hsettled hreads
    simp only [hscan, List.filterMap_some] at hreplies
    rw [← houtgoing, ← hreplies]
    exact Outgoing.close_mem_replies_map (frame_close_not_mem_queued a operations)
  have hstate := hfb.close_mem_queued_iff hj.reads
  have hother := hfa.close_mem_queued_iff hj.writes
  refine ⟨?_, hlistens.calm hgoing hreads, ?_, fun hl => ?_⟩
  · rw [← hmessages, hlistens.account.messages_eq hsettled, ← arrivals_queued, Wire.messages,
      hscan, Outgoing.assemble_map_piece]
  · rw [← hstate, hclose, hother]
  · rw [← hstate, hclose]
    refine ⟨close_mem_of_close_mem_queued hl, fun hc => ?_⟩
    exact hother.mpr (state_ne_open_of_close_mem hfa.coherent hc)

/-- A text, a ping, two bytes of data and a close, written in two pieces and read
with cuts inside frames. -/
theorem loopback_mixed :
    ∃ a b, scripted {} [] [.accept 5, .block] = .ok a ∧
      scripted { maxFrameSize := 2, maxMessageSize := 2 }
        [.data [0x81, 0x81, 1], .block, .data [2, 3, 4, 0x40, 0x89], .data [0x80, 1, 2, 3, 4],
          .block, .data [0x82, 0x82, 1, 2, 3, 4, 6, 10, 0x88, 0x80, 0, 0, 0, 0]] [] = .ok b ∧
      Joined a [.sendText "A", .sendPing, .poll 0 false, .sendBinary [7, 8], .close, .poll 0 false]
        b [0, 0, 0] ∧
      (delivered (b.run (listening [0, 0, 0])).1).map (fun m => (m, m.asText?)) =
        [(⟨.text, [0x41]⟩, some "A"), (⟨.binary, [7, 8]⟩, none)] ∧
      (b.run (listening [0, 0, 0])).2.state ≠ .open := by
  obtain ⟨a, ha, hp⟩ := exists_scripted {} [] [.accept 5, .block]
    (p := fun a =>
      let sent := [.sendText "A", .sendPing, .poll 0 false, .sendBinary [7, 8], .close,
        .poll 0 false]
      (a.run sent).2.outbound.contents = [] ∧
      Exchange.Faultless ((a.run sent).2.stream.since a.stream) ∧
      a.written sent = [0x81, 0x81, 1, 2, 3, 4, 0x40, 0x89, 0x80, 1, 2, 3, 4, 0x82, 0x82,
        1, 2, 3, 4, 6, 10, 0x88, 0x80, 0, 0, 0, 0] ∧
      a.accepted sent = sent ∧ ∀ out ∈ a.queued sent, out.Fits ⟨2, 2⟩) (by decide +kernel)
  obtain ⟨b, hb, hq⟩ := exists_scripted { maxFrameSize := 2, maxMessageSize := 2 }
    [.data [0x81, 0x81, 1], .block, .data [2, 3, 4, 0x40, 0x89], .data [0x80, 1, 2, 3, 4],
      .block, .data [0x82, 0x82, 1, 2, 3, 4, 6, 10, 0x88, 0x80, 0, 0, 0, 0]] []
    (p := fun b =>
      let seen := (b.run (listening [0, 0, 0])).2.stream.since b.stream
      Exchange.Faultless seen ∧
      b.heard seen = [0x81, 0x81, 1, 2, 3, 4, 0x40, 0x89, 0x80, 1, 2, 3, 4, 0x82, 0x82,
        1, 2, 3, 4, 6, 10, 0x88, 0x80, 0, 0, 0, 0]) (by decide +kernel)
  obtain ⟨hflushed, hwrites, hwritten, haccepted, hfits⟩ := of_decide_eq_true hp
  obtain ⟨hreads, hheard⟩ := of_decide_eq_true hq
  have hj : Joined a [.sendText "A", .sendPing, .poll 0 false, .sendBinary [7, 8], .close,
      .poll 0 false] b [0, 0, 0] := ⟨hflushed, hwrites, hreads, hheard.trans hwritten.symm⟩
  obtain ⟨hm, -, -, hs⟩ := loopback ha hb (by simp) hj hfits
  rw [haccepted] at hm
  exact ⟨a, b, ha, hb, hj, hm, (hs (by simp)).mpr (by simp)⟩

end Connection

end WebSocket
