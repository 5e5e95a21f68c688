import WebSocket.Proofs.Connection.Operations
import WebSocket.Proofs.Trace

/-!
# Inbound delivery is exact

The application is handed the messages that the bytes of the peer make up
(`delivered_run`), no matter how reads cut the bytes, which polls listen and
what else happens to the connection. The account of a connection
(`Accounted`) says at every move which part of the bytes heard so far has been
handed over, and that the rest is in flight or unread.
-/

namespace WebSocket

namespace Wire

-- ---------------------------------------------------------------------------
-- Accounts
-- ---------------------------------------------------------------------------

/-- `heard` brings the messages `handed`, and leaves the frames `parts` of a
message in flight and the bytes `unread`: whatever follows continues these. -/
def Accounts (limits : Limits) (heard : List UInt8) (handed : List Message) (parts : List Piece)
    (gathered : Nat) (unread : List UInt8) : Prop :=
  ∀ more,
    let whole := scan limits 0 (heard ++ more)
    let left := scan limits gathered (unread ++ more)
    assemble [] whole.1 = handed ++ assemble parts left.1 ∧ whole.2 = left.2

/-- `heard` brings the messages `handed` and then a violation, so nothing that
follows counts. -/
def Settles (limits : Limits) (heard : List UInt8) (handed : List Message) : Prop :=
  ∀ more,
    let whole := scan limits 0 (heard ++ more)
    assemble [] whole.1 = handed ∧ whole.2.isSome = true

section
variable {limits : Limits} {heard unread : List UInt8} {handed : List Message}
  {parts : List Piece} {gathered : Nat}

theorem accounts_start (bytes : List UInt8) : Accounts limits bytes [] [] 0 bytes :=
  fun _ => ⟨rfl, rfl⟩

theorem Accounts.read (h : Accounts limits heard handed parts gathered unread)
    (bytes : List UInt8) :
    Accounts limits (heard ++ bytes) handed parts gathered (unread ++ bytes) := fun more => by
  simpa only [List.append_assoc] using h (bytes ++ more)

theorem Settles.read (h : Settles limits heard handed) (bytes : List UInt8) :
    Settles limits (heard ++ bytes) handed := fun more => by
  simpa only [List.append_assoc] using h (bytes ++ more)

theorem Accounts.messages_eq (h : Accounts limits heard handed parts gathered unread)
    (hr : Wire.read limits.frame unread = .incomplete) : messages limits heard = handed := by
  have hw := (h []).1
  rw [List.append_nil, List.append_nil, scan_incomplete hr] at hw
  exact hw.trans (List.append_nil _)

theorem Settles.messages_eq (h : Settles limits heard handed) : messages limits heard = handed := by
  have hw := (h []).1
  rwa [List.append_nil] at hw

end

end Wire

namespace Connection

variable {σ : Type}

-- ---------------------------------------------------------------------------
-- Frames
-- ---------------------------------------------------------------------------

section
variable {c d : Connection σ} {p : Wire.Piece} {events : List Event}

theorem FrameMove.limits_eq (h : FrameMove c p events d) : d.limits = c.limits := by
  cases h with
  | take _ _ hp => simp [limits, Reassembler.limit_of_push hp]
  | answer => exact limits_queueFrame ..
  | ignore => rfl
  | close => exact limits_close ..

theorem Breach.limits_eq (h : Breach c events d) : d.limits = c.limits := by
  cases h with
  | refuse => exact limits_violate ..
  | overflow _ _ hp =>
    rw [limits_violate]
    simp [limits, Reassembler.limit_of_push hp]

theorem Breach.messages_eq (h : Breach c events d) : Event.messages events = [] := by
  cases h <;> exact messages_closing c

theorem Breach.discarding_eq (h : Breach c events d) : d.discarding = true := by
  cases h <;> exact discarding_violate ..

theorem FrameMove.holds {parts : List Wire.Piece} (h : FrameMove c p events d)
    (hc : c.reassembler.Holds parts) :
    ∃ rest, d.reassembler.Holds rest ∧ ∀ pieces,
      Wire.assemble parts (p :: pieces) = Event.messages events ++ Wire.assemble rest pieces := by
  -- a control frame inside a message leaves the frames in flight as they are
  have control (hd : p.opcode.isData = false) (hm : Event.messages events = [])
      (hr : d.reassembler = c.reassembler) :
      ∃ rest, d.reassembler.Holds rest ∧ ∀ pieces,
        Wire.assemble parts (p :: pieces) =
          Event.messages events ++ Wire.assemble rest pieces := by
    refine ⟨parts, hr ▸ hc, fun pieces => ?_⟩
    rw [hm, Wire.assemble_control hd]
    rfl
  cases h with
  | take _ hd hp =>
    obtain ⟨hf, rfl, hr⟩ | ⟨hf, rfl, hr⟩ := hc.push hp
    · exact ⟨[], hr, Wire.assemble_final hd hf parts⟩
    · exact ⟨parts ++ [p], hr, Wire.assemble_more hd hf parts⟩
  | answer _ ho => exact control (by rw [ho]; rfl) rfl (reassembler_queueFrame ..)
  | ignore _ ho =>
    refine control ?_ rfl rfl
    rcases ho with ho | ⟨ho, -⟩ <;> rw [ho] <;> rfl
  | close _ ho => exact control (by rw [ho]; rfl) (messages_closing c) (reassembler_close ..)

/-- Nothing is left to act on: no frame is complete, or everything is dropped. -/
def Settled (c : Connection σ) : Prop :=
  c.discarding = true ∨ Wire.read c.frameLimit c.inbound.contents = .incomplete

theorem Handles.settled (h : Handles c events d) : d.Settled := by
  induction h with
  | done h => exact .inr h
  | breach h => exact .inl h.discarding_eq
  | next _ _ ih => exact ih

theorem settled_dispatch (c : Connection σ) : c.dispatch.2.Settled := by
  cases hd : c.discarding with
  | false =>
    obtain ⟨_, h, -⟩ := dispatch_handles hd
    exact h.settled
  | true =>
    rw [dispatch_discarding hd]
    exact .inl hd

theorem Settled.read_eq (h : c.Settled) (hc : c.Coherent) :
    Wire.read c.frameLimit c.inbound.contents = .incomplete := by
  rcases h with hd | hr
  · rw [(hc.quiet hd).1]
    rfl
  · exact hr

end

-- ---------------------------------------------------------------------------
-- The account of a connection
-- ---------------------------------------------------------------------------

variable [Transport σ]

/-- What has come in since `start`: its inbound bytes, and all that was read. -/
def heard (start : Connection σ) (seen : List Exchange) : List UInt8 :=
  start.inbound.contents ++ Exchange.bytesIn seen

/-- After the exchanges `seen` and the events `past`, everything heard has been
handed over, is in flight or is unread. -/
structure Accounted (start c : Connection σ) (seen : List Exchange) (past : List Event) : Prop where
  coherent : c.Coherent
  limits_eq : c.limits = start.limits
  going : c.discarding = false → ∃ parts, c.reassembler.Holds parts ∧
    Wire.Accounts start.limits (start.heard seen) (Event.messages past) parts
      c.reassembler.buffered c.inbound.contents
  settled : c.discarding = true →
    Wire.Settles start.limits (start.heard seen) (Event.messages past)

omit [Transport σ] in
theorem heard_append (start : Connection σ) (seen exchanges : List Exchange) :
    start.heard (seen ++ exchanges) = start.heard seen ++ Exchange.bytesIn exchanges := by
  rw [heard, Exchange.bytesIn_append, ← List.append_assoc]
  rfl

omit [Transport σ] in
theorem accounted_start {keys : KeySource} {config : Config} {c : Connection σ}
    (h : Fresh keys config c) : Accounted c c [] [] where
  coherent := h.coherent
  limits_eq := rfl
  going _ := by
    rw [h.reassembler_eq, heard, show Exchange.bytesIn [] = [] from rfl, List.append_nil]
    exact ⟨[], Reassembler.holds_nil rfl rfl, Wire.accounts_start _⟩
  settled hd := by rw [h.discarding_eq] at hd; cases hd

section
variable {start c d : Connection (Traced σ)} {seen exchanges : List Exchange}
  {past events : List Event}

omit [Transport σ] in
theorem Accounted.extend (h : Accounted start c seen past) (hc : d.Coherent)
    (hl : d.limits = c.limits) (hr : d.reassembler = c.reassembler)
    (hd : d.discarding = c.discarding)
    (hi : c.discarding = false →
      d.inbound.contents = c.inbound.contents ++ Exchange.bytesIn exchanges)
    (hm : Event.messages events = []) : Accounted start d (seen ++ exchanges) (past ++ events) where
  coherent := hc
  limits_eq := hl.trans h.limits_eq
  going hg := by
    rw [hd] at hg
    obtain ⟨parts, hp, ha⟩ := h.going hg
    refine ⟨parts, hr ▸ hp, ?_⟩
    rw [heard_append, Event.messages_append, hm, List.append_nil, hr, hi hg]
    exact ha.read _
  settled hg := by
    rw [heard_append, Event.messages_append, hm, List.append_nil]
    exact (h.settled (hd ▸ hg)).read _

omit [Transport σ] in
theorem Accounted.same (h : Accounted start c seen past) (hc : d.Coherent)
    (hl : d.limits = c.limits) (hr : d.reassembler = c.reassembler)
    (hd : d.discarding = c.discarding) (hi : d.inbound = c.inbound)
    (hm : Event.messages events = []) : Accounted start d seen (past ++ events) := by
  have hi : c.discarding = false →
      d.inbound.contents = c.inbound.contents ++ Exchange.bytesIn [] := fun _ => by
    rw [hi]
    exact (List.append_nil _).symm
  simpa using h.extend hc hl hr hd hi hm

omit [Transport σ] in
theorem Accounted.frame {p : Wire.Piece} (h : Accounted start c seen past)
    (hf : FrameMove c p events d) : Accounted start d seen (past ++ events) where
  coherent := h.coherent.frameMove hf
  limits_eq := hf.limits_eq.trans h.limits_eq
  going _ := by
    obtain ⟨parts, hp, ha⟩ := h.going (hf.not_discarding h.coherent)
    obtain ⟨rest, hr, he⟩ := hf.holds hp
    refine ⟨rest, hr, fun more => ?_⟩
    obtain ⟨hw, hv⟩ := ha more
    have hs := hf.scan_eq more
    rw [hf.limits_eq, h.limits_eq] at hs
    simp only [hs, he, ← List.append_assoc] at hw hv
    rw [Event.messages_append]
    exact ⟨hw, hv⟩
  settled hd := absurd hd (by simp [hf.discarding_eq, hf.not_discarding h.coherent])

omit [Transport σ] in
theorem Accounted.breach (h : Accounted start c seen past) (hb : Breach c events d) :
    Accounted start d seen (past ++ events) where
  coherent := h.coherent.breach hb
  limits_eq := hb.limits_eq.trans h.limits_eq
  going hd := absurd (hb.discarding_eq.symm.trans hd) nofun
  settled _ more := by
    obtain ⟨parts, hp, ha⟩ := h.going (hb.not_discarding h.coherent)
    obtain ⟨hw, hv⟩ := ha more
    obtain ⟨e, hs, -⟩ := hb.scan_eq more
    rw [h.limits_eq] at hs
    rw [Event.messages_append, hb.messages_eq, List.append_nil]
    simp only [hs, Wire.assemble_nil, List.append_nil] at hw hv
    exact ⟨hw, by rw [hv]; rfl⟩

theorem accounted_moves (start : Connection (Traced σ)) : MoveAccount (Accounted start) where
  stream _ hm ht h := by
    simpa using h.extend (h.coherent.streamMove hm) hm.limits_eq hm.reassembler_eq
      hm.discarding_eq ht.inbound_eq Event.messages_nil
  idle _ hs h := by
    simpa using h.extend (h.coherent.step (.idle hs)) rfl rfl rfl
      (fun _ => (List.append_nil _).symm) Event.messages_nil
  frame hf h := h.frame hf
  breach hb h := h.breach hb
  send opcode payload hs h :=
    h.same (h.coherent.queueFrame hs opcode payload) (limits_queueFrame ..)
      (reassembler_queueFrame ..) (discarding_queueFrame ..) (inbound_queueFrame ..) rfl
  close {c _ _} h :=
    h.same h.coherent.close (limits_close ..) (reassembler_close ..) (discarding_close ..)
      (inbound_close ..) (messages_closing c)

omit [Transport σ] in
theorem Accounted.read_eq (h : Accounted start c seen past) (hr : c.Settled) :
    Wire.read start.limits.frame c.inbound.contents = .incomplete := by
  rw [← h.limits_eq]
  exact hr.read_eq h.coherent

omit [Transport σ] in
theorem Accounted.messages_eq (h : Accounted start c seen past) (hr : c.Settled) :
    Event.messages past = Wire.messages start.limits (start.heard seen) := by
  cases hd : c.discarding with
  | true => exact (h.settled hd).messages_eq.symm
  | false =>
    obtain ⟨_, _, ha⟩ := h.going hd
    exact (ha.messages_eq (h.read_eq hr)).symm

end

-- ---------------------------------------------------------------------------
-- Runs
-- ---------------------------------------------------------------------------

/-- The connection as the last dispatch of a run finds it. -/
def lastDispatched? (c : Connection σ) : List Operation → Option (Connection σ)
  | [] => none
  | operation :: operations =>
    ((c.apply operation).2.lastDispatched? operations).or (c.dispatched? operation)

/-- What a run looks at, after all: the inbound bytes at its start and all bytes
read before the last dispatch. -/
def examined (c : Connection (Traced σ)) (operations : List Operation) : List UInt8 :=
  match c.lastDispatched? operations with
  | none => []
  | some d => c.heard (d.stream.since c.stream)

theorem settled_of_dispatched {c : Connection σ} {operation : Operation}
    (h : (c.dispatched? operation).isSome = true) : (c.apply operation).2.Settled := by
  obtain ⟨d, hd⟩ := Option.isSome_iff_exists.mp h
  rw [(operation_of_dispatched hd).2]
  exact settled_dispatch d

theorem delivered_of_not_dispatched {c : Connection σ} {operation : Operation}
    (h : c.dispatched? operation = none) : delivered [(c.apply operation).1] = [] := by
  cases operation with
  | sendText | sendBinary | sendPing => exact delivered_map_nil _
  | close => rfl
  | poll timeout listening =>
    simp only [apply, (poll_of_not_dispatched h).2]
    rfl

section
variable {start c d : Connection (Traced σ)} {seen : List Exchange} {past : List Event}

/-- A dispatch hands over what the bytes heard make up and nothing has handed
over before. -/
theorem Accounted.dispatch (h : Accounted start c seen past) :
    ∃ events, Event.messages events = c.dispatch.1 ∧
      Accounted start c.dispatch.2 seen (past ++ events) ∧
      Event.messages (past ++ events) = Wire.messages start.limits (start.heard seen) := by
  obtain ⟨events, hp, hm, -⟩ := dispatch_steps h.coherent
  obtain ⟨exchanges, hs, ha⟩ := (accounted_moves start).path hp.moves h
  rw [stream_dispatch, List.self_eq_append_right] at hs
  rw [hs, List.append_nil] at ha
  exact ⟨events, hm, ha, ha.messages_eq (settled_dispatch c)⟩

/-- From any accounted connection on: the messages so far are those of the bytes
that the last dispatch has looked at. -/
theorem Accounted.run (h : Accounted start c seen past)
    (hs : c.stream.exchanges = start.stream.exchanges ++ seen) {looked : List UInt8}
    (hl : Event.messages past = Wire.messages start.limits looked) (operations : List Operation) :
    Event.messages past ++ delivered (c.run operations).1 =
      Wire.messages start.limits
        (match c.lastDispatched? operations with
        | none => looked
        | some d => start.heard (d.stream.since start.stream)) := by
  induction operations generalizing c seen past looked with
  | nil => exact (List.append_nil _).trans hl
  | cons operation operations ih =>
    rw [Connection.run, delivered_cons, lastDispatched?]
    -- only a dispatch hands over, and only a dispatch moves what has been looked at
    cases hd : c.dispatched? operation with
    | none =>
      obtain ⟨events, hp, hm, -⟩ := apply_path h.coherent operation
      obtain ⟨exchanges, ht, ha⟩ := (accounted_moves start).path hp h
      rw [delivered_of_not_dispatched hd] at hm ⊢
      have hlooked : Event.messages (past ++ events) = Wire.messages start.limits looked := by
        rw [Event.messages_append, hm, List.append_nil, hl]
      have hn := ih ha (by rw [ht, hs, List.append_assoc]) hlooked
      rw [Event.messages_append, hm, List.append_nil] at hn
      rw [Option.or_none]
      exact hn
    | some d =>
      obtain ⟨hp, he⟩ := operation_of_dispatched hd
      obtain ⟨exchanges, ht, ha⟩ := (accounted_moves start).path hp.steps.moves h
      obtain ⟨events, hm, hn, hw⟩ := ha.dispatch
      have hsince : d.stream.exchanges = start.stream.exchanges ++ (seen ++ exchanges) := by
        rw [ht, hs, List.append_assoc]
      have hi := ih hn (by rw [stream_dispatch, hsince]) hw
      rw [List.append_nil, Event.messages_append, hm, List.append_assoc] at hi
      simp only [he, delivered_ok]
      refine hi.trans ?_
      cases d.dispatch.2.lastDispatched? operations with
      | none => simp only [Option.none_or, Traced.since_of_eq hsince]
      | some e => rfl

end

/-- The messages handed over in a run of an established connection are exactly
those that the bytes looked at make up. -/
theorem delivered_run {clock : Clock} {keys : KeySource} {s : Traced σ} {endpoint : Endpoint}
    {config : Config} {c : Connection (Traced σ)}
    (h : establish clock keys s endpoint config = .ok c) (operations : List Operation) :
    delivered (c.run operations).1 =
      Wire.messages ⟨config.maxFrameSize, config.maxMessageSize⟩ (c.examined operations) := by
  have hf := fresh_of_establish h
  have hstart : Accounted c c [] [] := accounted_start hf
  have hrun := hstart.run (List.append_nil _).symm (Wire.messages_nil _).symm operations
  rw [hf.limits_eq] at hrun
  exact hrun

/-- A text in two frames with a ping between them, cut inside each frame and read
by two polls that listen and one that does not. -/
theorem delivered_run_fragments :
    ∃ c, scripted {} [.data [0x01, 0x01], .block, .data [0x41, 0x89, 0x00, 0x80], .block,
        .data [0x01, 0x42]] [] = .ok c ∧
      delivered (c.run [.poll 0 true, .poll 0 false, .poll 0 true]).1 =
        Wire.messages ⟨16 * 1024 * 1024, 64 * 1024 * 1024⟩
          (c.examined [.poll 0 true, .poll 0 false, .poll 0 true]) ∧
      delivered (c.run [.poll 0 true, .poll 0 false, .poll 0 true]).1 =
        [⟨.text, [0x41, 0x42]⟩] := by
  obtain ⟨c, h, hp⟩ := exists_scripted {}
    [.data [0x01, 0x01], .block, .data [0x41, 0x89, 0x00, 0x80], .block, .data [0x01, 0x42]] []
    (p := fun c => delivered (c.run [.poll 0 true, .poll 0 false, .poll 0 true]).1 =
      [⟨.text, [0x41, 0x42]⟩]) (by decide +kernel)
  exact ⟨c, h, delivered_run h [.poll 0 true, .poll 0 false, .poll 0 true], of_decide_eq_true hp⟩

end Connection

end WebSocket
