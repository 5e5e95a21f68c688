import WebSocket.Proofs.Connection.Inbound
import WebSocket.Proofs.Connection.Outbound

/-!
# Every ping is answered once

Whatever a connection does of itself, the replies to the frames heard are those
that it has queued, followed by those that it will queue for what is unread
(`Replied`). So an application that never closes has, after every dispatch, one
pong for each ping before the first close frame and the first violation, in order
and with its payload (`Connection.echoes_run`).
-/

namespace WebSocket

/-- The payloads of the pings before the first close frame. -/
def Wire.pings (pieces : List Wire.Piece) : List (List UInt8) :=
  ((pieces.takeWhile (·.opcode != .close)).filter (·.opcode == .ping)).map Wire.Piece.payload

def Outgoing.echo? : Outgoing → Option (List UInt8)
  | .frame .pong payload => some payload
  | _ => none

theorem echoes_replies (pieces : List Wire.Piece) (violation : Option Error) :
    (replies pieces violation).filterMap Outgoing.echo? = Wire.pings pieces := by
  induction pieces with
  | nil => cases violation <;> rfl
  | cons p pieces ih =>
    by_cases hc : p.opcode = .close
    · simp [replies_close pieces violation hc, Wire.pings, hc, Outgoing.echo?]
    by_cases hp : p.opcode = .ping
    · simp [replies_ping pieces violation hp, ih, Wire.pings, hp, Outgoing.echo?]
    · rw [replies_other pieces violation hc hp, ih]
      simp [Wire.pings, hc, hp]

namespace Connection

variable {σ : Type}

-- ---------------------------------------------------------------------------
-- Replies still to come
-- ---------------------------------------------------------------------------

/-- What a connection will queue for its unread bytes and `more` behind them. -/
def pending (c : Connection σ) (more : List UInt8) : List Outgoing :=
  let left := Wire.scan c.limits c.reassembler.buffered (c.inbound.contents ++ more)
  if c.state = .open then replies left.1 left.2 else []

section
variable {c d : Connection σ} {p : Wire.Piece} {events : List Event}

theorem pending_of_not_open (h : c.state ≠ .open) (more : List UInt8) : c.pending more = [] :=
  if_neg h

theorem FrameMove.pending_eq (h : FrameMove c p events d) (more : List UInt8) :
    c.pending more = Event.outgoing events ++ d.pending more := by
  simp only [Connection.pending, h.scan_eq more, h.replies_eq]

theorem Breach.pending_eq (h : Breach c events d) (more : List UInt8) :
    c.pending more = Event.outgoing events ++ d.pending more := by
  obtain ⟨e, hs, -⟩ := h.scan_eq more
  have hd : d.state ≠ .open := by
    cases h with
    | refuse | overflow =>
      rw [state_violate]
      split
      · nofun
      · assumption
  have ho : Event.outgoing events = if c.state = .open then [.close] else [] := by
    cases h <;> exact outgoing_closing c
  rw [pending_of_not_open hd, ho]
  simp [Connection.pending, hs, replies]

theorem StreamMove.pending_eq {σ : Type} [Transport σ] {c d : Connection (Traced σ)}
    {exchanges : List Exchange} (hc : c.Coherent) (hm : StreamMove c d)
    (ht : Traces c d exchanges) (hf : Exchange.Faultless exchanges) (more : List UInt8) :
    c.pending (Exchange.bytesIn exchanges ++ more) = d.pending more := by
  have hopen : d.state = .open ↔ c.state = .open := by
    cases ht.leaves with
    | going hs => rw [hs]
    | drained hs _ hd => rw [hs, hd]; decide
    | failed _ _ he => exact absurd he hf.not_failed
  by_cases hs : c.state = .open
  · have hi := ht.inbound_eq (hc.clean hs).2
    simp only [pending, hs, hopen.mpr hs, hi, hm.limits_eq, hm.reassembler_eq, List.append_assoc]
  · rw [pending_of_not_open hs, pending_of_not_open (mt hopen.mp hs)]

end

-- ---------------------------------------------------------------------------
-- The account of replies
-- ---------------------------------------------------------------------------

section
variable {β : Type} {view : Outgoing → Option β} {start c d : Connection (Traced σ)}
  {seen exchanges : List Exchange} {past events : List Event}

/-- As long as nothing fails, the replies to the frames heard are those queued and
those still to come, as far as `view` shows them. -/
structure Replied (view : Outgoing → Option β) (start c : Connection (Traced σ))
    (seen : List Exchange) (past : List Event) : Prop where
  account : Accounted start c seen past
  replied : Exchange.Faultless seen → ∀ more,
    let whole := Wire.scan start.limits 0 (start.heard seen ++ more)
    (replies whole.1 whole.2).filterMap view =
      (Event.outgoing past ++ c.pending more).filterMap view

theorem Fresh.replied {keys : KeySource} {config : Config} (h : Fresh keys config c) :
    Replied view c c [] [] where
  account := accounted_start h
  replied _ more := by
    rw [heard, show Exchange.bytesIn [] = [] from rfl, List.append_nil]
    simp only [pending, h.state_eq, h.reassembler_eq]
    rfl

theorem Replied.acts (h : Replied view start c seen past)
    (ha : Accounted start d seen (past ++ events))
    (hp : ∀ more, c.pending more = Event.outgoing events ++ d.pending more) :
    Replied view start d seen (past ++ events) where
  account := ha
  replied hf more := by
    rw [Event.outgoing_append, List.append_assoc, ← hp]
    exact h.replied hf more

variable [Transport σ]

theorem replied_steps (view : Outgoing → Option β) (start : Connection (Traced σ)) :
    StepAccount (Replied view start) where
  stream {c d seen exchanges past} hs hm ht h := by
    refine ⟨(accounted_moves start).stream hs hm ht h.account, fun hf more => ?_⟩
    obtain ⟨hseen, hexchanges⟩ := Exchange.faultless_append.mp hf
    have hr := h.replied hseen (Exchange.bytesIn exchanges ++ more)
    rw [hm.pending_eq h.account.coherent ht hexchanges] at hr
    rw [heard_append, List.append_assoc]
    exact hr
  idle {c seen past} time hs h := by
    refine ⟨(accounted_moves start).idle time hs h.account, fun hf more => ?_⟩
    rw [heard_append, show Exchange.bytesIn [.idled time] = [] from rfl, List.append_nil]
    exact h.replied (Exchange.faultless_append.mp hf).1 more
  frame hf h := h.acts (h.account.frame hf) hf.pending_eq
  breach hb h := h.acts (h.account.breach hb) hb.pending_eq

theorem Replied.send (h : Replied view start c seen past) {opcode : Opcode}
    {payload : List UInt8} (hs : c.state = .open) (hv : view (.frame opcode payload) = none) :
    Replied view start (c.queueFrame opcode payload) seen
      (past ++ [.queued (.frame opcode payload)]) where
  account := (accounted_moves start).send opcode payload hs h.account
  replied hf more := by
    have hr := h.replied hf more
    simpa [pending, hv] using hr

omit [Transport σ] in
theorem Replied.outgoing_eq (h : Replied view start c seen past) (hc : c.Settled)
    (hf : Exchange.Faultless seen) :
    let whole := Wire.scan start.limits 0 (start.heard seen)
    (replies whole.1 whole.2).filterMap view = (Event.outgoing past).filterMap view := by
  have hr := h.replied hf []
  have hnone : c.pending [] = [] := by
    by_cases hs : c.state = .open
    · have hi := h.account.read_eq hc
      rw [← h.account.limits_eq] at hi
      simp [pending, Wire.scan_incomplete hi, replies]
    · exact pending_of_not_open hs []
  rwa [hnone, List.append_nil, List.append_nil] at hr

-- ---------------------------------------------------------------------------
-- Pings
-- ---------------------------------------------------------------------------

theorem Replied.sends (h : Replied view start c seen past) {opcode : Opcode}
    {payload : List UInt8} (hv : view (.frame opcode payload) = none) :
    ∃ events, (c.send opcode payload).2.stream = c.stream ∧
      Replied view start (c.send opcode payload).2 seen (past ++ events) ∧
      Event.messages events = delivered [(c.send opcode payload).1.map fun _ => []] ∧
      Event.outgoing events = if c.state = .open then [.frame opcode payload] else [] := by
  rw [delivered_map_nil]
  unfold Connection.send
  split
  · next hs => exact ⟨_, stream_queueFrame .., h.send hs hv, rfl, rfl⟩
  · exact ⟨[], rfl, by simpa using h, rfl, rfl⟩

theorem Replied.apply (h : Replied Outgoing.echo? start c seen past) {operation : Operation}
    (ho : operation ≠ .close) :
    ∃ exchanges events,
      (c.apply operation).2.stream.exchanges = c.stream.exchanges ++ exchanges ∧
      Replied Outgoing.echo? start (c.apply operation).2 (seen ++ exchanges) (past ++ events) ∧
      Event.messages events = delivered [(c.apply operation).1] ∧
      Event.outgoing events = c.queues operation := by
  have sent {opcode : Opcode} {payload : List UInt8}
      (hv : Outgoing.echo? (.frame opcode payload) = none) :
      ∃ exchanges events,
        (c.send opcode payload).2.stream.exchanges = c.stream.exchanges ++ exchanges ∧
        Replied Outgoing.echo? start (c.send opcode payload).2 (seen ++ exchanges)
          (past ++ events) ∧
        Event.messages events = delivered [(c.send opcode payload).1.map fun _ => []] ∧
        Event.outgoing events = if c.state = .open then [.frame opcode payload] else [] := by
    obtain ⟨events, hs, hr, hm, ho⟩ := h.sends hv
    exact ⟨[], events, by rw [hs, List.append_nil], by rwa [List.append_nil], hm, ho⟩
  cases operation with
  | sendText text => exact sent rfl
  | sendBinary data => exact sent rfl
  | sendPing => exact sent rfl
  | close => exact absurd rfl ho
  | poll timeout listening =>
    obtain ⟨events, hp, hm, hq⟩ := poll_steps h.account.coherent timeout listening
    obtain ⟨exchanges, he, hr⟩ := (replied_steps _ start).steps hp h
    exact ⟨exchanges, events, he, hr, hm.trans (delivered_ok _).symm, hq⟩

theorem Replied.run (h : Replied Outgoing.echo? start c seen past) {operations : List Operation}
    (ho : .close ∉ operations) :
    ∃ exchanges events,
      (c.run operations).2.stream.exchanges = c.stream.exchanges ++ exchanges ∧
      Replied Outgoing.echo? start (c.run operations).2 (seen ++ exchanges) (past ++ events) ∧
      Event.messages events = delivered (c.run operations).1 ∧
      Event.outgoing events = c.queued operations := by
  induction operations generalizing c seen past with
  | nil => exact ⟨[], [], (List.append_nil _).symm, by simpa [Connection.run] using h, rfl, rfl⟩
  | cons operation operations ih =>
    rw [List.mem_cons, not_or] at ho
    obtain ⟨early, first, he, hr, hm, hq⟩ := h.apply (Ne.symm ho.1)
    obtain ⟨late, later, hl, hs, hn, hu⟩ := ih hr ho.2
    refine ⟨early ++ late, first ++ later, ?_, ?_, ?_, ?_⟩
    · rw [Connection.run, hl, he, List.append_assoc]
    · rwa [← List.append_assoc, ← List.append_assoc]
    · rw [Event.messages_append, hm, hn]
      exact (delivered_cons ..).symm
    · rw [Event.outgoing_append, hq, hu]
      rfl

/-- After a dispatch of an application that never closes, while the stream has not
failed: the pongs queued answer the pings heard before the first close frame and the
first violation, one each; they are on their way to the stream with the other frames
queued; and the messages handed over are made of data frames alone. -/
theorem echoes_run {clock : Clock} {keys : KeySource} {s : Traced σ} {endpoint : Endpoint}
    {config : Config} {c : Connection (Traced σ)}
    (h : establish clock keys s endpoint config = .ok c) {before : List Operation}
    {timeout : Nat} (hc : .close ∉ before)
    (hd : ((c.run before).2.dispatched? (.poll timeout true)).isSome = true)
    (hf : Exchange.Faultless
      ((c.run (before ++ [.poll timeout true])).2.stream.since c.stream)) :
    let operations := before ++ [.poll timeout true]
    let last := (c.run operations).2
    let found := (Wire.scan ⟨config.maxFrameSize, config.maxMessageSize⟩ 0
      (c.heard (last.stream.since c.stream))).1
    (c.queued operations).filterMap Outgoing.echo? = Wire.pings found ∧
      c.written operations ++ last.outbound.contents =
        Outgoing.encodeAll config.useMask keys (c.queued operations) ∧
      delivered (c.run operations).1 = Wire.join [] (found.filter (·.opcode.isData)) := by
  have hfresh := fresh_of_establish h
  have hfree : .close ∉ before ++ [.poll timeout true] := by simp [hc]
  have hstart : Replied Outgoing.echo? c c [] [] := hfresh.replied
  obtain ⟨seen, events, hs, hr, hm, hq⟩ := hstart.run hfree
  have hwritten := hfresh.written_append hf
  rw [Traced.since_of_eq hs] at hf
  rw [List.nil_append, List.nil_append] at hr
  have hsettled : (c.run (before ++ [.poll timeout true])).2.Settled := by
    obtain ⟨d, hd⟩ := Option.isSome_iff_exists.mp hd
    rw [run_append]
    show ((c.run before).2.apply (.poll timeout true)).2.Settled
    rw [(operation_of_dispatched hd).2]
    exact settled_dispatch d
  dsimp only
  rw [Traced.since_of_eq hs, ← hfresh.limits_eq]
  refine ⟨?_, hwritten, ?_⟩
  · rw [← hq, ← hr.outgoing_eq hsettled hf, echoes_replies]
  · rw [← hm, hr.account.messages_eq hsettled]
    rfl

/-- A ping inside a text, one with a key behind it, and one that comes too late. -/
theorem echoes_run_fragments :
    let operations := [.poll 0 true, .sendPing, .poll 0 false] ++ [.poll 0 true]
    ∃ c, scripted {}
        [.data [0x01, 0x01, 0x41, 0x89, 0x02, 0x68, 0x69], .block,
          .data [0x80, 0x01, 0x42, 0x89, 0x81, 1, 2, 3, 4, 0x79, 0x88, 0x00, 0x89, 0x01, 0x7A]]
        [] = .ok c ∧
      Wire.pings (Wire.scan ⟨16777216, 67108864⟩ 0
        (c.heard ((c.run operations).2.stream.since c.stream))).1 = [[0x68, 0x69], [0x78]] ∧
      c.queued operations =
        [.frame .pong [0x68, 0x69], .frame .ping [], .frame .pong [0x78], .close] ∧
      delivered (c.run operations).1 = [⟨.text, [0x41, 0x42]⟩] := by
  obtain ⟨c, h, hp⟩ := exists_scripted {}
    [.data [0x01, 0x01, 0x41, 0x89, 0x02, 0x68, 0x69], .block,
      .data [0x80, 0x01, 0x42, 0x89, 0x81, 1, 2, 3, 4, 0x79, 0x88, 0x00, 0x89, 0x01, 0x7A]] []
    (p := fun c =>
      let before := [.poll 0 true, .sendPing, .poll 0 false]
      let operations := before ++ [.poll 0 true]
      ((c.run before).2.dispatched? (.poll 0 true)).isSome = true ∧
      Exchange.Faultless ((c.run operations).2.stream.since c.stream) ∧
      c.queued operations =
        [.frame .pong [0x68, 0x69], .frame .ping [], .frame .pong [0x78], .close] ∧
      delivered (c.run operations).1 = [⟨.text, [0x41, 0x42]⟩]) (by decide +kernel)
  obtain ⟨hd, hf, hq, hm⟩ := of_decide_eq_true hp
  have hpings := (echoes_run h (by simp) hd hf).1
  rw [hq] at hpings
  exact ⟨c, h, hpings.symm, hq, hm⟩

end

end Connection

end WebSocket
