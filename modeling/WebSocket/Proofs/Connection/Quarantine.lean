import WebSocket.Proofs.Connection.Invariant
import WebSocket.Proofs.Connection.Lifecycle
import WebSocket.Proofs.Connection.Violation

/-!
# After a violation

A violation ends the framing of the inbound bytes for good (`quarantine`). No run
behind it hands anything over or queues anything, whatever the peer sends is read
and dropped, and the connection is closed as soon as a poll has written what was
queued or the stream fails.
-/

namespace WebSocket

-- ---------------------------------------------------------------------------
-- Reading until nothing is left
-- ---------------------------------------------------------------------------

/-- The exchanges of a poll: unless the wait before it fails, it reads until a
read brings nothing, and reads no more after that. -/
inductive ReadsOut : List Exchange → Prop
  | waitFailed {interest timeout kind} :
      ReadsOut [.waited interest timeout (.error kind), .closed]
  | read {before brought after : List Exchange} {last : Exchange}
      (hb : ∀ e ∈ before, e.isRecv = false) (hr : ∀ e ∈ brought, e.receivedBytes ≠ [])
      (hl : last.isRecv = true ∧ last.receivedBytes = []) (ha : ∀ e ∈ after, e.isRecv = false) :
      ReadsOut (before ++ brought ++ [last] ++ after)

namespace Connection

open Traced (Only)

variable {σ : Type} [Transport σ] (c : Connection (Traced σ))

abbrev Mute (t s : Traced σ) : Prop := Only (·.isRecv = false) t s

theorem mute_close (t : Traced σ) : Mute t (Transport.close t) :=
  .single (Traced.exchanges_close t) rfl

theorem fill_reads :
    ∃ t s : Traced σ, ∃ last : Exchange, Only (·.receivedBytes ≠ []) c.stream t ∧
      s.exchanges = t.exchanges ++ [last] ∧ (last.isRecv = true ∧ last.receivedBytes = []) ∧
      Mute s c.fill.stream := by
  fun_induction fill c with
  | case1 c s h => exact ⟨_, s, _, .refl _, Traced.exchanges_recv h, ⟨rfl, rfl⟩, mute_close s⟩
  | case2 c b bytes s h inbound ih =>
    obtain ⟨t, u, last, hr, hu, hl, hm⟩ := ih
    have hb : Only (·.receivedBytes ≠ []) c.stream s :=
      .single (Traced.exchanges_recv h) (List.cons_ne_nil b bytes)
    exact ⟨t, u, last, hb.trans hr, hu, hl, hm⟩
  | case3 c s h => exact ⟨_, s, _, .refl _, Traced.exchanges_recv h, ⟨rfl, rfl⟩, .refl s⟩
  | case4 c kind s hk h =>
    exact ⟨_, s, _, .refl _, Traced.exchanges_recv h, ⟨rfl, rfl⟩, mute_close s⟩

theorem mute_send {t s : Traced σ} {offered : List UInt8} {answer : Except IoKind Nat}
    (h : Transport.send t offered = (answer, s)) : Mute t s :=
  .single (Traced.exchanges_send h) rfl

theorem flush_mute : Mute c.stream c.flush.stream := by
  fun_induction flush c with
  | case1 => exact .refl _
  | case2 c he s h => exact (mute_send h).trans (mute_close s)
  | case3 c he n s h ih => exact (mute_send h).trans ih
  | case4 c he s h => exact mute_send h
  | case5 c he kind s hk h => exact (mute_send h).trans (mute_close s)

theorem finish_mute : Mute c.stream c.finish.stream := by
  unfold finish
  split
  · exact mute_close c.stream
  · exact .refl _

theorem exchange_reads :
    ∃ t s : Traced σ, ∃ last : Exchange, Only (·.receivedBytes ≠ []) c.stream t ∧
      s.exchanges = t.exchanges ++ [last] ∧ (last.isRecv = true ∧ last.receivedBytes = []) ∧
      Mute s c.exchange.stream := by
  obtain ⟨t, s, last, hr, hs, hl, hm⟩ := c.fill_reads
  exact ⟨t, s, last, hr, hs, hl, (hm.trans c.fill.flush_mute).trans c.fill.flush.finish_mute⟩

theorem poll_reads {c : Connection (Traced σ)} (hs : c.state ≠ .closed) (timeout : Nat)
    (listening : Bool) :
    ReadsOut ((c.poll timeout listening).2.stream.since c.stream) := by
  -- whether the application listens makes no difference to the stream
  have hstream (d : Connection (Traced σ)) :
      (if listening then d.exchange.dispatch else ([], d.exchange)).2.stream =
        d.exchange.stream := by
    cases listening with
    | true => exact d.exchange.stream_dispatch
    | false => rfl
  have hread {d : Connection (Traced σ)} (hw : Mute c.stream d.stream) :
      ReadsOut (d.exchange.stream.since c.stream) := by
    obtain ⟨before, hd, hb⟩ := hw
    obtain ⟨t, s, last, ⟨brought, ht, hr⟩, hu, hl, ⟨after, he, ha⟩⟩ := d.exchange_reads
    have hall : d.exchange.stream.exchanges =
        c.stream.exchanges ++ (before ++ brought ++ [last] ++ after) := by
      rw [he, hu, ht, hd]
      simp only [List.append_assoc]
    rw [Traced.since_of_eq hall]
    exact .read hb hr hl ha
  unfold poll
  rw [if_neg hs]
  unfold waitReady
  by_cases ht : timeout = 0
  · rw [if_pos ht]
    dsimp only
    rw [hstream]
    exact hread (.refl _)
  · rw [if_neg ht]
    cases hw : Transport.wait c.stream (.forOutput !c.outbound.isEmpty) timeout with
    | mk answer s =>
      have hwait := Traced.exchanges_wait hw
      cases answer with
      | error kind =>
        have hall : (Transport.close s).exchanges = c.stream.exchanges ++
            ([.waited (.forOutput !c.outbound.isEmpty) timeout (.error kind)] ++ [.closed]) := by
          rw [Traced.exchanges_close, hwait, List.append_assoc]
        have hsince : (Transport.close s).since c.stream = _ := Traced.since_of_eq hall
        dsimp only [fail, shutdown]
        rw [hsince]
        exact .waitFailed
      | ok =>
        dsimp only
        rw [hstream]
        exact hread (.single hwait rfl)

-- ---------------------------------------------------------------------------
-- Nothing more
-- ---------------------------------------------------------------------------

/-- After the exchanges `seen` behind a violation, nothing else has happened than that
the outbound bytes `base` were written, or dropped because the stream failed. -/
structure Muted (base : List UInt8) (c : Connection (Traced σ)) (seen : List Exchange)
    (past : List Event) : Prop where
  coherent : c.Coherent
  discarding : c.discarding = true
  uneventful : past = []
  faultless : c.state ≠ .closed → Exchange.Faultless seen
  front : Exchange.bytesOut seen ++ c.outbound.contents <+: base
  whole : Exchange.Faultless seen → Exchange.bytesOut seen ++ c.outbound.contents = base

section
variable {base : List UInt8} {c d : Connection (Traced σ)} {seen exchanges : List Exchange}
  {past : List Event}

omit [Transport σ] in
theorem Muted.state (h : Muted base c seen past) : c.state ≠ .open := fun hs =>
  absurd (h.discarding.symm.trans (h.coherent.clean hs).2) nofun

theorem Muted.stream (h : Muted base c seen past) (hs : c.state ≠ .closed) (hm : StreamMove c d)
    (ht : Traces c d exchanges) : Muted base d (seen ++ exchanges) past := by
  have hc := h.coherent.streamMove hm
  have hw := h.whole (h.faultless hs)
  have hsplit : Exchange.bytesOut (seen ++ exchanges) ++ d.outbound.contents =
      Exchange.bytesOut seen ++ (Exchange.bytesOut exchanges ++ d.outbound.contents) := by
    rw [Exchange.bytesOut_append, List.append_assoc]
  refine ⟨hc, hm.discarding_eq.trans h.discarding, h.uneventful, fun hd => ?_, ?_, fun hf => ?_⟩
  · exact Exchange.faultless_append.mpr ⟨h.faultless hs, ht.leaves.faultless hd⟩
  · rw [hsplit, ← hw]
    refine (List.prefix_append_right_inj _).mpr ?_
    by_cases hd : d.state = .closed
    · rw [hc.closed hd, List.append_nil]
      exact ht.leaves.front
    · exact ht.leaves.whole (ht.leaves.faultless hd) ▸ List.prefix_rfl
  · rw [hsplit, ht.leaves.whole (Exchange.faultless_append.mp hf).2, hw]

theorem muted_moves (base : List UInt8) : MoveAccount (σ := σ) (Muted base) where
  stream hs hm ht h := h.stream hs hm ht
  idle {c seen past} time hs h := by
    have hb := Exchange.bytesOut_idled seen time
    exact ⟨h.coherent.step (.idle hs), h.discarding, h.uneventful, fun hn => absurd hs hn,
      by rw [hb]; exact h.front,
      fun hf => by rw [hb]; exact h.whole (Exchange.faultless_append.mp hf).1⟩
  frame hf h := absurd (hf.not_discarding h.coherent) (by rw [h.discarding]; nofun)
  breach hb h := absurd (hb.not_discarding h.coherent) (by rw [h.discarding]; nofun)
  send _ _ hs h := absurd hs h.state
  close {c seen past} h := by
    have hc : c.close = c := if_neg h.state
    have he : c.closing = [] := if_neg h.state
    rw [hc, he, List.append_nil]
    exact h

omit [Transport σ] in
theorem muted_start (hc : c.Coherent) (hd : c.discarding = true) :
    Muted c.outbound.contents c [] [] :=
  ⟨hc, hd, rfl, fun _ => nofun, List.prefix_rfl, fun _ => rfl⟩

theorem Muted.apply (h : Muted base c seen past) (operation : Operation) :
    (c.apply operation).1 = restingOutcome operation ∧ c.queues operation = [] ∧
      ∃ exchanges, (c.apply operation).2.stream.exchanges = c.stream.exchanges ++ exchanges ∧
        Muted base (c.apply operation).2 (seen ++ exchanges) [] := by
  obtain ⟨events, hp, hm, ho⟩ := apply_path h.coherent operation
  obtain ⟨exchanges, ht, hd⟩ := (muted_moves base).path hp h
  obtain ⟨rfl, rfl⟩ := List.append_eq_nil_iff.mp hd.uneventful
  refine ⟨?_, ho.symm, exchanges, ht, hd⟩
  cases operation with
  | sendText | sendBinary | sendPing => rw [apply_refused h.state rfl]; rfl
  | close => rfl
  | poll timeout listening => exact congrArg Except.ok (hm.trans (delivered_ok _)).symm

theorem Muted.run (h : Muted base c seen past) (operations : List Operation) :
    (c.run operations).1 = operations.map restingOutcome ∧ c.queued operations = [] ∧
      ∃ exchanges, (c.run operations).2.stream.exchanges = c.stream.exchanges ++ exchanges ∧
        Muted base (c.run operations).2 (seen ++ exchanges) [] := by
  induction operations generalizing c seen past with
  | nil =>
    cases h.uneventful
    refine ⟨rfl, rfl, [], (List.append_nil _).symm, ?_⟩
    rw [List.append_nil]
    exact h
  | cons operation operations ih =>
    obtain ⟨ha, hq, first, hs, hd⟩ := h.apply operation
    obtain ⟨hr, hn, later, ht, he⟩ := ih hd
    refine ⟨?_, ?_, first ++ later, ?_, ?_⟩
    · rw [List.map_cons, ← ha, ← hr]
      rfl
    · rw [Connection.queued, hq, hn]
      rfl
    · rw [← List.append_assoc, ← hs]
      exact ht
    · rw [← List.append_assoc]
      exact he

omit [Transport σ] in
theorem Muted.closing_or_closed (h : Muted base c seen past) :
    c.state = .closing ∨ c.state = .closed := by
  cases hs : c.state with
  | connecting => exact absurd hs h.coherent.started
  | «open» => exact absurd hs h.state
  | closing => exact .inl rfl
  | closed => exact .inr rfl

theorem Muted.poll_closes (h : Muted base c seen past) (timeout : Nat) (listening : Bool)
    (he : (c.poll timeout listening).2.outbound.contents = [] ∨
      ¬Exchange.Faultless ((c.poll timeout listening).2.stream.since c.stream)) :
    (c.poll timeout listening).2.state = .closed := by
  obtain ⟨-, -, exchanges, ht, hd⟩ := h.apply (.poll timeout listening)
  rw [show (c.poll timeout listening).2.stream.since c.stream = exchanges from
    Traced.since_of_eq ht] at he
  rcases he with he | he
  · refine hd.closing_or_closed.resolve_left fun hs => ?_
    exact pending_poll c timeout listening hs he
  · refine Decidable.byContradiction fun hs => he ?_
    exact (Exchange.faultless_append.mp (hd.faultless hs)).2

end

-- ---------------------------------------------------------------------------
-- Quarantine
-- ---------------------------------------------------------------------------

/-- How a connection goes on behind a violation. -/
structure Quarantined (c : Connection (Traced σ)) (later : List Operation) : Prop where
  /-- No message is handed over, and sends are refused. -/
  outcomes : (c.run later).1 = later.map restingOutcome
  queued : c.queued later = []
  state : (c.run later).2.state = .closing ∨ (c.run later).2.state = .closed
  inbound : (c.run later).2.inbound.contents = []
  idle : (c.run later).2.reassembler.Holds []
  /-- What goes out is what was queued before, in part if the stream fails. -/
  front : c.written later ++ (c.run later).2.outbound.contents <+: c.outbound.contents
  whole : Exchange.Faultless ((c.run later).2.stream.since c.stream) →
    c.written later ++ (c.run later).2.outbound.contents = c.outbound.contents
  reads : (c.run later).2.state ≠ .closed → ∀ timeout listening,
    ReadsOut (((c.run later).2.poll timeout listening).2.stream.since (c.run later).2.stream)
  closes : ∀ timeout listening,
    ((c.run later).2.poll timeout listening).2.outbound.contents = [] ∨
      ¬Exchange.Faultless
        (((c.run later).2.poll timeout listening).2.stream.since (c.run later).2.stream) →
    ((c.run later).2.poll timeout listening).2.state = .closed

theorem Coherent.quarantined {c : Connection (Traced σ)} (hc : c.Coherent)
    (hd : c.discarding = true) (later : List Operation) : Quarantined c later := by
  obtain ⟨hr, hq, exchanges, hs, hm⟩ := (muted_start hc hd).run later
  have hsince : (c.run later).2.stream.since c.stream = exchanges := Traced.since_of_eq hs
  obtain ⟨hi, hk, -⟩ := hm.coherent.quiet hm.discarding
  refine ⟨hr, hq, hm.closing_or_closed, hi, Reassembler.holds_nil hk (hm.coherent.idle hk), ?_, ?_,
    fun hn => poll_reads hn, hm.poll_closes⟩
  · rw [written, hsince]
    exact hm.front
  · rw [written, hsince]
    exact hm.whole

/-- A dispatch that finds a reserved opcode, or a frame or a message that is too
long, is the last to hand anything over and the last to queue: messages and
replies of the frames in front of the violation, and the close frame. From then
on, whatever the application does and whatever the stream gives, the connection
is in quarantine. -/
theorem quarantine {clock : Clock} {keys : KeySource} {s : Traced σ} {endpoint : Endpoint}
    {config : Config} {c d : Connection (Traced σ)}
    (h : establish clock keys s endpoint config = .ok c) (earlier : List Operation)
    {operation : Operation} (hd : (c.run earlier).2.dispatched? operation = some d)
    {found : List Wire.Piece} {e : Error}
    (he : Wire.scan ⟨config.maxFrameSize, config.maxMessageSize⟩ d.reassembler.buffered
      d.inbound.contents = (found, some e)) (later : List Operation) :
    ∃ messages after, (c.run earlier).2.apply operation = (.ok messages, after) ∧
      Breaks d found e messages after ∧ Quarantined after later := by
  have hfresh := fresh_of_establish h
  obtain ⟨events, hp, -⟩ := run_path hfresh.coherent earlier
  obtain ⟨hq, happly⟩ := operation_of_dispatched hd
  obtain ⟨seen, -, ha⟩ := (accounted_moves c).path (hp.trans hq.steps.moves)
    (accounted_start hfresh)
  rw [← hfresh.limits_eq, ← ha.limits_eq] at he
  have hdiscarding : d.discarding = false := by
    refine ha.coherent.not_discarding fun hr => ?_
    rw [Wire.scan_incomplete hr] at he
    cases he
  obtain ⟨parts, hparts, -⟩ := ha.going hdiscarding
  have hbreaks := breaks_dispatch hdiscarding hparts (congrArg Prod.snd he)
  rw [he] at hbreaks
  obtain ⟨_, hsteps, -⟩ := dispatch_steps ha.coherent
  exact ⟨_, _, happly, hbreaks,
    (ha.coherent.steps hsteps).quarantined hbreaks.discarding_eq later⟩

/-- A ping, a text and then a reserved opcode, whose payload looks like a text
frame. A further text comes in behind it, and neither is handed over. -/
theorem quarantine_reserved :
    ∃ c d messages after,
      scripted {} [.data [0x89, 0x01, 0x41, 0x81, 0x01, 0x42, 0x83, 0x03, 0x81, 0x01, 0x43], .block,
        .data [0x81, 0x01, 0x44]] [] = .ok c ∧
      (c.run [.sendPing]).2.dispatched? (.poll 0 true) = some d ∧
      Wire.scan ⟨16 * 1024 * 1024, 64 * 1024 * 1024⟩ d.reassembler.buffered d.inbound.contents =
        ([⟨true, .ping, [0x41]⟩, ⟨true, .text, [0x42]⟩], some (.invalidOpcode 3)) ∧
      (c.run [.sendPing]).2.apply (.poll 0 true) = (.ok messages, after) ∧
      Breaks d [⟨true, .ping, [0x41]⟩, ⟨true, .text, [0x42]⟩] (.invalidOpcode 3) messages after ∧
      Quarantined after [.sendText "E", .poll 0 true] := by
  obtain ⟨c, h, hp⟩ := exists_scripted {} [.data [0x89, 0x01, 0x41, 0x81, 0x01, 0x42, 0x83, 0x03,
      0x81, 0x01, 0x43], .block, .data [0x81, 0x01, 0x44]] []
    (p := fun c => ((c.run [.sendPing]).2.dispatched? (.poll 0 true)).any fun d =>
      Wire.scan ⟨16 * 1024 * 1024, 64 * 1024 * 1024⟩ d.reassembler.buffered d.inbound.contents =
        ([⟨true, .ping, [0x41]⟩, ⟨true, .text, [0x42]⟩], some (.invalidOpcode 3)))
    (by decide +kernel)
  obtain ⟨d, hd, he⟩ := Option.any_eq_true _ _ |>.mp hp
  have he := of_decide_eq_true he
  obtain ⟨messages, after, ha, hb, hq⟩ :=
    quarantine h [.sendPing] hd he [.sendText "E", .poll 0 true]
  exact ⟨c, d, messages, after, h, hd, he, ha, hb, hq⟩

end Connection

end WebSocket
