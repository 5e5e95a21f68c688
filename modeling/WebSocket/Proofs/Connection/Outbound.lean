import WebSocket.Proofs.Connection.Operations
import WebSocket.Proofs.Trace

/-!
# The outbound stream is intact

What the stream has taken and what is still to be written are together the wire
form of the frames that were queued, in their order (`intact_run`). A
connection that is closed has written the front of it, and all of it if it was
closed because nothing was left. The close frame is the last frame of all.
-/

namespace WebSocket

-- ---------------------------------------------------------------------------
-- Wire forms
-- ---------------------------------------------------------------------------

namespace Outgoing

/-- The wire form of a frame. Frames with a payload take the next key if
outbound frames are masked, and the close frame is the same every time. -/
def encode (useMask : Bool) (keys : KeySource) : Outgoing → List UInt8
  | .frame opcode payload => Frame.encode opcode payload (if useMask then some keys.next else none)
  | .close => Frame.closeFrame

def keysAfter (useMask : Bool) (keys : KeySource) : Outgoing → KeySource
  | .frame .. => if useMask then keys.advance else keys
  | .close => keys

def encodeAll (useMask : Bool) (keys : KeySource) : List Outgoing → List UInt8
  | [] => []
  | out :: outs => out.encode useMask keys ++ encodeAll useMask (out.keysAfter useMask keys) outs

variable {useMask : Bool}

theorem encodeAll_append (keys : KeySource) (outs later : List Outgoing) :
    encodeAll useMask keys (outs ++ later) =
      encodeAll useMask keys outs ++
        encodeAll useMask (outs.foldl (keysAfter useMask) keys) later := by
  induction outs generalizing keys with
  | nil => rfl
  | cons out outs ih =>
    rw [List.cons_append, encodeAll, ih, ← List.append_assoc]
    rfl

end Outgoing

namespace Connection

variable {σ : Type}

theorem contents_outbound_queueFrame (c : Connection σ) (opcode : Opcode) (payload : List UInt8) :
    (c.queueFrame opcode payload).outbound.contents =
      c.outbound.contents ++ (Outgoing.frame opcode payload).encode c.useMask c.keys := by
  unfold queueFrame Outgoing.encode
  split <;> exact ByteQueue.contents_appendFrame ..

theorem keys_queueFrame (c : Connection σ) (opcode : Opcode) (payload : List UInt8) :
    (c.queueFrame opcode payload).keys =
      (Outgoing.frame opcode payload).keysAfter c.useMask c.keys := by
  unfold queueFrame Outgoing.keysAfter
  split <;> rfl

theorem useMask_queueFrame (c : Connection σ) (opcode : Opcode) (payload : List UInt8) :
    (c.queueFrame opcode payload).useMask = c.useMask := by
  unfold queueFrame
  split <;> rfl

-- ---------------------------------------------------------------------------
-- Frames queued
-- ---------------------------------------------------------------------------

/-- From `c` to `d` the frames `outs` were queued, and nothing was written. -/
structure Appends (c : Connection σ) (outs : List Outgoing) (d : Connection σ) : Prop where
  useMask_eq : d.useMask = c.useMask
  keys_eq : d.keys = outs.foldl (Outgoing.keysAfter c.useMask) c.keys
  outbound_eq : d.outbound.contents =
    c.outbound.contents ++ Outgoing.encodeAll c.useMask c.keys outs

section
variable {c d e : Connection σ} {p : Wire.Piece} {outs later : List Outgoing}
  {events : List Event}

theorem Appends.none (hu : d.useMask = c.useMask) (hk : d.keys = c.keys)
    (ho : d.outbound = c.outbound) : Appends c [] d :=
  ⟨hu, hk, by rw [ho]; exact (List.append_nil _).symm⟩

theorem Appends.trans (h : Appends c outs d) (h' : Appends d later e) :
    Appends c (outs ++ later) e where
  useMask_eq := h'.useMask_eq.trans h.useMask_eq
  keys_eq := by rw [h'.keys_eq, h.useMask_eq, h.keys_eq, List.foldl_append]
  outbound_eq := by
    rw [h'.outbound_eq, h.outbound_eq, h.useMask_eq, h.keys_eq, Outgoing.encodeAll_append,
      List.append_assoc]

theorem appends_queueFrame (c : Connection σ) (opcode : Opcode) (payload : List UInt8) :
    Appends c [.frame opcode payload] (c.queueFrame opcode payload) where
  useMask_eq := useMask_queueFrame ..
  keys_eq := keys_queueFrame ..
  outbound_eq := by
    rw [contents_outbound_queueFrame]
    exact congrArg _ (List.append_nil _).symm

theorem appends_close (c : Connection σ) : Appends c (Event.outgoing c.closing) c.close := by
  unfold closing close
  split
  · exact ⟨rfl, rfl, (ByteQueue.contents_append ..).trans (congrArg _ (List.append_nil _).symm)⟩
  · exact .none rfl rfl rfl

theorem FrameMove.appends (h : FrameMove c p events d) :
    Appends c (Event.outgoing events) d := by
  cases h with
  | take =>
    rw [Event.outgoing_map_handed]
    exact .none rfl rfl rfl
  | @answer q =>
    have hq : Appends c [] { c with inbound := q } := .none rfl rfl rfl
    exact hq.trans (appends_queueFrame ..)
  | ignore => exact .none rfl rfl rfl
  | @close q =>
    have hq : Appends c [] { c with inbound := q } := .none rfl rfl rfl
    exact hq.trans (appends_close _)

theorem appends_violate (c : Connection σ) (q : ByteQueue) (r : Reassembler) (e : Error) :
    Appends c (Event.outgoing c.closing)
      ({ c with inbound := q, reassembler := r }.violate e) := by
  have h : Appends c [] { c with
      inbound := q.clear
      discarding := true
      reassembler := r.reset
      lastError := some e } := .none rfl rfl rfl
  exact h.trans (appends_close _)

theorem Breach.appends (h : Breach c events d) : Appends c (Event.outgoing events) d := by
  cases h with
  | refuse => exact appends_violate c c.inbound c.reassembler _
  | overflow => exact appends_violate ..

end

-- ---------------------------------------------------------------------------
-- The account of what goes out
-- ---------------------------------------------------------------------------

variable {useMask : Bool} {keys : KeySource}

/-- After the exchanges `seen` and the events `past`, the bytes written and the
outbound bytes are the wire form of the frames queued, unless the stream has
failed and the outbound bytes were dropped. -/
structure Sends (useMask : Bool) (keys : KeySource) (c : Connection σ) (seen : List Exchange)
    (past : List Event) : Prop where
  useMask_eq : c.useMask = useMask
  keys_eq : c.keys = (Event.outgoing past).foldl (Outgoing.keysAfter useMask) keys
  faultless : c.state ≠ .closed → Exchange.Faultless seen
  whole : Exchange.Faultless seen →
    Exchange.bytesOut seen ++ c.outbound.contents =
      Outgoing.encodeAll useMask keys (Event.outgoing past)
  ended : c.state = .closed →
    Exchange.bytesOut seen <+: Outgoing.encodeAll useMask keys (Event.outgoing past)
  parted : Exchange.Faultless seen → c.state ≠ .open → .close ∈ Event.outgoing past

theorem Fresh.sends {config : Config} {c : Connection σ} (h : Fresh keys config c) :
    Sends config.useMask keys c [] [] where
  useMask_eq := h.useMask_eq
  keys_eq := h.keys_eq
  faultless _ := nofun
  whole _ := by rw [h.outbound_eq]; rfl
  ended hs := by rw [h.state_eq] at hs; cases hs
  parted _ hs := absurd h.state_eq hs

section
variable {c d : Connection σ} {seen exchanges : List Exchange} {past events : List Event}

theorem Sends.appends (h : Sends useMask keys c seen past)
    (ha : Appends c (Event.outgoing events) d) (ht : Turns c events d) :
    Sends useMask keys d seen (past ++ events) where
  useMask_eq := ha.useMask_eq.trans h.useMask_eq
  keys_eq := by
    rw [ha.keys_eq, h.useMask_eq, h.keys_eq, Event.outgoing_append, List.foldl_append]
  faultless hd := h.faultless fun hc => hd (ht.state_closed.mpr hc)
  whole hf := by
    rw [ha.outbound_eq, ← List.append_assoc, h.whole hf, h.useMask_eq, h.keys_eq,
      Event.outgoing_append, Outgoing.encodeAll_append]
  ended hd := by
    rw [Event.outgoing_append, Outgoing.encodeAll_append]
    exact (h.ended (ht.state_closed.mp hd)).trans (List.prefix_append ..)
  parted hf hn := by
    rw [Event.outgoing_append]
    cases ht with
    | stays hs => exact List.mem_append_left _ (h.parted hf (hs ▸ hn))
    | closes _ _ he => exact List.mem_append_right _ he

variable {σ : Type} [Transport σ] {c d : Connection (Traced σ)}

theorem Sends.stream (h : Sends useMask keys c seen past) (hs : c.state ≠ .closed)
    (hm : StreamMove c d) (ht : Traces c d exchanges) :
    Sends useMask keys d (seen ++ exchanges) past := by
  have hseen := h.faultless hs
  have hw := h.whole hseen
  refine ⟨hm.useMask_eq.trans h.useMask_eq, by rw [hm.keys_eq, h.keys_eq], fun hd => ?_,
    fun hf => ?_, fun _ => ?_, fun hf hd => h.parted hseen ?_⟩
  · exact Exchange.faultless_append.mpr ⟨hseen, ht.leaves.faultless hd⟩
  · rw [Exchange.bytesOut_append, List.append_assoc,
      ht.leaves.whole (Exchange.faultless_append.mp hf).2, hw]
  · rw [Exchange.bytesOut_append, ← hw]
    exact (List.prefix_append_right_inj _).mpr ht.leaves.front
  · cases ht.leaves with
    | going he => exact he ▸ hd
    | drained hc => rw [hc]; nofun
    | failed _ _ he => exact absurd he (Exchange.faultless_append.mp hf).2.not_failed

theorem Sends.idle (h : Sends useMask keys c seen past) (hs : c.state = .closed) (time : Nat) :
    Sends useMask keys { c with stream := Transport.idle c.stream time } (seen ++ [.idled time])
      past := by
  have hb := Exchange.bytesOut_idled seen time
  exact ⟨h.useMask_eq, h.keys_eq, fun hn => absurd hs hn,
    fun hf => by rw [hb]; exact h.whole (Exchange.faultless_append.mp hf).1,
    fun hc => by rw [hb]; exact h.ended hc,
    fun hf => h.parted (Exchange.faultless_append.mp hf).1⟩

theorem sends_moves (useMask : Bool) (keys : KeySource) :
    MoveAccount (σ := σ) (Sends useMask keys) where
  stream hs hm ht h := h.stream hs hm ht
  idle time hs h := h.idle hs time
  frame hf h := h.appends hf.appends hf.turns
  breach hb h := h.appends hb.appends hb.turns
  send _ _ _ h := h.appends (appends_queueFrame ..) (.stays (state_queueFrame ..))
  close h := h.appends (appends_close _) (turns_closing rfl)

end

-- ---------------------------------------------------------------------------
-- The last frame
-- ---------------------------------------------------------------------------

section
variable {σ : Type} [Transport σ] {c d : Connection σ} {past events : List Event}

inductive Queues (c d : Connection σ) : List Outgoing → Prop
  | nothing (hs : d.state = c.state ∨ d.state = .closed) : Queues c d []
  | frame {opcode payload} (hc : c.state = .open) (hd : d.state = .open) :
      Queues c d [.frame opcode payload]
  | close (hc : c.state = .open) (hd : d.state = .closing) : Queues c d [.close]

omit [Transport σ] in
theorem queues_close (hs : d.state = c.close.state) : Queues c d (Event.outgoing c.closing) := by
  rw [state_close] at hs
  rw [outgoing_closing]
  split at hs
  · next hc =>
    rw [if_pos hc]
    exact .close hc hs
  · next hc =>
    rw [if_neg hc]
    exact .nothing (.inl hs)

theorem Step.queues (h : Step c events d) : Queues c d (Event.outgoing events) := by
  cases h with
  | stream _ h =>
    cases h with
    | fail | finish => exact .nothing (.inr rfl)
    | wait | read | drop | pause | write | stall => exact .nothing (.inl rfl)
  | idle => exact .nothing (.inl rfl)
  | frame h =>
    cases h with
    | take =>
      rw [Event.outgoing_map_handed]
      exact .nothing (.inl rfl)
    | answer _ _ hs => exact .frame hs (by rw [state_queueFrame]; exact hs)
    | ignore => exact .nothing (.inl rfl)
    | close => exact queues_close (by simp)
  | breach h =>
    cases h with
    | refuse | overflow => exact queues_close (by simp)

theorem Move.queues (h : Move c events d) : Queues c d (Event.outgoing events) := by
  cases h with
  | step h => exact h.queues
  | send hs => exact .frame hs (by rw [state_queueFrame]; exact hs)
  | close => exact queues_close rfl

/-- The close frame is among the frames queued if the connection is closing, not
if it is open, and nothing comes after it. -/
structure Closes (c : Connection σ) (outs : List Outgoing) : Prop where
  opened : c.state = .open → .close ∉ outs
  closing : c.state = .closing → .close ∈ outs
  last : .close ∉ outs.dropLast

omit [Transport σ] in
theorem Fresh.closes {config : Config} (h : Fresh keys config c) : Closes c [] where
  opened _ := nofun
  closing hs := by rw [h.state_eq] at hs; cases hs
  last := nofun

omit [Transport σ] in
theorem Closes.queues {outs later : List Outgoing} (h : Closes c outs) (hq : Queues c d later) :
    Closes d (outs ++ later) := by
  cases hq with
  | nothing hs =>
    rw [List.append_nil]
    rcases hs with hs | hs
    · exact ⟨fun hd => h.opened (hs ▸ hd), fun hd => h.closing (hs ▸ hd), h.last⟩
    · exact ⟨fun hd => absurd (hs.symm.trans hd) nofun, fun hd => absurd (hs.symm.trans hd) nofun,
        h.last⟩
  | frame hc hd =>
    have ho := h.opened hc
    refine ⟨fun _ => by simpa using ho, fun hs => ?_, by simpa using ho⟩
    rw [hd] at hs
    cases hs
  | close hc hd =>
    refine ⟨fun hs => ?_, fun _ => by simp, by simpa using h.opened hc⟩
    rw [hd] at hs
    cases hs

theorem Closes.path (h : Closes c (Event.outgoing past)) (hp : Path c events d) :
    Closes d (Event.outgoing (past ++ events)) := by
  refine hp.keeps (P := fun c past => Closes c (Event.outgoing past)) ?_ h
  intro c d events past hm hc
  rw [Event.outgoing_append]
  exact hc.queues hm.queues

end

theorem last_of_not_mem_dropLast {α : Type} {x : α} {all before after : List α}
    (h : x ∉ all.dropLast) (he : all = before ++ x :: after) : x ∉ before ∧ after = [] := by
  subst he
  cases after with
  | nil => exact ⟨by simpa using h, rfl⟩
  | cons y after => simp at h

-- ---------------------------------------------------------------------------
-- Drained
-- ---------------------------------------------------------------------------

section
variable {σ : Type} [Transport σ]

/-- Whether an operation closes a closing connection because everything has been
written: the poll after whose reads and writes nothing is left. -/
def drains (c : Connection σ) : Operation → Prop
  | .poll timeout _ => c.state ≠ .closed ∧ ∃ d, c.waitReady timeout = (.ok (), d) ∧
      d.fill.flush.state = .closing ∧ d.fill.flush.outbound.contents = []
  | _ => False

theorem operation_of_drains {c : Connection σ} {operation : Operation} (hc : c.Coherent)
    (h : c.drains operation) :
    ∃ d, Path c [] d ∧ d.state = .closing ∧
      ∃ events, Path d.shutdown events (c.apply operation).2 := by
  cases operation with
  | sendText | sendBinary | sendPing | close => exact h.elim
  | poll timeout listening =>
    obtain ⟨hs, d, hw, hd, he⟩ := h
    obtain ⟨hp, hn⟩ := waitReady_talks hs hw
    have hp := hp.trans (flush_fill_talks d hn)
    have hx : d.exchange = d.fill.flush.shutdown := by
      rw [exchange, finish, if_pos ⟨hd, by simp [ByteQueue.isEmpty, he]⟩]
    refine ⟨_, hp.steps.moves, hd, ?_⟩
    simp only [apply, poll, if_neg hs, hw]
    rw [← hx]
    cases listening with
    | true =>
      obtain ⟨events, hq, -⟩ := dispatch_steps (hc.steps (hp.trans (finish_talks _)).steps)
      exact ⟨events, hq.moves⟩
    | false => exact ⟨[], .nil⟩

end

-- ---------------------------------------------------------------------------
-- Runs
-- ---------------------------------------------------------------------------

section
variable {σ : Type} [Transport σ] {c d : Connection (Traced σ)}

def Ended (c : Connection (Traced σ)) (seen : List Exchange) (_ : List Event) : Prop :=
  c.state = .closed ∧ Exchange.Faultless seen

theorem ended_moves : MoveAccount (σ := σ) Ended where
  stream hs _ _ h := absurd h.1 hs
  idle _ hs h :=
    ⟨hs, Exchange.faultless_append.mpr ⟨h.2, Exchange.faultless_singleton rfl⟩⟩
  frame hf h := ⟨closed_le (h.1 ▸ (Step.frame hf).state_le), h.2⟩
  breach hb h := ⟨closed_le (h.1 ▸ (Step.breach hb).state_le), h.2⟩
  send _ _ hs h := absurd (hs.symm.trans h.1) nofun
  close h := ⟨closed_le (h.1 ▸ Move.close.state_le), h.2⟩

def written (c : Connection (Traced σ)) (operations : List Operation) : List UInt8 :=
  Exchange.bytesOut ((c.run operations).2.stream.since c.stream)

namespace Fresh

variable {config : Config} {operations : List Operation}

theorem closes_run (h : Fresh keys config c) (operations : List Operation) :
    Closes (c.run operations).2 (c.queued operations) := by
  obtain ⟨_, hp, -, ho⟩ := run_path h.coherent operations
  have hcloses : Closes c (Event.outgoing []) := h.closes
  rw [← ho]
  exact hcloses.path hp

theorem sends_run (h : Fresh keys config c) (operations : List Operation) :
    ∃ events, Event.outgoing events = c.queued operations ∧
      Sends config.useMask keys (c.run operations).2
        ((c.run operations).2.stream.since c.stream) events := by
  obtain ⟨events, hp, -, ho⟩ := run_path h.coherent operations
  obtain ⟨exchanges, hs, hsends⟩ := (sends_moves ..).path hp h.sends
  rw [Traced.since_of_eq hs]
  exact ⟨events, ho, hsends⟩

/-- As long as nothing fails, a connection that is no longer open has queued the
close frame. -/
theorem close_mem_queued_iff (h : Fresh keys config c)
    (hf : Exchange.Faultless ((c.run operations).2.stream.since c.stream)) :
    .close ∈ c.queued operations ↔ (c.run operations).2.state ≠ .open := by
  obtain ⟨events, ho, hsends⟩ := h.sends_run operations
  exact ⟨fun hm hs => (h.closes_run operations).opened hs hm,
    fun hs => ho ▸ hsends.parted hf hs⟩

theorem faultless_run_of_not_closed (h : Fresh keys config c)
    (hs : (c.run operations).2.state ≠ .closed) :
    Exchange.Faultless ((c.run operations).2.stream.since c.stream) := by
  obtain ⟨_, -, hsends⟩ := h.sends_run operations
  exact hsends.faultless hs

theorem written_append (h : Fresh keys config c)
    (hf : Exchange.Faultless ((c.run operations).2.stream.since c.stream)) :
    c.written operations ++ (c.run operations).2.outbound.contents =
      Outgoing.encodeAll config.useMask keys (c.queued operations) := by
  obtain ⟨_, ho, hsends⟩ := h.sends_run operations
  rw [← ho]
  exact hsends.whole hf

theorem written_eq (h : Fresh keys config c) (hs : (c.run operations).2.state = .closed)
    (hf : Exchange.Faultless ((c.run operations).2.stream.since c.stream)) :
    c.written operations = Outgoing.encodeAll config.useMask keys (c.queued operations) := by
  have hw := h.written_append hf
  rwa [(h.coherent.run operations).closed hs, List.append_nil] at hw

theorem written_prefix (h : Fresh keys config c) (hs : (c.run operations).2.state = .closed) :
    c.written operations <+: Outgoing.encodeAll config.useMask keys (c.queued operations) := by
  obtain ⟨_, ho, hsends⟩ := h.sends_run operations
  rw [← ho]
  exact hsends.ended hs

end Fresh

theorem faultless_of_drains {config : Config} (h : Fresh keys config c)
    {before : List Operation} {operation : Operation}
    (hd : (c.run before).2.drains operation) (after : List Operation) :
    (c.run (before ++ operation :: after)).2.state = .closed ∧
      Exchange.Faultless ((c.run (before ++ operation :: after)).2.stream.since c.stream) := by
  obtain ⟨_, hp, -⟩ := run_path h.coherent before
  have hb := h.coherent.run before
  obtain ⟨d, hq, hs, later, hl⟩ := operation_of_drains hb hd
  obtain ⟨first, hfirst, hsends⟩ := (sends_moves ..).path (hp.trans hq) h.sends
  obtain ⟨_, hr, -⟩ := run_path (hb.apply operation) after
  have hended : Ended d.shutdown [] [] := ⟨rfl, nofun⟩
  obtain ⟨third, hthird, hclosed, hf⟩ := ended_moves.path (hl.trans hr) hended
  -- the stream is closed between what went before and what is left of the run
  have hstream : (c.run (before ++ operation :: after)).2.stream.exchanges =
      c.stream.exchanges ++ (first ++ .closed :: third) := by
    rw [run_append]
    refine hthird.trans ?_
    rw [show d.shutdown.stream.exchanges = d.stream.exchanges ++ [.closed] from
      Traced.exchanges_close _, hfirst]
    simp only [List.append_assoc, List.singleton_append]
  refine ⟨by rw [run_append]; exact hclosed, ?_⟩
  rw [Traced.since_of_eq hstream]
  exact Exchange.faultless_append.mpr ⟨hsends.faultless (by rw [hs]; nofun),
    List.forall_mem_cons.mpr ⟨rfl, hf⟩⟩

/-- What a run has written and what it has still to write, against the frames
that it has queued. -/
structure Intact (useMask : Bool) (keys : KeySource) (c : Connection (Traced σ))
    (operations : List Operation) : Prop where
  going : (c.run operations).2.state ≠ .closed →
    c.written operations ++ (c.run operations).2.outbound.contents =
      Outgoing.encodeAll useMask keys (c.queued operations)
  ended : (c.run operations).2.state = .closed →
    c.written operations <+: Outgoing.encodeAll useMask keys (c.queued operations)
  drained : ∀ before operation after, operations = before ++ operation :: after →
    (c.run before).2.drains operation →
    c.written operations = Outgoing.encodeAll useMask keys (c.queued operations)
  opened : (c.run operations).2.state = .open → .close ∉ c.queued operations
  closing : (c.run operations).2.state = .closing → .close ∈ c.queued operations
  last : ∀ before after, c.queued operations = before ++ .close :: after →
    .close ∉ before ∧ after = []

/-- The outbound stream of an established connection is intact after every run. -/
theorem intact_run {clock : Clock} {s : Traced σ} {endpoint : Endpoint} {config : Config}
    (h : establish clock keys s endpoint config = .ok c) (operations : List Operation) :
    Intact config.useMask keys c operations := by
  have hf := fresh_of_establish h
  have hcloses := hf.closes_run operations
  refine ⟨fun hn => hf.written_append (hf.faultless_run_of_not_closed hn), hf.written_prefix,
    ?_, hcloses.opened, hcloses.closing, ?_⟩
  · rintro before operation after rfl hd
    obtain ⟨hs, hx⟩ := faultless_of_drains hf hd after
    exact hf.written_eq hs hx
  · exact fun before after he => last_of_not_mem_dropLast hcloses.last he

/-- A text and the close frame, which the stream takes in three pieces. -/
theorem intact_run_pieces :
    ∃ c, scripted {} [] [.accept 3, .block, .accept 7] = .ok c ∧
      Intact true ⟨fun _ => ⟨1, 2, 3, 4⟩, 0⟩ c
        [.sendText "A", .close, .poll 0 true, .poll 0 true] ∧
      c.queued [.sendText "A", .close, .poll 0 true, .poll 0 true] =
        [.frame .text [0x41], .close] ∧
      c.written [.sendText "A", .close, .poll 0 true, .poll 0 true] =
        [0x81, 0x81, 1, 2, 3, 4, 0x40, 0x88, 0x80, 0, 0, 0, 0] := by
  obtain ⟨c, h, hp⟩ := exists_scripted {} [] [.accept 3, .block, .accept 7]
    (p := fun c =>
      c.queued [.sendText "A", .close, .poll 0 true, .poll 0 true] =
        [.frame .text [0x41], .close] ∧
      c.written [.sendText "A", .close, .poll 0 true, .poll 0 true] =
        [0x81, 0x81, 1, 2, 3, 4, 0x40, 0x88, 0x80, 0, 0, 0, 0])
    (by decide +kernel)
  exact ⟨c, h, intact_run h _, of_decide_eq_true hp⟩

end

end Connection

end WebSocket
