import WebSocket.Proofs.Connection.Coherence

/-!
# Operations as paths

`apply_path` reads an operation as a sequence of moves and `run_path` a whole
run. What is handed over and what is queued on the way are the messages that the
application gets and the frames that the operations queue (`queues`).
-/

namespace WebSocket.Connection

variable {σ : Type} [Transport σ]

/-- The connection as dispatch finds it, if the operation makes it look at what
has come in: a poll for an application that listens, while the connection is
not closed and the wait does not fail. -/
def dispatched? (c : Connection σ) : Operation → Option (Connection σ)
  | .poll timeout true =>
    if c.state = .closed then none
    else
      match c.waitReady timeout with
      | (.error _, _) => none
      | (.ok (), c) => some c.exchange
  | _ => none

/-- The frames that an operation queues: one for each send that is accepted, the
close frame where an open connection starts closing, and the replies to the
frames that an open connection acts on. -/
def queues (c : Connection σ) : Operation → List Outgoing
  | .sendText text => if c.state = .open then [.frame .text (Utf8.encode text)] else []
  | .sendBinary data => if c.state = .open then [.frame .binary data] else []
  | .sendPing => if c.state = .open then [.frame .ping []] else []
  | .close => if c.state = .open then [.close] else []
  | .poll timeout listening =>
    match c.dispatched? (.poll timeout listening) with
    | none => []
    | some d =>
      let found := Wire.scan d.limits d.reassembler.buffered d.inbound.contents
      if d.state = .open then replies found.1 found.2 else []

def queued (c : Connection σ) : List Operation → List Outgoing
  | [] => []
  | operation :: operations => c.queues operation ++ (c.apply operation).2.queued operations

-- ---------------------------------------------------------------------------
-- Polls
-- ---------------------------------------------------------------------------

section
variable {c d : Connection σ} {timeout : Nat} {listening : Bool}

theorem waitReady_talks (hs : c.state ≠ .closed) (h : c.waitReady timeout = (.ok (), d)) :
    Talks c d ∧ d.state ≠ .closed := by
  unfold waitReady at h
  split at h
  · cases h
    exact ⟨.nil, hs⟩
  · obtain ⟨ha, rfl⟩ := Prod.mk.inj h
    exact ⟨.single ⟨hs, .wait (Prod.ext ha rfl)⟩, hs⟩

theorem fault_of_waitReady {kind : IoKind} (h : c.waitReady timeout = (.error kind, d)) :
    StreamMove c (d.fail (.ofIo kind)) := by
  unfold waitReady at h
  split at h
  · cases h
  · obtain ⟨ha, rfl⟩ := Prod.mk.inj h
    exact .fail (.wait (Prod.ext ha rfl)) rfl

theorem operation_of_dispatched {operation : Operation} (h : c.dispatched? operation = some d) :
    Talks c d ∧ c.apply operation = (.ok d.dispatch.1, d.dispatch.2) := by
  unfold dispatched? at h
  split at h
  · next timeout =>
    split at h
    · cases h
    · next hs =>
      split at h
      · cases h
      · next e hw =>
        obtain ⟨hp, he⟩ := waitReady_talks hs hw
        cases h
        refine ⟨hp.trans (exchange_talks e he), ?_⟩
        rw [apply, poll, if_neg hs, hw]
        rfl
  · cases h

theorem talks_of_not_dispatched (hs : c.state ≠ .closed)
    (h : c.dispatched? (.poll timeout listening) = none) :
    Talks c (c.poll timeout listening).2 ∧ (c.poll timeout listening).1 = [] := by
  unfold poll
  rw [if_neg hs]
  split
  · next hw => exact ⟨.single ⟨hs, fault_of_waitReady hw⟩, rfl⟩
  · next d hw =>
    obtain ⟨hp, hd⟩ := waitReady_talks hs hw
    cases listening with
    | false => exact ⟨hp.trans (exchange_talks d hd), rfl⟩
    | true => simp [dispatched?, hs, hw] at h

theorem poll_of_closed (hs : c.state = .closed) (timeout : Nat) (listening : Bool) :
    c.poll timeout listening = ([], { c with stream := Transport.idle c.stream timeout }) := by
  rw [poll, if_pos hs]

theorem poll_of_not_dispatched (h : c.dispatched? (.poll timeout listening) = none) :
    Steps c [] (c.poll timeout listening).2 ∧ (c.poll timeout listening).1 = [] := by
  by_cases hs : c.state = .closed
  · rw [poll_of_closed hs]
    exact ⟨.single (.idle hs), rfl⟩
  · obtain ⟨hp, hm⟩ := talks_of_not_dispatched hs h
    exact ⟨hp.steps, hm⟩

theorem dispatch_steps (hc : c.Coherent) :
    ∃ events, Steps c events c.dispatch.2 ∧ Event.messages events = c.dispatch.1 ∧
      Event.outgoing events =
        let found := Wire.scan c.limits c.reassembler.buffered c.inbound.contents
        if c.state = .open then replies found.1 found.2 else [] := by
  cases hd : c.discarding with
  | false =>
    obtain ⟨events, h, hm⟩ := dispatch_handles hd
    exact ⟨events, h.steps, hm, h.outgoing⟩
  | true =>
    have hs : c.state ≠ .open := fun hs => by simp [(hc.clean hs).2] at hd
    rw [dispatch_discarding hd]
    exact ⟨[], .nil, rfl, by simp [hs]⟩

theorem poll_steps (hc : c.Coherent) (timeout : Nat) (listening : Bool) :
    ∃ events, Steps c events (c.poll timeout listening).2 ∧
      Event.messages events = (c.poll timeout listening).1 ∧
      Event.outgoing events = c.queues (.poll timeout listening) := by
  cases h : c.dispatched? (.poll timeout listening) with
  | none =>
    obtain ⟨hp, hm⟩ := poll_of_not_dispatched h
    refine ⟨[], hp, hm.symm, ?_⟩
    simp only [queues, h]
    rfl
  | some d =>
    obtain ⟨hp, he⟩ := operation_of_dispatched h
    have hp := hp.steps
    obtain ⟨events, hq, hm, ho⟩ := dispatch_steps (hc.steps hp)
    obtain ⟨hmessages, hpoll⟩ := Prod.mk.inj he
    refine ⟨events, ?_, ?_, ?_⟩
    · rw [show (c.poll timeout listening).2 = _ from hpoll]
      exact hp.trans hq
    · rw [hm]
      exact (Except.ok.inj hmessages).symm
    · simpa only [queues, h] using ho

end

-- ---------------------------------------------------------------------------
-- Any operation
-- ---------------------------------------------------------------------------

omit [Transport σ] in
theorem delivered_map_nil (answer : Except Error Unit) :
    delivered [answer.map fun _ => []] = [] := by
  cases answer <;> rfl

omit [Transport σ] in
theorem delivered_ok (messages : List Message) : delivered [.ok messages] = messages :=
  List.append_nil messages

theorem send_path (c : Connection σ) (opcode : Opcode) (payload : List UInt8) :
    ∃ events, Path c events (c.send opcode payload).2 ∧
      Event.messages events = delivered [(c.send opcode payload).1.map fun _ => []] ∧
      Event.outgoing events = if c.state = .open then [.frame opcode payload] else [] := by
  rw [delivered_map_nil]
  unfold send
  split
  · next hs => exact ⟨_, .single (.send hs), rfl, rfl⟩
  · exact ⟨[], .nil, rfl, rfl⟩

theorem apply_path {c : Connection σ} (hc : c.Coherent) (operation : Operation) :
    ∃ events, Path c events (c.apply operation).2 ∧
      Event.messages events = delivered [(c.apply operation).1] ∧
      Event.outgoing events = c.queues operation := by
  cases operation with
  | sendText text => exact send_path c .text (Utf8.encode text)
  | sendBinary data => exact send_path c .binary data
  | sendPing => exact send_path c .ping []
  | close => exact ⟨_, .single .close, messages_closing c, outgoing_closing c⟩
  | poll timeout listening =>
    obtain ⟨events, hp, hm, ho⟩ := poll_steps hc timeout listening
    exact ⟨events, hp.moves, hm.trans (delivered_ok _).symm, ho⟩

-- ---------------------------------------------------------------------------
-- Runs
-- ---------------------------------------------------------------------------

omit [Transport σ] in
theorem delivered_cons (outcome : Outcome) (outcomes : List Outcome) :
    delivered (outcome :: outcomes) = delivered [outcome] ++ delivered outcomes := by
  simp [delivered]

theorem run_path {c : Connection σ} (hc : c.Coherent) (operations : List Operation) :
    ∃ events, Path c events (c.run operations).2 ∧
      Event.messages events = delivered (c.run operations).1 ∧
      Event.outgoing events = c.queued operations := by
  induction operations generalizing c with
  | nil => exact ⟨[], .nil, rfl, rfl⟩
  | cons operation operations ih =>
    obtain ⟨first, hp, hm, ho⟩ := apply_path hc operation
    obtain ⟨later, hq, hn, hu⟩ := ih (hc.path hp)
    refine ⟨_, hp.trans hq, ?_, ?_⟩
    · rw [Event.messages_append, hm, hn]
      exact (delivered_cons ..).symm
    · rw [Event.outgoing_append, ho, hu]
      rfl

section
variable {c : Connection σ}

theorem Coherent.apply (hc : c.Coherent) (operation : Operation) :
    (c.apply operation).2.Coherent := by
  obtain ⟨_, hp, -⟩ := apply_path hc operation
  exact hc.path hp

theorem Coherent.run (hc : c.Coherent) (operations : List Operation) :
    (c.run operations).2.Coherent := by
  obtain ⟨_, hp, -⟩ := run_path hc operations
  exact hc.path hp

theorem Coherent.state_le_run (hc : c.Coherent) (operations : List Operation) :
    c.state ≤ (c.run operations).2.state := by
  obtain ⟨_, hp, -⟩ := run_path hc operations
  exact hp.state_le

end

end WebSocket.Connection
