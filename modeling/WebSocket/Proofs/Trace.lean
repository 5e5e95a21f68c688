import WebSocket.Proofs.Connection.Moves
import WebSocket.Transport.Trace

/-!
# What a trace shows

On a traced stream every exchange of a connection leaves its mark
(`StreamMove.traces`). An account that relates a connection to its exchanges and
events, and that each move carries on, holds after every run
(`MoveAccount.path`).
-/

namespace WebSocket

namespace Exchange

def bytesIn (exchanges : List Exchange) : List UInt8 := exchanges.flatMap receivedBytes

def bytesOut (exchanges : List Exchange) : List UInt8 := exchanges.flatMap writtenBytes

/-- Whether the stream has failed: an error, other than that a read or a write
would block, or the end of the stream in either direction. -/
def isFailure : Exchange → Bool
  | .sent _ (.ok n) => n == 0
  | .sent _ (.error kind) => kind != .wouldBlock
  | .received _ (.ok bytes) => bytes.isEmpty
  | .received _ (.error kind) => kind != .wouldBlock
  | .waited _ _ (.error _) => true
  | _ => false

def failure? : Exchange → Option Error
  | .sent _ (.ok n) => if n = 0 then some .connectionClosed else none
  | .sent _ (.error kind) => if kind = .wouldBlock then none else some (.ofIo kind)
  | .received _ (.ok bytes) => if bytes.isEmpty then some .connectionClosed else none
  | .received _ (.error kind) => if kind = .wouldBlock then none else some (.ofIo kind)
  | .waited _ _ (.error kind) => some (.ofIo kind)
  | _ => none

theorem isSome_failure? (e : Exchange) : e.failure?.isSome = e.isFailure := by
  cases e with
  | sent _ answer =>
    cases answer with
    | error kind => cases kind <;> rfl
    | ok n => cases n <;> rfl
  | received _ answer =>
    cases answer with
    | error kind => cases kind <;> rfl
    | ok bytes => cases bytes <;> rfl
  | waited _ _ answer => cases answer <;> rfl
  | idled | nodelaySet | closed => rfl

theorem isFailure_of_failure? {e : Exchange} {error : Error} (h : e.failure? = some error) :
    e.isFailure = true := by
  rw [← isSome_failure?, h]
  rfl

def AsksFor (room : Nat) : Exchange → Prop
  | .received size _ => size = room
  | _ => True

def Faultless (exchanges : List Exchange) : Prop := ∀ e ∈ exchanges, e.isFailure = false

instance (exchanges : List Exchange) : Decidable (Faultless exchanges) :=
  inferInstanceAs (Decidable (∀ e ∈ exchanges, e.isFailure = false))

theorem faultless_append {first second : List Exchange} :
    Faultless (first ++ second) ↔ Faultless first ∧ Faultless second :=
  List.forall_mem_append

theorem Faultless.not_failed {exchanges : List Exchange} (h : Faultless exchanges) :
    ¬∃ e ∈ exchanges, e.isFailure = true := by
  rintro ⟨e, he, hf⟩
  exact absurd ((h e he).symm.trans hf) nofun

theorem faultless_singleton {e : Exchange} (h : e.isFailure = false) : Faultless [e] :=
  List.forall_mem_singleton.mpr h

theorem bytesIn_append (first second : List Exchange) :
    bytesIn (first ++ second) = bytesIn first ++ bytesIn second :=
  List.flatMap_append

theorem bytesOut_append (first second : List Exchange) :
    bytesOut (first ++ second) = bytesOut first ++ bytesOut second :=
  List.flatMap_append

theorem bytesOut_idled (seen : List Exchange) (time : Nat) :
    bytesOut (seen ++ [.idled time]) = bytesOut seen := by
  rw [bytesOut_append]
  exact List.append_nil _

end Exchange

namespace Traced

variable {σ : Type}

def since (t start : Traced σ) : List Exchange := t.exchanges.drop start.exchanges.length

theorem since_of_eq {t start : Traced σ} {later : List Exchange}
    (h : t.exchanges = start.exchanges ++ later) : t.since start = later := by
  rw [since, h, List.drop_left]

/-- From `t` to `s` there were only exchanges with the property `P`. -/
def Only (P : Exchange → Prop) (t s : Traced σ) : Prop :=
  ∃ exchanges, s.exchanges = t.exchanges ++ exchanges ∧ ∀ e ∈ exchanges, P e

namespace Only

variable {P : Exchange → Prop} {t s u : Traced σ}

theorem refl (t : Traced σ) : Only P t t := ⟨[], (List.append_nil _).symm, nofun⟩

theorem trans (h : Only P t s) (h' : Only P s u) : Only P t u := by
  obtain ⟨first, hs, hf⟩ := h
  obtain ⟨later, hu, hl⟩ := h'
  exact ⟨first ++ later, by rw [hu, hs, List.append_assoc],
    List.forall_mem_append.mpr ⟨hf, hl⟩⟩

theorem single {e : Exchange} (h : s.exchanges = t.exchanges ++ [e]) (he : P e) : Only P t s :=
  ⟨[e], h, List.forall_mem_singleton.mpr he⟩

end Only

def Through (P : List Exchange → Prop) (t s : Traced σ) : Prop :=
  ∃ later, s.exchanges = t.exchanges ++ later ∧ P later

namespace Through

variable {P P' : List Exchange → Prop} {t s u : Traced σ}

theorem refl (h : P []) (t : Traced σ) : Through P t t := ⟨[], (List.append_nil _).symm, h⟩

theorem single {e : Exchange} (h : s.exchanges = t.exchanges ++ [e]) (he : P [e]) :
    Through P t s :=
  ⟨[e], h, he⟩

theorem mono (h : Through P t s) (hp : ∀ {later}, P later → P' later) : Through P' t s := by
  obtain ⟨later, hs, hl⟩ := h
  exact ⟨later, hs, hp hl⟩

theorem trans {Q : List Exchange → Prop} (h : Through P t s) (h' : Through P' s u)
    (hq : ∀ {first later}, P first → P' later → Q (first ++ later)) : Through Q t u := by
  obtain ⟨first, hs, hf⟩ := h
  obtain ⟨later, hu, hl⟩ := h'
  exact ⟨first ++ later, by rw [hu, hs, List.append_assoc], hq hf hl⟩

theorem since (h : Through P t s) : P (s.since t) := by
  obtain ⟨later, hs, hl⟩ := h
  rwa [since_of_eq hs]

end Through

section
variable [Transport σ] {t s : Traced σ}

theorem exchanges_send {offered : List UInt8} {answer : Except IoKind Nat}
    (h : Transport.send t offered = (answer, s)) :
    s.exchanges = t.exchanges ++ [.sent offered answer] := by
  obtain ⟨rfl, rfl⟩ := Prod.mk.inj h
  exact List.reverse_cons

theorem exchanges_recv {room : Nat} {answer : Except IoKind (List UInt8)}
    (h : Transport.recv t room = (answer, s)) :
    s.exchanges = t.exchanges ++ [.received room answer] := by
  obtain ⟨rfl, rfl⟩ := Prod.mk.inj h
  exact List.reverse_cons

theorem exchanges_wait {interest : Interest} {timeout : Nat} {answer : Except IoKind Unit}
    (h : Transport.wait t interest timeout = (answer, s)) :
    s.exchanges = t.exchanges ++ [.waited interest timeout answer] := by
  obtain ⟨rfl, rfl⟩ := Prod.mk.inj h
  exact List.reverse_cons

theorem exchanges_idle (t : Traced σ) (time : Nat) :
    (Transport.idle t time).exchanges = t.exchanges ++ [.idled time] :=
  List.reverse_cons

theorem exchanges_foldl_idle (t : Traced σ) (times : List Nat) :
    (times.foldl Transport.idle t).exchanges = t.exchanges ++ times.map .idled := by
  induction times generalizing t with
  | nil => exact (List.append_nil _).symm
  | cons time times ih => rw [List.foldl_cons, ih, exchanges_idle, List.append_assoc]; rfl

theorem exchanges_close (t : Traced σ) :
    (Transport.close t).exchanges = t.exchanges ++ [.closed] :=
  List.reverse_cons

end

end Traced

namespace Connection

variable {σ : Type} [Transport σ] {c d : Connection (Traced σ)}

/-- How a move over exchanges leaves the state and the outbound bytes: what went
out was taken from their front, or the connection is closed, because everything
was written or because the stream failed. -/
inductive Leaves (c d : Connection (Traced σ)) (exchanges : List Exchange) : Prop
  | going (hs : d.state = c.state) (he : d.lastError = c.lastError)
      (hf : Exchange.Faultless exchanges)
      (ho : Exchange.bytesOut exchanges ++ d.outbound.contents = c.outbound.contents)
  | drained (hs : c.state = .closing) (ho : c.outbound.contents = []) (hd : d.state = .closed)
      (hn : d.outbound.contents = []) (he : d.lastError = c.lastError)
      (hb : Exchange.bytesOut exchanges = [])
  | failed (hd : d.state = .closed) (hb : Exchange.bytesOut exchanges = [])
      (hf : ∃ e ∈ exchanges, e.isFailure = true)

section
variable {exchanges : List Exchange}

omit [Transport σ]

theorem Leaves.faultless (h : Leaves c d exchanges) (hd : d.state ≠ .closed) :
    Exchange.Faultless exchanges := by
  cases h with
  | going _ _ hf => exact hf
  | drained _ _ hc | failed hc => exact absurd hc hd

/-- A failure drops the outbound bytes, but is no case of a faultless trace. -/
theorem Leaves.whole (h : Leaves c d exchanges) (hf : Exchange.Faultless exchanges) :
    Exchange.bytesOut exchanges ++ d.outbound.contents = c.outbound.contents := by
  cases h with
  | going _ _ _ ho => exact ho
  | drained _ ho _ hn _ hb => rw [hb, hn, ho]; rfl
  | failed _ _ he => exact absurd he hf.not_failed

theorem Leaves.front (h : Leaves c d exchanges) :
    Exchange.bytesOut exchanges <+: c.outbound.contents := by
  cases h with
  | going _ _ _ ho => exact ⟨_, ho⟩
  | drained _ _ _ _ _ hb | failed _ hb => rw [hb]; exact List.nil_prefix

end

/-- The exchanges of a move, and what they tell: what came in is behind the
inbound bytes unless it was dropped. -/
structure Traces (c d : Connection (Traced σ)) (exchanges : List Exchange) : Prop where
  stream_eq : d.stream.exchanges = c.stream.exchanges ++ exchanges
  inbound_eq : c.discarding = false →
    d.inbound.contents = c.inbound.contents ++ Exchange.bytesIn exchanges
  leaves : Leaves c d exchanges

theorem Fault.traced {s : Traced σ} {e : Error} (h : Fault c s e) :
    ∃ exchange : Exchange, exchange.failure? = some e ∧
      s.exchanges = c.stream.exchanges ++ [exchange] ∧
      exchange.receivedBytes = [] ∧ exchange.writtenBytes = [] := by
  cases h with
  | wait h => exact ⟨_, rfl, Traced.exchanges_wait h, rfl, rfl⟩
  | recvEnd h => exact ⟨_, rfl, Traced.exchanges_recv h, rfl, rfl⟩
  | recv h hk => exact ⟨_, by exact if_neg hk, Traced.exchanges_recv h, rfl, rfl⟩
  | sendNone h => exact ⟨_, rfl, Traced.exchanges_send h, rfl, rfl⟩
  | send h hk => exact ⟨_, by exact if_neg hk, Traced.exchanges_send h, rfl, rfl⟩

theorem StreamMove.traces (h : StreamMove c d) : ∃ exchanges, Traces c d exchanges := by
  have none {i : List UInt8} : i = i ++ Exchange.bytesIn [] := (List.append_nil _).symm
  cases h with
  | wait h =>
    exact ⟨_, Traced.exchanges_wait h, fun _ => none,
      .going rfl rfl (Exchange.faultless_singleton rfl) rfl⟩
  | read hd h hq =>
    refine ⟨_, Traced.exchanges_recv h, fun _ => ?_,
      .going rfl rfl (Exchange.faultless_singleton rfl) rfl⟩
    rw [hq]
    exact congrArg _ (List.append_nil _).symm
  | drop hd h =>
    exact ⟨_, Traced.exchanges_recv h, fun hn => absurd (hd.symm.trans hn) nofun,
      .going rfl rfl (Exchange.faultless_singleton rfl) rfl⟩
  | pause h hq =>
    exact ⟨_, Traced.exchanges_recv h, fun _ => hq.trans none,
      .going rfl rfl (Exchange.faultless_singleton rfl) rfl⟩
  | @write n s h =>
    refine ⟨_, Traced.exchanges_send h, fun _ => none,
      .going rfl rfl (Exchange.faultless_singleton rfl) ?_⟩
    rw [ByteQueue.contents_consume]
    exact (congrArg (· ++ _) (List.append_nil _)).trans (List.take_append_drop ..)
  | stall h =>
    exact ⟨_, Traced.exchanges_send h, fun _ => none,
      .going rfl rfl (Exchange.faultless_singleton rfl) rfl⟩
  | fail h hq =>
    obtain ⟨exchange, hf, hs, hi, ho⟩ := h.traced
    have hi : Exchange.bytesIn [exchange, .closed] = [] := (List.append_nil _).trans hi
    have ho : Exchange.bytesOut [exchange, .closed] = [] := (List.append_nil _).trans ho
    refine ⟨[exchange, .closed], ?_, fun _ => ?_,
      .failed rfl ho ⟨exchange, .head _, Exchange.isFailure_of_failure? hf⟩⟩
    · refine (Traced.exchanges_close _).trans ?_
      rw [hs, List.append_assoc]
      rfl
    · rw [hi, List.append_nil]
      exact hq
  | finish hs he =>
    exact ⟨_, Traced.exchanges_close _, fun _ => (List.append_nil _).symm,
      .drained hs he rfl rfl rfl rfl⟩

-- ---------------------------------------------------------------------------
-- Accounts
-- ---------------------------------------------------------------------------

/-- An account of a connection, of all exchanges and of all events so far that
every step carries on. -/
structure StepAccount (P : Connection (Traced σ) → List Exchange → List Event → Prop) : Prop where
  stream : ∀ {c d seen exchanges past}, c.state ≠ .closed → StreamMove c d →
    Traces c d exchanges → P c seen past → P d (seen ++ exchanges) past
  idle : ∀ {c seen past} time, c.state = .closed → P c seen past →
    P { c with stream := Transport.idle c.stream time } (seen ++ [.idled time]) past
  frame : ∀ {c d p events seen past}, FrameMove c p events d → P c seen past →
    P d seen (past ++ events)
  breach : ∀ {c d events seen past}, Breach c events d → P c seen past → P d seen (past ++ events)

structure MoveAccount (P : Connection (Traced σ) → List Exchange → List Event → Prop) : Prop
    extends StepAccount P where
  send : ∀ {c seen past} opcode payload, c.state = .open → P c seen past →
    P (c.queueFrame opcode payload) seen (past ++ [.queued (.frame opcode payload)])
  close : ∀ {c seen past}, P c seen past → P c.close seen (past ++ c.closing)

section
variable {P : Connection (Traced σ) → List Exchange → List Event → Prop} {seen : List Exchange}
  {events past : List Event}

theorem StepAccount.step (hP : StepAccount P) (h : Step c events d) (hc : P c seen past) :
    ∃ exchanges, d.stream.exchanges = c.stream.exchanges ++ exchanges ∧
      P d (seen ++ exchanges) (past ++ events) := by
  cases h with
  | stream hs h =>
    obtain ⟨exchanges, ht⟩ := h.traces
    exact ⟨exchanges, ht.stream_eq, by simpa using hP.stream hs h ht hc⟩
  | idle hs => exact ⟨_, Traced.exchanges_idle .., by simpa using hP.idle _ hs hc⟩
  | frame h => exact ⟨[], by simp [h.stream_eq], by simpa using hP.frame h hc⟩
  | breach h => exact ⟨[], by simp [h.stream_eq], by simpa using hP.breach h hc⟩

theorem MoveAccount.move (hP : MoveAccount P) (h : Move c events d) (hc : P c seen past) :
    ∃ exchanges, d.stream.exchanges = c.stream.exchanges ++ exchanges ∧
      P d (seen ++ exchanges) (past ++ events) := by
  cases h with
  | step h => exact hP.toStepAccount.step h hc
  | send hs => exact ⟨[], by simp, by simpa using hP.send _ _ hs hc⟩
  | close => exact ⟨[], by simp, by simpa using hP.close hc⟩

omit [Transport σ] in
theorem Chain.carries {R : Connection (Traced σ) → List Event → Connection (Traced σ) → Prop}
    (link : ∀ {c d seen events past}, R c events d → P c seen past →
      ∃ exchanges, d.stream.exchanges = c.stream.exchanges ++ exchanges ∧
        P d (seen ++ exchanges) (past ++ events))
    (h : Chain R c events d) (past : List Event) (hc : P c seen past) :
    ∃ exchanges, d.stream.exchanges = c.stream.exchanges ++ exchanges ∧
      P d (seen ++ exchanges) (past ++ events) := by
  induction h generalizing seen past with
  | nil => exact ⟨[], (List.append_nil _).symm, by simpa using hc⟩
  | cons h _ ih =>
    obtain ⟨first, hs, hd⟩ := link h hc
    obtain ⟨rest, ht, he⟩ := ih _ hd
    refine ⟨first ++ rest, ?_, ?_⟩
    · rw [ht, hs, List.append_assoc]
    · simpa only [List.append_assoc] using he

theorem StepAccount.steps (hP : StepAccount P) (h : Steps c events d) (hc : P c seen past) :
    ∃ exchanges, d.stream.exchanges = c.stream.exchanges ++ exchanges ∧
      P d (seen ++ exchanges) (past ++ events) :=
  h.carries hP.step past hc

theorem MoveAccount.path (hP : MoveAccount P) (h : Path c events d) (hc : P c seen past) :
    ∃ exchanges, d.stream.exchanges = c.stream.exchanges ++ exchanges ∧
      P d (seen ++ exchanges) (past ++ events) :=
  h.carries hP.move past hc

end

end Connection

end WebSocket
