import WebSocket.Transport

/-!
# Scripted peers

A transport whose answers are written down beforehand. Reads follow a queue of
events: data is given out piece by piece, and one read never joins two events.
Writes follow a queue of answers and, when it is empty, a standing limit. Waits
follow a queue of failures. Where the script says so, a wait for what can never
happen any more times out.
-/

namespace WebSocket

inductive ReadEvent
  | data (bytes : List UInt8)
  | block
  | shutdown
  | failure (kind : IoKind)
deriving DecidableEq, Repr

inductive WriteEvent
  | accept (count : Nat)
  | block
  | failure (kind : IoKind)
deriving DecidableEq, Repr

structure Script where
  reads : List ReadEvent := []
  writes : List WriteEvent := []
  /-- How much a write takes once the queue is empty; no limit takes all. -/
  writeLimit : Option Nat := none
  waits : List (Option IoKind) := []
  nodelayFailure : Option IoKind := none
  /-- Whether a wait in vain times out. -/
  impatient : Bool := false
deriving DecidableEq, Repr

namespace Script

-- ---------------------------------------------------------------------------
-- Answers
-- ---------------------------------------------------------------------------

/-- Reads from a queue of events. Empty data is passed over, and a shutdown
stays. -/
def readFrom (room : Nat) : List ReadEvent → Except IoKind (List UInt8) × List ReadEvent
  | [] => (.error .wouldBlock, [])
  | .data [] :: events => readFrom room events
  | .data (b :: bytes) :: events =>
    (.ok ((b :: bytes).take room),
      if (b :: bytes).length ≤ room then events else .data ((b :: bytes).drop room) :: events)
  | .block :: events => (.error .wouldBlock, events)
  | .shutdown :: events => (.ok [], .shutdown :: events)
  | .failure kind :: events => (.error kind, events)

def unread : List ReadEvent → Nat
  | [] => 0
  | .data bytes :: events => bytes.length + unread events
  | .block :: events | .shutdown :: events | .failure _ :: events => unread events

def answer : Option IoKind → Except IoKind Unit
  | none => .ok ()
  | some kind => .error kind

def send (s : Script) (offered : List UInt8) : Except IoKind Nat × Script :=
  match s.writes with
  | .accept count :: writes => (.ok (min count offered.length), { s with writes := writes })
  | .block :: writes => (.error .wouldBlock, { s with writes := writes })
  | .failure kind :: writes => (.error kind, { s with writes := writes })
  | [] =>
    match s.writeLimit with
    | none => (.ok offered.length, s)
    | some 0 => (.error .wouldBlock, s)
    | some limit => (.ok (min limit offered.length), s)

def recv (s : Script) (room : Nat) : Except IoKind (List UInt8) × Script :=
  let (outcome, reads) := readFrom room s.reads
  (outcome, { s with reads := reads })

/-- Whether the script holds nothing that could end a wait. -/
def isVain (s : Script) (interest : Interest) : Bool :=
  (interest.readable && s.reads.isEmpty) ||
    (interest.writable && s.writes.isEmpty && s.writeLimit == some 0)

def wait (s : Script) (interest : Interest) : Except IoKind Unit × Script :=
  match s.waits with
  | outcome :: waits => (answer outcome, { s with waits := waits })
  | [] => (if s.impatient && s.isVain interest then .error .timedOut else .ok (), s)

def extend (s : Script) (reads : List ReadEvent) (writes : List WriteEvent)
    (limit : Option (Option Nat)) (waits : List (Option IoKind)) : Script :=
  { s with
    reads := s.reads ++ reads
    writes := s.writes ++ writes
    writeLimit := limit.getD s.writeLimit
    waits := s.waits ++ waits }

-- ---------------------------------------------------------------------------
-- The script as a transport
-- ---------------------------------------------------------------------------

theorem readFrom_ok {room : Nat} {events rest : List ReadEvent} {bytes : List UInt8}
    (h : readFrom room events = (.ok bytes, rest)) :
    bytes.length ≤ room ∧ unread rest + bytes.length = unread events := by
  fun_induction readFrom room events with
  | case1 => cases h
  | case2 events ih => simpa [unread] using ih h
  | case3 b bytes events =>
    obtain ⟨h, rfl⟩ := Prod.mk.inj h
    cases h
    refine ⟨by simp only [List.length_take]; omega, ?_⟩
    split
    · next hl =>
      rw [List.take_of_length_le hl]
      simp [unread, Nat.add_comm]
    · simp only [unread, List.length_take, List.length_drop]
      omega
  | case4 => cases h
  | case5 events =>
    obtain ⟨h, rfl⟩ := Prod.mk.inj h
    cases h
    simp
  | case6 => cases h

instance : Transport Script where
  send := send
  recv := recv
  wait s interest _ := s.wait interest
  setNodelay s _ := (answer s.nodelayFailure, s)
  close s := s
  supply s := unread s.reads
  send_le {s offered n s'} h := by
    unfold send at h
    repeat' split at h
    all_goals
      obtain ⟨h, _⟩ := Prod.mk.inj h
      cases h
      try omega
  recv_le {s room bytes s'} h := by
    obtain ⟨h, _⟩ := Prod.mk.inj h
    exact (readFrom_ok (Prod.ext h rfl)).1
  supply_lt {s room b bytes s'} h := by
    obtain ⟨hb, rfl⟩ := Prod.mk.inj h
    have hu := (readFrom_ok (Prod.ext hb (rfl : (readFrom room s.reads).2 = _))).2
    exact Nat.lt_of_lt_of_eq (Nat.lt_add_of_pos_right (Nat.succ_pos _)) hu

end Script

end WebSocket
