import WebSocket.Transport

/-!
# Traces

A traced transport behaves like the one it wraps and remembers every exchange.
-/

namespace WebSocket

inductive Exchange
  | sent (offered : List UInt8) (answer : Except IoKind Nat)
  | received (room : Nat) (answer : Except IoKind (List UInt8))
  | waited (interest : Interest) (timeout : Nat) (answer : Except IoKind Unit)
  | idled (time : Nat)
  | nodelaySet (value : Bool) (answer : Except IoKind Unit)
  | closed

/-- A transport with its exchanges so far, the newest first. -/
structure Traced (σ : Type) where
  peer : σ
  history : List Exchange

namespace Traced

variable {σ : Type}

def fresh (peer : σ) : Traced σ := ⟨peer, []⟩

private def note {α : Type} (t : Traced σ) (exchange : α → Exchange) (outcome : α × σ) :
    α × Traced σ :=
  (outcome.1, ⟨outcome.2, exchange outcome.1 :: t.history⟩)

instance [Transport σ] : Transport (Traced σ) where
  send t offered := t.note (.sent offered) (Transport.send t.peer offered)
  recv t room := t.note (.received room) (Transport.recv t.peer room)
  wait t interest timeout :=
    t.note (.waited interest timeout) (Transport.wait t.peer interest timeout)
  idle t time := ⟨Transport.idle t.peer time, .idled time :: t.history⟩
  setNodelay t value := t.note (.nodelaySet value) (Transport.setNodelay t.peer value)
  close t := ⟨Transport.close t.peer, .closed :: t.history⟩
  supply t := Transport.supply t.peer
  send_le h := by
    obtain ⟨h, _⟩ := Prod.mk.inj h
    exact Transport.send_le (Prod.ext h rfl)
  recv_le h := by
    obtain ⟨h, _⟩ := Prod.mk.inj h
    exact Transport.recv_le (Prod.ext h rfl)
  supply_lt h := by
    obtain ⟨hb, rfl⟩ := Prod.mk.inj h
    exact Transport.supply_lt (Prod.ext hb rfl)

def exchanges (t : Traced σ) : List Exchange := t.history.reverse

end Traced

namespace Exchange

def writtenBytes : Exchange → List UInt8
  | .sent offered (.ok n) => offered.take n
  | _ => []

def receivedBytes : Exchange → List UInt8
  | .received _ (.ok bytes) => bytes
  | _ => []

def isSend : Exchange → Bool
  | .sent .. => true
  | _ => false

def isRecv : Exchange → Bool
  | .received .. => true
  | _ => false

def isClose : Exchange → Bool
  | .closed => true
  | _ => false

end Exchange

end WebSocket
