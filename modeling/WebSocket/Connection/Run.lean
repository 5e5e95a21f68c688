import WebSocket.Connection.Poll

/-!
# Runs

What an application does with an open connection is a list of operations. The
outcome of each is an error if a send was refused, and otherwise the messages
that were handed over.
-/

namespace WebSocket

inductive Operation
  | sendText (text : String)
  | sendBinary (data : List UInt8)
  | sendPing
  | close
  | poll (timeout : Nat) (listening : Bool)
deriving DecidableEq, Repr

namespace Connection

abbrev Outcome := Except Error (List Message)

variable {σ : Type} [Transport σ]

def apply (c : Connection σ) : Operation → Outcome × Connection σ
  | .sendText text => let (answer, c) := c.sendText text; (answer.map fun _ => [], c)
  | .sendBinary data => let (answer, c) := c.sendBinary data; (answer.map fun _ => [], c)
  | .sendPing => let (answer, c) := c.sendPing; (answer.map fun _ => [], c)
  | .close => (.ok [], c.close)
  | .poll timeout listening => let (messages, c) := c.poll timeout listening; (.ok messages, c)

def run (c : Connection σ) : List Operation → List Outcome × Connection σ
  | [] => ([], c)
  | operation :: operations =>
    let (outcome, c) := c.apply operation
    let (outcomes, c) := c.run operations
    (outcome :: outcomes, c)

def delivered (outcomes : List Outcome) : List Message :=
  outcomes.flatMap fun
    | .ok messages => messages
    | .error _ => []

theorem run_append (c : Connection σ) (first second : List Operation) :
    c.run (first ++ second) =
      ((c.run first).1 ++ ((c.run first).2.run second).1, ((c.run first).2.run second).2) := by
  induction first generalizing c with
  | nil => rfl
  | cons operation first ih => simp [run, ih]

end Connection

end WebSocket
