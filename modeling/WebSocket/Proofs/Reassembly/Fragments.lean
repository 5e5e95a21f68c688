import WebSocket.Proofs.Reassembly

/-!
# Reassembly as a list of fragments

A reassembler shows an answer to each call, and whether and how much of a message is in
flight after it. Another way of putting messages together keeps the frames in flight in
a list and joins them when the last has come (`listing`). The two show the same over any
calls, and so does a reassembler that delivers every message through its buffer
(`sights_reassembler`).
-/

namespace WebSocket.Reassembly

open Wire (Piece)

-- ---------------------------------------------------------------------------
-- Calls and what they show
-- ---------------------------------------------------------------------------

inductive Call
  | push (p : Piece)
  | reset
deriving DecidableEq, Repr

structure Sight where
  answer : Except Error (Option Message)
  inProgress : Bool
  buffered : Nat

/-- A way of putting messages together, with states of type `τ`. -/
structure Joiner (τ : Type) where
  push : τ → Piece → Except Error (Option Message) × τ
  reset : τ → τ
  inProgress : τ → Bool
  buffered : τ → Nat

namespace Joiner

variable {τ υ : Type} {j : Joiner τ} {k : Joiner υ}

def call (j : Joiner τ) (t : τ) : Call → Except Error (Option Message) × τ
  | .push p => j.push t p
  | .reset => (.ok none, j.reset t)

def sights (j : Joiner τ) (t : τ) : List Call → List Sight
  | [] => []
  | call :: calls =>
    let (answer, t) := j.call t call
    ⟨answer, j.inProgress t, j.buffered t⟩ :: j.sights t calls

/-- States that show the same, and go on to do so after any call. -/
structure Alike (j : Joiner τ) (k : Joiner υ) (R : τ → υ → Prop) : Prop where
  push {t u} (h : R t u) (p : Piece) :
    (j.push t p).1 = (k.push u p).1 ∧ R (j.push t p).2 (k.push u p).2
  reset {t u} (h : R t u) : R (j.reset t) (k.reset u)
  inProgress {t u} (h : R t u) : j.inProgress t = k.inProgress u
  buffered {t u} (h : R t u) : j.buffered t = k.buffered u

namespace Alike

variable {R : τ → υ → Prop} {t : τ} {u : υ}

theorem call (ha : Alike j k R) (h : R t u) (call : Call) :
    (j.call t call).1 = (k.call u call).1 ∧ R (j.call t call).2 (k.call u call).2 := by
  cases call with
  | push p => exact ha.push h p
  | reset => exact ⟨rfl, ha.reset h⟩

theorem sights (ha : Alike j k R) (h : R t u) (calls : List Call) :
    j.sights t calls = k.sights u calls := by
  induction calls generalizing t u with
  | nil => rfl
  | cons call calls ih =>
    obtain ⟨hanswer, hnext⟩ := ha.call h call
    simp [Joiner.sights, hanswer, ha.inProgress hnext, ha.buffered hnext, ih hnext]

end Alike

end Joiner

-- ---------------------------------------------------------------------------
-- Three ways
-- ---------------------------------------------------------------------------

def totalLength (parts : List Piece) : Nat := (parts.flatMap Piece.payload).length

/-- Keeps the frames in flight in a list. A frame that makes them too long drops them
all, a final frame joins them to a message, and any other frame is kept. -/
def listing (limit : Nat) : Joiner (List Piece) where
  push parts p :=
    let all := parts ++ [p]
    if limit < totalLength all then (.error (.messageTooLarge (totalLength all)), [])
    else if p.fin then (.ok (some (Wire.joined all)), [])
    else (.ok none, all)
  reset _ := []
  inProgress parts := !parts.isEmpty
  buffered := totalLength

def reassembler : Joiner Reassembler where
  push r p := r.push p.opcode p.fin p.payload
  reset := Reassembler.reset
  inProgress := Reassembler.inProgress
  buffered := Reassembler.buffered

/-- A push that takes every payload into the buffer, also one that is a message by
itself. -/
def pushThrough (r : Reassembler) (p : Piece) : Except Error (Option Message) × Reassembler :=
  let kind := r.kind.getD (.ofOpcode p.opcode)
  let total := r.buffer.length + p.payload.length
  if r.limit < total then (.error (.messageTooLarge total), r.reset)
  else
    let buffer := r.buffer.append p.payload
    if p.fin then
      (.ok (some ⟨kind, buffer.contents⟩), { r with buffer := buffer.clear, kind := none })
    else (.ok none, { r with buffer := buffer, kind := some kind })

def throughBuffer : Joiner Reassembler := { reassembler with push := pushThrough }

-- ---------------------------------------------------------------------------
-- They show the same
-- ---------------------------------------------------------------------------

open Reassembler (Holds Pushed pushed_of_push holds_nil)

theorem pushed_of_pushThrough (r : Reassembler) (p : Piece) :
    Pushed r p.opcode p.fin p.payload (pushThrough r p).1 (pushThrough r p).2 := by
  unfold pushThrough
  extract_lets kind total buffer
  split
  · next hl => exact .overflow hl
  · next hl =>
    have hl : r.buffered + p.payload.length ≤ r.limit := Nat.not_lt.mp hl
    split
    · next hf => exact .complete hl hf rfl rfl rfl
    · next hf => exact .more hl (by simpa using hf) rfl rfl rfl

section
variable {limit : Nat} {r r' : Reassembler} {parts : List Piece} {p : Piece}
  {answer : Except Error (Option Message)}

theorem totalLength_append (h : r.Holds parts) (p : Piece) :
    totalLength (parts ++ [p]) = r.buffered + p.payload.length := by
  simp [totalLength, Reassembler.buffered, ByteQueue.length, h.contents]

theorem listing_push (h : r.Holds parts) (hl : r.limit = limit)
    (hp : Pushed r p.opcode p.fin p.payload answer r') :
    ∃ rest, (listing limit).push parts p = (answer, rest) ∧ r'.Holds rest ∧ r'.limit = limit := by
  have htotal := totalLength_append h p
  cases answer with
  | error e =>
    cases hp with
    | overflow ho =>
      refine ⟨[], ?_, holds_nil rfl rfl, hl⟩
      simp [listing, htotal, ← hl, ho]
  | ok m =>
    have hfits : ¬limit < totalLength (parts ++ [p]) ∧ r'.limit = limit := by
      cases hp with
      | complete hle _ _ _ hr => exact ⟨by omega, hr.trans hl⟩
      | more hle _ _ _ hr => exact ⟨by omega, hr.trans hl⟩
    obtain ⟨hf, rfl, hholds⟩ | ⟨hf, rfl, hholds⟩ := h.pushed hp
    · exact ⟨[], by simp [listing, hfits.1, hf], hholds, hfits.2⟩
    · exact ⟨_, by simp [listing, hfits.1, hf], hholds, hfits.2⟩

theorem alike_listing {push : Reassembler → Piece → Except Error (Option Message) × Reassembler}
    (hp : ∀ r p, Pushed r p.opcode p.fin p.payload (push r p).1 (push r p).2) :
    Joiner.Alike { reassembler with push := push } (listing limit) fun r parts =>
      r.Holds parts ∧ r.limit = limit where
  push {r parts} h p := by
    obtain ⟨rest, he, hholds⟩ := listing_push h.1 h.2 (hp r p)
    rw [he]
    exact ⟨rfl, hholds⟩
  reset {r parts} h := ⟨holds_nil rfl rfl, h.2⟩
  inProgress {r parts} h := by
    simp only [reassembler, listing, Reassembler.inProgress, h.1.kind]
    cases parts <;> rfl
  buffered {r parts} h := by
    simp [reassembler, listing, totalLength, Reassembler.buffered, ByteQueue.length, h.1.contents]

end

/-- Over any calls a reassembler shows what a list of fragments shows. That a final
frame with nothing gathered before it is delivered without the buffer does not show. -/
theorem sights_reassembler (limit : Nat) (calls : List Call) :
    reassembler.sights (.ofLimit limit) calls = (listing limit).sights [] calls ∧
      reassembler.sights (.ofLimit limit) calls = throughBuffer.sights (.ofLimit limit) calls := by
  have hstart : (Reassembler.ofLimit limit).Holds [] ∧ (Reassembler.ofLimit limit).limit = limit :=
    ⟨holds_nil rfl rfl, rfl⟩
  have hdirect : reassembler.sights (.ofLimit limit) calls = (listing limit).sights [] calls :=
    (alike_listing fun _ _ => pushed_of_push rfl).sights hstart calls
  have hthrough : throughBuffer.sights (.ofLimit limit) calls = (listing limit).sights [] calls :=
    (alike_listing pushed_of_pushThrough).sights hstart calls
  exact ⟨hdirect, hdirect.trans hthrough.symm⟩

/-- An empty first fragment decides the kind of the message all the same. -/
example : reassembler.sights (.ofLimit 2)
    [.push ⟨false, .text, []⟩, .push ⟨true, .binary, [1, 2]⟩, .push ⟨true, .binary, [1, 2, 3]⟩] =
      [⟨.ok none, true, 0⟩, ⟨.ok (some ⟨.text, [1, 2]⟩), false, 0⟩,
        ⟨.error (.messageTooLarge 3), false, 0⟩] := rfl

end WebSocket.Reassembly
