import WebSocket.Bytes.BigEndian
import WebSocket.Error
import WebSocket.Frame.Opcode
import WebSocket.Message

/-!
# What a byte stream says

A reading of the base framing protocol that knows no buffers: `read` takes one
frame off the front of a byte string, `scan` all of them up to the first
violation, and `messages` joins their data. A verdict on a byte string is the
verdict on everything that starts with it (`read_append`).
-/

namespace WebSocket.Wire

-- ---------------------------------------------------------------------------
-- One frame
-- ---------------------------------------------------------------------------

/-- What a frame carries. How it was masked and how its length was written do
not matter any more. -/
structure Piece where
  fin : Bool
  opcode : Opcode
  payload : List UInt8
deriving DecidableEq, Repr

/-- What the front of a byte string amounts to. -/
inductive Reading
  | incomplete
  | refused (error : Error)
  | piece (piece : Piece) (rest : List UInt8)
deriving DecidableEq, Repr

def lengthSize (second : UInt8) : Nat :=
  if second.toNat % 128 = 126 then 2 else if second.toNat % 128 = 127 then 8 else 0

def tailSize (second : UInt8) : Nat := lengthSize second + if 128 ≤ second.toNat then 4 else 0

def payloadLength (second : UInt8) (rest : List UInt8) : Nat :=
  if second.toNat % 128 < 126 then second.toNat % 128
  else BigEndian.toNat (rest.take (lengthSize second))

def unmask (second : UInt8) (rest payload : List UInt8) : List UInt8 :=
  if second.toNat < 128 then payload
  else payload.mapIdx fun i b => b ^^^ (rest.drop (lengthSize second)).getD (i % 4) 0

/-- Reads the frame at the front. Reserved opcodes are refused as soon as they
show, and payloads when they are longer than `limit` or the frame as a whole
has no length in 64 bits. -/
def read (limit : Nat) : List UInt8 → Reading
  | first :: second :: rest =>
    match Opcode.ofByte? (first % 16) with
    | none => .refused (.invalidOpcode (first % 16))
    | some opcode =>
      let size := payloadLength second rest
      if rest.length < tailSize second then .incomplete
      else if limit < size ∨ UInt64.size ≤ 2 + tailSize second + size then
        .refused (.frameTooLarge size)
      else if rest.length < tailSize second + size then .incomplete
      else
        .piece ⟨decide (128 ≤ first.toNat), opcode,
            unmask second rest ((rest.drop (tailSize second)).take size)⟩
          (rest.drop (tailSize second + size))
  | _ => .incomplete

theorem length_lt_of_read {limit : Nat} {bytes rest : List UInt8} {p : Piece}
    (h : read limit bytes = .piece p rest) : rest.length < bytes.length := by
  unfold read at h
  split at h
  · split at h
    · cases h
    · dsimp only at h
      split at h
      · cases h
      · split at h
        · cases h
        · split at h
          · cases h
          · cases h
            simp only [List.length_drop, List.length_cons]
            omega
  · cases h

theorem length_unmask (second : UInt8) (rest payload : List UInt8) :
    (unmask second rest payload).length = payload.length := by
  unfold unmask
  split
  · rfl
  · exact List.length_mapIdx

theorem length_payload_of_read {limit : Nat} {bytes rest : List UInt8} {p : Piece}
    (h : read limit bytes = .piece p rest) : p.payload.length < UInt64.size := by
  unfold read at h
  split at h
  · split at h
    · cases h
    · dsimp only at h
      split at h
      · cases h
      · split at h
        · cases h
        · split at h
          · cases h
          · cases h
            simp only [length_unmask, List.length_take]
            omega
  · cases h

-- ---------------------------------------------------------------------------
-- More bytes
-- ---------------------------------------------------------------------------

def Reading.extend (more : List UInt8) : Reading → Reading
  | .incomplete => .incomplete
  | .refused e => .refused e
  | .piece p rest => .piece p (rest ++ more)

theorem lengthSize_le_tailSize (second : UInt8) : lengthSize second ≤ tailSize second :=
  Nat.le_add_right ..

theorem tailSize_le (second : UInt8) : tailSize second ≤ 12 := by
  unfold tailSize lengthSize
  repeat' split
  all_goals decide

theorem payloadLength_append {second : UInt8} {rest : List UInt8}
    (h : tailSize second ≤ rest.length) (more : List UInt8) :
    payloadLength second (rest ++ more) = payloadLength second rest := by
  have := lengthSize_le_tailSize second
  unfold payloadLength
  rw [List.take_append_of_le_length (by omega)]

theorem unmask_append {second : UInt8} {rest : List UInt8}
    (h : tailSize second ≤ rest.length) (more payload : List UInt8) :
    unmask second (rest ++ more) payload = unmask second rest payload := by
  unfold unmask
  split
  · rfl
  · next hm =>
    have hs : lengthSize second + 4 ≤ rest.length := by
      simpa [tailSize, show 128 ≤ second.toNat by omega] using h
    congr 1
    funext i b
    rw [List.drop_append_of_le_length (by omega), List.getD_eq_getElem?_getD,
      List.getElem?_append_left (by rw [List.length_drop]; omega), List.getD_eq_getElem?_getD]

theorem read_append {limit : Nat} {bytes : List UInt8} (h : read limit bytes ≠ .incomplete)
    (more : List UInt8) : read limit (bytes ++ more) = (read limit bytes).extend more := by
  match bytes with
  | [] => exact absurd rfl h
  | [_] => exact absurd rfl h
  | first :: second :: rest =>
    simp only [List.cons_append, read] at h ⊢
    cases ho : Opcode.ofByte? (first % 16) with
    | none => rfl
    | some opcode =>
      simp only [ho] at h ⊢
      by_cases ht : rest.length < tailSize second
      · exact absurd (if_pos ht) h
      have hm : ∀ n, ¬rest.length < n → ¬(rest ++ more).length < n := fun n hn => by
        rw [List.length_append]
        omega
      -- behind a whole header, length and key do not depend on what follows
      have hle : tailSize second ≤ rest.length := Nat.not_lt.mp ht
      rw [payloadLength_append hle, unmask_append hle, if_neg (hm _ ht), if_neg ht]
      rw [if_neg ht] at h
      by_cases hl : limit < payloadLength second rest ∨
          UInt64.size ≤ 2 + tailSize second + payloadLength second rest
      · rw [if_pos hl, if_pos hl]
        rfl
      · rw [if_neg hl, if_neg hl]
        rw [if_neg hl] at h
        by_cases hb : rest.length < tailSize second + payloadLength second rest
        · exact absurd (if_pos hb) h
        · rw [if_neg (hm _ hb), if_neg hb, List.drop_append_of_le_length hle,
            List.take_append_of_le_length (by rw [List.length_drop]; omega),
            List.drop_append_of_le_length (by omega)]
          rfl

theorem read_append_refused {limit : Nat} {bytes : List UInt8} {e : Error}
    (h : read limit bytes = .refused e) (more : List UInt8) :
    read limit (bytes ++ more) = .refused e := by
  rw [read_append (by rw [h]; nofun), h]
  rfl

theorem read_append_piece {limit : Nat} {bytes rest : List UInt8} {p : Piece}
    (h : read limit bytes = .piece p rest) (more : List UInt8) :
    read limit (bytes ++ more) = .piece p (rest ++ more) := by
  rw [read_append (by rw [h]; nofun), h]
  rfl

-- ---------------------------------------------------------------------------
-- All frames
-- ---------------------------------------------------------------------------

structure Limits where
  frame : Nat
  message : Nat
deriving DecidableEq, Repr

def Piece.gather (p : Piece) (gathered : Nat) : Nat :=
  if p.opcode.isData then if p.fin then 0 else gathered + p.payload.length else gathered

def Piece.overflows (p : Piece) (limits : Limits) (gathered : Nat) : Prop :=
  p.opcode.isData = true ∧ limits.message < gathered + p.payload.length

instance (p : Piece) (limits : Limits) (gathered : Nat) : Decidable (p.overflows limits gathered) :=
  inferInstanceAs (Decidable (_ ∧ _))

/-- The frames at the front up to the first violation, and that violation.
`gathered` bytes of a message are in flight before them. -/
def scan (limits : Limits) (gathered : Nat) (bytes : List UInt8) : List Piece × Option Error :=
  match _h : read limits.frame bytes with
  | .incomplete => ([], none)
  | .refused e => ([], some e)
  | .piece p rest =>
    if p.overflows limits gathered then
      ([], some (.messageTooLarge (gathered + p.payload.length)))
    else
      let (pieces, violation) := scan limits (p.gather gathered) rest
      (p :: pieces, violation)
termination_by bytes.length
decreasing_by exact length_lt_of_read _h

section
variable {limits : Limits} {gathered : Nat} {bytes rest : List UInt8} {p : Piece} {e : Error}

theorem scan_incomplete (h : read limits.frame bytes = .incomplete) :
    scan limits gathered bytes = ([], none) := by
  rw [scan]
  split <;> simp_all

theorem scan_refused (h : read limits.frame bytes = .refused e) :
    scan limits gathered bytes = ([], some e) := by
  rw [scan]
  split <;> simp_all

theorem scan_overflow (h : read limits.frame bytes = .piece p rest)
    (ho : p.overflows limits gathered) :
    scan limits gathered bytes = ([], some (.messageTooLarge (gathered + p.payload.length))) := by
  rw [scan]
  split <;> simp_all

theorem scan_piece (h : read limits.frame bytes = .piece p rest)
    (ho : ¬p.overflows limits gathered) :
    scan limits gathered bytes =
      (p :: (scan limits (p.gather gathered) rest).1,
        (scan limits (p.gather gathered) rest).2) := by
  rw [scan]
  split <;> simp_all

theorem length_payload_of_mem_scan (h : p ∈ (scan limits gathered bytes).1) :
    p.payload.length < UInt64.size := by
  fun_induction scan limits gathered bytes with
  | case1 | case2 | case3 => cases h
  | case4 gathered bytes q rest hr _ pieces violation hs ih =>
    rcases List.mem_cons.mp h with rfl | h
    · exact length_payload_of_read hr
    · exact ih (hs ▸ h)

end

-- ---------------------------------------------------------------------------
-- Messages
-- ---------------------------------------------------------------------------

def joined (parts : List Piece) : Message where
  kind := if parts.head?.map Piece.opcode = some .text then .text else .binary
  bytes := parts.flatMap Piece.payload

/-- The messages of data frames, each up to and including the first final
frame. `parts` are the frames of the message in flight before them. -/
def join (parts : List Piece) : List Piece → List Message
  | [] => []
  | p :: pieces =>
    if p.fin then joined (parts ++ [p]) :: join [] pieces else join (parts ++ [p]) pieces

def assemble (parts : List Piece) (pieces : List Piece) : List Message :=
  join parts (pieces.filter (·.opcode.isData))

/-- All messages that a byte stream brings before its first violation. -/
def messages (limits : Limits) (bytes : List UInt8) : List Message :=
  assemble [] (scan limits 0 bytes).1

@[simp] theorem messages_nil (limits : Limits) : messages limits [] = [] := by
  rw [messages, scan_incomplete rfl]
  rfl

@[simp] theorem assemble_nil (parts : List Piece) : assemble parts [] = [] := rfl

theorem assemble_control {p : Piece} (h : p.opcode.isData = false) (parts pieces : List Piece) :
    assemble parts (p :: pieces) = assemble parts pieces := by
  simp [assemble, h]

theorem assemble_final {p : Piece} (h : p.opcode.isData = true) (hf : p.fin = true)
    (parts pieces : List Piece) :
    assemble parts (p :: pieces) = joined (parts ++ [p]) :: assemble [] pieces := by
  simp [assemble, h, join, hf]

theorem assemble_more {p : Piece} (h : p.opcode.isData = true) (hf : p.fin = false)
    (parts pieces : List Piece) :
    assemble parts (p :: pieces) = assemble (parts ++ [p]) pieces := by
  simp [assemble, h, join, hf]

end WebSocket.Wire
