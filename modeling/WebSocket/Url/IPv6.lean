import WebSocket.Text

/-!
# IPv6 addresses

Eight pieces of 16 bits. `parse?` reads groups of up to four hexadecimal digits
between colons, one double colon for a run of zero pieces, and a dotted IPv4
address for the last two pieces. `text` writes lower-case digits without
leading zeros and shortens the first longest run of at least two zero pieces.
-/

namespace WebSocket.IPv6

def splitDouble? : List Char → Option (List Char × List Char)
  | ':' :: ':' :: rest => some ([], rest)
  | [] => none
  | c :: cs => (splitDouble? cs).map fun (front, back) => (c :: front, back)

def piece? (group : List Char) : Option Nat :=
  if group.isEmpty || 4 < group.length then none else Ascii.number? 16 group

def byte? (group : List Char) : Option Nat :=
  match group with
  | [] => none
  | '0' :: _ :: _ => none
  | digits => (Ascii.number? 10 digits).filter (· ≤ 255)

def dotted? (group : List Char) : Option (List Nat) :=
  match (group.splitOn '.').mapM byte? with
  | some [a, b, c, d] => some [a * 256 + b, c * 256 + d]
  | _ => none

/-- The pieces of groups, of which the last may be dotted where `dotted` allows it. -/
def pieces? (dotted : Bool) : List (List Char) → Option (List Nat)
  | [] => some []
  | [last] =>
    if dotted && last.contains '.' then dotted? last else (piece? last).map ([·])
  | group :: groups => do
    let piece ← piece? group
    let pieces ← pieces? dotted groups
    some (piece :: pieces)

def side? (dotted : Bool) (text : List Char) : Option (List Nat) :=
  if text.isEmpty then some [] else pieces? dotted (text.splitOn ':')

def parse? (text : List Char) : Option (List Nat) :=
  match splitDouble? text with
  | none => (side? true text).filter (·.length = 8)
  | some (front, back) => do
    let front ← side? false front
    let back ← side? true back
    if front.length + back.length < 8 then
      some (front ++ List.replicate (8 - front.length - back.length) 0 ++ back)
    else none

def zeroRun (pieces : List Nat) : Nat := (pieces.takeWhile (· == 0)).length

def longestRun : (start : Nat) → List Nat → Nat × Nat
  | _, [] => (0, 0)
  | start, piece :: pieces =>
    let here := zeroRun (piece :: pieces)
    let later := longestRun (start + 1) pieces
    if later.2 ≤ here then (start, here) else later

private def joinColons (pieces : List Nat) : List Char :=
  [':'].intercalate (pieces.map (Ascii.digits 16))

def text (pieces : List Nat) : List Char :=
  let run := longestRun 0 pieces
  if run.2 < 2 then joinColons pieces
  else joinColons (pieces.take run.1) ++ ':' :: ':' :: joinColons (pieces.drop (run.1 + run.2))

end WebSocket.IPv6
