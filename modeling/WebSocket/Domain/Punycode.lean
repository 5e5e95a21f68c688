import WebSocket.Text

/-!
# Punycode

The ASCII form of a label. Its ASCII characters come first; the others follow
as numbers, each telling how far to go from the insertion before, where one
walks through all places of the label for one code point after another. The
numbers are written in base 36 with the lowest digit first, and the thresholds
that end a number adapt to the size of the numbers so far.
-/

namespace WebSocket.Punycode

def base : Nat := 36

def firstCode : Nat := 128

def firstBias : Nat := 72

-- ---------------------------------------------------------------------------
-- Digits and thresholds
-- ---------------------------------------------------------------------------

def digitChar (digit : Nat) : Char :=
  if digit < 26 then Char.ofNat ('a'.toNat + digit) else Char.ofNat ('0'.toNat + (digit - 26))

def digitValue? (c : Char) : Option Nat :=
  if Ascii.isLetter c then some ((Ascii.lower c).toNat - 'a'.toNat)
  else if Ascii.isDigit c then some (c.toNat - '0'.toNat + 26)
  else none

/-- A digit below this one ends a number, at the place `place` counted from zero. -/
def threshold (bias place : Nat) : Nat := min 26 (max 1 (base * (place + 1) - bias))

theorem threshold_bounds (bias place : Nat) :
    1 ≤ threshold bias place ∧ threshold bias place ≤ 26 := by
  unfold threshold
  omega

def settle (delta : Nat) : Nat × Nat :=
  if 455 < delta then
    let (rest, count) := settle (delta / 35)
    (rest, count + 1)
  else (delta, 0)
termination_by delta
decreasing_by omega

def adapt (delta count : Nat) (first : Bool) : Nat :=
  let scaled := if first then delta / 700 else delta / 2
  let (rest, divisions) := settle (scaled + scaled / count)
  base * divisions + base * rest / (rest + 38)

-- ---------------------------------------------------------------------------
-- Writing
-- ---------------------------------------------------------------------------

def writeNumber (bias place n : Nat) : List Char :=
  let t := threshold bias place
  if n < t then [digitChar n]
  else digitChar (t + (n - t) % (base - t)) :: writeNumber bias (place + 1) ((n - t) / (base - t))
termination_by n
decreasing_by
  have := threshold_bounds bias place
  have := Nat.div_le_self (n - threshold bias place) (base - threshold bias place)
  omega

structure Writer where
  out : List Char
  delta : Nat
  bias : Nat
  /-- How many characters of the label are covered. -/
  covered : Nat

def Writer.visit (basic code : Nat) (w : Writer) (c : Nat) : Writer :=
  if c < code then { w with delta := w.delta + 1 }
  else if c = code then
    { out := w.out ++ writeNumber w.bias 0 w.delta
      delta := 0
      bias := adapt w.delta (w.covered + 1) (w.covered == basic)
      covered := w.covered + 1 }
  else w

/-- Inserts the code points `codes`, given in rising order, all of them at least `next`. -/
def Writer.insertAll (label : List Nat) (basic next : Nat) (w : Writer) : List Nat → Writer
  | [] => w
  | code :: codes =>
    let moved := { w with delta := w.delta + (code - next) * (w.covered + 1) }
    let walked := label.foldl (Writer.visit basic code) moved
    Writer.insertAll label basic (code + 1) { walked with delta := walked.delta + 1 } codes

def encode (label : List Char) : List Char :=
  let codes := label.map Char.toNat
  let basic := label.filter fun c => c.toNat < firstCode
  let others := (codes.filter (firstCode ≤ ·)).eraseDups.mergeSort (· ≤ ·)
  let start : Writer := ⟨[], 0, firstBias, basic.length⟩
  basic ++ (if basic.isEmpty then [] else ['-']) ++
    (start.insertAll codes basic.length firstCode others).out

-- ---------------------------------------------------------------------------
-- Reading
-- ---------------------------------------------------------------------------

structure Reader where
  out : List Char
  code : Nat
  /-- Where the number in progress began to count. -/
  start : Nat
  value : Nat
  weight : Nat
  place : Nat
  bias : Nat

def Reader.atRest (out : List Char) (code start bias : Nat) : Reader :=
  ⟨out, code, start, start, 1, 0, bias⟩

def Reader.insert (r : Reader) (value : Nat) : Option Reader :=
  let count := r.out.length + 1
  let code := r.code + value / count
  if code.isValidChar then
    some (.atRest (r.out.insertIdx (value % count) (Char.ofNat code)) code (value % count + 1)
      (adapt (value - r.start) count (r.start == 0)))
  else none

def Reader.step (r : Reader) (digit : Nat) : Option Reader :=
  let t := threshold r.bias r.place
  let value := r.value + digit * r.weight
  if digit < t then r.insert value
  else some { r with value := value, weight := r.weight * (base - t), place := r.place + 1 }

def Reader.read? (r : Reader) (c : Char) : Option Reader := (digitValue? c).bind r.step

def Reader.run (r : Reader) (text : List Char) : Option (List Char) :=
  (text.foldlM Reader.read? r).bind fun last => if last.place = 0 then some last.out else none

/-- The text before the last hyphen and the text after it. Without a hyphen, or
with only a leading one, everything counts as the second part. -/
def splitBasic (text : List Char) : List Char × List Char :=
  let back := (text.reverse.takeWhile (· != '-')).reverse
  let front := text.take (text.length - back.length - 1)
  if front.isEmpty then ([], text) else (front, back)

def decode? (text : List Char) : Option (List Char) :=
  let (basic, numbers) := splitBasic text
  if basic.all (·.toNat < firstCode) then
    (Reader.atRest basic firstCode 0 firstBias).run numbers
  else none

end WebSocket.Punycode
