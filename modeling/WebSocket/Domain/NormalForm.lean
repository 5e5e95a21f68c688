import WebSocket.Domain.Data.Composition
import WebSocket.Domain.RangeTable

/-!
# Normal form

The composed normal form of text: characters are decomposed, the marks behind
each are put into the order of their combining classes, and pairs that are one
character in composed form are joined again. Hangul syllables follow a rule;
other compositions come from a table.
-/

namespace WebSocket.NormalForm

def classTable : RangeTable := .ofLines DomainData.combiningClasses

def pairs : List (Char × Char × Char) :=
  (RangeTable.ofLines DomainData.compositions).entries.filterMap fun entry =>
    match (entry.value.splitOn '+').filterMap RangeTable.hex? with
    | [first, second] => some (Char.ofNat entry.first, Char.ofNat first, Char.ofNat second)
    | _ => none

def combiningClass (c : Char) : Nat :=
  if c.toNat < 0x300 then 0 else ((classTable.value? c).bind RangeTable.hex?).getD 0

-- ---------------------------------------------------------------------------
-- Decomposition
-- ---------------------------------------------------------------------------

def hangulBase : Nat := 0xAC00
def leadBase : Nat := 0x1100
def vowelBase : Nat := 0x1161
def tailBase : Nat := 0x11A7

def hangulLetters (c : Char) : List Char :=
  let index := c.toNat - hangulBase
  let tail := index % 28
  [Char.ofNat (leadBase + index / 588), Char.ofNat (vowelBase + index % 588 / 28)] ++
    if tail = 0 then [] else [Char.ofNat (tailBase + tail)]

def isHangulSyllable (c : Char) : Bool := hangulBase ≤ c.toNat && c.toNat < hangulBase + 11172

def decomposeTo : (depth : Nat) → Char → List Char
  | 0, c => [c]
  | depth + 1, c =>
    if isHangulSyllable c then hangulLetters c
    else match pairs.find? (·.1 == c) with
      | some (_, first, second) => decomposeTo depth first ++ [second]
      | none => [c]

/-- Decomposes fully: no pair nests more than three deep. -/
def decompose (c : Char) : List Char := if c.toNat < 128 then [c] else decomposeTo 4 c

-- ---------------------------------------------------------------------------
-- Order of marks
-- ---------------------------------------------------------------------------

def insertMark (mark : Char) : List Char → List Char
  | [] => [mark]
  | c :: cs =>
    if combiningClass c ≠ 0 ∧ combiningClass c < combiningClass mark then c :: insertMark mark cs
    else mark :: c :: cs

def order (text : List Char) : List Char :=
  text.foldr
    (fun c ordered => if combiningClass c = 0 then c :: ordered else insertMark c ordered) []

-- ---------------------------------------------------------------------------
-- Composition
-- ---------------------------------------------------------------------------

def composeHangul? (first second : Char) : Option Char :=
  let lead := first.toNat - leadBase
  let vowel := second.toNat - vowelBase
  let tail := second.toNat - tailBase
  if leadBase ≤ first.toNat ∧ lead < 19 ∧ vowelBase ≤ second.toNat ∧ vowel < 21 then
    some (Char.ofNat (hangulBase + (lead * 21 + vowel) * 28))
  else if isHangulSyllable first ∧ (first.toNat - hangulBase) % 28 = 0 ∧
      tailBase < second.toNat ∧ tail < 28 then
    some (Char.ofNat (first.toNat + tail))
  else none

/-- The composed form of a pair. No pair ends in an ASCII character. -/
def composePair? (first second : Char) : Option Char :=
  if second.toNat < 128 then none
  else (composeHangul? first second).or ((pairs.find? (·.2 == (first, second))).map (·.1))

/-- Composes behind a starting character. `marks` holds what could not be joined
to it, the last first. A character joins only if nothing between it and the
start has its class or a higher one. -/
def composeFrom (start : Char) (marks : List Char) : List Char → List Char
  | [] => start :: marks.reverse
  | c :: cs =>
    let blocked := match marks with
      | [] => false
      | last :: _ => combiningClass c ≤ combiningClass last
    match if blocked then none else composePair? start c with
    | some joined => composeFrom joined marks cs
    | none =>
      if combiningClass c = 0 then start :: marks.reverse ++ composeFrom c [] cs
      else composeFrom start (c :: marks) cs

def compose : List Char → List Char
  | [] => []
  | c :: cs => if combiningClass c = 0 then composeFrom c [] cs else c :: compose cs

def normalize (text : List Char) : List Char := compose (order (text.flatMap decompose))

end WebSocket.NormalForm
