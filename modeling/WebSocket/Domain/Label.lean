import WebSocket.Domain.Data.Direction
import WebSocket.Domain.Data.Joining
import WebSocket.Domain.NormalForm

/-!
# Labels of domain names

What a label has to keep in Unicode form: it starts with no combining mark, a
joiner stands only where it changes the shape of its neighbours, and in a
domain name with a right-to-left character every label runs in one direction.
-/

namespace WebSocket.DomainLabel

def markTable : RangeTable := .ofLines DomainData.marks

def joiningTable : RangeTable := .ofLines DomainData.joiningTypes

def directionTable : RangeTable := .ofLines DomainData.directions

-- ---------------------------------------------------------------------------
-- Joiners
-- ---------------------------------------------------------------------------

inductive Joining
  | left | right | dual | transparent | none
deriving DecidableEq, Repr

def joining (c : Char) : Joining :=
  match joiningTable.value? c with
  | some ['L'] => .left
  | some ['R'] => .right
  | some ['D'] => .dual
  | some ['T'] => .transparent
  | _ => .none

def zeroWidthNonJoiner : Char := '\u200c'

def zeroWidthJoiner : Char := '\u200d'

/-- The combining class of the signs that join consonants. -/
def viramaClass : Nat := 9

/-- Whether a joiner may stand between `before`, which is read backwards, and `after`. -/
def joinerFits (joiner : Char) (before after : List Char) : Bool :=
  let afterVirama := match before with
    | [] => false
    | c :: _ => NormalForm.combiningClass c == viramaClass
  let reaches (text : List Char) (side : Joining) :=
    match text.dropWhile (joining · == .transparent) with
    | [] => false
    | c :: _ => joining c == side || joining c == .dual
  afterVirama ||
    (joiner == zeroWidthNonJoiner && reaches before .left && reaches after .right)

def joinersFit (before : List Char) : List Char → Bool
  | [] => true
  | c :: cs =>
    (c != zeroWidthNonJoiner && c != zeroWidthJoiner || joinerFits c before cs) &&
      joinersFit (c :: before) cs

-- ---------------------------------------------------------------------------
-- Direction
-- ---------------------------------------------------------------------------

inductive Direction
  | leftToRight | rightToLeft | arabicLetter | arabicNumber | europeanNumber | europeanSeparator
  | commonSeparator | europeanTerminator | neutral | boundary | mark | other
deriving DecidableEq, Repr

def direction (c : Char) : Direction :=
  match (directionTable.value? c).map String.ofList with
  | none => .leftToRight
  | some "R" => .rightToLeft
  | some "AL" => .arabicLetter
  | some "AN" => .arabicNumber
  | some "EN" => .europeanNumber
  | some "ES" => .europeanSeparator
  | some "CS" => .commonSeparator
  | some "ET" => .europeanTerminator
  | some "ON" => .neutral
  | some "BN" => .boundary
  | some "NSM" => .mark
  | some _ => .other

def runsLeft (c : Char) : Bool :=
  c.toNat ≥ 128 &&
    (direction c == .rightToLeft || direction c == .arabicLetter || direction c == .arabicNumber)

def weak : List Direction :=
  [.europeanNumber, .europeanSeparator, .commonSeparator, .europeanTerminator, .neutral, .boundary,
    .mark]

def lastDirection (directions : List Direction) : Direction :=
  ((directions.reverse.dropWhile (· == .mark)).head?).getD .other

def oneWay (label : List Char) : Bool :=
  let directions := label.map direction
  match directions with
  | [] => true
  | .leftToRight :: _ =>
    directions.all (fun d => d == .leftToRight || weak.contains d) &&
      [.leftToRight, .europeanNumber].contains (lastDirection directions)
  | first :: _ =>
    (first == .rightToLeft || first == .arabicLetter) &&
      directions.all (fun d =>
        [.rightToLeft, .arabicLetter, .arabicNumber].contains d || weak.contains d) &&
      [.rightToLeft, .arabicLetter, .europeanNumber, .arabicNumber].contains
        (lastDirection directions) &&
      !(directions.contains .europeanNumber && directions.contains .arabicNumber)

def isWellFormed (label : List Char) : Bool :=
  (match label with
    | [] => true
    | c :: _ => !markTable.contains c) &&
  joinersFit [] label

end WebSocket.DomainLabel
