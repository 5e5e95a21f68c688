import WebSocket.Upgrade.Scan

/-!
# Response heads

The head of an HTTP/1 response: blank lines before it are skipped, the status
line has one space before the status and perhaps a reason after it, and the
header lines end with an empty line. Header lines are never folded. The reader
has a fixed number of slots for header lines and refuses a line that finds no
slot left.
-/

namespace WebSocket

structure HeaderLine where
  name : List UInt8
  value : List UInt8
deriving DecidableEq, Repr

structure ResponseHead where
  /-- The `x` of `HTTP/1.x`. -/
  minorVersion : Nat
  status : Nat
  headers : List HeaderLine
deriving DecidableEq, Repr

/-- Reads a response head from left to right, with so many slots for header lines. -/
abbrev HeadReader := (slots : Nat) → List UInt8 → Scan ResponseHead

namespace ResponseHead

-- ---------------------------------------------------------------------------
-- Classes of bytes
-- ---------------------------------------------------------------------------

def isDigitByte (b : UInt8) : Bool := 0x30 ≤ b && b ≤ 0x39

def isLetterByte (b : UInt8) : Bool := (0x41 ≤ b && b ≤ 0x5A) || (0x61 ≤ b && b ≤ 0x7A)

def isTokenByte (b : UInt8) : Bool :=
  isLetterByte b || isDigitByte b ||
    [0x21, 0x23, 0x24, 0x25, 0x26, 0x27, 0x2A, 0x2B, 0x2D, 0x2E, 0x5E, 0x5F, 0x60, 0x7C,
      0x7E].contains b

/-- The bytes of a header value and of a reason: no control except the tab. -/
def isTextByte (b : UInt8) : Bool := b == 0x09 || (0x20 ≤ b && b != 0x7F)

def isSpaceByte (b : UInt8) : Bool := b == 0x20 || b == 0x09

def digit (b : UInt8) : Option Nat :=
  if isDigitByte b then some (b.toNat - 0x30) else none

-- ---------------------------------------------------------------------------
-- The status line
-- ---------------------------------------------------------------------------

def scanVersion (bytes : List UInt8) : Scan Nat :=
  (Scan.literal [0x48, 0x54, 0x54, 0x50, 0x2F, 0x31, 0x2E] bytes).andThen fun _ rest =>
    Scan.byte (fun b => if b = 0x30 then some 0 else if b = 0x31 then some 1 else none) rest

def scanStatus (bytes : List UInt8) : Scan Nat :=
  (Scan.byte digit bytes).andThen fun hundreds rest =>
    (Scan.byte digit rest).andThen fun tens rest =>
      (Scan.byte digit rest).map fun ones => 100 * hundreds + 10 * tens + ones

def scanReason : List UInt8 → Scan Unit
  | [] => .more
  | b :: bytes =>
    if b = 0x20 then Scan.lineEnd (bytes.dropWhile isTextByte) else Scan.lineEnd (b :: bytes)

-- ---------------------------------------------------------------------------
-- Header lines
-- ---------------------------------------------------------------------------

def trimSpaces (value : List UInt8) : List UInt8 :=
  ((value.dropWhile isSpaceByte).reverse.dropWhile isSpaceByte).reverse

def scanHeaderLine (bytes : List UInt8) : Scan HeaderLine :=
  let name := bytes.takeWhile isTokenByte
  match bytes.dropWhile isTokenByte with
  | [] => .more
  | b :: rest =>
    if b = 0x3A ∧ name ≠ [] then
      (Scan.lineEnd (rest.dropWhile isTextByte)).map fun _ =>
        ⟨name, trimSpaces (rest.takeWhile isTextByte)⟩
    else .bad

def scanHeaderLines (slots : Nat) (bytes : List UInt8) : Scan (List HeaderLine) :=
  match bytes with
  | [] => .more
  | b :: rest =>
    if b = 0x0A ∨ b = 0x0D then (Scan.lineEnd (b :: rest)).map fun _ => []
    else
      (scanHeaderLine (b :: rest)).andThen fun header rest =>
        match slots with
        | 0 => .bad
        | slots + 1 => (scanHeaderLines slots rest).map (header :: ·)

def scan : HeadReader := fun slots bytes =>
  (Scan.skipBlankLines bytes).andThen fun _ rest =>
    (scanVersion rest).andThen fun minorVersion rest =>
      (Scan.literal [0x20] rest).andThen fun _ rest =>
        (scanStatus rest).andThen fun status rest =>
          (scanReason rest).andThen fun _ rest =>
            (scanHeaderLines slots rest).map fun headers => ⟨minorVersion, status, headers⟩

end ResponseHead

end WebSocket
