import WebSocket.Bytes.BigEndian
import WebSocket.Text

/-!
# IPv4 addresses

A host whose last label is a number is an IPv4 address: up to four numbers,
decimal, octal after `0` or hexadecimal after `0x`, the last of which fills all
the bytes that are left. One final dot is ignored.
-/

namespace WebSocket.IPv4

/-- The labels of a host, without the empty one after a final dot. -/
def labels (host : List Char) : List (List Char) :=
  let all := host.splitOn '.'
  if all.getLast? = some [] then all.dropLast else all

/-- The value of a label; a prefix with no digits behind it counts as zero. -/
def number? (label : List Char) : Option Nat :=
  match label with
  | [] => none
  | '0' :: 'x' :: digits => Ascii.number? 16 digits
  | '0' :: 'X' :: digits => Ascii.number? 16 digits
  | '0' :: digit :: digits => Ascii.number? 8 (digit :: digits)
  | digits => Ascii.number? 10 digits

/-- Whether a host has to be an IPv4 address. -/
def endsInNumber (host : List Char) : Bool :=
  match (labels host).getLast? with
  | none => false
  | some last => !last.isEmpty && (last.all Ascii.isDigit || (number? last).isSome)

def combine? (numbers : List Nat) : Option Nat :=
  match numbers.reverse with
  | [] => none
  | last :: front =>
    if 3 < front.length then none
    else if front.any (255 < ·) then none
    else
      let rest := BigEndian.bound (4 - front.length)
      if rest ≤ last then none
      else some (front.reverse.foldl (fun n byte => n * 256 + byte) 0 * rest + last)

def parse? (host : List Char) : Option Nat := ((labels host).mapM number?).bind combine?

def text (address : Nat) : List Char :=
  Ascii.decimal (address / 16777216 % 256) ++ '.' :: Ascii.decimal (address / 65536 % 256) ++
    '.' :: Ascii.decimal (address / 256 % 256) ++ '.' :: Ascii.decimal (address % 256)

end WebSocket.IPv4
