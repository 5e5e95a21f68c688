import WebSocket.Text

/-!
# Percent-encoding

An escaped character is written as the bytes of its UTF-8 form, each as a
percent sign and two upper-case hexadecimal digits. Each part of an address has
its own set of characters to escape.
-/

namespace WebSocket.Percent

def hexDigit (n : Nat) : Char := if n < 10 then Char.ofNat (48 + n) else Char.ofNat (55 + n)

def escapeByte (b : UInt8) : List Char := ['%', hexDigit (b.toNat / 16), hexDigit (b.toNat % 16)]

def encode (escaped : Char → Bool) (text : List Char) : List Char :=
  text.flatMap fun c => if escaped c then (Utf8.encode c.toString).flatMap escapeByte else [c]

def isControl (c : Char) : Bool := c.toNat < 0x20 || 0x7F ≤ c.toNat

def inPath (c : Char) : Bool :=
  isControl c || c == ' ' || c == '"' || c == '#' || c == '<' || c == '>' || c == '?' ||
    c == '\x60' || c == '\x7b' || c == '\x7d'

def inQuery (c : Char) : Bool :=
  isControl c || c == ' ' || c == '"' || c == '#' || c == '<' || c == '>' || c == '\''

private def hexValue? (b : UInt8) : Option Nat := Ascii.digit? 16 (Char.ofNat b.toNat)

/-- Replaces every percent sign that two hexadecimal digits follow; any other
percent sign stays. -/
def decode : List UInt8 → List UInt8
  | [] => []
  | b :: rest =>
    match rest with
    | high :: low :: tail =>
      match if b = 0x25 then hexValue? high else none, hexValue? low with
      | some high, some low => UInt8.ofNat (16 * high + low) :: decode tail
      | _, _ => b :: decode (high :: low :: tail)
    | rest => b :: decode rest

end WebSocket.Percent
