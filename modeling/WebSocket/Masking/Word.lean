import WebSocket.Bytes.BigEndian
import WebSocket.Masking.Key

/-!
# Masking by words

The payload is cut into a lead before the first aligned address, a run of
8-byte words and a tail. The words are masked with the key repeated over 64
bits, rotated by the length of the lead so that the key keeps its phase; the
tail continues with the first four bytes of the rotated word. Where the cuts
fall depends on the address of the payload, so it is a parameter.
-/

namespace WebSocket

inductive ByteOrder
  | little | big
deriving DecidableEq, Repr

namespace ByteOrder

def load : ByteOrder → List UInt8 → UInt64
  | .little, bytes => UInt64.ofNat (BigEndian.toNat bytes.reverse)
  | .big, bytes => UInt64.ofNat (BigEndian.toNat bytes)

def store : ByteOrder → UInt64 → List UInt8
  | .little, word => (BigEndian.ofNat 8 word.toNat).reverse
  | .big, word => BigEndian.ofNat 8 word.toNat

/-- Moves every byte of a word towards its first byte in memory by `count`
bits; what leaves at the front comes back at the end. -/
def rotate : ByteOrder → UInt64 → (count : UInt64) → UInt64
  | .little, word, count => word >>> count ||| word <<< (64 - count)
  | .big, word, count => word <<< count ||| word >>> (64 - count)

def repeated (order : ByteOrder) (key : MaskKey) : UInt64 :=
  let half := order.load key.toList
  half <<< 32 ||| half

end ByteOrder

def mapBlocks (width : Nat) (f : List UInt8 → List UInt8) : (count : Nat) → List UInt8 → List UInt8
  | 0, _ => []
  | count + 1, data => f (data.take width) ++ mapBlocks width f count (data.drop width)

/-- Where a payload is cut: `lead` bytes, then at most `words` words. -/
structure Alignment where
  lead : Nat
  words : Nat
deriving DecidableEq, Repr

def Alignment.atAddress (address length : Nat) : Alignment :=
  let lead := (8 - address % 8) % 8
  ⟨lead, (length - lead) / 8⟩

def MaskKey.maskWords (key : MaskKey) (order : ByteOrder) (cut : Alignment)
    (data : List UInt8) : List UInt8 :=
  let lead := data.take cut.lead
  let rest := data.drop cut.lead
  let count := min cut.words (rest.length / 8)
  let word := order.rotate (order.repeated key) (UInt64.ofNat (8 * (lead.length % 4)))
  key.mask lead ++
    mapBlocks 8 (fun block => order.store (order.load block ^^^ word)) count rest ++
    (MaskKey.ofBytes (order.store word)).mask (rest.drop (8 * count))

end WebSocket
