import WebSocket.Bytes.BigEndian

/-!
# SHA-1

The message is padded to blocks of 64 bytes. Each block is spread over a
schedule of 80 words, and 80 rounds mix it into a state of five words.
-/

namespace WebSocket.Sha1

structure State where
  a : UInt32
  b : UInt32
  c : UInt32
  d : UInt32
  e : UInt32
deriving DecidableEq, Repr

def initial : State := ⟨0x67452301, 0xEFCDAB89, 0x98BADCFE, 0x10325476, 0xC3D2E1F0⟩

def rotateLeft (word : UInt32) (count : UInt32) : UInt32 :=
  word <<< count ||| word >>> (32 - count)

def pad (message : List UInt8) : List UInt8 :=
  message ++ 0x80 :: List.replicate ((119 - message.length % 64) % 64) 0 ++
    BigEndian.ofNat 8 (8 * message.length)

def words : (count : Nat) → List UInt8 → List UInt32
  | 0, _ => []
  | count + 1, block => UInt32.ofNat (BigEndian.toNat (block.take 4)) :: words count (block.drop 4)

/-- Continues a schedule that is kept with its newest word first. -/
def extend : (count : Nat) → List UInt32 → List UInt32
  | 0, schedule => schedule
  | count + 1, schedule =>
    let word := rotateLeft (schedule.getD 2 0 ^^^ schedule.getD 7 0 ^^^ schedule.getD 13 0 ^^^
      schedule.getD 15 0) 1
    extend count (word :: schedule)

def schedule (block : List UInt8) : List UInt32 := (extend 64 (words 16 block).reverse).reverse

def mix (round : Nat) (s : State) : UInt32 × UInt32 :=
  if round < 20 then ((s.b &&& s.c) ||| (~~~s.b &&& s.d), 0x5A827999)
  else if round < 40 then (s.b ^^^ s.c ^^^ s.d, 0x6ED9EBA1)
  else if round < 60 then ((s.b &&& s.c) ||| (s.b &&& s.d) ||| (s.c &&& s.d), 0x8F1BBCDC)
  else (s.b ^^^ s.c ^^^ s.d, 0xCA62C1D6)

def step (s : State) (round : Nat) (word : UInt32) : State :=
  let (mixed, constant) := mix round s
  ⟨rotateLeft s.a 5 + mixed + s.e + constant + word, s.a, rotateLeft s.b 30, s.c, s.d⟩

def rounds (s : State) : (round : Nat) → List UInt32 → State
  | _, [] => s
  | round, word :: rest => rounds (step s round word) (round + 1) rest

def compress (s : State) (block : List UInt8) : State :=
  let t := rounds s 0 (schedule block)
  ⟨s.a + t.a, s.b + t.b, s.c + t.c, s.d + t.d, s.e + t.e⟩

def absorb (s : State) : (count : Nat) → List UInt8 → State
  | 0, _ => s
  | count + 1, bytes => absorb (compress s (bytes.take 64)) count (bytes.drop 64)

def State.toBytes (s : State) : List UInt8 :=
  [s.a, s.b, s.c, s.d, s.e].flatMap fun word => BigEndian.ofNat 4 word.toNat

def digest (message : List UInt8) : List UInt8 :=
  let padded := pad message
  (absorb initial (padded.length / 64) padded).toBytes

end WebSocket.Sha1
