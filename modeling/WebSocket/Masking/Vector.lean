import WebSocket.Masking.Word

/-!
# Masking by vector registers

Registers of 16 or 32 bytes hold the key repeated over all lanes. Their width
is a multiple of four, so whole registers keep the key in phase and the tail
is left to the word kernel. The processor decides which kernel runs.
-/

namespace WebSocket

inductive Processor
  | x86 (avx2 : Bool)
  | arm64
  | generic
deriving DecidableEq, Repr

namespace MaskKey

/-- The key over the lanes of a register. -/
def lanes (key : MaskKey) (width : Nat) : List UInt8 :=
  (List.replicate (width / 4) key.toList).flatten

def maskRegisters (key : MaskKey) (width count : Nat) (data : List UInt8) : List UInt8 :=
  mapBlocks width (fun block => List.zipWith (· ^^^ ·) block (key.lanes width)) count data

def maskNarrow (key : MaskKey) (order : ByteOrder) (cut : Alignment)
    (data : List UInt8) : List UInt8 :=
  let count := data.length / 16
  key.maskRegisters 16 count data ++ key.maskWords order cut (data.drop (16 * count))

def maskWide (key : MaskKey) (order : ByteOrder) (cut : Alignment)
    (data : List UInt8) : List UInt8 :=
  let count := data.length / 32
  key.maskRegisters 32 count data ++ key.maskNarrow order cut (data.drop (32 * count))

/-- Masks with the widest kernel that the processor offers for this length. -/
def maskOn (key : MaskKey) (cpu : Processor) (order : ByteOrder) (cut : Alignment)
    (data : List UInt8) : List UInt8 :=
  match cpu with
  | .x86 avx2 =>
    if avx2 && decide (32 ≤ data.length) then key.maskWide order cut data
    else if 16 ≤ data.length then key.maskNarrow order cut data
    else key.maskWords order cut data
  | .arm64 =>
    if 16 ≤ data.length then key.maskNarrow order cut data
    else key.maskWords order cut data
  | .generic => key.maskWords order cut data

end MaskKey

end WebSocket
