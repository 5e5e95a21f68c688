/-!
# Payload masking

A mask key is four bytes, repeated over the payload from its first byte on.
Masking is exclusive or with the repeated key, so it undoes itself
(`mask_mask`).
-/

namespace WebSocket

structure MaskKey where
  b0 : UInt8
  b1 : UInt8
  b2 : UInt8
  b3 : UInt8
deriving DecidableEq, Repr

namespace MaskKey

def toList (key : MaskKey) : List UInt8 := [key.b0, key.b1, key.b2, key.b3]

/-- The key in the first four of `bytes`; missing bytes count as zero. -/
def ofBytes (bytes : List UInt8) : MaskKey :=
  ⟨bytes.getD 0 0, bytes.getD 1 0, bytes.getD 2 0, bytes.getD 3 0⟩

def byte (key : MaskKey) (i : Nat) : UInt8 :=
  match i % 4 with
  | 0 => key.b0
  | 1 => key.b1
  | 2 => key.b2
  | _ => key.b3

def mask (key : MaskKey) (data : List UInt8) : List UInt8 :=
  data.mapIdx fun i b => b ^^^ key.byte i

@[simp] theorem ofBytes_toList (key : MaskKey) (rest : List UInt8) :
    ofBytes (key.toList ++ rest) = key := rfl

@[simp] theorem length_toList (key : MaskKey) : key.toList.length = 4 := rfl

@[simp] theorem length_mask (key : MaskKey) (data : List UInt8) :
    (key.mask data).length = data.length := by
  simp [mask]

theorem getElem?_mask (key : MaskKey) (data : List UInt8) (i : Nat) :
    (key.mask data)[i]? = data[i]?.map (· ^^^ key.byte i) := by
  simp [mask]

@[simp] theorem mask_mask (key : MaskKey) (data : List UInt8) :
    key.mask (key.mask data) = data := by
  apply List.ext_getElem?
  intro i
  rw [getElem?_mask, getElem?_mask]
  cases data[i]? with
  | none => rfl
  | some b =>
    simp only [Option.map_some, UInt8.xor_assoc, UInt8.xor_self, UInt8.xor_zero]

end MaskKey

/-- A supply of mask keys, and how many have been drawn from it. -/
structure KeySource where
  key : Nat → MaskKey
  drawn : Nat

namespace KeySource

def next (source : KeySource) : MaskKey := source.key source.drawn

def advance (source : KeySource) : KeySource := { source with drawn := source.drawn + 1 }

end KeySource

end WebSocket
