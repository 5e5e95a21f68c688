/-!
# Big-endian numbers

Network byte order: the most significant byte comes first. `ofNat` writes the
low `8 * width` bits of a number, `toNat` reads any number of bytes, and the
two undo each other (`toNat_ofNat`, `ofNat_toNat`).
-/

namespace WebSocket.BigEndian

def toNat (bytes : List UInt8) : Nat :=
  bytes.foldl (fun n b => n * 256 + b.toNat) 0

def ofNat : (width : Nat) → Nat → List UInt8
  | 0, _ => []
  | width + 1, n => ofNat width (n / 256) ++ [UInt8.ofNat n]

/-- The numbers below `bound width` are those that fit into `width` bytes. -/
def bound : (width : Nat) → Nat
  | 0 => 1
  | width + 1 => 256 * bound width

@[simp] theorem toNat_append_singleton (bytes : List UInt8) (b : UInt8) :
    toNat (bytes ++ [b]) = toNat bytes * 256 + b.toNat := by
  simp [toNat]

@[simp] theorem length_ofNat (width n : Nat) : (ofNat width n).length = width := by
  induction width generalizing n with
  | zero => rfl
  | succ width ih => simp [ofNat, ih]

theorem toNat_ofNat (width n : Nat) : toNat (ofNat width n) = n % bound width := by
  induction width generalizing n with
  | zero => simp [ofNat, toNat, bound, Nat.mod_one]
  | succ width ih =>
    simp only [ofNat, toNat_append_singleton, ih, UInt8.toNat_ofNat']
    rw [bound, Nat.mod_mul]
    omega

theorem snoc_induction {p : List UInt8 → Prop} (nil : p [])
    (snoc : ∀ bytes b, p bytes → p (bytes ++ [b])) (bytes : List UInt8) : p bytes := by
  rw [← List.reverse_reverse bytes]
  induction bytes.reverse with
  | nil => exact nil
  | cons b bytes ih => simpa using snoc _ b ih

theorem toNat_lt (bytes : List UInt8) : toNat bytes < bound bytes.length := by
  refine snoc_induction (p := fun bytes => toNat bytes < bound bytes.length)
    (by simp [toNat, bound]) ?_ bytes
  intro bytes b ih
  have hb := b.toNat_lt
  rw [toNat_append_singleton, List.length_append, List.length_singleton, bound]
  omega

theorem ofNat_toNat (bytes : List UInt8) : ofNat bytes.length (toNat bytes) = bytes := by
  refine snoc_induction (p := fun bytes => ofNat bytes.length (toNat bytes) = bytes)
    rfl ?_ bytes
  intro bytes b ih
  have hb := b.toNat_lt
  rw [List.length_append, List.length_singleton, ofNat, toNat_append_singleton,
    show (toNat bytes * 256 + b.toNat) / 256 = toNat bytes by omega, ih]
  congr 2
  apply UInt8.toNat_inj.mp
  rw [UInt8.toNat_ofNat']
  omega

end WebSocket.BigEndian
