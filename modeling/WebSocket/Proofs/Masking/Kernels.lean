import WebSocket.Masking.Vector
import WebSocket.Proofs.Masking.Words

/-!
# All ways of masking agree

Words and registers mask whole blocks with the key repeated over them. A block of a
multiple of four bytes keeps the key in phase, so blocks mask as single bytes do
(`mapBlocks_eq`), and the rotation of the word makes up for a lead of any length
(`maskWords_eq`). Every kernel is the masking byte by byte, and any two of them undo
each other (`kernels_agree`).
-/

namespace WebSocket

namespace MaskKey

variable {key : MaskKey} {data : List UInt8}

-- ---------------------------------------------------------------------------
-- The phase of the key
-- ---------------------------------------------------------------------------

/-- The key that meets the payload from byte `phase` on. -/
def shift (key : MaskKey) (phase : Nat) : MaskKey :=
  ⟨key.byte phase, key.byte (phase + 1), key.byte (phase + 2), key.byte (phase + 3)⟩

theorem byte_congr {i j : Nat} (h : i % 4 = j % 4) : key.byte i = key.byte j := by
  unfold byte
  rw [h]

theorem byte_shift (key : MaskKey) (phase i : Nat) :
    (key.shift phase).byte i = key.byte (phase + i) := by
  have hi : i % 4 < 4 := Nat.mod_lt _ (by decide)
  have hb : (key.shift phase).byte i = key.byte (phase + i % 4) := by
    unfold byte shift
    generalize i % 4 = m at hi
    match m, hi with
    | 0, _ | 1, _ | 2, _ | 3, _ => rfl
  rw [hb]
  exact byte_congr (by omega)

theorem shift_congr {phase phase' : Nat} (h : phase % 4 = phase' % 4) :
    key.shift phase = key.shift phase' := by
  have hb (i : Nat) : key.byte (phase + i) = key.byte (phase' + i) := byte_congr (by omega)
  simp [shift, hb 1, hb 2, hb 3, byte_congr h]

theorem shift_of_mod {phase : Nat} (h : phase % 4 = 0) : key.shift phase = key :=
  shift_congr (h.trans (Nat.zero_mod 4).symm)

theorem mask_append (key : MaskKey) (front back : List UInt8) :
    key.mask (front ++ back) = key.mask front ++ (key.shift front.length).mask back := by
  simp [mask, List.mapIdx_append, byte_shift, Nat.add_comm]

theorem mask_append_of_mod {front : List UInt8} (h : front.length % 4 = 0) (back : List UInt8) :
    key.mask (front ++ back) = key.mask front ++ key.mask back := by
  rw [mask_append, shift_of_mod h]

-- ---------------------------------------------------------------------------
-- Blocks
-- ---------------------------------------------------------------------------

theorem zipWith_repeated {n : Nat} (h : data.length = 4 * n) :
    List.zipWith (· ^^^ ·) data (List.replicate n key.toList).flatten = key.mask data := by
  induction n generalizing data with
  | zero =>
    obtain rfl : data = [] := by simpa using h
    rfl
  | succ n ih =>
    match data, h with
    | a :: b :: c :: d :: rest, h =>
      have hrest : rest.length = 4 * n := by
        simp at h
        omega
      have hfront : [a, b, c, d].length % 4 = 0 := by simp
      have hmask : key.mask (a :: b :: c :: d :: rest) = key.mask [a, b, c, d] ++ key.mask rest :=
        mask_append_of_mod hfront rest
      rw [hmask, ← ih hrest]
      rfl

theorem mapBlocks_eq {width count : Nat} {f : List UInt8 → List UInt8}
    (hf : ∀ block, block.length = width → f block = key.mask block) (hw : width % 4 = 0)
    (h : width * count ≤ data.length) :
    mapBlocks width f count data = key.mask (data.take (width * count)) := by
  induction count generalizing data with
  | zero => simp [mapBlocks, mask]
  | succ count ih =>
    rw [Nat.mul_succ] at h ⊢
    have hblock : (data.take width).length = width := by
      simp
      omega
    have hrest : width * count ≤ (data.drop width).length := by
      simp
      omega
    rw [mapBlocks, hf _ hblock, ih hrest, ← mask_append_of_mod (by rw [hblock, hw]),
      Nat.add_comm, List.take_add]

theorem maskRegisters_eq {width count : Nat} (hw : width % 4 = 0)
    (h : width * count ≤ data.length) :
    key.maskRegisters width count data = key.mask (data.take (width * count)) := by
  refine mapBlocks_eq ?_ hw h
  intro block hb
  exact zipWith_repeated (by omega)

-- ---------------------------------------------------------------------------
-- Words
-- ---------------------------------------------------------------------------

open ByteOrder (store_load store_xor store_rotate repeated_eq)

theorem store_rotated (key : MaskKey) (order : ByteOrder) (phase : Nat) :
    order.store (order.rotate (order.repeated key) (UInt64.ofNat (8 * (phase % 4)))) =
      (key.shift phase).toList ++ (key.shift phase).toList := by
  have hphase : phase % 4 < 4 := Nat.mod_lt _ (by decide)
  have hshift : key.shift (phase % 4) = key.shift phase := shift_congr (Nat.mod_mod phase 4)
  rw [← hshift]
  generalize phase % 4 = n at hphase
  have hlength : ((key.toList ++ key.toList).take n).length +
      ((key.toList ++ key.toList).drop n).length = 8 := by
    simp
    omega
  have hr := store_rotate order hlength
  rw [List.take_append_drop, ← repeated_eq, List.length_take,
    Nat.min_eq_left (by simp; omega)] at hr
  rw [hr]
  match n, hphase with
  | 0, _ | 1, _ | 2, _ | 3, _ => rfl

theorem maskWords_eq (key : MaskKey) (order : ByteOrder) (cut : Alignment)
    (data : List UInt8) : key.maskWords order cut data = key.mask data := by
  unfold maskWords
  extract_lets lead rest count word
  have hword : order.store word = (key.shift lead.length).toList ++
      (key.shift lead.length).toList := store_rotated key order lead.length
  have hblock (block : List UInt8) (hb : block.length = 8) :
      order.store (order.load block ^^^ word) = (key.shift lead.length).mask block := by
    rw [store_xor, store_load order hb, hword]
    exact zipWith_repeated (n := 2) hb
  have hcount : 8 * count ≤ rest.length := by omega
  have htaken : (rest.take (8 * count)).length % 4 = 0 := by
    simp
    omega
  rw [mapBlocks_eq hblock rfl hcount, hword, ofBytes_toList, List.append_assoc,
    ← mask_append_of_mod htaken, List.take_append_drop, ← mask_append, List.take_append_drop]

-- ---------------------------------------------------------------------------
-- Registers
-- ---------------------------------------------------------------------------

theorem maskRegisters_append {width count : Nat} (hw : width % 4 = 0)
    (h : width * count ≤ data.length) :
    key.maskRegisters width count data ++ key.mask (data.drop (width * count)) =
      key.mask data := by
  have htaken : (data.take (width * count)).length % 4 = 0 := by
    rw [List.length_take, Nat.min_eq_left h, Nat.mul_mod, hw, Nat.zero_mul]
  rw [maskRegisters_eq hw h, ← mask_append_of_mod htaken, List.take_append_drop]

theorem maskNarrow_eq (key : MaskKey) (order : ByteOrder) (cut : Alignment)
    (data : List UInt8) : key.maskNarrow order cut data = key.mask data := by
  rw [maskNarrow, maskWords_eq]
  exact maskRegisters_append rfl (Nat.mul_div_le ..)

theorem maskWide_eq (key : MaskKey) (order : ByteOrder) (cut : Alignment)
    (data : List UInt8) : key.maskWide order cut data = key.mask data := by
  rw [maskWide, maskNarrow_eq]
  exact maskRegisters_append rfl (Nat.mul_div_le ..)

theorem maskOn_eq (key : MaskKey) (cpu : Processor) (order : ByteOrder) (cut : Alignment)
    (data : List UInt8) : key.maskOn cpu order cut data = key.mask data := by
  cases cpu with
  | x86 avx2 => simp [maskOn, maskWide_eq, maskNarrow_eq, maskWords_eq]
  | arm64 => simp [maskOn, maskNarrow_eq, maskWords_eq]
  | generic => exact maskWords_eq key order cut data

-- ---------------------------------------------------------------------------
-- Any two kernels
-- ---------------------------------------------------------------------------

/-- A way of masking: byte by byte, by words, by registers of either width, or as a
processor selects. -/
inductive Kernel
  | bytes
  | words (order : ByteOrder) (cut : Alignment)
  | narrow (order : ByteOrder) (cut : Alignment)
  | wide (order : ByteOrder) (cut : Alignment)
  | selected (cpu : Processor) (order : ByteOrder) (cut : Alignment)
deriving DecidableEq, Repr

def Kernel.apply (key : MaskKey) : Kernel → List UInt8 → List UInt8
  | .bytes => key.mask
  | .words order cut => key.maskWords order cut
  | .narrow order cut => key.maskNarrow order cut
  | .wide order cut => key.maskWide order cut
  | .selected cpu order cut => key.maskOn cpu order cut

theorem Kernel.apply_eq (key : MaskKey) (kernel : Kernel) : kernel.apply key = key.mask := by
  funext data
  cases kernel with
  | bytes => rfl
  | words order cut => exact maskWords_eq key order cut data
  | narrow order cut => exact maskNarrow_eq key order cut data
  | wide order cut => exact maskWide_eq key order cut data
  | selected cpu order cut => exact maskOn_eq key cpu order cut data

/-- However a payload is cut into words and whatever the processor offers, it is masked
as byte by byte, and any two kernels with one key restore it. -/
theorem kernels_agree (key : MaskKey) (data : List UInt8) :
    (∀ order cut, key.maskWords order cut data = key.mask data) ∧
      (∀ cpu order cut, key.maskOn cpu order cut data = key.mask data) ∧
      ∀ first second : Kernel, second.apply key (first.apply key data) = data := by
  refine ⟨fun order cut => maskWords_eq key order cut data,
    fun cpu order cut => maskOn_eq key cpu order cut data, ?_⟩
  intro first second
  rw [Kernel.apply_eq, Kernel.apply_eq, mask_mask]

end MaskKey

end WebSocket
