import WebSocket.Masking.Word

/-!
# Words as eight bytes

A word is the eight bytes that are loaded into it, in either byte order
(`ByteOrder.store_load`). Seen this way, exclusive or works byte by byte
(`ByteOrder.store_xor`), the repeated key is its bytes twice, and a rotation by whole
bytes moves the front of the word behind its end (`ByteOrder.store_rotate`).
-/

namespace WebSocket

-- ---------------------------------------------------------------------------
-- Numbers
-- ---------------------------------------------------------------------------

namespace BigEndian

theorem bound_pos (width : Nat) : 0 < bound width := by
  induction width with
  | zero => simp [bound]
  | succ width ih => simp [bound, ih]

theorem bound_add (first second : Nat) :
    bound (first + second) = bound first * bound second := by
  induction first with
  | zero => simp [bound]
  | succ first ih => rw [Nat.succ_add, bound, bound, ih, Nat.mul_assoc]

theorem shiftLeft_bytes (n width : Nat) : n <<< (8 * width) = n * bound width := by
  induction width generalizing n with
  | zero => simp [bound]
  | succ width ih =>
    rw [Nat.mul_succ, Nat.shiftLeft_add, ih, Nat.shiftLeft_eq, bound, Nat.mul_comm 256,
      ← Nat.mul_assoc]

theorem shiftRight_bytes (n width : Nat) : n >>> (8 * width) = n / bound width := by
  induction width generalizing n with
  | zero => simp [bound]
  | succ width ih =>
    rw [Nat.mul_succ, Nat.add_comm, Nat.shiftRight_add, ih, Nat.shiftRight_eq_div_pow,
      Nat.div_div_eq_div_mul]
    rfl

theorem shiftLeft_or {b width : Nat} (h : b < bound width) (a : Nat) :
    a <<< (8 * width) ||| b = a * bound width + b := by
  have hb : bound width = 1 <<< (8 * width) := by rw [shiftLeft_bytes, Nat.one_mul]
  rw [hb, Nat.one_shiftLeft] at h
  rw [← Nat.shiftLeft_add_eq_or_of_lt h, shiftLeft_bytes]

theorem toNat_append (front back : List UInt8) :
    toNat (front ++ back) = toNat front * bound back.length + toNat back := by
  refine snoc_induction (p := fun back =>
    toNat (front ++ back) = toNat front * bound back.length + toNat back) ?_ ?_ back
  · simp [toNat, bound]
  · intro back b ih
    rw [← List.append_assoc, toNat_append_singleton, toNat_append_singleton, ih,
      List.length_append, bound_add]
    simp only [List.length_singleton, bound]
    rw [Nat.add_mul, Nat.mul_assoc, Nat.add_assoc]

theorem toNat_append_div (front back : List UInt8) :
    toNat (front ++ back) / bound back.length = toNat front := by
  rw [toNat_append, Nat.mul_comm, Nat.mul_add_div (bound_pos _),
    Nat.div_eq_of_lt (toNat_lt back), Nat.add_zero]

theorem toNat_append_mod (front back : List UInt8) :
    toNat (front ++ back) * bound front.length % bound (front.length + back.length) =
      toNat back * bound front.length := by
  have hlt : toNat back * bound front.length < bound (front.length + back.length) := by
    rw [Nat.add_comm, bound_add]
    exact Nat.mul_lt_mul_of_pos_right (toNat_lt back) (bound_pos _)
  have hsplit : toNat (front ++ back) * bound front.length =
      toNat back * bound front.length + bound (front.length + back.length) * toNat front := by
    rw [toNat_append, Nat.add_mul, Nat.mul_assoc, ← bound_add, Nat.add_comm back.length,
      Nat.mul_comm (toNat front), Nat.add_comm]
  rw [hsplit, Nat.add_mul_mod_self_left, Nat.mod_eq_of_lt hlt]

theorem ofNat_xor (width a b : Nat) :
    ofNat width (a ^^^ b) = List.zipWith (· ^^^ ·) (ofNat width a) (ofNat width b) := by
  induction width generalizing a b with
  | zero => rfl
  | succ width ih =>
    have hdiv : (a ^^^ b) / 256 = a / 256 ^^^ b / 256 := Nat.xor_div_two_pow (n := 8)
    rw [ofNat, ofNat, ofNat, hdiv, ih, UInt8.ofNat_xor, List.zipWith_append (by simp)]
    rfl

end BigEndian

-- ---------------------------------------------------------------------------
-- Loading and storing
-- ---------------------------------------------------------------------------

namespace ByteOrder

open BigEndian (bound)

variable {order : ByteOrder} {bytes front back : List UInt8}

def arrange : ByteOrder → List UInt8 → List UInt8
  | .little, bytes => bytes.reverse
  | .big, bytes => bytes

@[simp] theorem length_arrange (order : ByteOrder) (bytes : List UInt8) :
    (order.arrange bytes).length = bytes.length := by
  cases order <;> simp [arrange]

@[simp] theorem arrange_arrange (order : ByteOrder) (bytes : List UInt8) :
    order.arrange (order.arrange bytes) = bytes := by
  cases order <;> simp [arrange]

theorem load_eq (order : ByteOrder) (bytes : List UInt8) :
    order.load bytes = UInt64.ofNat (BigEndian.toNat (order.arrange bytes)) := by
  cases order <;> rfl

theorem store_eq (order : ByteOrder) (word : UInt64) :
    order.store word = order.arrange (BigEndian.ofNat 8 word.toNat) := by
  cases order <;> rfl

theorem toNat_load (order : ByteOrder) (h : bytes.length ≤ 8) :
    (order.load bytes).toNat = BigEndian.toNat (order.arrange bytes) := by
  have hlt := BigEndian.toNat_lt (order.arrange bytes)
  have hle : bound (order.arrange bytes).length ≤ bound 8 := by
    obtain ⟨more, hm⟩ := Nat.exists_eq_add_of_le h
    rw [length_arrange, hm, BigEndian.bound_add]
    exact Nat.le_mul_of_pos_right _ (BigEndian.bound_pos more)
  rw [load_eq, UInt64.toNat_ofNat_of_lt' (Nat.lt_of_lt_of_le hlt hle)]

theorem store_load (order : ByteOrder) (h : bytes.length = 8) :
    order.store (order.load bytes) = bytes := by
  have hbytes := BigEndian.ofNat_toNat (order.arrange bytes)
  rw [length_arrange, h] at hbytes
  rw [store_eq, toNat_load order (Nat.le_of_eq h), hbytes, arrange_arrange]

theorem store_xor (order : ByteOrder) (first second : UInt64) :
    order.store (first ^^^ second) =
      List.zipWith (· ^^^ ·) (order.store first) (order.store second) := by
  cases order with
  | big => rw [store, store, store, UInt64.toNat_xor, BigEndian.ofNat_xor]
  | little =>
    rw [store, store, store, UInt64.toNat_xor, BigEndian.ofNat_xor,
      List.reverse_zipWith (by simp)]

-- ---------------------------------------------------------------------------
-- Shifting by bytes
-- ---------------------------------------------------------------------------

section
variable {width : Nat}

theorem toNat_byteCount (h : width < 8) : (UInt64.ofNat (8 * width)).toNat % 64 = 8 * width := by
  have hs : 8 * width < UInt64.size := Nat.lt_trans (by omega : 8 * width < 64) (by decide)
  rw [UInt64.toNat_ofNat_of_lt' hs, Nat.mod_eq_of_lt (by omega)]

theorem toNat_shiftLeft_bytes (word : UInt64) (h : width < 8) :
    (word <<< UInt64.ofNat (8 * width)).toNat = word.toNat * bound width % bound 8 := by
  rw [UInt64.toNat_shiftLeft, toNat_byteCount h, BigEndian.shiftLeft_bytes]
  rfl

theorem toNat_shiftRight_bytes (word : UInt64) (h : width < 8) :
    (word >>> UInt64.ofNat (8 * width)).toNat = word.toNat / bound width := by
  rw [UInt64.toNat_shiftRight, toNat_byteCount h, BigEndian.shiftRight_bytes]

theorem sub_byteCount {first second : Nat} (h : first + second = 8) :
    64 - UInt64.ofNat (8 * first) = UInt64.ofNat (8 * second) := by
  have hs : second = 8 - first := by omega
  have hf : first ≤ 8 := by omega
  subst hs
  match first, hf with
  | 0, _ | 1, _ | 2, _ | 3, _ | 4, _ | 5, _ | 6, _ | 7, _ | 8, _ => rfl

end

theorem repeated_eq (order : ByteOrder) (key : MaskKey) :
    order.repeated key = order.load (key.toList ++ key.toList) := by
  have harrange : order.arrange (key.toList ++ key.toList) =
      order.arrange key.toList ++ order.arrange key.toList := by
    cases order <;> simp [arrange]
  have hlt := BigEndian.toNat_lt (order.arrange key.toList)
  rw [length_arrange, MaskKey.length_toList] at hlt
  have hkey : key.toList.length ≤ 8 := by simp
  have hhalf := toNat_load order hkey
  have hfits : BigEndian.toNat (order.arrange key.toList) * bound 4 < bound 8 := by
    rw [BigEndian.bound_add 4 4]
    exact Nat.mul_lt_mul_of_pos_right hlt (BigEndian.bound_pos 4)
  have hshift : (order.load key.toList <<< 32).toNat =
      BigEndian.toNat (order.arrange key.toList) * bound 4 := by
    have h := toNat_shiftLeft_bytes (order.load key.toList) (show 4 < 8 by decide)
    rwa [hhalf, Nat.mod_eq_of_lt hfits] at h
  apply UInt64.toNat_inj.mp
  rw [toNat_load order (by simp), harrange, BigEndian.toNat_append, length_arrange,
    MaskKey.length_toList, ← BigEndian.shiftLeft_or hlt, BigEndian.shiftLeft_bytes, repeated,
    UInt64.toNat_or, hshift, hhalf]

/-- A shift count is taken modulo the 64 bits of a word. -/
theorem shiftLeft_whole (word : UInt64) : word <<< 64 = word := by
  apply UInt64.toNat_inj.mp
  rw [UInt64.toNat_shiftLeft]
  exact Nat.mod_eq_of_lt word.toNat_lt

theorem shiftRight_whole (word : UInt64) : word >>> 64 = word := by
  apply UInt64.toNat_inj.mp
  rw [UInt64.toNat_shiftRight]
  rfl

theorem rotate_big (h : front.length + back.length = 8) :
    big.rotate (big.load (front ++ back)) (UInt64.ofNat (8 * front.length)) =
      big.load (back ++ front) := by
  rw [rotate, sub_byteCount h]
  by_cases hcut : front.length < 8 ∧ back.length < 8
  · have hload : (big.load (front ++ back)).toNat = BigEndian.toNat (front ++ back) :=
      toNat_load big (by simp; omega)
    have hmoved : (big.load (back ++ front)).toNat = BigEndian.toNat (back ++ front) :=
      toNat_load big (by simp; omega)
    have hmod := BigEndian.toNat_append_mod front back
    rw [h] at hmod
    apply UInt64.toNat_inj.mp
    rw [UInt64.toNat_or, toNat_shiftLeft_bytes _ hcut.1, toNat_shiftRight_bytes _ hcut.2, hload,
      hmoved, hmod, BigEndian.toNat_append_div, ← BigEndian.shiftLeft_bytes,
      BigEndian.shiftLeft_or (BigEndian.toNat_lt front), BigEndian.toNat_append]
  · -- no byte is moved, or all of them are
    have hnil : front = [] ∨ back = [] := by
      rw [← List.length_eq_zero_iff, ← List.length_eq_zero_iff]
      omega
    obtain rfl | rfl := hnil
    · have hb : back.length = 8 := by simpa using h
      simp [hb, shiftRight_whole]
    · have hf : front.length = 8 := by simpa using h
      simp [hf, shiftLeft_whole]

theorem rotate_little (word : UInt64) {first second : Nat} (h : first + second = 8) :
    little.rotate word (UInt64.ofNat (8 * first)) =
      big.rotate word (UInt64.ofNat (8 * second)) := by
  rw [rotate, rotate, sub_byteCount h, sub_byteCount ((Nat.add_comm ..).trans h), UInt64.or_comm]

/-- Rotating a word by whole bytes moves its first bytes in memory behind the others. -/
theorem store_rotate (order : ByteOrder) (h : front.length + back.length = 8) :
    order.store (order.rotate (order.load (front ++ back)) (UInt64.ofNat (8 * front.length))) =
      back ++ front := by
  have hback : (back ++ front).length = 8 := by simp; omega
  have hrotate : order.rotate (order.load (front ++ back)) (UInt64.ofNat (8 * front.length)) =
      order.load (back ++ front) := by
    cases order with
    | big => exact rotate_big h
    | little =>
      have hload (first second : List UInt8) : little.load (first ++ second) =
          big.load (second.reverse ++ first.reverse) := by
        simp [load]
      have hlength : back.reverse.length + front.reverse.length = 8 := by
        simp
        omega
      have hr := rotate_big hlength
      rw [List.length_reverse] at hr
      rw [rotate_little _ h, hload, hload, hr]
  rw [hrotate, store_load order hback]

end ByteOrder

end WebSocket
