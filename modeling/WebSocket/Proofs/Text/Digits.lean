import WebSocket.Text

/-!
# Numbers in digits

A number is written with digits of its base (`Ascii.mem_digits`) and read back from
them (`Ascii.number?_digits`).
-/

namespace WebSocket.Ascii

theorem digits_of_lt (hn : n < base) (hb : 1 < base) : digits base n = [Nat.digitChar n] := by
  rw [digits, Nat.toDigits_eq_if hb, if_pos hn]

theorem digits_of_le (hn : base ≤ n) (hb : 1 < base) :
    digits base n = digits base (n / base) ++ [Nat.digitChar (n % base)] := by
  rw [digits, Nat.toDigits_eq_if hb, if_neg (by omega)]
  rfl

theorem digits_induction {P : Nat → List Char → Prop} (hb : 1 < base)
    (small : ∀ d < base, P d [Nat.digitChar d])
    (more : ∀ n d, 0 < n → d < base → P n (digits base n) →
      P (n * base + d) (digits base n ++ [Nat.digitChar d])) (n : Nat) :
    P n (digits base n) := by
  induction n using Nat.strongRecOn with
  | ind n ih =>
    by_cases hn : n < base
    · rw [digits_of_lt hn hb]
      exact small n hn
    · rw [digits_of_le (by omega) hb]
      have hpos : 0 < n / base := Nat.div_pos (by omega) (by omega)
      have hlt : n / base < n := Nat.div_lt_self (by omega) hb
      have hstep := more (n / base) (n % base) hpos (Nat.mod_lt _ (by omega)) (ih _ hlt)
      rwa [Nat.mul_comm, Nat.div_add_mod] at hstep

theorem mem_digits (hb : 1 < base) (h : c ∈ digits base n) : ∃ d < base, c = Nat.digitChar d := by
  induction n using digits_induction hb with
  | small d hd => exact ⟨d, hd, List.mem_singleton.mp h⟩
  | more n d _ hd ih =>
    rcases List.mem_append.mp h with h | h
    · exact ih h
    · exact ⟨d, hd, List.mem_singleton.mp h⟩

theorem digits_ne_nil (hb : 1 < base) (n : Nat) : digits base n ≠ [] := by
  induction n using digits_induction hb with
  | small => simp
  | more => simp

theorem length_digits_le (hb : 1 < base) (h : (digits base (n / base)).length ≤ k) :
    (digits base n).length ≤ k + 1 := by
  by_cases hn : n < base
  · rw [digits_of_lt hn hb]
    exact Nat.le_add_left ..
  · rw [digits_of_le (by omega) hb, List.length_append, List.length_singleton]
    omega

theorem digit?_digitChar (hd : d < base) (hs : base ≤ 16) :
    digit? base (Nat.digitChar d) = some d :=
  (by decide : ∀ base < 17, ∀ d < base, digit? base (Nat.digitChar d) = some d) base (by omega) d hd

theorem digit?_lt (h : digit? base c = some d) : d < base := by
  simp only [digit?, Option.ite_none_right_eq_some, Option.some.injEq] at h
  obtain ⟨hlt, rfl⟩ := h
  exact hlt

theorem number?_concat (base : Nat) (text : List Char) (c : Char) :
    number? base (text ++ [c]) =
      (number? base text).bind fun n => (digit? base c).map (n * base + ·) := by
  simp [number?, List.foldlM_append]

theorem number?_digits (hb : 1 < base) (hs : base ≤ 16) (n : Nat) :
    number? base (digits base n) = some n := by
  induction n using digits_induction hb with
  | small d hd => simp [number?, digit?_digitChar hd hs]
  | more n d _ hd ih => simp [number?_concat, ih, digit?_digitChar hd hs]

theorem decimal_ne_nil (n : Nat) : decimal n ≠ [] := digits_ne_nil (by decide) n

theorem isDigit_of_mem_decimal (h : c ∈ decimal n) : isDigit c := by
  obtain ⟨d, hd, rfl⟩ := mem_digits (by decide) h
  exact (by decide : ∀ d < 10, isDigit (Nat.digitChar d)) d hd

theorem toNat_of_isDigit (h : isDigit c) : 48 ≤ c.toNat ∧ c.toNat ≤ 57 := by
  simp only [isDigit, Bool.and_eq_true, decide_eq_true_eq] at h
  exact h

theorem toNat_of_mem_decimal (h : c ∈ decimal n) : 48 ≤ c.toNat ∧ c.toNat ≤ 57 :=
  toNat_of_isDigit (isDigit_of_mem_decimal h)

end WebSocket.Ascii
