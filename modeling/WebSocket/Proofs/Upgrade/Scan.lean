import WebSocket.Upgrade.Scan

/-!
# Scans that read from left to right

A scan is `Orderly` if its verdict does not change under extension and it has
looked at nothing behind its end. A scan that ends in front of a byte of another
kind has looked at that byte (`Peeks`). Both kinds can be put one after the other.
-/

namespace WebSocket.Scan

variable {α β : Type}

/-- A scan that reads from left to right, and nothing behind its end. -/
structure Orderly (scan : List UInt8 → Scan α) : Prop where
  stable : Stable scan
  exact : ∀ {bytes value rest}, scan bytes = .done value rest →
    ∃ front, bytes = front ++ rest ∧ scan front = .done value []

/-- A scan that reads from left to right, up to the byte behind its end. -/
structure Peeks (scan : List UInt8 → Scan α) : Prop where
  stable : Stable scan
  exact : ∀ {bytes value rest}, scan bytes = .done value rest →
    ∃ front, bytes = front ++ rest ∧
      ∀ more, more ≠ [] → more <+: rest → scan (front ++ more) = .done value more

-- ---------------------------------------------------------------------------
-- One after the other
-- ---------------------------------------------------------------------------

section
variable {f scan : List UInt8 → Scan α} {g : α → List UInt8 → Scan β}

theorem Stable.done (h : Stable scan) {bytes rest : List UInt8} {value : α}
    (hd : scan bytes = .done value rest) (tail : List UInt8) :
    scan (bytes ++ tail) = .done value (rest ++ tail) := by
  rw [h bytes tail (by rw [hd]; nofun), hd]
  rfl

theorem Stable.andThen (hf : Stable f) (hg : ∀ value, Stable (g value)) :
    Stable fun bytes => (f bytes).andThen g := by
  intro bytes tail h
  dsimp only at h ⊢
  cases hb : f bytes with
  | more =>
    rw [hb] at h
    exact absurd rfl h
  | bad =>
    rw [hf bytes tail (by rw [hb]; nofun), hb]
    rfl
  | done value rest =>
    rw [hb] at h
    rw [hf.done hb]
    exact hg value rest tail h

theorem done_of_andThen {s : Scan α} {value : β} {rest : List UInt8}
    (h : s.andThen g = .done value rest) :
    ∃ first middle, s = .done first middle ∧ g first middle = .done value rest := by
  cases s with
  | more | bad => cases h
  | done first middle => exact ⟨first, middle, rfl, h⟩

theorem andThen_congr {s : Scan α} {g' : α → List UInt8 → Scan β}
    (h : ∀ value rest, s = .done value rest → g value rest = g' value rest) :
    s.andThen g = s.andThen g' := by
  cases s with
  | more | bad => rfl
  | done value rest => exact h value rest rfl

theorem Peeks.suffix (h : Peeks scan) {bytes rest : List UInt8} {value : α}
    (hd : scan bytes = .done value rest) : rest <:+ bytes := by
  obtain ⟨front, rfl, -⟩ := h.exact hd
  exact List.suffix_append ..

namespace Orderly

theorem suffix (h : Orderly scan) {bytes rest : List UInt8} {value : α}
    (hd : scan bytes = .done value rest) : rest <:+ bytes := by
  obtain ⟨front, rfl, -⟩ := h.exact hd
  exact List.suffix_append ..

theorem done (value : α) : Orderly (Scan.done value) where
  stable _ _ _ := rfl
  exact h := by
    cases h
    exact ⟨[], rfl, rfl⟩

theorem bad : Orderly fun _ => (Scan.bad : Scan α) where
  stable _ _ _ := rfl
  exact h := by cases h

theorem andThen (hf : Orderly f) (hg : ∀ value, Orderly (g value)) :
    Orderly fun bytes => (f bytes).andThen g where
  stable := hf.stable.andThen fun value => (hg value).stable
  exact {bytes value rest} h := by
    obtain ⟨first, middle, hfirst, hsecond⟩ := done_of_andThen h
    obtain ⟨front, rfl, hfront⟩ := hf.exact hfirst
    obtain ⟨back, rfl, hback⟩ := (hg first).exact hsecond
    refine ⟨front ++ back, (List.append_assoc ..).symm, ?_⟩
    rw [hf.stable.done hfront]
    exact hback

theorem map (h : Orderly scan) (f : α → β) : Orderly fun bytes => (scan bytes).map f :=
  h.andThen fun value => .done (f value)

theorem of_cons (hn : scan [] = .more) (hc : ∀ b, Orderly fun bytes => scan (b :: bytes)) :
    Orderly scan where
  stable bytes tail h := by
    cases bytes with
    | nil => exact absurd hn h
    | cons b bytes => exact (hc b).stable bytes tail h
  exact {bytes value rest} h := by
    cases bytes with
    | nil => cases hn.symm.trans h
    | cons b bytes =>
      obtain ⟨front, rfl, hfront⟩ := (hc b).exact h
      exact ⟨b :: front, rfl, hfront⟩

theorem after (h : Orderly scan) (hn : scan [] = .more) (b : UInt8) :
    Orderly fun bytes => scan (b :: bytes) where
  stable bytes tail := h.stable (b :: bytes) tail
  exact {bytes value rest} hd := by
    obtain ⟨front, he, hfront⟩ := h.exact hd
    cases front with
    | nil => cases hn.symm.trans hfront
    | cons c front =>
      obtain ⟨rfl, rfl⟩ := List.cons.inj he
      exact ⟨front, rfl, hfront⟩

end Orderly

/-- A scan that waits for a byte makes good for one that has peeked at it. -/
theorem Peeks.andThen (hf : Peeks f) (hg : ∀ value, Orderly (g value))
    (hn : ∀ value, g value [] = .more) : Orderly fun bytes => (f bytes).andThen g where
  stable := hf.stable.andThen fun value => (hg value).stable
  exact {bytes value rest} h := by
    obtain ⟨first, middle, hfirst, hsecond⟩ := done_of_andThen h
    obtain ⟨front, rfl, hfront⟩ := hf.exact hfirst
    obtain ⟨back, rfl, hback⟩ := (hg first).exact hsecond
    have hne : back ≠ [] := by
      rintro rfl
      cases (hn first).symm.trans hback
    refine ⟨front ++ back, (List.append_assoc ..).symm, ?_⟩
    rw [hfront back hne (List.prefix_append ..)]
    exact hback

end

-- ---------------------------------------------------------------------------
-- Literals and bytes
-- ---------------------------------------------------------------------------

theorem orderly_literal (expected : List UInt8) : Orderly (literal expected) := by
  induction expected with
  | nil => exact .done ()
  | cons b expected ih =>
    refine .of_cons rfl fun c => ?_
    unfold literal
    by_cases h : c = b
    · simp only [if_pos h]
      exact ih
    · simp only [if_neg h]
      exact .bad

theorem literal_done {expected bytes rest : List UInt8}
    (h : literal expected bytes = .done () rest) : bytes = expected ++ rest := by
  induction expected generalizing bytes with
  | nil =>
    cases h
    rfl
  | cons b expected ih =>
    cases bytes with
    | nil => cases h
    | cons c bytes =>
      unfold literal at h
      split at h
      · next hc => rw [hc, ih h, List.cons_append]
      · cases h

theorem orderly_byte (f : UInt8 → Option α) : Orderly (byte f) := by
  refine .of_cons rfl fun b => ?_
  unfold byte
  cases h : f b with
  | none => simpa only [h] using .bad
  | some value => simpa only [h] using .done value

theorem orderly_lineEnd : Orderly lineEnd := by
  refine .of_cons rfl fun b => ?_
  unfold lineEnd
  by_cases hf : b = 0x0A
  · simp only [if_pos hf]
    exact .done ()
  · by_cases hr : b = 0x0D
    · simp only [if_neg hf, if_pos hr]
      exact orderly_literal [0x0A]
    · simp only [if_neg hf, if_neg hr]
      exact .bad

theorem lineEnd_done {bytes rest : List UInt8} (h : lineEnd bytes = .done () rest) :
    bytes = 0x0A :: rest ∨ bytes = 0x0D :: 0x0A :: rest := by
  unfold lineEnd at h
  split at h
  · cases h
  · next b bytes =>
    split at h
    · next hb =>
      cases h
      exact .inl (hb ▸ rfl)
    · split at h
      · next hb => exact .inr (by rw [hb, literal_done h]; rfl)
      · cases h

-- ---------------------------------------------------------------------------
-- Bytes of a class
-- ---------------------------------------------------------------------------

def span (p : UInt8 → Bool) (bytes : List UInt8) : Scan (List UInt8) :=
  match bytes.dropWhile p with
  | [] => .more
  | b :: rest => .done (bytes.takeWhile p) (b :: rest)

section
variable {p : UInt8 → Bool}

theorem span_of_append {within : List UInt8} {b : UInt8} (hw : ∀ x ∈ within, p x = true)
    (hb : p b = false) (rest : List UInt8) :
    span p (within ++ b :: rest) = .done within (b :: rest) := by
  have hd : (within ++ b :: rest).dropWhile p = b :: rest := by
    rw [List.dropWhile_append_of_pos hw, List.dropWhile_cons_of_neg (by simp [hb])]
  have ht : (within ++ b :: rest).takeWhile p = within := by
    rw [List.takeWhile_append_of_pos hw, List.takeWhile_cons_of_neg (by simp [hb]),
      List.append_nil]
  rw [span, hd, ht]

theorem span_done {bytes within rest : List UInt8} (h : span p bytes = .done within rest) :
    ∃ b more, rest = b :: more ∧ bytes = within ++ rest ∧ (∀ x ∈ within, p x = true) ∧
      p b = false := by
  unfold span at h
  split at h
  · cases h
  · next b more hd =>
    cases h
    refine ⟨b, more, rfl, ?_, fun x hx => ?_, ?_⟩
    · rw [← hd, List.takeWhile_append_dropWhile]
    · exact List.all_eq_true.mp List.all_takeWhile x hx
    · have hb := List.head?_dropWhile_not p bytes
      rw [hd] at hb
      simpa using hb

theorem peeks_span (p : UInt8 → Bool) : Peeks (span p) where
  stable bytes tail h := by
    cases hb : span p bytes with
    | more => exact absurd hb h
    | bad =>
      unfold span at hb
      split at hb <;> cases hb
    | done within rest =>
      obtain ⟨b, more, rfl, rfl, hw, hn⟩ := span_done hb
      rw [List.append_assoc]
      exact span_of_append hw hn (more ++ tail)
  exact {bytes within rest} h := by
    obtain ⟨b, more, rfl, rfl, hw, hn⟩ := span_done h
    refine ⟨within, rfl, fun front hne hp => ?_⟩
    cases front with
    | nil => exact absurd rfl hne
    | cons c front =>
      obtain ⟨rfl, -⟩ := List.cons_prefix_cons.mp hp
      exact span_of_append hw hn front

theorem dropWhile_eq_span {next : List UInt8 → Scan α} (hn : next [] = .more)
    (bytes : List UInt8) :
    next (bytes.dropWhile p) = (span p bytes).andThen fun _ rest => next rest := by
  unfold span
  cases bytes.dropWhile p with
  | nil => exact hn
  | cons => rfl

end

-- ---------------------------------------------------------------------------
-- Blank lines
-- ---------------------------------------------------------------------------

theorem skipBlankLines_lineFeed (bytes : List UInt8) :
    skipBlankLines (0x0A :: bytes) = skipBlankLines bytes := by
  rw [skipBlankLines.eq_def]
  exact if_pos rfl

theorem skipBlankLines_return (bytes : List UInt8) :
    skipBlankLines (0x0D :: 0x0A :: bytes) = skipBlankLines bytes := by
  rw [skipBlankLines.eq_def]
  exact (if_neg (by decide)).trans (if_pos rfl)

theorem skipBlankLines_bare_return {b : UInt8} (hf : b ≠ 0x0A) (bytes : List UInt8) :
    skipBlankLines (0x0D :: b :: bytes) = .bad := by
  rw [skipBlankLines.eq_def]
  exact (if_neg (by decide)).trans ((if_pos rfl).trans (if_neg hf))

theorem skipBlankLines_other {b : UInt8} (hf : b ≠ 0x0A) (hr : b ≠ 0x0D) (bytes : List UInt8) :
    skipBlankLines (b :: bytes) = .done () (b :: bytes) := by
  rw [skipBlankLines.eq_def]
  exact (if_neg hf).trans (if_neg hr)

theorem peeks_skipBlankLines : Peeks skipBlankLines where
  stable bytes tail h := by
    fun_induction skipBlankLines bytes with
    | case1 => exact absurd rfl h
    | case2 bytes ih =>
      rw [List.cons_append, skipBlankLines_lineFeed]
      exact ih h
    | case3 => exact absurd rfl h
    | case4 bytes _ ih =>
      rw [List.cons_append, List.cons_append, skipBlankLines_return]
      exact ih h
    | case5 b bytes hf => exact skipBlankLines_bare_return hf (bytes ++ tail)
    | case6 b bytes hf hr => exact skipBlankLines_other hf hr (bytes ++ tail)
  exact {bytes value rest} h := by
    fun_induction skipBlankLines bytes with
    | case1 | case3 | case5 => cases h
    | case2 bytes ih =>
      obtain ⟨front, rfl, hfront⟩ := ih h
      refine ⟨0x0A :: front, rfl, fun more hne hp => ?_⟩
      rw [List.cons_append, skipBlankLines_lineFeed]
      exact hfront more hne hp
    | case4 bytes _ ih =>
      obtain ⟨front, rfl, hfront⟩ := ih h
      refine ⟨0x0D :: 0x0A :: front, rfl, fun more hne hp => ?_⟩
      rw [List.cons_append, List.cons_append, skipBlankLines_return]
      exact hfront more hne hp
    | case6 b bytes hf hr =>
      cases h
      refine ⟨[], rfl, fun more hne hp => ?_⟩
      cases more with
      | nil => exact absurd rfl hne
      | cons c more =>
        obtain ⟨rfl, -⟩ := List.cons_prefix_cons.mp hp
        exact skipBlankLines_other hf hr more

end WebSocket.Scan
