import Mathlib.Tactic.Ring
import WebSocket.Domain.Punycode

/-!
# Punycode reads back

The reader follows the writer: whenever a number is complete, what has been read so far
are the characters that the writer has covered, in their order in the label. The numbers
tell how far the writer has walked from the insertion before (`Tracks`).
-/

namespace WebSocket.Punycode

-- ---------------------------------------------------------------------------
-- Numbers
-- ---------------------------------------------------------------------------

theorem digitValue?_digitChar {digit : Nat} (h : digit < 36) :
    digitValue? (digitChar digit) = some digit :=
  (by decide : ∀ digit < 36, digitValue? (digitChar digit) = some digit) digit h

theorem Reader.foldlM_digit (r : Reader) {digit : Nat} (h : digit < 36) (text : List Char) :
    (digitChar digit :: text).foldlM Reader.read? r =
      (r.step digit).bind fun next => text.foldlM Reader.read? next := by
  rw [List.foldlM_cons, read?, digitValue?_digitChar h]
  rfl

/-- Reading a number adds it, at the weight of its first place. -/
theorem foldlM_writeNumber (r : Reader) (n : Nat) :
    (writeNumber r.bias r.place n).foldlM Reader.read? r = r.insert (r.value + n * r.weight) := by
  induction n using Nat.strongRecOn generalizing r with
  | ind n ih =>
    obtain ⟨hpos, hle⟩ := threshold_bounds r.bias r.place
    rw [writeNumber]
    by_cases hn : n < threshold r.bias r.place
    · rw [if_pos hn, r.foldlM_digit (by omega), Reader.step, if_pos hn]
      cases r.insert (r.value + n * r.weight) <;> rfl
    · generalize ht : threshold r.bias r.place = t at hpos hle hn
      generalize hk : base - t = k
      have hbase : base = 36 := rfl
      have hmod : (n - t) % k < k := Nat.mod_lt _ (by omega)
      have hless : (n - t) / k < n := Nat.lt_of_le_of_lt (Nat.div_le_self ..) (by omega)
      have hsum : t + (n - t) % k + k * ((n - t) / k) = n := by
        rw [Nat.add_assoc, Nat.mod_add_div]
        exact Nat.add_sub_cancel' (Nat.le_of_not_lt hn)
      have hstep : r.step (t + (n - t) % k) = some { r with
          value := r.value + (t + (n - t) % k) * r.weight
          weight := r.weight * k
          place := r.place + 1 } := by
        rw [Reader.step, ht, if_neg (by omega), hk]
      rw [if_neg hn, r.foldlM_digit (by omega), hstep, Option.bind_some]
      refine (ih _ hless _).trans ?_
      change r.insert _ = r.insert _
      congr 1
      -- the digit and the rest of the number add up at the weight of this place
      calc r.value + (t + (n - t) % k) * r.weight + (n - t) / k * (r.weight * k)
          = r.value + (t + (n - t) % k + k * ((n - t) / k)) * r.weight := by ring
        _ = r.value + n * r.weight := by rw [hsum]

theorem exists_digitValue_of_foldlM {text : List Char} {r r' : Reader}
    (h : text.foldlM Reader.read? r = some r') (hc : c ∈ text) :
    ∃ digit, digitValue? c = some digit := by
  induction text generalizing r with
  | nil => cases hc
  | cons first text ih =>
    obtain ⟨next, hnext, hrest⟩ := Option.bind_eq_some_iff.mp h
    obtain ⟨digit, hdigit, -⟩ := Option.bind_eq_some_iff.mp hnext
    cases hc with
    | head => exact ⟨digit, hdigit⟩
    | tail _ hc => exact ih hrest hc

-- ---------------------------------------------------------------------------
-- Inserting
-- ---------------------------------------------------------------------------

theorem insertIdx_length_append {α : Type} (front back : List α) (a : α) :
    (front ++ back).insertIdx front.length a = front ++ a :: back := by
  induction front with
  | nil => rfl
  | cons b front ih => exact congrArg (b :: ·) ih

/-- A number from a state of rest leads `n` places on, through the rounds of
`out.length + 1` places for one code after the other. -/
theorem insert_atRest {front back : List Char} {reached start bias n : Nat} {c : Char}
    (hle : reached ≤ c.toNat)
    (hn : n + start = (c.toNat - reached) * ((front ++ back).length + 1) + front.length) :
    (Reader.atRest (front ++ back) reached start bias).insert (start + n) =
      some (.atRest (front ++ c :: back) c.toNat (front.length + 1)
        (adapt n ((front ++ back).length + 1) (start == 0))) := by
  have hplace : front.length < (front ++ back).length + 1 := by
    rw [List.length_append]
    omega
  have hvalue : start + n = front.length + ((front ++ back).length + 1) * (c.toNat - reached) := by
    rw [Nat.add_comm, hn, Nat.mul_comm, Nat.add_comm]
  have hdiv : (start + n) / ((front ++ back).length + 1) = c.toNat - reached := by
    rw [hvalue, Nat.add_mul_div_left _ _ (Nat.succ_pos _), Nat.div_eq_of_lt hplace, Nat.zero_add]
  have hmod : (start + n) % ((front ++ back).length + 1) = front.length := by
    rw [hvalue, Nat.add_mul_mod_self_left, Nat.mod_eq_of_lt hplace]
  simp only [Reader.insert, Reader.atRest, hdiv, hmod, Nat.add_sub_cancel' hle,
    insertIdx_length_append, Char.ofNat_toNat, Nat.add_sub_cancel_left]
  exact if_pos c.valid

-- ---------------------------------------------------------------------------
-- Walking over a label
-- ---------------------------------------------------------------------------

/-- What is in place of the part of a label that the walk for `code` has passed. -/
def behind (code : Nat) (passed : List Char) : List Char := passed.filter (·.toNat ≤ code)

def ahead (code : Nat) (left : List Char) : List Char := left.filter (·.toNat < code)

section
variable {passed left : List Char} {c : Char} {code : Nat}

@[simp] theorem behind_nil (code : Nat) : behind code [] = [] := rfl

@[simp] theorem ahead_nil (code : Nat) : ahead code [] = [] := rfl

theorem behind_concat_of_le (h : c.toNat ≤ code) :
    behind code (passed ++ [c]) = behind code passed ++ [c] := by
  simp [behind, h]

theorem behind_concat_of_lt (h : code < c.toNat) :
    behind code (passed ++ [c]) = behind code passed := by
  simp [behind, h]

theorem ahead_cons_of_lt (h : c.toNat < code) : ahead code (c :: left) = c :: ahead code left := by
  simp [ahead, h]

theorem ahead_cons_of_le (h : code ≤ c.toNat) : ahead code (c :: left) = ahead code left := by
  simp [ahead, h]

end

/-- The reader of what `w` has written, while the walk for `code` is between the two parts of
the label: it is at rest and holds what is in place, and from where it stands, at the place
`start` of the round for `reached`, the writer has walked `delta` places. -/
structure Tracks (basic : List Char) (code : Nat) (passed left : List Char) (w : Writer)
    (reached start : Nat) : Prop where
  reads : w.out.foldlM Reader.read? (.atRest basic firstCode 0 firstBias) =
    some (.atRest (behind code passed ++ ahead code left) reached start w.bias)
  covered_eq : w.covered = (behind code passed ++ ahead code left).length
  begun : start = 0 ∧ w.covered = basic.length ∨ start ≠ 0 ∧ basic.length < w.covered
  reached_le : reached ≤ code
  delta_eq : w.delta + start = (code - reached) * (w.covered + 1) + (behind code passed).length

namespace Tracks

variable {basic passed left label : List Char} {c : Char} {code next reached start : Nat}
  {w : Writer}

theorem first_eq (h : Tracks basic code passed left w reached start) :
    (w.covered == basic.length) = (start == 0) := by
  obtain ⟨hs, hc⟩ | ⟨hs, hc⟩ := h.begun
  · simp [hs, hc]
  · simp [hs, Nat.ne_of_gt hc]

theorem insert (h : Tracks basic c.toNat passed (c :: left) w reached start) :
    Tracks basic c.toNat (passed ++ [c]) left (w.visit basic.length c.toNat c.toNat) c.toNat
      ((behind c.toNat passed).length + 1) := by
  have hfirst := h.first_eq
  have hbehind : behind c.toNat (passed ++ [c]) = behind c.toNat passed ++ [c] :=
    behind_concat_of_le (Nat.le_refl _)
  obtain ⟨hreads, hcovered, hbegun, hreached, hdelta⟩ := h
  rw [ahead_cons_of_le (Nat.le_refl _)] at hreads hcovered
  rw [Writer.visit, if_neg (Nat.lt_irrefl _), if_pos rfl]
  refine ⟨?_, ?_, ?_, Nat.le_refl _, ?_⟩
  · -- the number is read from where the walk began, and adds up to the place of `c`
    rw [List.foldlM_append, hreads, Option.bind_eq_bind, Option.bind_some]
    rw [hcovered] at hdelta
    refine (foldlM_writeNumber (.atRest _ reached start w.bias) w.delta).trans ?_
    rw [Reader.atRest, Nat.mul_one]
    rw [hbehind, List.append_assoc, hfirst, hcovered]
    exact insert_atRest hreached hdelta
  · simp only [hbehind, hcovered, List.length_append, List.length_singleton]
    omega
  · refine .inr ⟨Nat.succ_ne_zero _, Nat.lt_succ_of_le ?_⟩
    obtain ⟨-, hc⟩ | ⟨-, hc⟩ := hbegun
    · exact Nat.le_of_eq hc.symm
    · exact Nat.le_of_lt hc
  · simp [hbehind]

theorem pass (h : Tracks basic code passed (c :: left) w reached start) (hc : c.toNat < code) :
    Tracks basic code (passed ++ [c]) left (w.visit basic.length code c.toNat) reached start := by
  have hbehind : behind code (passed ++ [c]) = behind code passed ++ [c] :=
    behind_concat_of_le (Nat.le_of_lt hc)
  have hplace : behind code (passed ++ [c]) ++ ahead code left =
      behind code passed ++ ahead code (c :: left) := by simp [hbehind, ahead_cons_of_lt hc]
  rw [Writer.visit, if_pos hc]
  refine ⟨?_, ?_, h.begun, h.reached_le, ?_⟩
  · rw [hplace]
    exact h.reads
  · rw [hplace]
    exact h.covered_eq
  · rw [hbehind, List.length_append, ← Nat.add_assoc, ← h.delta_eq]
    exact Nat.add_right_comm ..

theorem leave (h : Tracks basic code passed (c :: left) w reached start) (hc : code < c.toNat) :
    Tracks basic code (passed ++ [c]) left (w.visit basic.length code c.toNat) reached start := by
  have hbehind : behind code (passed ++ [c]) = behind code passed := behind_concat_of_lt hc
  rw [Writer.visit, if_neg (Nat.lt_asymm hc), if_neg (Nat.ne_of_gt hc)]
  obtain ⟨hreads, hcovered, hbegun, hreached, hdelta⟩ := h
  rw [ahead_cons_of_le (Nat.le_of_lt hc)] at hreads hcovered
  exact ⟨hbehind ▸ hreads, hbehind ▸ hcovered, hbegun, hreached, hbehind ▸ hdelta⟩

theorem visit (h : Tracks basic code passed (c :: left) w reached start) :
    ∃ reached start,
      Tracks basic code (passed ++ [c]) left (w.visit basic.length code c.toNat) reached start := by
  obtain hc | rfl | hc := Nat.lt_trichotomy c.toNat code
  · exact ⟨reached, start, h.pass hc⟩
  · exact ⟨_, _, h.insert⟩
  · exact ⟨reached, start, h.leave hc⟩

theorem walk (h : Tracks basic code passed left w reached start) :
    ∃ reached start, Tracks basic code (passed ++ left) []
      ((left.map Char.toNat).foldl (Writer.visit basic.length code) w) reached start := by
  induction left generalizing passed w reached start with
  | nil => exact ⟨reached, start, by simpa using h⟩
  | cons c left ih =>
    obtain ⟨reached, start, hc⟩ := h.visit
    simpa using ih hc

theorem turn (h : Tracks basic code label [] w reached start) :
    Tracks basic (code + 1) [] label { w with delta := w.delta + 1 } reached start := by
  have hplace : behind code label = ahead (code + 1) label := by
    simp only [behind, ahead, Nat.lt_succ_iff]
  obtain ⟨hreads, hcovered, hbegun, hreached, hdelta⟩ := h
  refine ⟨?_, ?_, hbegun, Nat.le_succ_of_le hreached, ?_⟩
  · simpa [hplace] using hreads
  · simpa [hplace] using hcovered
  · have hlength : (behind code label).length = w.covered := by simp [hcovered]
    have hround : (code + 1 - reached) * (w.covered + 1) =
        (code - reached) * (w.covered + 1) + (w.covered + 1) := by
      rw [Nat.succ_sub hreached, Nat.succ_mul]
    simp only [hround, behind_nil, List.length_nil]
    omega

theorem skip (h : Tracks basic next [] label w reached start) (hle : next ≤ code)
    (hnone : ∀ c ∈ label, next ≤ c.toNat → code ≤ c.toNat) :
    Tracks basic code [] label { w with delta := w.delta + (code - next) * (w.covered + 1) }
      reached start := by
  have hplace : ahead next label = ahead code label := by
    refine List.filter_congr fun c hc => decide_eq_decide.mpr ⟨fun hlt => ?_, fun hlt => ?_⟩
    · exact Nat.lt_of_lt_of_le hlt hle
    · exact Nat.lt_of_not_le fun hge => Nat.not_le_of_lt hlt (hnone c hc hge)
  obtain ⟨hreads, hcovered, hbegun, hreached, hdelta⟩ := h
  refine ⟨hplace ▸ hreads, hplace ▸ hcovered, hbegun, Nat.le_trans hreached hle, ?_⟩
  have hrounds : (code - reached) * (w.covered + 1) =
      (next - reached) * (w.covered + 1) + (code - next) * (w.covered + 1) := by
    rw [← Nat.add_mul]
    congr 1
    omega
  simp only [hrounds, behind_nil, List.length_nil] at hdelta ⊢
  omega

theorem insertAll {codes : List Nat} (h : Tracks basic next [] label w reached start)
    (hnext : ∀ code ∈ codes, next ≤ code) (hsorted : codes.Pairwise (· < ·))
    (hall : ∀ c ∈ label, next ≤ c.toNat → c.toNat ∈ codes) :
    ∃ bias reached start,
      (w.insertAll (label.map Char.toNat) basic.length next codes).out.foldlM Reader.read?
        (.atRest basic firstCode 0 firstBias) = some (.atRest label reached start bias) := by
  induction codes generalizing w next reached start with
  | nil =>
    have hplace : ahead next label = label := by
      refine List.filter_eq_self.mpr fun c hc => decide_eq_true ?_
      exact Nat.lt_of_not_le fun hge => List.not_mem_nil (hall c hc hge)
    refine ⟨w.bias, reached, start, ?_⟩
    simpa [Writer.insertAll, hplace] using h.reads
  | cons code codes ih =>
    obtain ⟨hfirst, hrest⟩ := List.pairwise_cons.mp hsorted
    -- no character of the label lies between `next` and `code`
    have hskip := h.skip (hnext code List.mem_cons_self) fun c hc hge => by
      cases hall c hc hge with
      | head => exact Nat.le_refl _
      | tail _ hm => exact Nat.le_of_lt (hfirst _ hm)
    obtain ⟨reached, start, hwalk⟩ := hskip.walk
    refine ih hwalk.turn hfirst hrest fun c hc hge => ?_
    have hle : next ≤ code := hnext code List.mem_cons_self
    have hm := hall c hc (Nat.le_trans hle (Nat.le_of_succ_le hge))
    exact (List.mem_cons.mp hm).resolve_left (Nat.ne_of_gt hge)

end Tracks

-- ---------------------------------------------------------------------------
-- Labels
-- ---------------------------------------------------------------------------

theorem nodup_eraseDups (codes : List Nat) : codes.eraseDups.Nodup := by
  induction h : codes.length using Nat.strongRecOn generalizing codes with
  | ind n ih =>
    cases codes with
    | nil => exact List.nodup_nil
    | cons code codes =>
      have hless : (codes.filter fun other => !other == code).length < n :=
        h ▸ Nat.lt_succ_of_le (List.length_filter_le ..)
      rw [List.eraseDups_cons, List.nodup_cons]
      refine ⟨?_, ih _ hless _ rfl⟩
      simp [List.mem_eraseDups]

theorem pairwise_mergeSort_eraseDups (codes : List Nat) :
    (codes.eraseDups.mergeSort (· ≤ ·)).Pairwise (· < ·) := by
  have htrans (a b c : Nat) : decide (a ≤ b) = true → decide (b ≤ c) = true →
      decide (a ≤ c) = true := by simpa using Nat.le_trans
  have htotal (a b : Nat) : (decide (a ≤ b) || decide (b ≤ a)) = true := by
    simpa using Nat.le_total a b
  have hsorted : (codes.eraseDups.mergeSort (· ≤ ·)).Pairwise (· ≤ ·) := by
    simpa using List.pairwise_mergeSort htrans htotal codes.eraseDups
  have hnodup : (codes.eraseDups.mergeSort (· ≤ ·)).Nodup :=
    (List.mergeSort_perm ..).nodup_iff.mpr (nodup_eraseDups codes)
  exact (hsorted.and hnodup).imp fun ⟨hle, hne⟩ => Nat.lt_of_le_of_ne hle hne

/-- The ASCII form of a label: its ASCII characters, perhaps a hyphen, and numbers that put
the others in their places. -/
theorem exists_numbers (label : List Char) :
    ∃ basic numbers, basic = label.filter (·.toNat < firstCode) ∧
      encode label = basic ++ (if basic.isEmpty then [] else ['-']) ++ numbers ∧
      (∀ c ∈ numbers, ∃ digit, digitValue? c = some digit) ∧
      (Reader.atRest basic firstCode 0 firstBias).run numbers = some label := by
  let basic := label.filter (·.toNat < firstCode)
  let codes := ((label.map Char.toNat).filter (firstCode ≤ ·)).eraseDups.mergeSort
  have h : Tracks basic firstCode [] label ⟨[], 0, firstBias, basic.length⟩ firstCode 0 :=
    ⟨rfl, rfl, .inl ⟨rfl, rfl⟩, Nat.le_refl _, by simp⟩
  have hfirst : ∀ code ∈ codes, firstCode ≤ code := by simp [codes]
  have hall : ∀ c ∈ label, firstCode ≤ c.toNat → c.toNat ∈ codes := by
    intro c hc hle
    simpa [codes, hle] using ⟨c, hc, rfl⟩
  obtain ⟨bias, reached, start, hnumbers⟩ :=
    h.insertAll hfirst (pairwise_mergeSort_eraseDups _) hall
  refine ⟨basic, _, rfl, rfl, fun c hc => exists_digitValue_of_foldlM hnumbers hc, ?_⟩
  rw [Reader.run, hnumbers]
  rfl

theorem splitBasic_append (basic : List Char) {numbers : List Char} (h : '-' ∉ numbers) :
    splitBasic (basic ++ (if basic.isEmpty then [] else ['-']) ++ numbers) = (basic, numbers) := by
  have hplain : ∀ c ∈ numbers.reverse, (c != '-') = true := by
    intro c hc
    rw [bne_iff_ne]
    rintro rfl
    exact h (List.mem_reverse.mp hc)
  have hback (front : List Char) : (numbers.reverse ++ front).takeWhile (· != '-') =
      numbers.reverse ++ front.takeWhile (· != '-') :=
    List.takeWhile_append_of_pos hplain
  cases basic with
  | nil =>
    have hnil : numbers.reverse.takeWhile (· != '-') = numbers.reverse := by simpa using hback []
    simp [splitBasic, hnil]
  | cons c basic =>
    have hcount : basic.length + (numbers.length + 1) + 1 - numbers.length - 1 =
        (c :: basic).length := by
      rw [List.length_cons]
      omega
    simp [splitBasic, hback, hcount]

theorem decode?_encode (label : List Char) : decode? (encode label) = some label := by
  obtain ⟨basic, numbers, hbasic, hencode, hdigits, hrun⟩ := exists_numbers label
  have hhyphen : '-' ∉ numbers := fun hm => nomatch hdigits _ hm
  have hascii : basic.all (·.toNat < firstCode) = true := by simp [hbasic]
  rw [decode?, hencode, splitBasic_append basic hhyphen]
  exact (if_pos hascii).trans hrun

theorem dot_not_mem_encode (h : '.' ∉ label) : '.' ∉ encode label := by
  obtain ⟨basic, numbers, hbasic, hencode, hdigits, -⟩ := exists_numbers label
  have hdot : '.' ∉ numbers := fun hm => nomatch hdigits _ hm
  rw [hencode, List.mem_append, List.mem_append, not_or, not_or]
  refine ⟨⟨?_, ?_⟩, hdot⟩
  · rw [hbasic]
    exact fun hm => h (List.mem_filter.mp hm).1
  · split <;> simp

end WebSocket.Punycode
