import WebSocket.Proofs.Text.Digits
import WebSocket.Proofs.Text.Parts
import WebSocket.Url.IPv6

/-!
# IPv6 addresses are read back

What is read as an IPv6 address is eight pieces of 16 bits (`IPv6.parse?_isAddress`),
and their text is read as the same pieces (`IPv6.parse?_text`), whether a run of
zeros is shortened in it or not.
-/

namespace WebSocket.IPv6

structure IsAddress (pieces : List Nat) : Prop where
  length_eq : pieces.length = 8
  lt : ∀ piece ∈ pieces, piece < 65536

-- ---------------------------------------------------------------------------
-- What is read
-- ---------------------------------------------------------------------------

theorem piece?_lt (h : piece? group = some piece) : piece < 65536 := by
  simp only [piece?, Bool.or_eq_true, decide_eq_true_eq, Option.ite_none_left_eq_some, not_or] at h
  obtain ⟨⟨-, hl⟩, h⟩ := h
  have digit {c : Char} {d : Nat} (hd : Ascii.digit? 16 c = some d) : d < 16 :=
    Ascii.digit?_lt hd
  rcases group with _ | ⟨a, _ | ⟨b, _ | ⟨c, _ | ⟨d, _ | ⟨e, more⟩⟩⟩⟩⟩
  all_goals simp [Ascii.number?, Option.bind_eq_some_iff] at h hl
  all_goals grind

theorem byte?_le (h : byte? group = some byte) : byte ≤ 255 := by
  unfold byte? at h
  split at h
  · cases h
  · cases h
  · simpa using (Option.filter_eq_some_iff.mp h).2

theorem dotted?_lt (h : dotted? group = some pieces) : ∀ piece ∈ pieces, piece < 65536 := by
  unfold dotted? at h
  split at h
  · next a b c d hm =>
    have hle : ∀ byte ∈ [a, b, c, d], byte ≤ 255 := by
      intro byte hb
      obtain ⟨group, -, hg⟩ := Parts.exists_of_mem_mapM hm hb
      exact byte?_le hg
    cases h
    simp only [List.forall_mem_cons] at hle ⊢
    refine ⟨by omega, by omega, nofun⟩
  · cases h

theorem pieces?_lt (h : pieces? dotted groups = some pieces) : ∀ piece ∈ pieces, piece < 65536 := by
  fun_induction pieces? dotted groups generalizing pieces with
  | case1 =>
    cases h
    nofun
  | case2 last hd => exact dotted?_lt h
  | case3 last hd =>
    obtain ⟨piece, hp, rfl⟩ := Option.map_eq_some_iff.mp h
    exact List.forall_mem_singleton.mpr (piece?_lt hp)
  | case4 group groups hne ih =>
    simp only [Option.bind_eq_bind, Option.bind_eq_some_iff, Option.some.injEq] at h
    obtain ⟨piece, hp, rest, hr, rfl⟩ := h
    exact List.forall_mem_cons.mpr ⟨piece?_lt hp, ih hr⟩

theorem side?_lt (h : side? dotted source = some pieces) : ∀ piece ∈ pieces, piece < 65536 := by
  unfold side? at h
  split at h
  · cases h
    nofun
  · exact pieces?_lt h

theorem parse?_isAddress (h : parse? source = some pieces) : IsAddress pieces := by
  unfold parse? at h
  split at h
  · obtain ⟨hs, hl⟩ := Option.filter_eq_some_iff.mp h
    exact ⟨by simpa using hl, side?_lt hs⟩
  · simp only [Option.bind_eq_bind, Option.bind_eq_some_iff, Option.ite_none_right_eq_some,
      Option.some.injEq] at h
    obtain ⟨front, hf, back, hb, hl, rfl⟩ := h
    refine ⟨by simp; omega, ?_⟩
    simp only [List.forall_mem_append]
    refine ⟨⟨side?_lt hf, fun piece hz => ?_⟩, side?_lt hb⟩
    rw [List.eq_of_mem_replicate hz]
    decide

-- ---------------------------------------------------------------------------
-- Groups of digits
-- ---------------------------------------------------------------------------

def joined (pieces : List Nat) : List Char := [':'].intercalate (pieces.map (Ascii.digits 16))

@[simp] theorem joined_singleton (piece : Nat) : joined [piece] = Ascii.digits 16 piece :=
  List.intercalate_singleton

@[simp] theorem joined_cons (piece next : Nat) (pieces : List Nat) :
    joined (piece :: next :: pieces) =
      Ascii.digits 16 piece ++ ':' :: joined (next :: pieces) := by
  simp [joined, List.intercalate_cons_cons]

theorem separators_not_mem_digits (n : Nat) :
    ':' ∉ Ascii.digits 16 n ∧ '.' ∉ Ascii.digits 16 n := by
  have digit : ∀ d < 16, Nat.digitChar d ≠ ':' ∧ Nat.digitChar d ≠ '.' := by decide
  constructor
  · intro h
    obtain ⟨d, hd, he⟩ := Ascii.mem_digits (by decide) h
    exact (digit d hd).1 he.symm
  · intro h
    obtain ⟨d, hd, he⟩ := Ascii.mem_digits (by decide) h
    exact (digit d hd).2 he.symm

theorem digits_ne_nil (n : Nat) : Ascii.digits 16 n ≠ [] := Ascii.digits_ne_nil (by decide) n

theorem length_digits_le (h : piece < 65536) : (Ascii.digits 16 piece).length ≤ 4 := by
  have hb : 1 < 16 := by decide
  refine Ascii.length_digits_le hb (Ascii.length_digits_le hb (Ascii.length_digits_le hb ?_))
  rw [Ascii.digits_of_lt (by omega) hb]
  exact Nat.le_refl _

theorem piece?_digits (h : piece < 65536) : piece? (Ascii.digits 16 piece) = some piece := by
  have hne := digits_ne_nil piece
  have hl := length_digits_le h
  rw [piece?, Ascii.number?_digits (by decide) (by decide)]
  simpa using ⟨hne, hl⟩

theorem pieces?_digits (h : ∀ piece ∈ pieces, piece < 65536) (dotted : Bool) :
    pieces? dotted (pieces.map (Ascii.digits 16)) = some pieces := by
  induction pieces with
  | nil => rfl
  | cons piece pieces ih =>
    rw [List.forall_mem_cons] at h
    cases pieces with
    | nil => simp [pieces?, piece?_digits h.1, (separators_not_mem_digits piece).2]
    | cons next pieces =>
      have hrest := ih h.2
      simp only [List.map_cons] at hrest ⊢
      simp [pieces?, piece?_digits h.1, hrest]

theorem side?_joined (h : ∀ piece ∈ pieces, piece < 65536) (dotted : Bool) :
    side? dotted (joined pieces) = some pieces := by
  cases pieces with
  | nil => rfl
  | cons piece pieces =>
    have hsplit : (joined (piece :: pieces)).splitOn ':' =
        (piece :: pieces).map (Ascii.digits 16) := by
      refine List.splitOn_intercalate _ (fun group hg => ?_) (List.cons_ne_nil _ _)
      obtain ⟨n, -, rfl⟩ := List.mem_map.mp hg
      exact (separators_not_mem_digits n).1
    have hne : (joined (piece :: pieces)).isEmpty = false := by
      have := digits_ne_nil piece
      cases pieces <;> simp [this]
    rw [side?, hne, hsplit]
    exact pieces?_digits h dotted

-- ---------------------------------------------------------------------------
-- The double colon
-- ---------------------------------------------------------------------------

theorem splitDouble?_cons (h : ∀ rest, c = ':' → cs ≠ ':' :: rest) :
    splitDouble? (c :: cs) = (splitDouble? cs).map fun (front, back) => (c :: front, back) :=
  splitDouble?.eq_3 c cs h

theorem splitDouble?_group (h : ':' ∉ group) (rest : List Char) :
    splitDouble? (group ++ rest) =
      (splitDouble? rest).map fun (front, back) => (group ++ front, back) := by
  induction group with
  | nil => simp
  | cons c group ih =>
    rw [List.mem_cons, not_or] at h
    rw [List.cons_append, splitDouble?_cons fun _ hc => absurd hc.symm h.1, ih h.2,
      Option.map_map]
    rfl

theorem joined_start (piece : Nat) (pieces : List Nat) :
    ∃ c text, joined (piece :: pieces) = c :: text ∧ c ≠ ':' := by
  have hne := digits_ne_nil piece
  have hcolon := (separators_not_mem_digits piece).1
  cases hd : Ascii.digits 16 piece with
  | nil => exact absurd hd hne
  | cons c group =>
    rw [hd, List.mem_cons, not_or] at hcolon
    cases pieces with
    | nil => exact ⟨c, group, by rw [joined_singleton, hd], hcolon.1 ∘ Eq.symm⟩
    | cons next pieces =>
      exact ⟨c, _, by rw [joined_cons, hd, List.cons_append], hcolon.1 ∘ Eq.symm⟩

theorem splitDouble?_joined (pieces : List Nat) (rest : List Char) :
    splitDouble? (joined pieces ++ rest) =
      (splitDouble? rest).map fun (front, back) => (joined pieces ++ front, back) := by
  induction pieces with
  | nil => simp [joined]
  | cons piece pieces ih =>
    have hgroup := splitDouble?_group (separators_not_mem_digits piece).1
    cases pieces with
    | nil => simpa using hgroup rest
    | cons next pieces =>
      obtain ⟨c, text, hj, hc⟩ := joined_start next pieces
      have hcolon : splitDouble? (':' :: (joined (next :: pieces) ++ rest)) =
          (splitDouble? (joined (next :: pieces) ++ rest)).map
            fun (front, back) => (':' :: front, back) := by
        refine splitDouble?_cons fun _ _ he => ?_
        rw [hj, List.cons_append] at he
        exact hc (List.cons.inj he).1
      rw [joined_cons, List.append_assoc, List.cons_append, hgroup, hcolon, ih]
      simp only [Option.map_map]
      congr 1
      funext ⟨front, back⟩
      simp

theorem splitDouble?_single (pieces : List Nat) : splitDouble? (joined pieces) = none := by
  have h := splitDouble?_joined pieces []
  rwa [List.append_nil] at h

theorem splitDouble?_double (pieces : List Nat) (back : List Char) :
    splitDouble? (joined pieces ++ ':' :: ':' :: back) = some (joined pieces, back) := by
  rw [splitDouble?_joined]
  simp [splitDouble?]

-- ---------------------------------------------------------------------------
-- Runs of zeros
-- ---------------------------------------------------------------------------

theorem zeroRun_spec (pieces : List Nat) :
    ∃ back, pieces = List.replicate (zeroRun pieces) 0 ++ back := by
  refine ⟨pieces.dropWhile (· == 0), ?_⟩
  have hzeros : pieces.takeWhile (· == 0) = List.replicate (zeroRun pieces) 0 :=
    List.eq_replicate_iff.mpr ⟨rfl, fun n hn => by
      simpa using List.all_eq_true.mp List.all_takeWhile n hn⟩
  rw [← hzeros, List.takeWhile_append_dropWhile]

theorem longestRun_spec (start : Nat) (pieces : List Nat)
    (h : 0 < (longestRun start pieces).2) :
    ∃ front back, pieces = front ++ List.replicate (longestRun start pieces).2 0 ++ back ∧
      (longestRun start pieces).1 = start + front.length := by
  fun_induction longestRun start pieces with
  | case1 => cases h
  | case2 start piece pieces here later hl ih =>
    obtain ⟨back, hb⟩ := zeroRun_spec (piece :: pieces)
    exact ⟨[], back, hb, rfl⟩
  | case3 start piece pieces here later hl ih =>
    obtain ⟨front, back, hp, hs⟩ := ih (by omega)
    exact ⟨piece :: front, back, congrArg (piece :: ·) hp, by
      rw [hs, List.length_cons]
      omega⟩

/-- The text of an address: all pieces, or those in front of and behind a run of zeros
with a double colon for them. -/
theorem text_cases (pieces : List Nat) :
    text pieces = joined pieces ∨
      ∃ front zeros back, 2 ≤ zeros ∧ pieces = front ++ List.replicate zeros 0 ++ back ∧
        text pieces = joined front ++ ':' :: ':' :: joined back := by
  have htext : text pieces =
      if (longestRun 0 pieces).2 < 2 then joined pieces
      else joined (pieces.take (longestRun 0 pieces).1) ++ ':' :: ':' ::
        joined (pieces.drop ((longestRun 0 pieces).1 + (longestRun 0 pieces).2)) := rfl
  by_cases hr : (longestRun 0 pieces).2 < 2
  · exact .inl (htext.trans (if_pos hr))
  · obtain ⟨front, back, hp, hs⟩ := longestRun_spec 0 pieces (by omega)
    rw [Nat.zero_add] at hs
    rw [if_neg hr, hs] at htext
    generalize (longestRun 0 pieces).2 = zeros at *
    refine .inr ⟨front, zeros, back, by omega, hp, htext.trans ?_⟩
    have htake : pieces.take front.length = front := by simp [hp]
    have hdrop : pieces.drop (front.length + zeros) = back := by
      rw [hp, List.append_assoc, List.drop_append]
      simp
    rw [htake, hdrop]

theorem parse?_text (h : IsAddress pieces) : parse? (text pieces) = some pieces := by
  unfold parse?
  rcases text_cases pieces with ht | ⟨front, zeros, back, hz, hp, ht⟩
  · rw [ht, splitDouble?_single]
    simp [side?_joined h.lt, h.length_eq]
  · have hlt := h.lt
    have hl := h.length_eq
    rw [hp] at hlt hl
    simp only [List.forall_mem_append] at hlt
    simp only [List.length_append, List.length_replicate] at hl
    rw [ht, splitDouble?_double]
    simp only [side?_joined hlt.1.1, side?_joined hlt.2, Option.bind_eq_bind, Option.bind_some]
    rw [if_pos (by omega), hp, show 8 - front.length - back.length = zeros by omega]

theorem mem_joined (h : c ∈ joined pieces) : c = ':' ∨ ∃ d < 16, c = Nat.digitChar d := by
  induction pieces with
  | nil => cases h
  | cons piece pieces ih =>
    have hdigit (h : c ∈ Ascii.digits 16 piece) := Ascii.mem_digits (by decide) h
    cases pieces with
    | nil => exact .inr (hdigit (by simpa using h))
    | cons next pieces =>
      rw [joined_cons, List.mem_append, List.mem_cons] at h
      rcases h with h | rfl | h
      · exact .inr (hdigit h)
      · exact .inl rfl
      · exact ih h

theorem mem_text (h : c ∈ text pieces) : c = ':' ∨ ∃ d < 16, c = Nat.digitChar d := by
  rcases text_cases pieces with ht | ⟨front, zeros, back, -, -, ht⟩
  · exact mem_joined (ht ▸ h)
  · rw [ht, List.mem_append, List.mem_cons, List.mem_cons] at h
    rcases h with h | rfl | rfl | h
    · exact mem_joined h
    · exact .inl rfl
    · exact .inl rfl
    · exact mem_joined h

end WebSocket.IPv6
