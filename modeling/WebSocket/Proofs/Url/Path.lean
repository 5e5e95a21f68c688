import WebSocket.Proofs.Text.Parts
import WebSocket.Url.Path

/-!
# Paths and queries are in normal form

Text that holds nothing to escape is not changed by escaping, and escaped text is
such text (`Percent.encode_encode`). A path in normal form (`Path.IsNormal`) has no
dot segments and nothing to escape, and normalising makes such paths and leaves them
alone (`Path.normalize_isNormal`, `Path.IsNormal.normalize_eq`).
-/

namespace WebSocket

-- ---------------------------------------------------------------------------
-- Escapes
-- ---------------------------------------------------------------------------

namespace Percent

variable {escaped : Char → Bool} {text : List Char}

def InEscape (c : Char) : Prop := c = '%' ∨ ∃ n < 16, c = hexDigit n

theorem InEscape.of_mem (h : c ∈ escapeByte b) : InEscape c := by
  have hb := b.toNat_lt
  simp only [escapeByte, List.mem_cons, List.not_mem_nil, or_false] at h
  rcases h with rfl | rfl | rfl
  · exact .inl rfl
  · exact .inr ⟨b.toNat / 16, by omega, rfl⟩
  · exact .inr ⟨b.toNat % 16, by omega, rfl⟩

theorem mem_encode (h : c ∈ encode escaped text) :
    (c ∈ text ∧ escaped c = false) ∨ InEscape c := by
  obtain ⟨plain, hp, hc⟩ := List.mem_flatMap.mp h
  split at hc
  · obtain ⟨b, -, hb⟩ := List.mem_flatMap.mp hc
    exact .inr (.of_mem hb)
  · next he =>
    cases List.mem_singleton.mp hc
    exact .inl ⟨hp, Bool.eq_false_iff.mpr he⟩

theorem encode_plain (h : ∀ c ∈ text, escaped c = false) : encode escaped text = text := by
  induction text with
  | nil => rfl
  | cons c text ih =>
    rw [List.forall_mem_cons] at h
    have hrest := ih h.2
    unfold encode at hrest ⊢
    rw [List.flatMap_cons, hrest, if_neg (Bool.eq_false_iff.mp h.1)]
    rfl

theorem not_inPath_of_inEscape (h : InEscape c) : inPath c = false ∧ c ≠ '/' ∧ c ≠ '\\' := by
  obtain rfl | ⟨n, hn, rfl⟩ := h
  · decide
  · exact (by decide : ∀ n < 16, inPath (hexDigit n) = false ∧ hexDigit n ≠ '/' ∧
      hexDigit n ≠ '\\') n hn

theorem not_inQuery_of_inEscape (h : InEscape c) : inQuery c = false := by
  obtain rfl | ⟨n, hn, rfl⟩ := h
  · decide
  · exact (by decide : ∀ n < 16, inQuery (hexDigit n) = false) n hn

theorem not_inQuery_of_mem_encode (h : c ∈ encode inQuery text) : inQuery c = false := by
  obtain ⟨-, h⟩ | h := mem_encode h
  · exact h
  · exact not_inQuery_of_inEscape h

end Percent

-- ---------------------------------------------------------------------------
-- Paths
-- ---------------------------------------------------------------------------

namespace Path

/-- A segment that stands for itself: it is no dot segment, and holds no slash and
nothing to escape. -/
structure IsPlain (segment : List Char) : Prop where
  plain : ∀ c ∈ segment, Percent.inPath c = false ∧ isSlash c = false
  named : isCurrent segment = false ∧ isParent segment = false

inductive IsNormal : List Char → Prop
  | made (some : segments ≠ []) (plain : ∀ segment ∈ segments, IsPlain segment) :
    IsNormal (join segments)

theorem isPlain_nil : IsPlain [] := ⟨nofun, by decide⟩

section
variable {segment : List Char} {kept segments : List (List Char)}

theorem mem_of_mem_dropLast (h : segment ∈ dropLast kept) : segment ∈ kept := by
  cases kept with
  | nil => cases h
  | cons last kept =>
    simp only [dropLast] at h
    split at h
    · exact h
    · exact .tail _ h

theorem resolve_ne_nil (h : segments ≠ []) : resolve kept segments ≠ [] := by
  fun_induction resolve kept segments <;> simp_all

/-- Resolving takes dot segments away, and all it may add is an empty segment. -/
theorem resolve_isPlain (hk : ∀ segment ∈ kept, IsPlain segment)
    (hs : ∀ segment ∈ segments, ∀ c ∈ segment, Percent.inPath c = false ∧ isSlash c = false) :
    ∀ segment ∈ resolve kept segments, IsPlain segment := by
  have hdrop {kept : List (List Char)} (hk : ∀ segment ∈ kept, IsPlain segment) :
      ∀ segment ∈ dropLast kept, IsPlain segment :=
    fun segment hm => hk segment (mem_of_mem_dropLast hm)
  have hplain {segment : List Char} {rest : List (List Char)}
      (hs : ∀ s ∈ segment :: rest, ∀ c ∈ s, Percent.inPath c = false ∧ isSlash c = false)
      (hp : ¬isParent segment = true) (hc : ¬isCurrent segment = true) : IsPlain segment :=
    ⟨hs segment (.head _), Bool.eq_false_iff.mpr hc, Bool.eq_false_iff.mpr hp⟩
  fun_induction resolve kept segments with
  | case1 kept => simpa only [List.mem_reverse] using hk
  | case2 kept last hp =>
    simpa only [List.mem_reverse] using List.forall_mem_cons.mpr ⟨isPlain_nil, hdrop hk⟩
  | case3 kept last hp hc =>
    simpa only [List.mem_reverse] using List.forall_mem_cons.mpr ⟨isPlain_nil, hk⟩
  | case4 kept last hp hc =>
    simpa only [List.mem_reverse] using List.forall_mem_cons.mpr ⟨hplain hs hp hc, hk⟩
  | case5 kept segment rest hne hp ih => exact ih (hdrop hk) (List.forall_mem_cons.mp hs).2
  | case6 kept segment rest hne hp hc ih => exact ih hk (List.forall_mem_cons.mp hs).2
  | case7 kept segment rest hne hp hc ih =>
    exact ih (List.forall_mem_cons.mpr ⟨hplain hs hp hc, hk⟩) (List.forall_mem_cons.mp hs).2

theorem resolve_plain (h : ∀ segment ∈ segments, IsPlain segment) :
    resolve kept segments = kept.reverse ++ segments := by
  fun_induction resolve kept segments with
  | case1 => simp
  | case2 kept last hp => simp [(h last (.head _)).named.2] at hp
  | case3 kept last _ hc => simp [(h last (.head _)).named.1] at hc
  | case4 => simp
  | case5 kept segment rest _ hp => simp [(h segment (.head _)).named.2] at hp
  | case6 kept segment rest _ _ hc => simp [(h segment (.head _)).named.1] at hc
  | case7 kept segment rest hne hp hc ih => simpa using ih (List.forall_mem_cons.mp h).2

end

theorem normalize_isNormal (text : List Char) : IsNormal (normalize text) := by
  dsimp only [normalize]
  refine .made (resolve_ne_nil (by simp [List.splitOnP_ne_nil])) (resolve_isPlain nofun ?_)
  intro segment hs c hc
  obtain ⟨part, hp, rfl⟩ := List.mem_map.mp hs
  obtain ⟨hm, he⟩ | he := Percent.mem_encode hc
  · exact ⟨he, Parts.separates_of_mem_splitOnP hp c hm⟩
  · obtain ⟨hpath, hslash, hback⟩ := Percent.not_inPath_of_inEscape he
    exact ⟨hpath, by simp [isSlash, hslash, hback]⟩

theorem splitOnP_join {first : List Char} {segments : List (List Char)}
    (h : ∀ segment ∈ first :: segments, IsPlain segment) :
    (first ++ join segments).splitOnP isSlash = first :: segments := by
  have hfirst : ∀ c ∈ first, isSlash c = false := fun c hc => ((h first (.head _)).plain c hc).2
  induction segments generalizing first with
  | nil => simpa [join] using List.splitOnP_eq_singleton hfirst
  | cons next segments ih =>
    have hrest := (List.forall_mem_cons.mp h).2
    have hnext : ∀ c ∈ next, isSlash c = false := fun c hc => ((hrest next (.head _)).plain c hc).2
    have hjoin : join (next :: segments) = '/' :: (next ++ join segments) := rfl
    rw [hjoin, List.splitOnP_append_cons_of_forall_mem hfirst '/' rfl, ih hrest hnext]

theorem IsNormal.normalize_eq (h : IsNormal path) : normalize path = path := by
  obtain ⟨hne, hplain⟩ := h
  rename_i segments
  cases segments with
  | nil => exact absurd rfl hne
  | cons first segments =>
    have hcut : (first ++ join segments).splitOnP isSlash = first :: segments :=
      splitOnP_join hplain
    have hescape : (first :: segments).map (Percent.encode Percent.inPath) = first :: segments := by
      rw [List.map_congr_left fun segment hs =>
        Percent.encode_plain fun c hc => ((hplain segment hs).plain c hc).1]
      exact List.map_id' _
    show join (resolve [] (((first ++ join segments).splitOnP isSlash).map
      (Percent.encode Percent.inPath))) = _
    rw [hcut, hescape, resolve_plain hplain]
    rfl

theorem IsNormal.slash (h : IsNormal path) : ∃ rest, path = '/' :: rest := by
  obtain ⟨hne, -⟩ := h
  rename_i segments
  cases segments with
  | nil => exact absurd rfl hne
  | cons first segments => exact ⟨_, rfl⟩

theorem IsNormal.of_mem (h : IsNormal path) (hc : c ∈ path) :
    Percent.inPath c = false ∧ c ≠ '\\' := by
  obtain ⟨-, hplain⟩ := h
  obtain ⟨segment, hs, hm⟩ := List.mem_flatMap.mp hc
  rcases List.mem_cons.mp hm with rfl | hm
  · decide
  · obtain ⟨hpath, hslash⟩ := (hplain segment hs).plain c hm
    refine ⟨hpath, ?_⟩
    rintro rfl
    cases hslash

end Path

end WebSocket
