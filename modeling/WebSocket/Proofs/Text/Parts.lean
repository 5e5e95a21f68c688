/-!
# Parts of a text

A text is cut at a separator, and each part is read by itself.
-/

namespace WebSocket.Parts

theorem separates_of_mem_splitOnP {p : α → Bool} {text part : List α}
    (h : part ∈ text.splitOnP p) : ∀ c ∈ part, p c = false := by
  induction text generalizing part with
  | nil => simp_all
  | cons c text ih =>
    rw [List.splitOnP_cons_eq_if_modifyHead] at h
    split at h
    · rcases List.mem_cons.mp h with rfl | h
      · nofun
      · exact ih h
    · next hc =>
      cases hs : text.splitOnP p with
      | nil => exact absurd hs (List.splitOnP_ne_nil p text)
      | cons first more =>
        simp only [hs, List.modifyHead_cons, List.mem_cons] at h ih
        obtain rfl | h := h
        · simpa [hc] using ih (.inl rfl)
        · exact ih (.inr h)

theorem not_mem_of_mem_splitOn [BEq α] [LawfulBEq α] {text part : List α} {separator : α}
    (h : part ∈ text.splitOn separator) : separator ∉ part := by
  rw [List.splitOn_eq_splitOnP] at h
  intro hm
  simpa using separates_of_mem_splitOnP h separator hm

theorem mapM_eq_some {f : α → Option β} {g : α → β} {parts : List α}
    (h : ∀ part ∈ parts, f part = some (g part)) : parts.mapM f = some (parts.map g) := by
  induction parts with
  | nil => rfl
  | cons part parts ih =>
    rw [List.forall_mem_cons] at h
    rw [List.mapM_cons, h.1, ih h.2]
    rfl

theorem mapM_map_eq_some {f : α → Option β} {g : β → α} {values : List β}
    (h : ∀ value ∈ values, f (g value) = some value) :
    (values.map g).mapM f = some values := by
  rw [List.mapM_map]
  exact (mapM_eq_some h).trans (congrArg some (List.map_id values))

theorem exists_of_mem_mapM {f : α → Option β} {parts : List α} {values : List β} {value : β}
    (h : parts.mapM f = some values) (hv : value ∈ values) :
    ∃ part ∈ parts, f part = some value := by
  induction parts generalizing values with
  | nil =>
    cases h
    cases hv
  | cons part parts ih =>
    simp only [List.mapM_cons, Option.bind_eq_bind, Option.bind_eq_some_iff] at h
    obtain ⟨first, hf, rest, hr, he⟩ := h
    cases he
    rcases List.mem_cons.mp hv with rfl | hv
    · exact ⟨part, .head _, hf⟩
    · obtain ⟨part, hp, he⟩ := ih hr hv
      exact ⟨part, .tail _ hp, he⟩

theorem ne_nil_of_mapM {f : α → Option β} {parts : List α} {values : List β}
    (h : parts.mapM f = some values) (hp : parts ≠ []) : values ≠ [] := by
  cases parts with
  | nil => exact absurd rfl hp
  | cons part parts =>
    simp only [List.mapM_cons, Option.bind_eq_bind, Option.bind_eq_some_iff] at h
    obtain ⟨first, -, rest, -, he⟩ := h
    cases he
    exact List.cons_ne_nil first rest

theorem sublist_intercalate {separator part : List α} {parts : List (List α)}
    (h : part ∈ parts) : part.Sublist (separator.intercalate parts) := by
  induction parts with
  | nil => cases h
  | cons first parts ih =>
    cases parts with
    | nil => simp [List.mem_singleton.mp h]
    | cons next parts =>
      rw [List.intercalate_cons_cons]
      rcases List.mem_cons.mp h with rfl | h
      · rw [List.append_assoc]
        exact List.sublist_append_left ..
      · exact (ih h).trans (List.sublist_append_right ..)

end WebSocket.Parts
