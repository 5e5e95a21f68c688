import WebSocket.Domain.Ascii
import WebSocket.Proofs.Domain.Punycode
import WebSocket.Proofs.Text.Parts

/-!
# The ASCII form is its own ASCII form

Mapping and normalising leave lower-case ASCII text alone, and the ASCII form of a
label is read as the label that it was written for, since punycode reads back. So a
domain name that is short enough for its labels to be read again is fixed by
`toAscii?` once it is in ASCII form (`DomainName.toAscii?_ascii`).
-/

namespace WebSocket

-- ---------------------------------------------------------------------------
-- Normalising ASCII text
-- ---------------------------------------------------------------------------

namespace NormalForm

variable {text : List Char}

theorem decompose_ascii (h : c.toNat < 128) : decompose c = [c] := if_pos h

theorem combiningClass_ascii (h : c.toNat < 128) : combiningClass c = 0 := if_pos (by omega)

theorem composePair?_ascii (h : c.toNat < 128) (start : Char) : composePair? start c = none :=
  if_pos h

theorem order_ascii (h : ∀ c ∈ text, c.toNat < 128) : order text = text := by
  induction text with
  | nil => rfl
  | cons c text ih =>
    rw [List.forall_mem_cons] at h
    have hrest := ih h.2
    unfold order at hrest ⊢
    rw [List.foldr_cons, hrest, if_pos (combiningClass_ascii h.1)]

theorem composeFrom_ascii (h : ∀ c ∈ text, c.toNat < 128) (start : Char) :
    composeFrom start [] text = start :: text := by
  induction text generalizing start with
  | nil => rfl
  | cons c text ih =>
    rw [List.forall_mem_cons] at h
    simp [composeFrom, composePair?_ascii h.1, combiningClass_ascii h.1, ih h.2]

theorem normalize_ascii (h : ∀ c ∈ text, c.toNat < 128) : normalize text = text := by
  have hdecomposed : text.flatMap decompose = text := by
    rw [List.flatMap_def, List.map_congr_left fun c hc => decompose_ascii (h c hc)]
    exact List.flatMap_singleton' text
  rw [normalize, hdecomposed, order_ascii h]
  cases text with
  | nil => rfl
  | cons c text =>
    rw [List.forall_mem_cons] at h
    rw [compose, if_pos (combiningClass_ascii h.1), composeFrom_ascii h.2]

end NormalForm

-- ---------------------------------------------------------------------------
-- Labels
-- ---------------------------------------------------------------------------

namespace DomainName

theorem isAscii_iff : isAscii text = true ↔ ∀ c ∈ text, c.toNat < 128 := by
  simp [isAscii]

theorem Label.ofPunycode?_ascii (h : ofPunycode? encoded = some label) :
    label.ascii = punycodePrefix ++ encoded := by
  unfold ofPunycode? at h
  split at h
  · cases h
  · simp only [Option.bind_eq_some_iff, Option.ite_none_right_eq_some, Option.some.injEq] at h
    obtain ⟨unicode, -, -, rfl⟩ := h
    rfl

theorem Label.ofMapped?_prefixed (h : isAscii (punycodePrefix ++ encoded) = true) :
    ofMapped? (punycodePrefix ++ encoded) = ofPunycode? encoded := by
  have hp : punycodePrefix.isPrefixOf (punycodePrefix ++ encoded) = true := by simp
  rw [ofMapped?, if_pos hp, if_pos h]
  rfl

theorem Label.ofMapped?_plain (hp : punycodePrefix.isPrefixOf text = false)
    (h : isAscii text = true) : ofMapped? text = some ⟨text, text⟩ := by
  rw [ofMapped?, hp, h]
  rfl

theorem Label.ofMapped?_ascii (h : ofMapped? text = some label) (hd : '.' ∉ text)
    (ha : isAscii label.ascii = true) (hl : label.ascii.length ≤ maxPunycode) :
    '.' ∉ label.ascii ∧ ofMapped? label.ascii = some label := by
  have h' := h
  unfold ofMapped? at h
  split at h
  · next hp =>
    obtain ⟨encoded, rfl⟩ := List.isPrefixOf_iff_prefix.mp hp
    split at h
    · rw [ofPunycode?_ascii h]
      exact ⟨hd, h'⟩
    · cases h
  · next hp =>
    split at h
    · cases h
      exact ⟨hd, h'⟩
    · simp only [Option.ite_none_right_eq_some, Option.some.injEq] at h
      obtain ⟨hlabel, rfl⟩ := h
      refine ⟨?_, ?_⟩
      · have hmark : '.' ∉ punycodePrefix := by decide
        simpa [hmark] using Punycode.dot_not_mem_encode hd
      · rw [List.length_append] at hl
        rw [ofMapped?_prefixed ha, ofPunycode?, if_neg (by omega), Punycode.decode?_encode,
          Option.bind_some, if_pos hlabel]

-- ---------------------------------------------------------------------------
-- Names
-- ---------------------------------------------------------------------------

def joinedLabels (labels : List Label) : List Char := ['.'].intercalate (labels.map (·.ascii))

/-- Whether the labels of a name agree on their directions. -/
def agree (labels : List Label) : Bool :=
  !(labels.any (·.unicode.any DomainLabel.runsLeft) &&
    !labels.all (DomainLabel.oneWay ·.unicode))

theorem toAscii?_labels (h : toAscii? name = some ascii) :
    ∃ (text : List Char) (labels : List Label),
      (text.splitOn '.').mapM Label.ofMapped? = some labels ∧ agree labels = true ∧
      ascii = joinedLabels labels ∧ ascii.any isForbidden = false := by
  simp only [toAscii?, Option.bind_eq_bind, Option.bind_eq_some_iff] at h
  obtain ⟨mapped, -, labels, hl, h⟩ := h
  split at h
  · cases h
  · next hr =>
    split at h
    · cases h
    · next hf =>
      cases h
      exact ⟨_, labels, hl, by rw [agree, Bool.eq_false_iff.mpr hr]; rfl, rfl,
        Bool.eq_false_iff.mpr hf⟩

theorem not_isForbidden_of_toAscii? (h : toAscii? name = some ascii) (hc : c ∈ ascii) :
    isForbidden c = false := by
  obtain ⟨-, -, -, -, -, hf⟩ := toAscii?_labels h
  exact Bool.eq_false_iff.mpr (List.any_eq_false.mp hf c hc)

theorem agree_ascii {labels : List Label}
    (h : ∀ label ∈ labels, ∀ c ∈ label.unicode, c.toNat < 128) : agree labels = true := by
  have hleft : labels.any (·.unicode.any DomainLabel.runsLeft) = false := by
    simp only [List.any_eq_false, List.any_eq_true, not_exists, not_and]
    intro label hl c hc
    have hc : ¬c.toNat ≥ 128 := Nat.not_le.mpr (h label hl c hc)
    simp [DomainLabel.runsLeft, hc]
  rw [agree, hleft]
  rfl

theorem lower_of_not_isForbidden (h : isForbidden c = false) :
    c.toNat < 128 ∧ Ascii.lower c = c := by
  simp only [isForbidden, Bool.or_eq_false_iff, decide_eq_false_iff_not] at h
  exact ⟨by omega, by rw [Ascii.lower, h.1.2]; rfl⟩

theorem toAscii?_joinedLabels {labels : List Label} (hne : labels ≠ [])
    (hl : ∀ label ∈ labels, '.' ∉ label.ascii ∧ Label.ofMapped? label.ascii = some label)
    (ha : agree labels = true) (hf : (joinedLabels labels).any isForbidden = false) :
    toAscii? (joinedLabels labels) = some (joinedLabels labels) := by
  have hlower : ∀ c ∈ joinedLabels labels, c.toNat < 128 ∧ Ascii.lower c = c := by
    intro c hc
    exact lower_of_not_isForbidden (Bool.eq_false_iff.mpr (List.any_eq_false.mp hf c hc))
  have hmap : (joinedLabels labels).mapM DomainMapping.map? =
      some ((joinedLabels labels).map ([·])) :=
    Parts.mapM_eq_some fun c hc => by
      rw [DomainMapping.map?_ascii (hlower c hc).1, (hlower c hc).2]
  have hflat : ((joinedLabels labels).map ([·])).flatten = joinedLabels labels :=
    List.flatMap_singleton' _
  have hsplit : (joinedLabels labels).splitOn '.' = labels.map (·.ascii) := by
    refine List.splitOn_intercalate _ (fun part hp => ?_) (by simpa using hne)
    obtain ⟨label, hm, rfl⟩ := List.mem_map.mp hp
    exact (hl label hm).1
  have hread : (labels.map (·.ascii)).mapM Label.ofMapped? = some labels :=
    Parts.mapM_map_eq_some fun label hm => (hl label hm).2
  simp only [agree, Bool.not_eq_true'] at ha
  simp only [toAscii?, hmap, hflat, NormalForm.normalize_ascii fun c hc => (hlower c hc).1, hsplit,
    hread, Option.bind_eq_bind, Option.bind_some, ha]
  exact if_neg (Bool.eq_false_iff.mp hf)

theorem toAscii?_ascii (h : toAscii? name = some ascii) (hl : ascii.length ≤ maxPunycode) :
    toAscii? ascii = some ascii := by
  obtain ⟨text, labels, hlabels, ha, rfl, hf⟩ := toAscii?_labels h
  refine toAscii?_joinedLabels ?_ (fun label hm => ?_) ha hf
  · exact Parts.ne_nil_of_mapM hlabels (List.splitOn_ne_nil _ _)
  · obtain ⟨part, hp, hlabel⟩ := Parts.exists_of_mem_mapM hlabels hm
    have hsub : label.ascii.Sublist (joinedLabels labels) :=
      Parts.sublist_intercalate (List.mem_map_of_mem hm)
    refine Label.ofMapped?_ascii hlabel (Parts.not_mem_of_mem_splitOn hp) ?_
      (Nat.le_trans hsub.length_le hl)
    rw [isAscii_iff]
    intro c hc
    exact (lower_of_not_isForbidden
      (Bool.eq_false_iff.mpr (List.any_eq_false.mp hf c (hsub.subset hc)))).1

end DomainName

end WebSocket
