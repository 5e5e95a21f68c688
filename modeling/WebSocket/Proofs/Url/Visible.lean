import WebSocket.Proofs.Text.Digits
import WebSocket.Proofs.Text.Utf8
import WebSocket.Proofs.Url.Normal

/-!
# Endpoints are written in visible characters

An address may be any text, but what a request takes from it is either checked
or escaped. `Endpoint.plain_of_parse` says that the host and the target of a
parsed endpoint are visible ASCII characters: they hold no blank, no control and
nothing that is not ASCII. The target starts with a slash. `Endpoint.parse_fitsLine`
says the same of their bytes, and that none of them is a mark which ends its part of
an address.
-/

namespace WebSocket

def Ascii.IsVisible (c : Char) : Prop := 0x21 ≤ c.toNat ∧ c.toNat < 0x7F

instance (c : Char) : Decidable (Ascii.IsVisible c) :=
  inferInstanceAs (Decidable (0x21 ≤ c.toNat ∧ c.toNat < 0x7F))

def Visible (text : List Char) : Prop := ∀ c ∈ text, Ascii.IsVisible c

namespace Visible

instance (text : List Char) : Decidable (Visible text) := List.decidableBAll Ascii.IsVisible text

@[simp] theorem nil : Visible [] := by simp [Visible]

@[simp] theorem cons_iff : Visible (c :: text) ↔ Ascii.IsVisible c ∧ Visible text := by
  simp [Visible]

@[simp] theorem append_iff : Visible (front ++ back) ↔ Visible front ∧ Visible back := by
  simp [Visible, or_imp, forall_and]

theorem ascii (h : Visible text) : ∀ c ∈ text, c.toNat < 128 :=
  fun c hc => Nat.lt_trans (h c hc).2 (by decide)

end Visible

theorem Utf8.bounds_of_visible (h : Visible text.toList) (hb : b ∈ encode text) :
    0x21 ≤ b.toNat ∧ b.toNat < 0x7F := by
  obtain ⟨c, hc, he⟩ := toNat_of_mem_encode h.ascii hb
  rw [he]
  exact h c hc

theorem Utf8.range_of_visible (h : Visible text.toList) (hb : b ∈ encode text) :
    0x21 ≤ b ∧ b ≤ 0x7E := by
  obtain ⟨low, high⟩ := bounds_of_visible h hb
  exact ⟨UInt8.le_iff_toNat_le.mpr low, UInt8.le_iff_toNat_le.mpr (Nat.le_of_lt_succ high)⟩

theorem Utf8.not_mem_encode (h : Visible text.toList) (hv : Visible marks.toList)
    (hm : ∀ c ∈ text.toList, c ∉ marks.toList) (hb : b ∈ encode text) : b ∉ encode marks := by
  intro hb'
  obtain ⟨c, hc, he⟩ := toNat_of_mem_encode h.ascii hb
  obtain ⟨mark, hm', he'⟩ := toNat_of_mem_encode hv.ascii hb'
  obtain rfl : c = mark := Char.toNat_inj.mp (he.symm.trans he')
  exact hm c hc hm'

-- ---------------------------------------------------------------------------
-- Characters of the parts
-- ---------------------------------------------------------------------------

theorem Ascii.decimal_visible (n : Nat) : Visible (Ascii.decimal n) := by
  intro c hc
  have := toNat_of_mem_decimal hc
  unfold IsVisible
  omega

/-- The marks that divide an address, and the sign that escapes begin with. -/
def Url.marks : List Char := ['/', '?', '#', '@', '\\', '%']

theorem DomainName.visible_of_not_isForbidden (h : isForbidden c = false) :
    Ascii.IsVisible c ∧ c ∉ Url.marks := by
  constructor
  · simp only [isForbidden, Bool.or_eq_false_iff, decide_eq_false_iff_not] at h
    unfold Ascii.IsVisible
    omega
  · intro hm
    have hall : Url.marks.all isForbidden = true := by decide
    rw [List.all_eq_true.mp hall c hm] at h
    cases h

theorem Host.Canonical.of_mem {host : Host} (h : host.Canonical) (hc : c ∈ host.text) :
    Ascii.IsVisible c ∧ c ∉ Url.marks := by
  obtain hall | ⟨inner, he, hall⟩ := h.shape
  · exact DomainName.visible_of_not_isForbidden (hall c hc)
  · rw [he, List.cons_append, List.mem_cons, List.mem_append, List.mem_singleton] at hc
    obtain rfl | hc | rfl := hc
    · decide
    · obtain rfl | hf := hall c hc
      · decide
      · exact DomainName.visible_of_not_isForbidden hf
    · decide

namespace Percent

theorem visible_of_not_isControl (h : isControl c = false) (hs : c ≠ ' ') :
    Ascii.IsVisible c := by
  simp only [isControl, Bool.or_eq_false_iff, decide_eq_false_iff_not] at h
  have hs : c.toNat ≠ 0x20 := fun he => hs (Char.toNat_inj.mp he)
  unfold Ascii.IsVisible
  omega

theorem visible_of_not_inPath (h : inPath c = false) : Ascii.IsVisible c ∧ c ≠ '#' := by
  simp only [inPath, Bool.or_eq_false_iff, beq_eq_false_iff_ne] at h
  exact ⟨visible_of_not_isControl (by simp [h]) (by simp [h]), by simp [h]⟩

theorem visible_of_not_inQuery (h : inQuery c = false) : Ascii.IsVisible c ∧ c ≠ '#' := by
  simp only [inQuery, Bool.or_eq_false_iff, beq_eq_false_iff_ne] at h
  exact ⟨visible_of_not_isControl (by simp [h]) (by simp [h]), by simp [h]⟩

end Percent

theorem Url.IsTarget.of_mem {path : List Char} {query : Option (List Char)}
    (h : IsTarget path query) (hc : c ∈ target path query) :
    Ascii.IsVisible c ∧ c ≠ '#' := by
  rcases List.mem_append.mp hc with hc | hc
  · exact Percent.visible_of_not_inPath (h.path.of_mem hc).1
  · cases query with
    | none => cases hc
    | some query =>
      rcases List.mem_cons.mp hc with rfl | hc
      · decide
      · exact Percent.visible_of_not_inQuery (h.query query rfl c hc)

-- ---------------------------------------------------------------------------
-- Endpoints
-- ---------------------------------------------------------------------------

/-- Endpoints whose texts fit into a line. -/
structure Endpoint.Plain (endpoint : Endpoint) : Prop where
  host : Visible endpoint.host.toList
  target : Visible endpoint.target.toList
  slash : ∃ rest, endpoint.target.toList = '/' :: rest

theorem Endpoint.Canonical.plain {endpoint : Endpoint} (h : endpoint.Canonical) :
    endpoint.Plain := by
  obtain ⟨hosts, -, targets⟩ := h
  refine ⟨fun c hc => ?_, fun c hc => ?_, ?_⟩
  · rw [host_ofParts] at hc
    exact (hosts.of_mem hc).1
  · rw [target_ofParts] at hc
    exact (targets.of_mem hc).1
  · rw [target_ofParts]
    exact targets.slash

theorem Endpoint.plain_of_parse (h : Endpoint.parse text = .ok endpoint) : endpoint.Plain :=
  (canonical_of_parse h).plain

theorem Endpoint.Plain.hostHeader_visible {endpoint : Endpoint} (h : endpoint.Plain) :
    Visible endpoint.hostHeader.toList := by
  unfold hostHeader
  split
  · exact h.host
  · have colon : Ascii.IsVisible ':' := by decide
    have digits := Ascii.decimal_visible endpoint.port.toNat
    simp_all [h.host, Ascii.decimal, Ascii.digits]

theorem eq_ok_of_toOption {result : Except ε α} (h : result.toOption = some value) :
    result = .ok value := by
  cases result with
  | error => cases h
  | ok => exact congrArg Except.ok (Option.some.inj h)

theorem Endpoint.Canonical.host_fitsLine {endpoint : Endpoint} (h : endpoint.Canonical) :
    Utf8.encode endpoint.host ≠ [] ∧ (Utf8.encode endpoint.host).length ≤ maxHostLength ∧
      ∀ b ∈ Utf8.encode endpoint.host, (0x21 ≤ b ∧ b ≤ 0x7E) ∧ b ∉ Utf8.encode "/?#@\\%" := by
  have hv := h.plain.host
  obtain ⟨hosts, short, -⟩ := h
  refine ⟨?_, ?_, fun b hb => ⟨Utf8.range_of_visible hv hb, ?_⟩⟩
  · rw [Utf8.encode_ascii hv.ascii, host_ofParts, ne_eq, List.map_eq_nil_iff]
    exact hosts.text_ne_nil
  · rwa [Utf8.length_encode_ascii hv.ascii, host_ofParts]
  · refine Utf8.not_mem_encode hv (by decide) (fun c hc => ?_) hb
    rw [host_ofParts] at hc
    exact (hosts.of_mem hc).2

theorem Endpoint.Canonical.target_fitsLine {endpoint : Endpoint} (h : endpoint.Canonical) :
    (∃ rest, Utf8.encode endpoint.target = 0x2F :: rest) ∧
      ∀ b ∈ Utf8.encode endpoint.target, (0x21 ≤ b ∧ b ≤ 0x7E) ∧ b ≠ 0x23 := by
  have hp := h.plain
  obtain ⟨-, -, targets⟩ := h
  refine ⟨?_, fun b hb => ⟨Utf8.range_of_visible hp.target hb, ?_⟩⟩
  · obtain ⟨rest, hr⟩ := hp.slash
    rw [Utf8.encode_ascii hp.target.ascii, hr]
    exact ⟨_, rfl⟩
  · rintro rfl
    have hmark : 0x23 ∉ Utf8.encode "#" := by
      refine Utf8.not_mem_encode hp.target (by decide) (fun c hc => ?_) hb
      rw [target_ofParts] at hc
      simpa using (targets.of_mem hc).2
    exact hmark (by decide)

/-- Whatever stands in an address, the host and the target taken from it are bytes
that neither end nor cut the lines of a request: visible ASCII, the host without the
marks that divide an address, the target after a slash and without a fragment. -/
theorem Endpoint.parse_fitsLine (h : Endpoint.parse text = .ok endpoint) :
    (Utf8.encode endpoint.host ≠ [] ∧ (Utf8.encode endpoint.host).length ≤ 255 ∧
      ∀ b ∈ Utf8.encode endpoint.host, (0x21 ≤ b ∧ b ≤ 0x7E) ∧ b ∉ Utf8.encode "/?#@\\%") ∧
    (∃ rest, Utf8.encode endpoint.target = 0x2F :: rest) ∧
      ∀ b ∈ Utf8.encode endpoint.target, (0x21 ≤ b ∧ b ≤ 0x7E) ∧ b ≠ 0x23 :=
  ⟨(canonical_of_parse h).host_fitsLine, (canonical_of_parse h).target_fitsLine⟩

def Endpoint.mixedAddress : String :=
  "\x01ws:\\\\User:Pa%20ss@EX%41mple.COM:08080/a/./b/%2e%2E/\"\u00e9\x07|\\q?x='\u00fc\"&y=%zz#frag"

def Endpoint.mixedEndpoint : Endpoint :=
  ⟨"example.com", 8080, "/a/%22%C3%A9%07|/q?x=%27%C3%BC%22&y=%zz"⟩

theorem Endpoint.parse_fitsLine_mixed :
    parse mixedAddress = .ok mixedEndpoint ∧
    (Utf8.encode mixedEndpoint.host ≠ [] ∧ (Utf8.encode mixedEndpoint.host).length ≤ 255 ∧
      ∀ b ∈ Utf8.encode mixedEndpoint.host,
        (0x21 ≤ b ∧ b ≤ 0x7E) ∧ b ∉ Utf8.encode "/?#@\\%") ∧
    (∃ rest, Utf8.encode mixedEndpoint.target = 0x2F :: rest) ∧
      ∀ b ∈ Utf8.encode mixedEndpoint.target, (0x21 ≤ b ∧ b ≤ 0x7E) ∧ b ≠ 0x23 :=
  have h : parse mixedAddress = .ok mixedEndpoint := eq_ok_of_toOption (by decide +kernel)
  ⟨h, parse_fitsLine h⟩

end WebSocket
