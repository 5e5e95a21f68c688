import WebSocket.Proofs.Domain.Fixed
import WebSocket.Proofs.Text.Utf8
import WebSocket.Proofs.Url.IPv4
import WebSocket.Proofs.Url.IPv6
import WebSocket.Url.Host

/-!
# Hosts are read back

A host that was read is in one of three written forms (`Host.Canonical`), each of
which is read as the same host again (`Host.Canonical.parse_text`). No written form
holds a character that an address gives a meaning of its own, but for the colons
between the brackets of an IPv6 address (`Host.Canonical.shape`).
-/

namespace WebSocket

theorem Percent.decode_plain (h : (0x25 : UInt8) ∉ bytes) : decode bytes = bytes := by
  fun_induction decode bytes with
  | case1 => rfl
  | case2 b high low tail _ _ _ hb =>
    rw [List.mem_cons, not_or] at h
    rw [if_neg (Ne.symm h.1)] at hb
    cases hb
  | case3 b high low tail _ ih => rw [ih fun hm => h (.tail _ hm)]
  | case4 b rest _ ih => rw [ih fun hm => h (.tail _ hm)]

-- ---------------------------------------------------------------------------
-- IPv4 addresses as names
-- ---------------------------------------------------------------------------

namespace DomainName

theorem not_isForbidden_text (h : c ∈ IPv4.text address) : isForbidden c = false := by
  rcases IPv4.mem_text h with h | rfl
  · have hall : ∀ n < 58, 48 ≤ n → isForbidden (Char.ofNat n) = false := by decide
    obtain ⟨low, high⟩ := Ascii.toNat_of_isDigit h
    have hc := hall c.toNat (by omega) low
    rwa [Char.ofNat_toNat] at hc
  · decide

theorem Label.ofMapped?_decimal (n : Nat) :
    ofMapped? (Ascii.decimal n) = some ⟨Ascii.decimal n, Ascii.decimal n⟩ := by
  refine ofMapped?_plain (Bool.eq_false_iff.mpr fun hp => ?_) (isAscii_iff.mpr fun c hc => ?_)
  · have hx := (List.isPrefixOf_iff_prefix.mp hp).subset (.head _)
    exact absurd (Ascii.isDigit_of_mem_decimal hx) (by decide)
  · have := Ascii.toNat_of_mem_decimal hc
    omega

theorem toAscii?_text (address : Nat) :
    toAscii? (IPv4.text address) = some (IPv4.text address) := by
  let label (byte : Nat) : Label := ⟨Ascii.decimal byte, Ascii.decimal byte⟩
  have htext : joinedLabels ((IPv4.bytes address).map label) = IPv4.text address := by
    rw [joinedLabels, List.map_map, IPv4.text_eq]
    rfl
  have hlabel : ∀ l ∈ (IPv4.bytes address).map label,
      '.' ∉ l.ascii ∧ Label.ofMapped? l.ascii = some l := by
    intro l hl
    obtain ⟨byte, -, rfl⟩ := List.mem_map.mp hl
    refine ⟨fun hd => ?_, Label.ofMapped?_decimal byte⟩
    exact absurd (Ascii.isDigit_of_mem_decimal hd) (by decide)
  have hagree : agree ((IPv4.bytes address).map label) = true := by
    refine agree_ascii fun l hl c hc => ?_
    obtain ⟨byte, -, rfl⟩ := List.mem_map.mp hl
    have := Ascii.toNat_of_mem_decimal hc
    omega
  have hplain : (joinedLabels ((IPv4.bytes address).map label)).any isForbidden = false := by
    rw [htext, List.any_eq_false]
    exact fun c hc => Bool.eq_false_iff.mp (not_isForbidden_text hc)
  rw [← htext]
  exact toAscii?_joinedLabels (by simp [IPv4.bytes]) hlabel hagree hplain

end DomainName

namespace Host

/-- The forms in which hosts are written. -/
inductive Canonical : Host → Prop
  | domain (fixed : DomainName.toAscii? name = some name) (more : name ≠ [])
      (named : IPv4.endsInNumber name = false) : Canonical (.domain name)
  | ipv4 (fits : address < BigEndian.bound 4) : Canonical (.ipv4 address)
  | ipv6 (parts : IPv6.IsAddress pieces) : Canonical (.ipv6 pieces)

-- ---------------------------------------------------------------------------
-- What is read
-- ---------------------------------------------------------------------------

theorem ofBracketed_canonical (h : ofBracketed rest = .ok host) : Canonical host := by
  unfold ofBracketed at h
  split at h
  · split at h
    · next hp =>
      cases h
      exact .ipv6 (IPv6.parse?_isAddress hp)
    · cases h
  · cases h

theorem ofAscii_cases (h : ofAscii name = .ok host) :
    (host = .domain name ∧ name ≠ [] ∧ IPv4.endsInNumber name = false) ∨
      ∃ address, host = .ipv4 address ∧ IPv4.parse? name = some address := by
  unfold ofAscii at h
  split at h
  · cases h
  next hne =>
  split at h
  · split at h
    · next hp =>
      cases h
      exact .inr ⟨_, rfl, hp⟩
    · cases h
  · next hn =>
    cases h
    exact .inl ⟨rfl, by simpa using hne, Bool.eq_false_iff.mpr hn⟩

theorem parse_canonical (h : parse name = .ok host)
    (hl : host.text.length ≤ DomainName.maxPunycode) : Canonical host := by
  unfold parse at h
  split at h
  · exact ofBracketed_canonical h
  split at h
  · cases h
  split at h
  · cases h
  next ascii ha =>
  obtain ⟨rfl, hne, hn⟩ | ⟨address, rfl, hp⟩ := ofAscii_cases h
  · exact .domain (DomainName.toAscii?_ascii ha hl) hne hn
  · exact .ipv4 (IPv4.parse?_lt hp)

-- ---------------------------------------------------------------------------
-- What is written
-- ---------------------------------------------------------------------------

namespace Canonical

variable {host : Host}

/-- Brackets around digits and colons, or no character with a meaning of its own. -/
theorem shape (h : Canonical host) :
    (∀ c ∈ host.text, DomainName.isForbidden c = false) ∨
      ∃ inner, host.text = '[' :: inner ++ [']'] ∧
        ∀ c ∈ inner, c = ':' ∨ DomainName.isForbidden c = false := by
  cases h with
  | domain fixed => exact .inl fun _ => DomainName.not_isForbidden_of_toAscii? fixed
  | ipv4 => exact .inl fun _ => DomainName.not_isForbidden_text
  | @ipv6 pieces parts =>
    refine .inr ⟨IPv6.text pieces, rfl, fun c hc => ?_⟩
    obtain hc | ⟨d, hd, rfl⟩ := IPv6.mem_text hc
    · exact .inl hc
    · exact .inr ((by decide : ∀ d < 16, DomainName.isForbidden (Nat.digitChar d) = false) d hd)

theorem text_ne_nil (h : Canonical host) : host.text ≠ [] := by
  cases h with
  | domain _ more => exact more
  | ipv4 => simp [Host.text, IPv4.text]
  | ipv6 => simp [Host.text]

theorem parse_of_toAscii? (h : DomainName.toAscii? name = some name) :
    Host.parse name = Host.ofAscii name := by
  have hf {c : Char} (hc : c ∈ name) := DomainName.not_isForbidden_of_toAscii? h hc
  have hascii : ∀ c ∈ (String.ofList name).toList, c.toNat < 128 := by
    intro c hc
    exact (DomainName.lower_of_not_isForbidden (hf (by simpa using hc))).1
  have hpercent : (0x25 : UInt8) ∉ Utf8.encode (String.ofList name) := by
    intro hm
    obtain ⟨c, hc, he⟩ := Utf8.toNat_of_mem_encode hascii hm
    have hp : c = '%' := Char.toNat_inj.mp he.symm
    subst hp
    exact absurd (hf (by simpa using hc)) (by decide)
  have hbracket : ∀ rest, name ≠ '[' :: rest := by
    rintro rest rfl
    exact absurd (hf (.head _)) (by decide)
  unfold Host.parse
  split
  · next rest => exact absurd rfl (hbracket rest)
  · rw [Percent.decode_plain hpercent, Utf8.decode?_encode]
    simp [h]

theorem parse_text (h : Canonical host) : Host.parse host.text = .ok host := by
  cases h with
  | @domain name fixed more named =>
    rw [Host.text, parse_of_toAscii? fixed, ofAscii, named]
    simp [more]
  | @ipv4 address fits =>
    have hne : IPv4.text address ≠ [] := by simp [IPv4.text]
    rw [Host.text, parse_of_toAscii? (DomainName.toAscii?_text address), ofAscii,
      IPv4.endsInNumber_text, IPv4.parse?_text fits]
    simp [hne]
  | @ipv6 pieces parts =>
    show ofBracketed (IPv6.text pieces ++ [']']) = _
    rw [ofBracketed, if_pos (by simp), List.dropLast_concat, IPv6.parse?_text parts]

end Canonical

end Host

end WebSocket
