import Mathlib.Data.List.TakeWhile
import WebSocket.Proofs.Url.Visible

/-!
# Endpoints are read back

The text of an endpoint is put together from parts in normal form. It is cut where
it was put together, since no part holds the marks that end it, and each part is
read as itself (`Url.parse_text`). So what is written of an endpoint that was read
leads to the same endpoint (`Endpoint.parse_display`), and every endpoint in normal
form is led to by some address (`Endpoint.canonical_iff`).
-/

namespace WebSocket

-- ---------------------------------------------------------------------------
-- Text around an address
-- ---------------------------------------------------------------------------

theorem not_isBlank_of_visible (h : Ascii.IsVisible c) : isBlank c = false := by
  unfold Ascii.IsVisible at h
  simp only [isBlank, Bool.or_eq_false_iff, Bool.and_eq_false_iff, decide_eq_false_iff_not,
    beq_eq_false_iff_ne]
  omega

theorem trimmedBy_eq_self {text : List Char} (h : ∀ c ∈ text, p c = false) :
    trimmedBy p text = text := by
  have hkeep {text : List Char} (h : ∀ c ∈ text, p c = false) : text.dropWhile p = text :=
    List.dropWhile_eq_self_iff.mpr fun hl => Bool.eq_false_iff.mp (h _ (List.getElem_mem hl))
  rw [trimmedBy, hkeep h, hkeep (by simpa using h), List.reverse_reverse]

-- ---------------------------------------------------------------------------
-- Parts of an address
-- ---------------------------------------------------------------------------

namespace Url

variable {scheme : List Char} {host : Host}

theorem splitUser_of_not_mem (h : '@' ∉ authority) : splitUser authority = (none, authority) := by
  simp [splitUser, h]

theorem splitHost_append (h : ∀ c ∈ name, c ≠ ':' ∧ c ≠ '[') (rest : List Char) :
    splitHost false (name ++ ':' :: rest) = (name, ':' :: rest) := by
  induction name with
  | nil => rfl
  | cons c name ih =>
    rw [List.forall_mem_cons] at h
    obtain ⟨⟨hcolon, hbracket⟩, hname⟩ := h
    have hc : (c == '[') = false := beq_eq_false_iff_ne.mpr hbracket
    simp [splitHost, hcolon, hc, ih hname]

theorem splitHost_bracketed (h : ']' ∉ name) (rest : List Char) :
    splitHost true (name ++ ']' :: ':' :: rest) = (name ++ [']'], ':' :: rest) := by
  induction name with
  | nil => rfl
  | cons c name ih =>
    rw [List.mem_cons, not_or] at h
    have hc : (c != ']') = true := bne_iff_ne.mpr (Ne.symm h.1)
    simp [splitHost, hc, ih h.2]

theorem splitHost_text (h : host.Canonical) (rest : List Char) :
    splitHost false (host.text ++ ':' :: rest) = (host.text, ':' :: rest) := by
  obtain hall | ⟨inner, he, hall⟩ := h.shape
  · refine splitHost_append (fun c hc => ⟨?_, ?_⟩) rest
    all_goals
      rintro rfl
      exact absurd (hall _ hc) (by decide)
  · have hclose : ']' ∉ inner := fun hm => (hall _ hm).elim nofun nofun
    have hinner := splitHost_bracketed hclose rest
    simp [he, splitHost, hinner]

theorem parsePort_decimal (h : port ≤ 65535) :
    parsePort (':' :: Ascii.decimal port) = .ok (some port) := by
  have hdigits : ∀ c ∈ Ascii.decimal port, Ascii.isDigit c := fun _ => Ascii.isDigit_of_mem_decimal
  have hnumber : Ascii.number? 10 (Ascii.decimal port) = some port :=
    Ascii.number?_digits (by decide) (by decide) port
  simp [parsePort, List.takeWhile_eq_self_iff.mpr hdigits, List.dropWhile_eq_nil_iff.mpr hdigits,
    hnumber, Ascii.decimal_ne_nil, Nat.not_lt.mpr h]

theorem ofTail_target (h : IsTarget path query) :
    ofTail scheme host port (target path query) = .web scheme host port path query := by
  have hpath : ∀ c ∈ path, (c != '?' && c != '#') = true := by
    intro c hc
    have hc := (h.path.of_mem hc).1
    simp only [Percent.inPath, Bool.or_eq_false_iff, beq_eq_false_iff_ne] at hc
    simp [hc]
  cases query with
  | none =>
    simp [ofTail, target, List.takeWhile_eq_self_iff.mpr hpath, List.dropWhile_eq_nil_iff.mpr hpath,
      h.path.normalize_eq]
  | some query =>
    have hquery : ∀ c ∈ query, (c != '#') = true := fun c hc => by
      simpa using (Percent.visible_of_not_inQuery (h.query query rfl c hc)).2
    simp [ofTail, target, List.takeWhile_append_of_pos hpath, List.dropWhile_append_of_pos hpath,
      h.path.normalize_eq, List.takeWhile_eq_self_iff.mpr hquery,
      Percent.encode_plain (h.query query rfl)]

def authority (host : Host) (port : Nat) : List Char := host.text ++ ':' :: Ascii.decimal port

theorem authority_plain (h : host.Canonical) (hc : c ∈ authority host port) :
    endsWebAuthority c = false ∧ c ≠ '@' := by
  rcases List.mem_append.mp hc with hc | hc
  · have hm := (h.of_mem hc).2
    simp only [marks, List.mem_cons, not_or] at hm
    simp [endsWebAuthority, endsAuthority, hm]
  · rcases List.mem_cons.mp hc with rfl | hc
    · decide
    · obtain ⟨d, hd, rfl⟩ := Ascii.mem_digits (by decide) hc
      exact (by decide : ∀ d < 10, endsWebAuthority (Nat.digitChar d) = false ∧
        Nat.digitChar d ≠ '@') d hd

theorem dropWhile_authority (h : host.Canonical) (rest : List Char) :
    (authority host port ++ rest).dropWhile Path.isSlash = authority host port ++ rest := by
  obtain ⟨first, more, he⟩ := List.exists_cons_of_ne_nil h.text_ne_nil
  have hmem : first ∈ host.text := by simp [he]
  have hm := (h.of_mem hmem).2
  simp only [marks, List.mem_cons, not_or] at hm
  have hfirst : Path.isSlash first = false := by simp [Path.isSlash, hm]
  simp [authority, he, hfirst]

theorem span_authority (h : host.Canonical) (rest : List Char) :
    (authority host port ++ '/' :: rest).takeWhile (!endsWebAuthority ·) = authority host port ∧
      (authority host port ++ '/' :: rest).dropWhile (!endsWebAuthority ·) = '/' :: rest := by
  have hkeep : ∀ c ∈ authority host port, (!endsWebAuthority c) = true := fun c hc => by
    rw [(authority_plain h hc).1, Bool.not_false]
  have hslash : endsWebAuthority '/' = true := rfl
  simp [List.takeWhile_append_of_pos hkeep, List.dropWhile_append_of_pos hkeep, hslash]

-- ---------------------------------------------------------------------------
-- Whole addresses
-- ---------------------------------------------------------------------------

/-- Parts in normal form are found again in the text that they make. -/
theorem parseWeb_text (hh : host.Canonical) (hport : port ≤ 65535) (ht : IsTarget path query) :
    parseWeb scheme ('/' :: '/' :: (authority host port ++ target path query)) =
      .ok (.web scheme host (some port) path query) := by
  obtain ⟨rest, hr⟩ := ht.slash
  have htail : ofTail scheme host (some port) (target path query) = _ := ofTail_target ht
  rw [hr] at htail ⊢
  have hslashes : ('/' :: '/' :: (authority host port ++ '/' :: rest)).dropWhile Path.isSlash =
      authority host port ++ '/' :: rest := dropWhile_authority hh _
  have huser : '@' ∉ authority host port := fun hm => (authority_plain hh hm).2 rfl
  obtain ⟨htake, hdrop⟩ : _ ∧ (authority host port ++ '/' :: rest).dropWhile _ = _ :=
    span_authority hh rest
  have hhost : splitHost false (authority host port) = (host.text, ':' :: Ascii.decimal port) :=
    splitHost_text hh _
  simp [parseWeb, hslashes, htake, hdrop, splitUser_of_not_mem huser, hhost, hh.text_ne_nil,
    hh.parse_text, parsePort_decimal hport, htail, bind, Except.bind, pure, Except.pure]

def text (host : Host) (port : Nat) (path : List Char) (query : Option (List Char)) : List Char :=
  ['w', 's', ':', '/', '/'] ++ (authority host port ++ target path query)

theorem text_visible (hh : host.Canonical) (ht : IsTarget path query) :
    Visible (text host port path query) := by
  have hstart : Visible ['w', 's', ':', '/', '/'] := by decide
  have hhost : Visible host.text := fun c hc => (hh.of_mem hc).1
  have hport : Visible (':' :: Ascii.decimal port) :=
    Visible.cons_iff.mpr ⟨by decide, Ascii.decimal_visible port⟩
  have htarget : Visible (target path query) := fun c hc => (ht.of_mem hc).1
  exact Visible.append_iff.mpr ⟨hstart, Visible.append_iff.mpr
    ⟨Visible.append_iff.mpr ⟨hhost, hport⟩, htarget⟩⟩

theorem parse_text (hh : host.Canonical) (hport : port ≤ 65535) (ht : IsTarget path query) :
    parse (text host port path query) = .ok (.web ['w', 's'] host (some port) path query) := by
  have hkeep : ∀ c ∈ text host port path query, decide (c.toNat ≤ 0x20) = false := by
    intro c hc
    have hv := (text_visible hh ht c hc).1
    exact decide_eq_false (by omega)
  have hscheme : splitScheme? (text host port path query) =
      some (['w', 's'], '/' :: '/' :: (authority host port ++ target path query)) := rfl
  rw [parse, trimmedBy_eq_self hkeep, hscheme]
  exact parseWeb_text hh hport ht

end Url

-- ---------------------------------------------------------------------------
-- Endpoints
-- ---------------------------------------------------------------------------

namespace Endpoint

variable {host : Host} {port : UInt16}

theorem display_ofParts :
    (ofParts host port path query).display.toList = Url.text host port.toNat path query := by
  simp [ofParts, display, Url.text, Url.authority, Ascii.decimal, Ascii.digits]

theorem ofUrl_web (h : host.text.length ≤ maxHostLength) :
    ofUrl (.web ['w', 's'] host (some port.toNat) path query) =
      .ok (ofParts host port path query) := by
  simp [ofUrl, ofParts, Url.target, Nat.not_lt.mpr h]

theorem Canonical.parse_own {endpoint : Endpoint} (h : endpoint.Canonical) :
    parse endpoint.display = .ok endpoint := by
  cases h with
  | @made path query host port hosts short targets =>
    have hport : port.toNat ≤ 65535 := Nat.le_of_lt_succ port.toNat_lt
    have hvisible : Visible (Url.text host port.toNat path query) :=
      Url.text_visible hosts targets
    have hblank : (Url.text host port.toNat path query).any isBlank = false :=
      List.any_eq_false.mpr fun c hc =>
        Bool.eq_false_iff.mp (not_isBlank_of_visible (hvisible c hc))
    rw [parse, display_ofParts, hblank, Url.parse_text hosts hport targets]
    exact ofUrl_web short

/-- Addresses lead to the endpoints in normal form and to no others. -/
theorem canonical_iff {endpoint : Endpoint} :
    endpoint.Canonical ↔ ∃ text, parse text = .ok endpoint :=
  ⟨fun h => ⟨_, h.parse_own⟩, fun ⟨_, h⟩ => canonical_of_parse h⟩

/-- What is written of an endpoint that was read is read as the same endpoint. -/
theorem parse_display (h : parse text = .ok endpoint) : parse endpoint.display = .ok endpoint :=
  (canonical_of_parse h).parse_own

/-- A short IPv4 address without its port, and dot segments before an empty query. -/
theorem parse_display_shorthand :
    parse "ws:user@0X7f.1\\a\\..\\%2E%2e/c/.?#x" = .ok ⟨"127.0.0.1", 80, "/c/?"⟩ ∧
    (⟨"127.0.0.1", 80, "/c/?"⟩ : Endpoint).display = "ws://127.0.0.1:80/c/?" ∧
      parse (⟨"127.0.0.1", 80, "/c/?"⟩ : Endpoint).display = .ok ⟨"127.0.0.1", 80, "/c/?"⟩ :=
  have h : parse "ws:user@0X7f.1\\a\\..\\%2E%2e/c/.?#x" = .ok ⟨"127.0.0.1", 80, "/c/?"⟩ :=
    eq_ok_of_toOption (by decide +kernel)
  ⟨h, by decide +kernel, parse_display h⟩

end Endpoint

end WebSocket
