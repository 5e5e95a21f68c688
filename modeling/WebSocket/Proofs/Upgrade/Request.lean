import WebSocket.Proofs.Text.Utf8
import WebSocket.Proofs.Url.Visible
import WebSocket.Upgrade.Request

/-!
# The lines of a request

A request is read by cutting it at every CR LF. `UpgradeRequest.splitLines_bytes`
says when the reader finds the lines that the writer meant: nothing that an
address holds can end or add a line, and an origin leaves the lines alone
exactly when it holds no line break of its own. The length that `checkOrigin`
looks at says nothing about that (`checkOrigin_admits_break`).
-/

namespace WebSocket

-- ---------------------------------------------------------------------------
-- Cutting at line breaks
-- ---------------------------------------------------------------------------

def splitLines : List UInt8 → List (List UInt8)
  | 0x0D :: 0x0A :: rest => [] :: splitLines rest
  | b :: rest => (splitLines rest).modifyHead (b :: ·)
  | [] => [[]]

def HoldsBreak (bytes : List UInt8) : Prop := [0x0D, 0x0A] <:+: bytes

theorem not_holdsBreak_of_not_mem (h : (0x0D : UInt8) ∉ bytes) : ¬HoldsBreak bytes :=
  fun hb => h (hb.subset (.head _))

theorem holdsBreak_append_iff (h : (0x0D : UInt8) ∉ front) :
    HoldsBreak (front ++ back) ↔ HoldsBreak back := by
  unfold HoldsBreak
  induction front with
  | nil => rfl
  | cons b front ih =>
    rw [List.mem_cons, not_or] at h
    simp [List.infix_cons_iff, List.cons_prefix_cons, h.1, ih h.2]

theorem splitLines_cons (h : ¬[0x0D, 0x0A] <+: b :: rest) :
    splitLines (b :: rest) = (splitLines rest).modifyHead (b :: ·) := by
  refine splitLines.eq_2 b rest ?_
  rintro tail rfl rfl
  exact h ⟨tail, rfl⟩

theorem splitLines_line (h : ¬HoldsBreak line) (rest : List UInt8) :
    splitLines (line ++ 0x0D :: 0x0A :: rest) = line :: splitLines rest := by
  induction line with
  | nil => rfl
  | cons b line ih =>
    unfold HoldsBreak at h ih
    rw [List.infix_cons_iff, not_or] at h
    have hb : ¬[0x0D, 0x0A] <+: b :: (line ++ 0x0D :: 0x0A :: rest) := by
      cases line with
      | nil => simp
      | cons => simpa using h.1
    rw [List.cons_append, splitLines_cons hb, ih h.2]
    rfl

theorem splitLines_lines (h : ∀ line ∈ lines, ¬HoldsBreak line) (rest : List UInt8) :
    splitLines (lines.flatMap (· ++ [0x0D, 0x0A]) ++ rest) = lines ++ splitLines rest := by
  induction lines with
  | nil => rfl
  | cons line lines ih =>
    simp only [List.mem_cons, forall_eq_or_imp] at h
    simp [splitLines_line h.1, ← ih h.2]

theorem prefix_of_splitLines (h : splitLines bytes = line :: lines) : line <+: bytes := by
  fun_induction splitLines bytes generalizing line lines with
  | case1 rest ih =>
    cases h
    exact List.nil_prefix
  | case2 b rest hne ih =>
    cases hs : splitLines rest with
    | nil => simp [hs] at h
    | cons first more =>
      simp only [hs, List.modifyHead_cons, List.cons.injEq] at h
      obtain ⟨rfl, rfl⟩ := h
      exact List.cons_prefix_cons.mpr ⟨rfl, ih hs⟩
  | case3 =>
    cases h
    exact List.nil_prefix

theorem not_holdsBreak_of_mem_splitLines (h : line ∈ splitLines bytes) : ¬HoldsBreak line := by
  fun_induction splitLines bytes generalizing line with
  | case1 rest ih =>
    rcases List.mem_cons.mp h with rfl | h
    · simp [HoldsBreak]
    · exact ih h
  | case2 b rest hne ih =>
    cases hs : splitLines rest with
    | nil => simp [hs] at h
    | cons first more =>
      simp only [hs, List.modifyHead_cons, List.mem_cons] at h ih
      obtain rfl | h := h
      · intro hb
        rcases List.infix_cons_iff.mp hb with hb | hb
        · -- the break would stand at the front of the bytes, where it is cut
          obtain ⟨rfl, hf⟩ := List.cons_prefix_cons.mp hb
          obtain ⟨tail, rfl⟩ := hf.trans (prefix_of_splitLines hs)
          exact hne tail rfl rfl
        · exact ih (.inl rfl) hb
      · exact ih (.inr h)
  | case3 => simp_all [HoldsBreak]

-- ---------------------------------------------------------------------------
-- Requests
-- ---------------------------------------------------------------------------

namespace UpgradeRequest

theorem encode_crlf : Utf8.encode crlf = [0x0D, 0x0A] := by decide +kernel

theorem encode_lines (lines : List String) :
    Utf8.encode (String.join (lines.map (· ++ crlf))) =
      (lines.map Utf8.encode).flatMap (· ++ [0x0D, 0x0A]) := by
  induction lines with
  | nil => simp
  | cons line lines ih => simp [ih, encode_crlf]

theorem splitLines_bytes (h : ∀ line ∈ lines endpoint key origin, ¬HoldsBreak (Utf8.encode line)) :
    splitLines (bytes endpoint key origin) =
      (lines endpoint key origin ++ ["", ""]).map Utf8.encode := by
  have hl : ∀ line ∈ (lines endpoint key origin).map Utf8.encode, ¬HoldsBreak line := by
    simpa using h
  rw [bytes, text, Utf8.encode_append, encode_lines, splitLines_lines hl, encode_crlf]
  simp [splitLines]

theorem cr_not_mem_of_visible (h : Visible value.toList) : (0x0D : UInt8) ∉ Utf8.encode value :=
  fun hb => absurd (Utf8.bounds_of_visible h hb) (by decide)

theorem cr_not_mem_originLabel : (0x0D : UInt8) ∉ Utf8.encode "Origin: " := by decide +kernel

/-- Of all that a request is made of, only the origin can hold a break. -/
theorem lines_not_holdsBreak {endpoint : Endpoint} (hp : endpoint.Plain)
    (ho : ∀ value, origin = some value → ¬HoldsBreak (Utf8.encode value)) :
    ∀ line ∈ lines endpoint handshakeKey origin, ¬HoldsBreak (Utf8.encode line) := by
  have fixed : ∀ text ∈ ["GET ", " HTTP/1.1", "Host: ", "Upgrade: websocket",
      "Connection: Upgrade", "Sec-WebSocket-Key: " ++ handshakeKey,
      "Sec-WebSocket-Version: 13"], (0x0D : UInt8) ∉ Utf8.encode text := by decide +kernel
  have target := cr_not_mem_of_visible hp.target
  have host := cr_not_mem_of_visible hp.hostHeader_visible
  intro line hl
  rcases List.mem_append.mp hl with hl | hl
  · refine not_holdsBreak_of_not_mem ?_
    simp only [List.mem_cons, List.not_mem_nil, or_false] at hl
    rcases hl with rfl | rfl | rfl | rfl | rfl | rfl <;> simp_all
  · cases origin with
    | none => cases hl
    | some value =>
      dsimp only at hl
      split at hl
      · cases hl
      · rw [List.mem_singleton.mp hl, Utf8.encode_append,
          holdsBreak_append_iff cr_not_mem_originLabel]
        exact ho value rfl

/-- The text of an address can neither end nor add a line, and an origin does
so exactly when it holds a break. -/
theorem splitLines_bytes_iff {endpoint : Endpoint} (h : Endpoint.parse address = .ok endpoint)
    (origin : Option String) :
    Visible endpoint.target.toList ∧ Visible endpoint.hostHeader.toList ∧
    (splitLines (bytes endpoint handshakeKey origin) =
      (["GET " ++ endpoint.target ++ " HTTP/1.1",
        "Host: " ++ endpoint.hostHeader,
        "Upgrade: websocket",
        "Connection: Upgrade",
        "Sec-WebSocket-Key: " ++ handshakeKey,
        "Sec-WebSocket-Version: 13"] ++
      (match origin with
        | some value => if value.isEmpty then [] else ["Origin: " ++ value]
        | none => []) ++
      ["", ""]).map Utf8.encode ↔
        ∀ value, origin = some value → ¬HoldsBreak (Utf8.encode value)) := by
  have hp := Endpoint.plain_of_parse h
  refine ⟨hp.target, hp.hostHeader_visible, ?_, fun ho => splitLines_bytes ?_⟩
  · rintro hs value rfl hb
    cases he : value.isEmpty with
    | true =>
      rw [String.isEmpty_iff.mp he] at hb
      simp [HoldsBreak] at hb
    | false =>
      have hm : Utf8.encode ("Origin: " ++ value) ∈
          splitLines (bytes endpoint handshakeKey (some value)) := by
        simp [hs, he]
      refine not_holdsBreak_of_mem_splitLines hm ?_
      rwa [Utf8.encode_append, holdsBreak_append_iff cr_not_mem_originLabel]
  · exact lines_not_holdsBreak hp ho

theorem splitLines_bytes_example :
    Endpoint.parse "ws://localhost:8126/foo?q=a" = .ok ⟨"localhost", 8126, "/foo?q=a"⟩ ∧
    splitLines (bytes ⟨"localhost", 8126, "/foo?q=a"⟩ handshakeKey (some "http://here")) =
      ["GET /foo?q=a HTTP/1.1", "Host: localhost:8126", "Upgrade: websocket",
        "Connection: Upgrade", "Sec-WebSocket-Key: x3JJHMbDL1EzLkh9GBhXDw==",
        "Sec-WebSocket-Version: 13", "Origin: http://here", "", ""].map Utf8.encode := by
  have parsed : Endpoint.parse "ws://localhost:8126/foo?q=a" =
      .ok ⟨"localhost", 8126, "/foo?q=a"⟩ := eq_ok_of_toOption (by decide +kernel)
  obtain ⟨-, -, split⟩ := splitLines_bytes_iff parsed (some "http://here")
  refine ⟨parsed, (split.mpr ?_).trans (by decide +kernel)⟩
  intro value hv
  refine not_holdsBreak_of_not_mem ?_
  rw [← Option.some.inj hv]
  decide +kernel

/-- An origin that is short enough may bring a header line of its own. -/
theorem checkOrigin_admits_break :
    Endpoint.parse "ws://localhost/" = .ok ⟨"localhost", 80, "/"⟩ ∧
    checkOrigin (some "a\r\nX: b") = .ok () ∧
    splitLines (bytes ⟨"localhost", 80, "/"⟩ handshakeKey (some "a\r\nX: b")) =
      ["GET / HTTP/1.1", "Host: localhost", "Upgrade: websocket", "Connection: Upgrade",
        "Sec-WebSocket-Key: x3JJHMbDL1EzLkh9GBhXDw==", "Sec-WebSocket-Version: 13",
        "Origin: a", "X: b", "", ""].map Utf8.encode ∧
    splitLines (bytes ⟨"localhost", 80, "/"⟩ handshakeKey (some "a\r\nX: b")) ≠
      ["GET / HTTP/1.1", "Host: localhost", "Upgrade: websocket", "Connection: Upgrade",
        "Sec-WebSocket-Key: x3JJHMbDL1EzLkh9GBhXDw==", "Sec-WebSocket-Version: 13",
        "Origin: a\r\nX: b", "", ""].map Utf8.encode :=
  ⟨eq_ok_of_toOption (by decide +kernel), eq_ok_of_toOption (by decide +kernel),
    by decide +kernel, by decide +kernel⟩

end UpgradeRequest

end WebSocket
