import WebSocket.Proofs.Upgrade.Scan
import WebSocket.Upgrade.ResponseHead

/-!
# Response heads are read from left to right

The reader of response heads is `HeadReader.Orderly`: its verdict on some bytes is the
verdict on every extension, it looks at nothing behind the head, and as long
as there is a slot for each line the number of slots does not matter
(`ResponseHead.scan_orderly`).
-/

namespace WebSocket

/-- What can be asked of any reader of heads: it reads from left to right and
nothing behind the head, and more slots than lines make no difference. -/
structure HeadReader.Orderly (read : HeadReader) : Prop where
  orderly : ∀ slots, Scan.Orderly (read slots)
  roomy : ∀ {slots slots' bytes}, bytes.count 0x0A ≤ slots → bytes.count 0x0A ≤ slots' →
    read slots bytes = read slots' bytes

namespace ResponseHead

open Scan (Orderly)

-- ---------------------------------------------------------------------------
-- From left to right
-- ---------------------------------------------------------------------------

theorem orderly_scanVersion : Orderly scanVersion :=
  (Scan.orderly_literal _).andThen fun _ => Scan.orderly_byte _

theorem orderly_scanStatus : Orderly scanStatus :=
  (Scan.orderly_byte digit).andThen fun _ =>
    (Scan.orderly_byte digit).andThen fun _ => (Scan.orderly_byte digit).map _

theorem orderly_lineEnd_behind (p : UInt8 → Bool) :
    Orderly fun bytes => Scan.lineEnd (bytes.dropWhile p) := by
  have hspan : (fun bytes => Scan.lineEnd (bytes.dropWhile p)) =
      fun bytes => (Scan.span p bytes).andThen fun _ rest => Scan.lineEnd rest :=
    funext (Scan.dropWhile_eq_span rfl)
  rw [hspan]
  exact (Scan.peeks_span p).andThen (fun _ => Scan.orderly_lineEnd) fun _ => rfl

theorem orderly_scanReason : Orderly scanReason := by
  refine .of_cons rfl fun b => ?_
  unfold scanReason
  by_cases h : b = 0x20
  · simp only [if_pos h]
    exact orderly_lineEnd_behind isTextByte
  · simp only [if_neg h]
    exact Scan.orderly_lineEnd.after rfl b

theorem scanHeaderLine_eq (bytes : List UInt8) :
    scanHeaderLine bytes =
      (Scan.span isTokenByte bytes).andThen fun name rest =>
        (Scan.byte (fun b => if b = 0x3A ∧ name ≠ [] then some () else none) rest).andThen
          fun _ rest =>
            (Scan.span isTextByte rest).andThen fun value rest =>
              (Scan.lineEnd rest).map fun _ => ⟨name, trimSpaces value⟩ := by
  unfold scanHeaderLine
  rw [Scan.span]
  cases bytes.dropWhile isTokenByte with
  | nil => rfl
  | cons b rest =>
    by_cases h : b = 0x3A ∧ bytes.takeWhile isTokenByte ≠ []
    · simp only [if_pos h, Scan.andThen, Scan.byte]
      rw [Scan.span]
      cases rest.dropWhile isTextByte <;> rfl
    · simp only [if_neg h, Scan.andThen, Scan.byte]

theorem orderly_scanHeaderLine : Orderly scanHeaderLine := by
  refine (funext scanHeaderLine_eq).symm ▸ (Scan.peeks_span _).andThen (fun name => ?_) fun _ => rfl
  refine (Scan.orderly_byte _).andThen fun _ => ?_
  exact (Scan.peeks_span _).andThen (fun _ => Scan.orderly_lineEnd.map _) fun _ => rfl

theorem orderly_scanHeaderLines (slots : Nat) : Orderly (scanHeaderLines slots) := by
  refine .of_cons (by rw [scanHeaderLines]) fun b => ?_
  unfold scanHeaderLines
  by_cases h : b = 0x0A ∨ b = 0x0D
  · simp only [if_pos h]
    exact (Scan.orderly_lineEnd.after rfl b).map _
  · simp only [if_neg h]
    refine (orderly_scanHeaderLine.after rfl b).andThen fun _ => ?_
    cases slots with
    | zero => exact .bad
    | succ slots => exact (orderly_scanHeaderLines slots).map _

theorem orderly_scan (slots : Nat) : Orderly (scan slots) := by
  refine Scan.peeks_skipBlankLines.andThen (fun _ => ?_) fun _ => rfl
  refine orderly_scanVersion.andThen fun _ => ?_
  refine (Scan.orderly_literal _).andThen fun _ => ?_
  refine orderly_scanStatus.andThen fun _ => ?_
  refine orderly_scanReason.andThen fun _ => ?_
  exact (orderly_scanHeaderLines slots).map _

-- ---------------------------------------------------------------------------
-- Slots
-- ---------------------------------------------------------------------------

theorem count_lt_of_scanHeaderLine {bytes rest : List UInt8} {header : HeaderLine}
    (h : scanHeaderLine bytes = .done header rest) : rest.count 0x0A < bytes.count 0x0A := by
  rw [scanHeaderLine_eq] at h
  obtain ⟨_, first, hname, h⟩ := Scan.done_of_andThen h
  obtain ⟨_, second, hcolon, h⟩ := Scan.done_of_andThen h
  obtain ⟨_, third, hvalue, h⟩ := Scan.done_of_andThen h
  obtain ⟨_, last, hline, h⟩ := Scan.done_of_andThen h
  cases h
  -- everything in front of the line end only shortens what is left
  have hsuffix : third <:+ bytes :=
    ((Scan.peeks_span _).suffix hvalue).trans
      (((Scan.orderly_byte _).suffix hcolon).trans ((Scan.peeks_span _).suffix hname))
  refine Nat.lt_of_lt_of_le ?_ (hsuffix.sublist.count_le _)
  rcases Scan.lineEnd_done hline with rfl | rfl
  · rw [List.count_cons_self]
    exact Nat.lt_succ_self _
  · rw [List.count_cons_of_ne (by decide), List.count_cons_self]
    exact Nat.lt_succ_self _

theorem scanHeaderLines_roomy {slots slots' : Nat} {bytes : List UInt8}
    (h : bytes.count 0x0A ≤ slots) (h' : bytes.count 0x0A ≤ slots') :
    scanHeaderLines slots bytes = scanHeaderLines slots' bytes := by
  cases bytes with
  | nil => rw [scanHeaderLines, scanHeaderLines]
  | cons b bytes =>
    rw [scanHeaderLines.eq_def slots, scanHeaderLines.eq_def slots']
    dsimp only
    split
    · rfl
    · cases hl : scanHeaderLine (b :: bytes) with
      | more | bad => rfl
      | done header rest =>
        have hlt := count_lt_of_scanHeaderLine hl
        cases slots with
        | zero => omega
        | succ slots =>
          cases slots' with
          | zero => omega
          | succ slots' =>
            have hr : rest.count 0x0A ≤ slots := by omega
            have hr' : rest.count 0x0A ≤ slots' := by omega
            exact congrArg (Scan.map _) (scanHeaderLines_roomy hr hr')

theorem scan_roomy {slots slots' : Nat} {bytes : List UInt8}
    (h : bytes.count 0x0A ≤ slots) (h' : bytes.count 0x0A ≤ slots') :
    scan slots bytes = scan slots' bytes := by
  refine Scan.andThen_congr fun _ first hfirst => ?_
  refine Scan.andThen_congr fun _ second hsecond => ?_
  refine Scan.andThen_congr fun _ third hthird => ?_
  refine Scan.andThen_congr fun _ fourth hfourth => ?_
  refine Scan.andThen_congr fun _ lines hlines => ?_
  have hsuffix : lines <:+ bytes :=
    (orderly_scanReason.suffix hlines).trans <| (orderly_scanStatus.suffix hfourth).trans <|
      ((Scan.orderly_literal _).suffix hthird).trans <|
        (orderly_scanVersion.suffix hsecond).trans <| Scan.peeks_skipBlankLines.suffix hfirst
  have hle : lines.count 0x0A ≤ bytes.count 0x0A := hsuffix.sublist.count_le _
  rw [scanHeaderLines_roomy (Nat.le_trans hle h) (Nat.le_trans hle h')]

theorem scan_orderly : HeadReader.Orderly scan := ⟨orderly_scan, scan_roomy⟩

end ResponseHead

end WebSocket
