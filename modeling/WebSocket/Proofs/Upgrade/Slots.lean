import WebSocket.Proofs.Upgrade.Grammar
import WebSocket.Proofs.Upgrade.Verdict

/-!
# The table of headers has room

The reader of heads has a slot for each line feed within the size limit. The
status line ends with one and so does every header line, so there is a slot even
for the header line that is being read when the bytes end
(`LineScanner.begun_le_count`). No head within the limit is judged otherwise than
with a table that never fills up (`UpgradeResponse.parse?_unlimited`). That needs
nothing of the lines but their ends: `LineScanner` is any way to recognise them, and
a line may take its slot when it begins or when it is complete.
-/

namespace WebSocket

-- ---------------------------------------------------------------------------
-- Lines and their slots
-- ---------------------------------------------------------------------------

/-- How the lines of a head are recognised: the status line, with what may come before
it, and a header line. Both end with a line feed. -/
structure LineScanner where
  /-- Finds the minor version and the status. -/
  statusLine : List UInt8 → Scan (Nat × Nat)
  headerLine : List UInt8 → Scan HeaderLine
  statusLine_ends : ∀ {bytes line rest}, statusLine bytes = .done line rest →
    ∃ front, bytes = front ++ 0x0A :: rest
  headerLine_ends : ∀ {bytes line rest}, headerLine bytes = .done line rest →
    ∃ front, bytes = front ++ 0x0A :: rest

namespace LineScanner

variable (lines : LineScanner)

/-- Reads header lines up to the empty line, at most `slots` of them. A line looks for
its slot when it begins if `early`, and else when it is complete. -/
def headers (early : Bool) (slots : Nat) (bytes : List UInt8) : Scan (List HeaderLine) :=
  match bytes with
  | [] => .more
  | b :: rest =>
    if b = 0x0A ∨ b = 0x0D then (Scan.lineEnd (b :: rest)).map fun _ => []
    else match slots with
      | 0 => if early then .bad else (lines.headerLine (b :: rest)).andThen fun _ _ => .bad
      | slots + 1 =>
        (lines.headerLine (b :: rest)).andThen fun header rest =>
          (headers early slots rest).map (header :: ·)

def allHeaders (bytes : List UInt8) : Scan (List HeaderLine) :=
  match bytes with
  | [] => .more
  | b :: rest =>
    if b = 0x0A ∨ b = 0x0D then (Scan.lineEnd (b :: rest)).map fun _ => []
    else match _h : lines.headerLine (b :: rest) with
      | .more => .more
      | .bad => .bad
      | .done header rest => (allHeaders rest).map (header :: ·)
termination_by bytes.length
decreasing_by
  obtain ⟨front, he⟩ := lines.headerLine_ends _h
  simp only [he, List.length_append, List.length_cons]
  omega

/-- How many header lines are begun, the last of which may be cut short or malformed. -/
def begunHeaders (bytes : List UInt8) : Nat :=
  match bytes with
  | [] => 0
  | b :: rest =>
    if b = 0x0A ∨ b = 0x0D then 0
    else match _h : lines.headerLine (b :: rest) with
      | .done _ rest => begunHeaders rest + 1
      | _ => 1
termination_by bytes.length
decreasing_by
  obtain ⟨front, he⟩ := lines.headerLine_ends _h
  simp only [he, List.length_append, List.length_cons]
  omega

def headWith (headers : List UInt8 → Scan (List HeaderLine)) (bytes : List UInt8) :
    Scan ResponseHead :=
  (lines.statusLine bytes).andThen fun (minorVersion, status) rest =>
    (headers rest).map fun headers => ⟨minorVersion, status, headers⟩

def scan (early : Bool) : HeadReader := fun slots => lines.headWith (lines.headers early slots)

def scanAll : HeadReader := fun _ => lines.headWith lines.allHeaders

def begun (bytes : List UInt8) : Nat :=
  match lines.statusLine bytes with
  | .done _ rest => lines.begunHeaders rest
  | _ => 0

-- ---------------------------------------------------------------------------
-- One slot for each line feed
-- ---------------------------------------------------------------------------

theorem begunHeaders_le_count (bytes : List UInt8) :
    lines.begunHeaders bytes ≤ bytes.count 0x0A + 1 := by
  fun_induction begunHeaders lines bytes with
  | case1 | case2 | case4 => omega
  | case3 b bytes hb header rest h ih =>
    obtain ⟨front, he⟩ := lines.headerLine_ends h
    rw [he, List.count_append, List.count_cons_self]
    omega

/-- The line feed of the status line makes up for the header line that has none yet. -/
theorem begun_le_count (bytes : List UInt8) : lines.begun bytes ≤ bytes.count 0x0A := by
  unfold begun
  split
  · next line rest h =>
    obtain ⟨front, he⟩ := lines.statusLine_ends h
    have hle := lines.begunHeaders_le_count rest
    rw [he, List.count_append, List.count_cons_self]
    omega
  · exact Nat.zero_le _

-- ---------------------------------------------------------------------------
-- Slots make no difference
-- ---------------------------------------------------------------------------

section
variable {b : UInt8} {bytes : List UInt8} (hb : ¬(b = 0x0A ∨ b = 0x0D))

include hb

theorem headers_line (early : Bool) (slots : Nat) :
    lines.headers early (slots + 1) (b :: bytes) =
      (lines.headerLine (b :: bytes)).andThen fun header rest =>
        (lines.headers early slots rest).map (header :: ·) := by
  rw [headers.eq_def]
  exact if_neg hb

theorem allHeaders_line :
    lines.allHeaders (b :: bytes) =
      (lines.headerLine (b :: bytes)).andThen fun header rest =>
        (lines.allHeaders rest).map (header :: ·) := by
  rw [allHeaders, if_neg hb]
  split <;> next h => rw [h, Scan.andThen]

end

/-- By the header lines that are begun: each finds a slot, complete or not. -/
theorem headers_eq_allHeaders (early : Bool) {slots : Nat} {bytes : List UInt8}
    (h : lines.begunHeaders bytes ≤ slots) :
    lines.headers early slots bytes = lines.allHeaders bytes := by
  fun_induction begunHeaders lines bytes generalizing slots with
  | case1 => rw [headers.eq_def, allHeaders]
  | case2 b bytes hb =>
    rw [headers.eq_def, allHeaders, if_pos hb]
    exact if_pos hb
  | case3 b bytes hb header rest hl ih =>
    obtain ⟨slots, rfl⟩ := Nat.exists_eq_add_of_le' (Nat.le_trans (Nat.le_add_left ..) h)
    rw [lines.headers_line hb, lines.allHeaders_line hb]
    refine Scan.andThen_congr fun header rest he => ?_
    cases hl.symm.trans he
    rw [ih (by omega)]
  | case4 b bytes hb hl =>
    obtain ⟨slots, rfl⟩ := Nat.exists_eq_add_of_le' h
    rw [lines.headers_line hb, lines.allHeaders_line hb]
    exact Scan.andThen_congr fun header rest he => absurd he (hl header rest)

theorem scan_eq_scanAll (early : Bool) {slots : Nat} {bytes : List UInt8}
    (h : lines.begun bytes ≤ slots) : lines.scan early slots bytes = lines.scanAll slots bytes := by
  refine Scan.andThen_congr fun line rest hs => ?_
  rw [begun, hs] at h
  rw [lines.headers_eq_allHeaders early h]

end LineScanner

-- ---------------------------------------------------------------------------
-- The lines of a response
-- ---------------------------------------------------------------------------

namespace ResponseHead

def scanStatusLine (bytes : List UInt8) : Scan (Nat × Nat) :=
  (Scan.skipBlankLines bytes).andThen fun _ rest =>
    (scanVersion rest).andThen fun minorVersion rest =>
      (Scan.literal [0x20] rest).andThen fun _ rest =>
        (scanStatus rest).andThen fun status rest =>
          (scanReason rest).map fun _ => (minorVersion, status)

theorem LineEnd.ends {front : List UInt8} (h : LineEnd front) :
    ∃ before, front = before ++ [0x0A] := by
  cases h with
  | lineFeed => exact ⟨[], rfl⟩
  | returned => exact ⟨[0x0D], rfl⟩

theorem scanStatusLine_ends {bytes rest : List UInt8} {line : Nat × Nat}
    (h : scanStatusLine bytes = .done line rest) : ∃ front, bytes = front ++ 0x0A :: rest := by
  obtain ⟨_, first, hfirst, h⟩ := Scan.done_of_andThen h
  obtain ⟨_, second, hsecond, h⟩ := Scan.done_of_andThen h
  obtain ⟨_, third, hthird, h⟩ := Scan.done_of_andThen h
  obtain ⟨_, fourth, hfourth, h⟩ := Scan.done_of_andThen h
  obtain ⟨_, last, hlast, h⟩ := Scan.done_of_andThen h
  cases h
  have hsuffix : fourth <:+ bytes :=
    (orderly_scanStatus.suffix hfourth).trans <| ((Scan.orderly_literal _).suffix hthird).trans <|
      (orderly_scanVersion.suffix hsecond).trans <| Scan.peeks_skipBlankLines.suffix hfirst
  obtain ⟨before, rfl⟩ := hsuffix
  obtain ⟨front, rfl, hreason⟩ := scanReason_written hlast
  cases hreason with
  | none ends =>
    obtain ⟨start, rfl⟩ := LineEnd.ends ends
    exact ⟨before ++ start, by simp⟩
  | @some reason _ text ends =>
    obtain ⟨start, rfl⟩ := LineEnd.ends ends
    exact ⟨before ++ 0x20 :: reason ++ start, by simp⟩

theorem scanHeaderLine_ends {bytes rest : List UInt8} {header : HeaderLine}
    (h : scanHeaderLine bytes = .done header rest) : ∃ front, bytes = front ++ 0x0A :: rest := by
  obtain ⟨front, rfl, hline⟩ := scanHeaderLine_written h
  cases hline with
  | @line name value _ named token text ends =>
    obtain ⟨start, rfl⟩ := LineEnd.ends ends
    exact ⟨name ++ 0x3A :: value ++ start, by simp⟩

def lines : LineScanner where
  statusLine := scanStatusLine
  headerLine := scanHeaderLine
  statusLine_ends := scanStatusLine_ends
  headerLine_ends := scanHeaderLine_ends

theorem scanHeaderLines_eq (slots : Nat) (bytes : List UInt8) :
    scanHeaderLines slots bytes = lines.headers false slots bytes := by
  induction slots generalizing bytes with
  | zero =>
    cases bytes with
    | nil => rw [scanHeaderLines, LineScanner.headers]
    | cons b bytes =>
      rw [scanHeaderLines, LineScanner.headers]
      rfl
  | succ slots ih =>
    cases bytes with
    | nil => rw [scanHeaderLines, LineScanner.headers]
    | cons b bytes =>
      rw [scanHeaderLines, LineScanner.headers]
      dsimp only
      split
      · rfl
      · exact Scan.andThen_congr fun header rest _ => by rw [ih]

/-- The reader of heads reads line by line, and a complete header line takes a slot. -/
theorem scan_eq_lines : scan = lines.scan false := by
  funext slots bytes
  have assoc {α β γ : Type} (s : Scan α) (f : α → List UInt8 → Scan β)
      (g : β → List UInt8 → Scan γ) :
      (s.andThen f).andThen g = s.andThen fun value rest => (f value rest).andThen g := by
    cases s <;> rfl
  simp only [scan, LineScanner.scan, LineScanner.headWith, lines, scanStatusLine, Scan.map, assoc,
    scanHeaderLines_eq]
  rfl

end ResponseHead

namespace UpgradeResponse

theorem headerSlots_eq {buffer : List UInt8} (h : buffer.length ≤ maxHeadSize) :
    headerSlots buffer = max (buffer.count 0x0A) minHeaderSlots := by
  rw [headerSlots, List.take_of_length_le h]

theorem begun_le_headerSlots (lines : LineScanner) {buffer : List UInt8}
    (h : buffer.length ≤ maxHeadSize) : lines.begun buffer ≤ headerSlots buffer :=
  Nat.le_trans (lines.begun_le_count buffer) (count_le_headerSlots List.prefix_rfl h)

theorem parseWith?_scanAll (lines : LineScanner) (early : Bool) {buffer : List UInt8}
    (h : buffer.length ≤ maxHeadSize) :
    parseWith? (lines.scan early) buffer = parseWith? lines.scanAll buffer := by
  unfold parseWith?
  rw [lines.scan_eq_scanAll early (begun_le_headerSlots lines h)]

/-- A head within the size limit, complete, cut short or malformed, is judged as it
would be with any number of slots. However its lines are recognised, and whether they take
their slots early or late, no more header lines are begun than there are slots. -/
theorem parse?_unlimited (lines : LineScanner) (early : Bool) {buffer : List UInt8}
    (h : buffer.length ≤ maxHeadSize) :
    headerSlots buffer = max (buffer.count 0x0A) minHeaderSlots ∧
      lines.begun buffer ≤ headerSlots buffer ∧
      parseWith? (lines.scan early) buffer = parseWith? lines.scanAll buffer ∧
      parse? buffer = parseWith? ResponseHead.lines.scanAll buffer := by
  refine ⟨headerSlots_eq h, begun_le_headerSlots lines h, parseWith?_scanAll lines early h, ?_⟩
  rw [parse?, ResponseHead.scan_eq_lines]
  exact parseWith?_scanAll ResponseHead.lines false h

/-- A head that is cut short inside its twenty-first header line. -/
theorem parse?_unlimited_many :
    let buffer := Utf8.encode "HTTP/1.1 101 \r\n" ++
      (List.replicate 20 (Utf8.encode "A: b\r\n")).flatten ++ Utf8.encode "C"
    buffer.length ≤ maxHeadSize ∧ ResponseHead.lines.begun buffer = 21 ∧
      headerSlots buffer = 21 ∧
      parseWith? (ResponseHead.lines.scan true) buffer =
        parseWith? ResponseHead.lines.scanAll buffer ∧
      parse? buffer = parseWith? ResponseHead.lines.scanAll buffer := by
  intro buffer
  have hl : buffer.length ≤ maxHeadSize := by decide +kernel
  obtain ⟨hslots, -, hearly, hparse⟩ := parse?_unlimited ResponseHead.lines true hl
  exact ⟨hl, by decide +kernel, hslots.trans (by decide +kernel), hearly, hparse⟩

end UpgradeResponse

end WebSocket
