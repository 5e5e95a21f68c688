import WebSocket.Proofs.Text.Digits
import WebSocket.Proofs.Text.Parts
import WebSocket.Url.IPv4

/-!
# IPv4 addresses are read back

Whatever form an address was given in, it fits into four bytes (`IPv4.parse?_lt`),
and its four decimal numbers are read as the same address (`IPv4.parse?_text`).
-/

namespace WebSocket.IPv4

-- ---------------------------------------------------------------------------
-- The text of an address
-- ---------------------------------------------------------------------------

def bytes (address : Nat) : List Nat :=
  [address / 16777216 % 256, address / 65536 % 256, address / 256 % 256, address % 256]

theorem lt_of_mem_bytes (h : byte ∈ bytes address) : byte < 256 := by
  simp only [bytes, List.mem_cons, List.not_mem_nil, or_false] at h
  omega

theorem text_eq (address : Nat) :
    text address = ['.'].intercalate ((bytes address).map Ascii.decimal) := by
  simp [text, bytes, List.intercalate]

theorem mem_text (h : c ∈ text address) : Ascii.isDigit c ∨ c = '.' := by
  simp only [text, List.mem_append, List.mem_cons] at h
  grind [Ascii.isDigit_of_mem_decimal]

theorem text_splitOn (address : Nat) :
    (text address).splitOn '.' = (bytes address).map Ascii.decimal := by
  rw [text_eq]
  refine List.splitOn_intercalate _ (fun label hl hd => ?_) (by simp [bytes])
  obtain ⟨byte, -, rfl⟩ := List.mem_map.mp hl
  exact absurd (Ascii.isDigit_of_mem_decimal hd) (by decide)

theorem labels_text (address : Nat) :
    labels (text address) = (bytes address).map Ascii.decimal := by
  have hlast : ((bytes address).map Ascii.decimal).getLast? ≠ some [] := by
    simp [bytes, Ascii.decimal_ne_nil]
  dsimp only [labels]
  rw [text_splitOn, if_neg hlast]

theorem endsInNumber_text (address : Nat) : endsInNumber (text address) = true := by
  have hlast : ((bytes address).map Ascii.decimal).getLast? =
      some (Ascii.decimal (address % 256)) := rfl
  have hall : (Ascii.decimal (address % 256)).all Ascii.isDigit = true :=
    List.all_eq_true.mpr fun _ => Ascii.isDigit_of_mem_decimal
  rw [endsInNumber, labels_text, hlast]
  simp only [hall, Bool.true_or, Bool.and_true, Bool.not_eq_true', List.isEmpty_eq_false_iff]
  exact Ascii.decimal_ne_nil _

-- ---------------------------------------------------------------------------
-- Reading
-- ---------------------------------------------------------------------------

/-- A byte in decimal has no leading zero, which would make it octal. -/
theorem number?_decimal (h : n < 256) : number? (Ascii.decimal n) = some n :=
  (by decide +kernel : ∀ n < 256, number? (Ascii.decimal n) = some n) n h

theorem combine?_bytes (h : address < BigEndian.bound 4) :
    combine? (bytes address) = some address := by
  have hb : BigEndian.bound 4 = 4294967296 := rfl
  simp [combine?, bytes, BigEndian.bound]
  omega

/-- One to four numbers, the last of which fills what is left of four bytes. -/
theorem combine?_lt (h : combine? numbers = some address) : address < BigEndian.bound 4 := by
  have hb : BigEndian.bound 4 = 4294967296 := rfl
  unfold combine? at h
  split at h
  · cases h
  · next last front _ =>
    rcases front with _ | ⟨a, _ | ⟨b, _ | ⟨c, _ | ⟨d, more⟩⟩⟩⟩
    all_goals simp [BigEndian.bound] at h
    all_goals omega

theorem parse?_lt (h : parse? host = some address) : address < BigEndian.bound 4 := by
  obtain ⟨numbers, -, h⟩ := Option.bind_eq_some_iff.mp h
  exact combine?_lt h

theorem parse?_text (h : address < BigEndian.bound 4) : parse? (text address) = some address := by
  have hread : ((bytes address).map Ascii.decimal).mapM number? = some (bytes address) :=
    Parts.mapM_map_eq_some fun _ hb => number?_decimal (lt_of_mem_bytes hb)
  rw [parse?, labels_text, hread, Option.bind_some, combine?_bytes h]

end WebSocket.IPv4
