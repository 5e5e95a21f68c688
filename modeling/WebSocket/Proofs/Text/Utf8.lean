import WebSocket.Text

/-!
# Bytes of text

The bytes of a text are those of its characters, one after the other, and an ASCII
character is a byte of its own (`Utf8.encode_ascii`).
-/

namespace WebSocket

theorem Ascii.toNat_toUInt8 {c : Char} (h : c.toNat < 128) : c.toUInt8.toNat = c.toNat := by
  show c.val.toUInt8.toNat = c.val.toNat
  rw [UInt32.toNat_toUInt8]
  exact Nat.mod_eq_of_lt (Nat.lt_trans h (by decide))

namespace Utf8

@[simp] theorem encode_append (front back : String) :
    encode (front ++ back) = encode front ++ encode back := by
  simp [encode, String.toUTF8_eq_toByteArray]

@[simp] theorem encode_empty : encode "" = [] := by
  simp [encode, String.toUTF8_eq_toByteArray]

theorem encode_eq_flatMap (text : String) :
    encode text = text.toList.flatMap String.utf8EncodeChar := by
  have h : text.toByteArray = text.toList.utf8Encode := by
    rw [← String.toByteArray_ofList, String.ofList_toList]
  simp [encode, String.toUTF8_eq_toByteArray, h, List.utf8Encode]

theorem utf8EncodeChar_ascii (h : c.toNat < 128) : String.utf8EncodeChar c = [c.toUInt8] := by
  have hs : c.utf8Size = 1 := by
    rw [Char.utf8Size_eq_one_iff, UInt32.le_iff_toNat_le]
    exact Nat.le_of_lt_succ h
  exact String.utf8EncodeChar_eq_singleton hs

variable {text : String} (h : ∀ c ∈ text.toList, c.toNat < 128)

include h

theorem encode_ascii : encode text = text.toList.map Char.toUInt8 := by
  rw [encode_eq_flatMap, List.map_eq_flatMap, List.flatMap_def,
    List.map_congr_left fun c hc => utf8EncodeChar_ascii (h c hc)]
  rfl

theorem length_encode_ascii : (encode text).length = text.toList.length := by
  rw [encode_ascii h, List.length_map]

theorem toNat_of_mem_encode (hb : b ∈ encode text) : ∃ c ∈ text.toList, b.toNat = c.toNat := by
  rw [encode_ascii h] at hb
  obtain ⟨c, hc, rfl⟩ := List.mem_map.mp hb
  exact ⟨c, hc, Ascii.toNat_toUInt8 (h c hc)⟩

end Utf8

end WebSocket
