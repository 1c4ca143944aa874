/-!
# The bytes of a text

A text that is turned into bytes and back is the same text, also when the bytes go through a list on
the way, as they do in every spelling of bytes by characters.  Characters beyond ASCII have no bytes
below 128, so a byte of ASCII stands only where its character does.

## Main results

* `toArray_toList`: the list of the bytes of an array is the array again.
* `fromUTF8?_toUTF8`: the bytes of a text are the UTF-8 form of the text.
* `toNat_lt_of_mem_toUTF8`: no text has a byte as large as 248.
* `exists_char_of_mem_toUTF8`: a byte of ASCII is the byte of one of the characters.
-/

namespace ScopedSearch.Text

/-- Listing from a place on puts the bytes from there behind those listed before. -/
theorem bytes_listed_from (bs : ByteArray) (place : Nat) (listed : List UInt8) :
    ByteArray.toList.loop bs place listed = listed.reverse ++ bs.data.toList.drop place := by
  fun_induction ByteArray.toList.loop bs place listed with
  | case1 place listed hplace ih =>
    have hlength : place < bs.data.toList.length := hplace
    have hbyte : bs.get! place = bs.data.toList[place] := by
      simp [ByteArray.get!, getElem!_pos, hplace]
    rw [ih, List.drop_eq_getElem_cons hlength, List.reverse_cons, List.append_assoc, hbyte]
    rfl
  | case2 place listed hplace =>
    have hlength : bs.data.toList.length ≤ place := Nat.le_of_not_lt hplace
    rw [List.drop_eq_nil_of_le hlength, List.append_nil]

theorem toList_eq_data (bs : ByteArray) : bs.toList = bs.data.toList := bytes_listed_from bs 0 []

/-- The list of the bytes of an array is the array again. -/
theorem toArray_toList (bs : ByteArray) : ByteArray.mk bs.toList.toArray = bs := by
  rw [toList_eq_data, Array.toArray_toList]

/-- The bytes of a text are the UTF-8 form of the text. -/
theorem fromUTF8?_toUTF8 (s : String) : String.fromUTF8? s.toUTF8 = some s := by
  rw [String.fromUTF8?, dif_pos (by simpa using s.isValidUTF8)]
  rfl

/-- The bytes of a text are those of its characters in a row. -/
theorem toList_toUTF8 (s : String) :
    s.toUTF8.toList = s.toList.flatMap String.utf8EncodeChar := by
  rw [toList_eq_data, String.toUTF8_eq_toByteArray, ← String.utf8Encode_toList, List.utf8Encode,
    List.data_toByteArray]

theorem toList_toUTF8_append (s t : String) :
    (s ++ t).toUTF8.toList = s.toUTF8.toList ++ t.toUTF8.toList := by
  simp only [toList_toUTF8, String.toList_append, List.flatMap_append]

/-- A byte of ASCII among the bytes of a character is the character itself. -/
theorem toNat_eq_of_mem_utf8EncodeChar {c : Char} {b : UInt8} (h : b ∈ String.utf8EncodeChar c)
    (hb : b.toNat < 128) : c.toNat = b.toNat := by
  have hbyte : ∀ n, b = UInt8.ofNat n → b.toNat = n % 256 := by
    rintro n rfl
    exact UInt8.toNat_ofNat'
  have hval : c.val.toNat = c.toNat := rfl
  unfold String.utf8EncodeChar at h
  dsimp only at h
  split at h
  · rw [hbyte _ (List.mem_singleton.1 h)]
    omega
  · -- in the longer forms every byte is at least 128
    have hlarge : 128 ≤ b.toNat := by
      split at h
      · simp only [List.mem_cons, List.not_mem_nil, or_false] at h
        rcases h with h | h <;> rw [hbyte _ h] <;> omega
      split at h
      · simp only [List.mem_cons, List.not_mem_nil, or_false] at h
        rcases h with h | h | h <;> rw [hbyte _ h] <;> omega
      · simp only [List.mem_cons, List.not_mem_nil, or_false] at h
        rcases h with h | h | h | h <;> rw [hbyte _ h] <;> omega
    omega

/-- No byte of a character is as large as 248. -/
theorem toNat_lt_of_mem_utf8EncodeChar {c : Char} {b : UInt8} (h : b ∈ String.utf8EncodeChar c) :
    b.toNat < 248 := by
  have hbyte : ∀ n, b = UInt8.ofNat n → b.toNat = n % 256 := by
    rintro n rfl
    exact UInt8.toNat_ofNat'
  unfold String.utf8EncodeChar at h
  dsimp only at h
  split at h
  · rw [hbyte _ (List.mem_singleton.1 h)]
    omega
  split at h
  · simp only [List.mem_cons, List.not_mem_nil, or_false] at h
    rcases h with h | h <;> rw [hbyte _ h] <;> omega
  split at h
  · simp only [List.mem_cons, List.not_mem_nil, or_false] at h
    rcases h with h | h | h <;> rw [hbyte _ h] <;> omega
  · simp only [List.mem_cons, List.not_mem_nil, or_false] at h
    rcases h with h | h | h | h <;> rw [hbyte _ h] <;> omega

theorem toNat_lt_of_mem_toUTF8 {s : String} {b : UInt8} (h : b ∈ s.toUTF8.toList) :
    b.toNat < 248 := by
  rw [toList_toUTF8] at h
  obtain ⟨c, -, hbc⟩ := List.mem_flatMap.1 h
  exact toNat_lt_of_mem_utf8EncodeChar hbc

/-- A byte of ASCII in a text is the byte of one of its characters. -/
theorem exists_char_of_mem_toUTF8 {s : String} {b : UInt8} (h : b ∈ s.toUTF8.toList)
    (hb : b.toNat < 128) : ∃ c ∈ s.toList, c.toNat = b.toNat := by
  rw [toList_toUTF8] at h
  obtain ⟨c, hc, hbc⟩ := List.mem_flatMap.1 h
  exact ⟨c, hc, toNat_eq_of_mem_utf8EncodeChar hbc hb⟩

end ScopedSearch.Text
