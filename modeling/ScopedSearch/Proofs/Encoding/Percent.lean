import ScopedSearch.Encoding.Percent
import ScopedSearch.Proofs.Text.Bytes

/-!
# Percent encoding undone

A text that is encoded as a segment has in it letters, digits, four marks and escapes of two upper
case digits, and nothing else; and it is found again by putting a byte in the place of each of
these.  So two texts that are encoded alike are one text.

## Main results

* `isSegment_encode`: what stands in the segment of a text.
* `decodeBytes?_encodeBytes`: the bytes of a segment are those that it was made of.
* `decode?_encode`: the text of a segment is the one that it was made of.
-/

namespace ScopedSearch.Percent

open ScopedSearch.Text

/-! ## What stands in a segment -/

/-- A character that stands for itself. -/
def IsUnreserved (c : Char) : Prop := c.isAlphanum = true ∨ c ∈ ['-', '.', '_', '~']

/-- A digit of an escape. -/
def IsEscapeDigit (c : Char) : Prop := c ∈ "0123456789ABCDEF".toList

/-- The text is made of characters that stand for themselves, and of escapes. -/
inductive IsSegment : List Char → Prop
  | nil : IsSegment []
  | unreserved {c : Char} {cs : List Char} :
      IsUnreserved c → IsSegment cs → IsSegment (c :: cs)
  | escape {h l : Char} {cs : List Char} :
      IsEscapeDigit h → IsEscapeDigit l → IsSegment cs → IsSegment ('%' :: h :: l :: cs)

theorem isUnreserved_iff {b : UInt8} :
    isUnreserved b = true ↔ IsUnreserved (Char.ofNat b.toNat) := by
  simp [isUnreserved, IsUnreserved, or_assoc]

theorem isEscapeDigit_hexDigitUpper : ∀ n < 16, IsEscapeDigit (hexDigitUpper n) := by
  unfold IsEscapeDigit
  decide

theorem hexValue?_hexDigitUpper : ∀ n < 16, hexValue? (hexDigitUpper n) = some n := by decide

theorem IsSegment.encodeByte_append (b : UInt8) {cs : List Char} (h : IsSegment cs) :
    IsSegment (encodeByte b ++ cs) := by
  have hb := b.toNat_lt
  unfold encodeByte
  split
  · next hplain => exact .unreserved (isUnreserved_iff.1 hplain) h
  · exact .escape (isEscapeDigit_hexDigitUpper _ (by omega))
      (isEscapeDigit_hexDigitUpper _ (by omega)) h

theorem isSegment_encodeBytes (bytes : List UInt8) : IsSegment (encodeBytes bytes) := by
  induction bytes with
  | nil => exact .nil
  | cons b bytes ih => exact ih.encodeByte_append b

/-- The segment of two texts in a row is those of the two in a row. -/
theorem encode_append (s t : String) : encode (s ++ t) = encode s ++ encode t := by
  rw [encode, toList_toUTF8_append, encodeBytes, List.flatMap_append, String.ofList_append]
  rfl

/-- The segment of a text has in it what stands for itself, and escapes. -/
theorem isSegment_encode (s : String) : IsSegment (encode s).toList := by
  rw [encode, String.toList_ofList]
  exact isSegment_encodeBytes _

/-- The characters of a segment, one by one. -/
theorem IsSegment.of_mem {cs : List Char} (h : IsSegment cs) {c : Char} (hc : c ∈ cs) :
    c.isAlphanum = true ∨ c ∈ ['-', '.', '_', '~', '%'] := by
  have hdigits : "0123456789ABCDEF".toList.all Char.isAlphanum = true := by decide
  have hdigit : ∀ {d : Char}, IsEscapeDigit d → d.isAlphanum = true :=
    fun hd => List.all_eq_true.1 hdigits _ hd
  induction h with
  | nil => cases hc
  | unreserved hplain _ ih =>
    rcases List.mem_cons.1 hc with rfl | hc
    · exact hplain.imp_right fun hmark => List.mem_append_left ['%'] hmark
    · exact ih hc
  | escape hhigh hlow _ ih =>
    simp only [List.mem_cons] at hc
    rcases hc with rfl | rfl | rfl | hc
    · exact .inr (by decide)
    · exact .inl (hdigit hhigh)
    · exact .inl (hdigit hlow)
    · exact ih hc

/-! ## Reading a segment -/

/-- The text that a segment stands for. -/
def decode? (segment : String) : Option String :=
  (decodeBytes? segment.toList).bind fun bytes => String.fromUTF8? ⟨bytes.toArray⟩

theorem decodeBytes?_cons {c : Char} (hc : c ≠ '%') (cs : List Char) :
    decodeBytes? (c :: cs) = (decodeBytes? cs).map (UInt8.ofNat c.toNat :: ·) := by
  rw [decodeBytes?]
  · rw [if_neg hc]
    cases decodeBytes? cs <;> rfl
  · rintro h l rest rfl
    exact absurd rfl hc

theorem decodeBytes?_escape {h l : Char} {high low : Nat} (hhigh : hexValue? h = some high)
    (hlow : hexValue? l = some low) (cs : List Char) :
    decodeBytes? ('%' :: h :: l :: cs) =
      (decodeBytes? cs).map (UInt8.ofNat (16 * high + low) :: ·) := by
  rw [decodeBytes?, hhigh, hlow]
  cases decodeBytes? cs <;> rfl

theorem decodeBytes?_encodeByte (b : UInt8) (cs : List Char) :
    decodeBytes? (encodeByte b ++ cs) = (decodeBytes? cs).map (b :: ·) := by
  have hb := b.toNat_lt
  unfold encodeByte
  split
  · next hplain =>
    have hvalid : b.toNat.isValidChar := .inl (by omega)
    have hchar : (Char.ofNat b.toNat).toNat = b.toNat := by
      rw [Char.ofNat, dif_pos hvalid]
      rfl
    have hne : Char.ofNat b.toNat ≠ '%' := by
      intro h
      rw [isUnreserved_iff, h] at hplain
      revert hplain
      unfold IsUnreserved
      decide
    rw [List.singleton_append, decodeBytes?_cons hne, hchar, UInt8.ofNat_toNat]
  · rw [List.cons_append, List.cons_append, List.cons_append, List.nil_append,
      decodeBytes?_escape (hexValue?_hexDigitUpper _ (by omega))
        (hexValue?_hexDigitUpper _ (by omega)),
      Nat.div_add_mod, UInt8.ofNat_toNat]

/-- The bytes of a segment are those that it was made of. -/
theorem decodeBytes?_encodeBytes (bytes : List UInt8) :
    decodeBytes? (encodeBytes bytes) = some bytes := by
  induction bytes with
  | nil => rfl
  | cons b bytes ih =>
    rw [encodeBytes, List.flatMap_cons, decodeBytes?_encodeByte]
    exact congrArg (Option.map (b :: ·)) ih

/-- The text of a segment is the one that it was made of. -/
theorem decode?_encode (s : String) : decode? (encode s) = some s := by
  rw [decode?, encode, String.toList_ofList, decodeBytes?_encodeBytes, Option.bind_some,
    toArray_toList, fromUTF8?_toUTF8]

end ScopedSearch.Percent
