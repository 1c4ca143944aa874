import ScopedSearch.Json.Printer
import ScopedSearch.Proofs.Text.Bytes
import ScopedSearch.Proofs.Text.Numerals

/-!
# The compact form stays on one line

A value is written without any blank of its own, and what its texts hold is escaped, so that no
control character is left: the compact form of a value, whatever its texts, is a row of characters
from the space on.  Hence it may be framed by line feeds, as feeds of events are and the batches for
a cluster.

## Main results

* `isPrintable_of_mem_compact`: no control character stands in the compact form.
* `not_mem_toUTF8_compact`: nor does such a byte stand among its bytes.
-/

namespace ScopedSearch.Json

open ScopedSearch.Text

/-- The character is no control character of ASCII below the space. -/
def IsPrintable (c : Char) : Prop := 0x20 ≤ c.toNat

instance (c : Char) : Decidable (IsPrintable c) := inferInstanceAs (Decidable (0x20 ≤ c.toNat))

/-- All the characters are printable. -/
def Printable (cs : List Char) : Prop := ∀ c ∈ cs, IsPrintable c

instance (cs : List Char) : Decidable (Printable cs) := List.decidableBAll IsPrintable cs

theorem isPrintable_of_isDigit {c : Char} (h : c.isDigit = true) : IsPrintable c := by
  simp only [Char.isDigit, Bool.and_eq_true, decide_eq_true_eq] at h
  have hlow : (48 : UInt32).toNat ≤ c.toNat := h.1
  exact Nat.le_trans (by decide) hlow

theorem Printable.append {cs ds : List Char} (hc : Printable cs) (hd : Printable ds) :
    Printable (cs ++ ds) := by
  intro c h
  rcases List.mem_append.1 h with h | h
  · exact hc c h
  · exact hd c h

theorem Printable.cons {c : Char} {cs : List Char} (hc : IsPrintable c) (hcs : Printable cs) :
    Printable (c :: cs) := List.forall_mem_cons.2 ⟨hc, hcs⟩

/-! ## Texts -/

theorem isPrintable_hexDigit : ∀ n < 16, IsPrintable (hexDigit n) := by decide

/-- A character is escaped by printable ones. -/
theorem printable_escape (c : Char) : Printable (escape c) := by
  unfold escape
  -- the escapes of one letter
  iterate 7 (split; · decide)
  split
  · next hcontrol =>
    have hhigh : IsPrintable (hexDigit (c.toNat / 16)) := isPrintable_hexDigit _ (by omega)
    have hlow : IsPrintable (hexDigit (c.toNat % 16)) := isPrintable_hexDigit _ (by omega)
    have hlead : Printable ['\\', 'u', '0', '0'] := by decide
    exact hlead.append (.cons hhigh (.cons hlow (List.forall_mem_nil _)))
  · next hplain =>
    exact .cons (Nat.not_lt.1 hplain) (List.forall_mem_nil _)

theorem printable_quote (s : String) : Printable (quote s) := by
  have htext : Printable (s.toList.flatMap escape) := by
    intro c hc
    obtain ⟨d, _, hcd⟩ := List.mem_flatMap.1 hc
    exact printable_escape d c hcd
  exact .cons (by decide) (htext.append (by decide))

/-! ## Numbers -/

theorem printable_natText (n : Nat) : Printable (natText n) := fun _ hc =>
  isPrintable_of_isDigit (isDigit_of_mem_natText hc)

theorem printable_intText (n : Int) : Printable (intText n) := by
  cases n with
  | ofNat n => exact printable_natText n
  | negSucc n => exact .cons (by decide) (printable_natText (n + 1))

theorem printable_replicate (n : Nat) : Printable (List.replicate n '0') := fun c hc => by
  rw [List.eq_of_mem_replicate hc]
  decide

theorem printable_decimalText (d : Decimal) : Printable (decimalText d) := by
  unfold decimalText
  extract_lets ds p mantissa body
  have hdigits : Printable ds := printable_natText d.digits
  have hmantissa : Printable mantissa := by
    unfold mantissa
    clear_value ds
    match ds with
    | [] | [_] => exact hdigits
    | x :: y :: rest =>
      obtain ⟨hx, hrest⟩ := List.forall_mem_cons.1 hdigits
      exact .cons hx (.cons (by decide) hrest)
  have hbody : Printable body := by
    unfold body
    split
    · decide
    split
    · exact (hdigits.append (printable_replicate _)).append (by decide)
    split
    · exact Printable.append (fun c hc => hdigits c (List.mem_of_mem_take hc))
        (.cons (by decide) fun c hc => hdigits c (List.mem_of_mem_drop hc))
    split
    · exact .cons (by decide) (.cons (by decide) ((printable_replicate _).append hdigits))
    · exact hmantissa.append (.cons (by decide) (printable_intText _))
  split
  · exact .cons (by decide) hbody
  · exact hbody

/-! ## Values -/

mutual

theorem printable_chars (v : Json) : Printable v.chars := by
  match v with
  | .null | .bool true | .bool false | .void => decide
  | .int n => exact printable_intText n
  | .decimal d => exact printable_decimalText d
  | .text s => exact printable_quote s
  | .list items =>
    rw [chars]
    exact .cons (by decide) ((printable_charsList items).append (by decide))
  | .record fields =>
    rw [chars]
    exact .cons (by decide) ((printable_charsFields fields).append (by decide))

theorem printable_charsList (items : List Json) : Printable (charsList items) := by
  match items with
  | [] => exact List.forall_mem_nil _
  | [v] => exact printable_chars v
  | v :: w :: vs =>
    rw [charsList]
    exact (printable_chars v).append (.cons (by decide) (printable_charsList (w :: vs)))

theorem printable_charsFields (fields : List (String × Json)) : Printable (charsFields fields) := by
  match fields with
  | [] => exact List.forall_mem_nil _
  | [(k, v)] => exact (printable_quote k).append (.cons (by decide) (printable_chars v))
  | (k, v) :: f :: fs =>
    rw [charsFields]
    exact (printable_quote k).append (.cons (by decide)
      ((printable_chars v).append (.cons (by decide) (printable_charsFields (f :: fs)))))

end

/-- No control character stands in the compact form of a value. -/
theorem isPrintable_of_mem_compact {v : Json} {c : Char} (h : c ∈ v.compact.toList) :
    IsPrintable c := by
  rw [compact, String.toList_ofList] at h
  exact printable_chars v c h

/-- A byte below the space does not stand in the compact form of a value. -/
theorem not_mem_toUTF8_compact (v : Json) {b : UInt8} (hb : b.toNat < 0x20) :
    b ∉ v.compact.toUTF8.toList := by
  intro h
  obtain ⟨c, hc, hcb⟩ := exists_char_of_mem_toUTF8 h (by omega)
  have hprintable : 0x20 ≤ c.toNat := isPrintable_of_mem_compact hc
  omega

end ScopedSearch.Json
