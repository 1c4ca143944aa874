import Mathlib.Data.List.TakeWhile
import ScopedSearch.Text.Numeral

/-!
# Numerals read back

What the decimal numeral of a number looks like, and that its digits denote the number.  The readers
of the text formats take the longest row of digits that a text starts with; they find the numeral
again whenever no digit follows it.  Where a text has to be a numeral as a whole, a word is read in
it exactly when it is one, with at most a plus sign before the digits, of a number in range.

## Main results

* `digitsValue_natText`: the numeral of a number denotes it.
* `takeWhile_natText_append`: a numeral is found at the start of a text.
* `head?_natText_ne_zero`: a numeral has no leading zero.
* `readWord_eq_ok_iff`: the texts in which a word is read.
-/

namespace ScopedSearch.Text

theorem natText_ne_nil (n : Nat) : natText n ≠ [] := Nat.toDigits_ne_nil

theorem isDigit_of_mem_natText {n : Nat} {c : Char} (h : c ∈ natText n) : c.isDigit = true :=
  Nat.isDigit_of_mem_toDigits (by decide) (by decide) h

/-- The numeral of a number denotes it. -/
@[simp] theorem digitsValue_natText (n : Nat) : digitsValue (natText n) = n :=
  Nat.ofDigitChars_ten_toDigits

/-- Only the numeral of zero starts with a zero. -/
theorem head?_natText_ne_zero {n : Nat} (h : n ≠ 0) : (natText n).head? ≠ some '0' := by
  induction n using Nat.strongRecOn with
  | ind n ih =>
    unfold natText at ih ⊢
    by_cases hsmall : n < 10
    · rw [Nat.toDigits_of_lt_base hsmall]
      have hdigits : ∀ m < 10, m ≠ 0 → [Nat.digitChar m].head? ≠ some '0' := by decide
      exact hdigits n hsmall h
    · -- the first digit is that of the number without its last digit
      have hhead : (Nat.toDigits 10 n).head? = (Nat.toDigits 10 (n / 10)).head? := by
        rw [Nat.toDigits_of_base_le (by decide) (by omega), List.head?_append,
          List.head?_eq_some_head Nat.toDigits_ne_nil]
        rfl
      rw [hhead]
      exact ih (n / 10) (by omega) (by omega)

/-- A numeral of more than one digit does not start with a zero. -/
theorem head?_natText_of_one_lt {n : Nat} (h : 1 < (natText n).length) :
    (natText n).head? ≠ some '0' := by
  apply head?_natText_ne_zero
  rintro rfl
  exact absurd h (by decide)

/-- A numeral is found at the start of a text in which no digit follows it. -/
theorem takeWhile_natText_append (n : Nat) {rest : List Char}
    (h : ∀ c ∈ rest.head?, c.isDigit = false) :
    (natText n ++ rest).takeWhile Char.isDigit = natText n := by
  rw [List.takeWhile_append_of_pos fun c hc => isDigit_of_mem_natText hc]
  cases rest with
  | nil => simp
  | cons c cs => simp [h c rfl]

theorem hexValue?_hexDigit : ∀ n < 16, hexValue? (hexDigit n) = some n := by decide

/-! ## Texts that are numerals -/

/-- The text is a numeral of the number: digits, and before them at most one plus sign. -/
def IsNumeral (cs : List Char) (n : Nat) : Prop :=
  ∃ digits, (cs = digits ∨ cs = '+' :: digits) ∧ digits ≠ [] ∧
    (∀ c ∈ digits, c.isDigit = true) ∧ digitsValue digits = n

/-- What stands behind a sign, read as the digits of a word. -/
def readDigits (cs : List Char) : Except NumeralFault Int :=
  let digits := cs.takeWhile Char.isDigit
  let value : Int := digitsValue digits
  if value < 0 then .error .belowRange
  else if maxWord < value then .error .aboveRange
  else if digits.isEmpty || digits.length < cs.length then .error .invalidDigit
  else .ok value

theorem readDigits_eq_ok_iff (cs : List Char) {v : Int} :
    readDigits cs = .ok v ↔
      cs ≠ [] ∧ (∀ c ∈ cs, c.isDigit = true) ∧ (digitsValue cs : Int) = v ∧ v ≤ maxWord := by
  constructor
  · intro h
    simp only [readDigits] at h
    split at h
    · cases h
    split at h
    · cases h
    next hmax =>
    split at h
    · cases h
    next hwhole =>
    -- the digits are all that there is
    simp only [Bool.or_eq_true, List.isEmpty_iff, decide_eq_true_eq, not_or, Nat.not_lt] at hwhole
    obtain ⟨hne, hlength⟩ := hwhole
    have hself := (List.takeWhile_prefix Char.isDigit).eq_of_length_le hlength
    rw [hself] at h hmax hne
    injection h with h
    subst h
    exact ⟨hne, List.takeWhile_eq_self_iff.1 hself, rfl, Int.not_lt.1 hmax⟩
  · rintro ⟨hne, hdigits, rfl, hmax⟩
    simp only [readDigits]
    rw [List.takeWhile_eq_self_iff.2 hdigits, if_neg (Int.not_lt.2 (Int.natCast_nonneg _)),
      if_neg (Int.not_lt.2 hmax), if_neg (by simp [hne])]

/-- A number without sign is read in digits, with or without a plus sign before them. -/
theorem readInt_eq_ok_iff {cs : List Char} {v : Int} :
    readInt 0 maxWord cs = .ok v ↔
      ∃ digits, (cs = digits ∨ cs = '+' :: digits) ∧ digits ≠ [] ∧
        (∀ c ∈ digits, c.isDigit = true) ∧ (digitsValue digits : Int) = v ∧ v ≤ maxWord := by
  have hsigns : ∀ c, c.isDigit = true → c ≠ '+' ∧ c ≠ '-' := by
    rintro c hc
    constructor <;> rintro rfl <;> exact absurd hc (by decide)
  unfold readInt
  split
  · constructor
    · nofun
    · rintro ⟨digits, rfl | h, hne, -⟩
      · exact absurd rfl hne
      · cases h
  · next rest =>
    refine (readDigits_eq_ok_iff rest).trans ⟨fun h => ⟨rest, .inr rfl, h⟩, ?_⟩
    rintro ⟨digits, rfl | h, hne, hdigits, hv⟩
    · exact absurd rfl (hsigns '+' (hdigits _ List.mem_cons_self)).1
    · obtain rfl := (List.cons.inj h).2
      exact ⟨hne, hdigits, hv⟩
  · constructor
    · nofun
    · rintro ⟨digits, rfl | h, hne, hdigits, -⟩
      · exact absurd rfl (hsigns '-' (hdigits _ List.mem_cons_self)).2
      · cases h
  · next hplus _ =>
    refine (readDigits_eq_ok_iff cs).trans ⟨fun h => ⟨cs, .inl rfl, h⟩, ?_⟩
    rintro ⟨digits, rfl | h, hrest⟩
    · exact hrest
    · exact absurd h (hplus digits)

/-- A word is read in the numerals of the numbers that it can hold, and in nothing else. -/
theorem readWord_eq_ok_iff {cs : List Char} {n : Nat} :
    readWord cs = .ok n ↔ IsNumeral cs n ∧ n ≤ maxWord := by
  unfold readWord
  constructor
  · intro h
    rcases hv : readInt 0 maxWord cs with e | v
    · rw [hv] at h
      cases h
    · rw [hv] at h
      obtain ⟨digits, hcs, hne, hdigits, rfl, hmax⟩ := readInt_eq_ok_iff.1 hv
      cases h
      exact ⟨⟨digits, hcs, hne, hdigits, rfl⟩, Int.ofNat_le.1 hmax⟩
  · rintro ⟨⟨digits, hcs, hne, hdigits, rfl⟩, hmax⟩
    rw [readInt_eq_ok_iff.2 ⟨digits, hcs, hne, hdigits, rfl, Int.ofNat_le.2 hmax⟩]
    rfl

end ScopedSearch.Text
