/-!
# Blank characters

White space in the sense of Unicode, and the removal of it from the two ends of a text.  A text is
blank when it holds nothing else.

## Main results

* `trimStart_eq_nil_iff`: trimming leaves nothing exactly when the text is blank.
* `trim_eq_empty_iff`: the same for `String`.
* `trim_trim`: trimming twice is trimming once.
-/

namespace ScopedSearch.Text

/-- The character has the Unicode property White_Space. -/
def isBlank (c : Char) : Bool :=
  let n := c.toNat
  (9 ≤ n && n ≤ 13) || n == 0x20 || n == 0x85 || n == 0xA0 || n == 0x1680 ||
    (0x2000 ≤ n && n ≤ 0x200A) || n == 0x2028 || n == 0x2029 || n == 0x202F || n == 0x205F ||
    n == 0x3000

/-- The text without the blanks it starts with. -/
def trimStart (cs : List Char) : List Char := cs.dropWhile isBlank

/-- The text without the blanks it ends with. -/
def trimEnd (cs : List Char) : List Char := (cs.reverse.dropWhile isBlank).reverse

/-- The text without the blanks at its two ends. -/
def trim (s : String) : String := String.ofList (trimEnd (trimStart s.toList))

theorem trimStart_eq_nil_iff {cs : List Char} : trimStart cs = [] ↔ ∀ c ∈ cs, isBlank c := by
  induction cs with
  | nil => simp [trimStart]
  | cons c cs ih =>
    simp only [trimStart, List.dropWhile_cons] at ih ⊢
    split <;> simp_all

theorem trimEnd_eq_nil_iff {cs : List Char} : trimEnd cs = [] ↔ ∀ c ∈ cs, isBlank c := by
  have h := @trimStart_eq_nil_iff cs.reverse
  simp only [List.mem_reverse] at h
  rw [trimEnd, List.reverse_eq_nil_iff]
  exact h

theorem not_isBlank_of_trimStart_eq_cons {c : Char} {cs ds : List Char}
    (h : trimStart cs = c :: ds) : ¬ isBlank c := by
  induction cs with
  | nil => simp [trimStart] at h
  | cons x xs ih =>
    simp only [trimStart, List.dropWhile_cons] at ih h
    split at h
    · exact ih h
    · rename_i hx
      simp only [List.cons.injEq] at h
      exact h.1 ▸ hx

theorem mem_trimStart {c : Char} {cs : List Char} (h : c ∈ trimStart cs) : c ∈ cs :=
  (List.dropWhile_sublist _).subset h

/-- Trimming leaves nothing exactly when the text is blank. -/
theorem trim_eq_empty_iff {s : String} : trim s = "" ↔ ∀ c ∈ s.toList, isBlank c := by
  have e : trim s = "" ↔ trimEnd (trimStart s.toList) = [] := by
    constructor
    · intro h
      have := congrArg String.toList h
      simpa [trim] using this
    · intro h
      simp [trim, h]
  rw [e, trimEnd_eq_nil_iff]
  constructor
  · intro h
    have hnil : trimStart s.toList = [] := by
      cases ht : trimStart s.toList with
      | nil => rfl
      | cons c cs =>
        have hb := h c (by simp [ht])
        have hd : ¬ isBlank c := not_isBlank_of_trimStart_eq_cons ht
        exact absurd hb hd
    exact trimStart_eq_nil_iff.1 hnil
  · intro h c hc
    exact h c (mem_trimStart hc)

/-- Behind a character that is no blank, the blanks at the end are taken away once and for all. -/
theorem trimEnd_append_trimEnd {cs : List Char} (h : ∀ c ∈ cs.getLast?, ¬ isBlank c)
    (ds : List Char) : trimEnd (cs ++ trimEnd ds) = cs ++ trimEnd ds := by
  have hhead : ∀ c ∈ ((trimEnd ds).reverse ++ cs.reverse).head?, ¬ isBlank c := by
    intro c hc
    rw [List.head?_append, trimEnd, List.reverse_reverse, List.head?_reverse] at hc
    cases hds : (ds.reverse.dropWhile isBlank).head? with
    | none =>
      rw [hds] at hc
      exact h c hc
    | some d =>
      rw [hds] at hc
      cases hc
      have hnot := List.head?_dropWhile_not isBlank ds.reverse
      rw [hds] at hnot
      simpa using hnot
  have hkeep : ((trimEnd ds).reverse ++ cs.reverse).dropWhile isBlank =
      (trimEnd ds).reverse ++ cs.reverse := by
    cases hcons : (trimEnd ds).reverse ++ cs.reverse with
    | nil => rfl
    | cons c rest =>
      rw [hcons] at hhead
      exact List.dropWhile_cons_of_neg (hhead c rfl)
  rw [trimEnd, List.reverse_append, hkeep, List.reverse_append, List.reverse_reverse,
    List.reverse_reverse]

theorem trimEnd_prefix (cs : List Char) : trimEnd cs <+: cs := by
  rw [← List.reverse_suffix, trimEnd, List.reverse_reverse]
  exact List.dropWhile_suffix _

/-- A text that was trimmed has no blanks at its ends. -/
theorem trim_trim (s : String) : trim (trim s) = trim s := by
  have hstart : trimStart (trimEnd (trimStart s.toList)) = trimEnd (trimStart s.toList) := by
    cases htrim : trimEnd (trimStart s.toList) with
    | nil => rfl
    | cons c cs =>
      obtain ⟨rest, hrest⟩ := trimEnd_prefix (trimStart s.toList)
      rw [htrim, List.cons_append] at hrest
      exact List.dropWhile_cons_of_neg (not_isBlank_of_trimStart_eq_cons hrest.symm)
  have hend : trimEnd (trimEnd (trimStart s.toList)) = trimEnd (trimStart s.toList) :=
    @trimEnd_append_trimEnd [] (fun _ hc => nomatch hc) (trimStart s.toList)
  rw [trim, trim, String.toList_ofList, hstart, hend]

end ScopedSearch.Text
