/-!
# Cutting a text at a separator

`splitOn` cuts at every occurrence of one character and always yields at least one piece; `join`
puts the pieces back with the separator between them.

## Main results

* `join_splitOn`: cutting loses nothing.
* `not_mem_of_mem_splitOn`: no piece holds the separator.
* `splitOn_join`, `splitOn_flatMap`: pieces free of the separator are found again.
-/

namespace ScopedSearch.Text

/-- The pieces of a text between the occurrences of the separator; at least one piece. -/
def splitOn (sep : Char) : List Char → List (List Char)
  | [] => [[]]
  | c :: cs =>
    if c = sep then [] :: splitOn sep cs
    else
      match splitOn sep cs with
      | [] => [[c]]
      | piece :: pieces => (c :: piece) :: pieces

/-- The pieces in a row, with the separator between any two of them. -/
def join (sep : Char) : List (List Char) → List Char
  | [] => []
  | [piece] => piece
  | piece :: pieces => piece ++ sep :: join sep pieces

theorem splitOn_ne_nil (sep : Char) (cs : List Char) : splitOn sep cs ≠ [] := by
  cases cs with
  | nil => simp [splitOn]
  | cons c cs =>
    simp only [splitOn]
    split
    · simp
    · split <;> simp

theorem splitOn_sep (sep : Char) (cs : List Char) :
    splitOn sep (sep :: cs) = [] :: splitOn sep cs := by
  simp [splitOn]

/-- A piece free of the separator, then the separator, is cut off as it stands. -/
theorem splitOn_append (sep : Char) (piece cs : List Char) (h : sep ∉ piece) :
    splitOn sep (piece ++ sep :: cs) = piece :: splitOn sep cs := by
  induction piece with
  | nil => exact splitOn_sep sep cs
  | cons c piece ih =>
    have hc : ¬ c = sep := by
      intro e
      exact h (by simp [e])
    have hp : sep ∉ piece := fun hm => h (by simp [hm])
    simp [splitOn, hc, ih hp]

theorem splitOn_of_not_mem (sep : Char) (piece : List Char) (h : sep ∉ piece) :
    splitOn sep piece = [piece] := by
  induction piece with
  | nil => rfl
  | cons c piece ih =>
    have hc : ¬ c = sep := by
      intro e
      exact h (by simp [e])
    have hp : sep ∉ piece := fun hm => h (by simp [hm])
    simp [splitOn, hc, ih hp]

/-- Cutting loses nothing: the pieces and the separators make up the text. -/
theorem join_splitOn (sep : Char) (cs : List Char) : join sep (splitOn sep cs) = cs := by
  induction cs with
  | nil => rfl
  | cons c cs ih =>
    simp only [splitOn]
    split
    · rename_i h
      subst h
      cases hs : splitOn c cs with
      | nil => exact absurd hs (splitOn_ne_nil c cs)
      | cons p ps => rw [hs] at ih; simp [join, ih]
    · split
      · rename_i hs
        exact absurd hs (splitOn_ne_nil sep cs)
      · rename_i p ps hs
        rw [hs] at ih
        cases ps with
        | nil => simpa [join] using ih
        | cons q qs => simpa [join] using ih

/-- Joining adds no character but the separator. -/
theorem mem_join {sep c : Char} {pieces : List (List Char)} (h : c ∈ join sep pieces) :
    c = sep ∨ ∃ piece ∈ pieces, c ∈ piece := by
  induction pieces with
  | nil => cases h
  | cons p ps ih =>
    cases ps with
    | nil => exact .inr ⟨p, List.mem_singleton_self p, h⟩
    | cons q qs =>
      have h : c ∈ p ++ sep :: join sep (q :: qs) := h
      rw [List.mem_append, List.mem_cons] at h
      rcases h with h | rfl | h
      · exact .inr ⟨p, List.mem_cons_self, h⟩
      · exact .inl rfl
      · exact (ih h).imp_right fun ⟨r, hr, hc⟩ => ⟨r, List.mem_cons_of_mem p hr, hc⟩

/-- No piece holds the separator. -/
theorem not_mem_of_mem_splitOn {sep : Char} {cs piece : List Char} (h : piece ∈ splitOn sep cs) :
    sep ∉ piece := by
  induction cs generalizing piece with
  | nil => simp [splitOn] at h; simp [h]
  | cons c cs ih =>
    simp only [splitOn] at h
    split at h
    · rcases List.mem_cons.1 h with rfl | h
      · simp
      · exact ih h
    · rename_i hc
      split at h
      · simp only [List.mem_singleton] at h
        subst h
        simp [Ne.symm hc]
      · rename_i p ps hs
        rcases List.mem_cons.1 h with rfl | h
        · have := @ih p (by simp [hs])
          simp [this, Ne.symm hc]
        · exact ih (by simp [hs, h])

/-- Pieces free of the separator are found again. -/
theorem splitOn_join (sep : Char) (pieces : List (List Char)) (hne : pieces ≠ [])
    (h : ∀ p ∈ pieces, sep ∉ p) : splitOn sep (join sep pieces) = pieces := by
  induction pieces with
  | nil => exact absurd rfl hne
  | cons p ps ih =>
    cases ps with
    | nil => exact splitOn_of_not_mem sep p (h p (by simp))
    | cons q qs =>
      rw [join, splitOn_append sep p _ (h p (by simp)),
        ih (by simp) (fun r hr => h r (by simp [hr]))]
      simp

/-- Pieces with the separator behind each of them are found again, and nothing behind the last. -/
theorem splitOn_flatMap (sep : Char) (pieces : List (List Char)) (h : ∀ p ∈ pieces, sep ∉ p) :
    splitOn sep (pieces.flatMap (· ++ [sep])) = pieces ++ [[]] := by
  induction pieces with
  | nil => rfl
  | cons p ps ih =>
    have hp : sep ∉ p := h p List.mem_cons_self
    have hps : ∀ r ∈ ps, sep ∉ r := fun r hr => h r (List.mem_cons_of_mem p hr)
    rw [List.flatMap_cons, List.append_assoc, List.singleton_append, splitOn_append sep p _ hp,
      ih hps, List.cons_append]

end ScopedSearch.Text
