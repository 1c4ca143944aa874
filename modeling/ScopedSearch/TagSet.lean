/-!
# Tag sets

A finite set of texts, kept as the strictly ascending list of its members.  The order is that of
the code points, so two tag sets with the same members are equal and are shown alike.

## Main results

* `mem_insert`, `mem_union`, `mem_diff`, `mem_ofList`: membership after each operation.
* `ext`: sets with the same members are equal.
* `union_eq_self_iff`, `diff_eq_self_iff`: a set of the same size is the same set.
-/

namespace ScopedSearch

/-- A finite set of texts. -/
structure TagSet where
  /-- The members in strictly ascending order. -/
  toList : List String
  /-- The members ascend strictly. -/
  sorted : toList.Pairwise (· < ·)
  deriving DecidableEq

namespace TagSet

/-- The set without members. -/
def empty : TagSet := ⟨[], List.Pairwise.nil⟩

instance : Inhabited TagSet := ⟨empty⟩

instance : Repr TagSet := ⟨fun s n => reprPrec s.toList n⟩

/-- The tag is a member. -/
def contains (s : TagSet) (tag : String) : Bool := s.toList.contains tag

instance : Membership String TagSet := ⟨fun s tag => tag ∈ s.toList⟩

instance (tag : String) (s : TagSet) : Decidable (tag ∈ s) :=
  inferInstanceAs (Decidable (tag ∈ s.toList))

theorem mem_def {tag : String} {s : TagSet} : tag ∈ s ↔ tag ∈ s.toList := Iff.rfl

/-- The number of members. -/
def size (s : TagSet) : Nat := s.toList.length

/-- Places a text into an ascending list; a text already there is left. -/
def place (tag : String) : List String → List String
  | [] => [tag]
  | t :: ts =>
    if tag < t then tag :: t :: ts
    else if tag = t then t :: ts
    else t :: place tag ts

theorem mem_place {tag x : String} {ts : List String} :
    x ∈ place tag ts ↔ x = tag ∨ x ∈ ts := by
  induction ts with
  | nil => simp [place]
  | cons t ts ih =>
    simp only [place]
    split
    · simp
    · split
      · rename_i h
        subst h
        simp
      · simp only [List.mem_cons, ih]
        constructor <;> (rintro (h | h | h) <;> simp [h])

theorem pairwise_place {tag : String} {ts : List String} (h : ts.Pairwise (· < ·)) :
    (place tag ts).Pairwise (· < ·) := by
  induction ts with
  | nil => simp [place]
  | cons t ts ih =>
    rw [List.pairwise_cons] at h
    simp only [place]
    split
    · rename_i hlt
      refine List.pairwise_cons.2 ⟨?_, List.pairwise_cons.2 h⟩
      intro x hx
      rcases List.mem_cons.1 hx with rfl | hx
      · exact hlt
      · exact String.lt_trans hlt (h.1 x hx)
    · split
      · exact List.pairwise_cons.2 h
      · rename_i hnlt hne
        refine List.pairwise_cons.2 ⟨?_, ih h.2⟩
        intro x hx
        rcases mem_place.1 hx with rfl | hx
        · rcases String.le_total t x with hle | hle
          · rcases Decidable.em (t < x) with hlt | hge
            · exact hlt
            · exact absurd (String.le_antisymm (String.not_lt.1 hge) hle) hne
          · rcases Decidable.em (t < x) with hlt | hge
            · exact hlt
            · exact absurd (String.le_antisymm hle (String.not_lt.1 hnlt)) hne
        · exact h.1 x hx

/-- The set with one more member. -/
def insert (s : TagSet) (tag : String) : TagSet := ⟨place tag s.toList, pairwise_place s.sorted⟩

/-- The set of the members of a list. -/
def ofList (tags : List String) : TagSet := tags.foldl insert empty

/-- The members of either set. -/
def union (s t : TagSet) : TagSet := t.toList.foldl insert s

/-- The members of the first set that are not members of the second. -/
def diff (s t : TagSet) : TagSet :=
  ⟨s.toList.filter (fun tag => !t.contains tag), s.sorted.sublist List.filter_sublist⟩

@[simp] theorem not_mem_empty (tag : String) : ¬ tag ∈ empty := by simp [mem_def, empty]

@[simp] theorem mem_insert {s : TagSet} {tag x : String} :
    x ∈ s.insert tag ↔ x = tag ∨ x ∈ s := mem_place

theorem mem_foldl_insert {tags : List String} {s : TagSet} {x : String} :
    x ∈ tags.foldl insert s ↔ x ∈ s ∨ x ∈ tags := by
  induction tags generalizing s with
  | nil => simp
  | cons t ts ih =>
    simp only [List.foldl_cons, ih, mem_insert, List.mem_cons]
    rw [or_comm (a := x = t), or_assoc]

@[simp] theorem mem_ofList {tags : List String} {x : String} : x ∈ ofList tags ↔ x ∈ tags := by
  simp [ofList, mem_foldl_insert]

@[simp] theorem mem_union {s t : TagSet} {x : String} : x ∈ s.union t ↔ x ∈ s ∨ x ∈ t :=
  mem_foldl_insert

@[simp] theorem mem_diff {s t : TagSet} {x : String} : x ∈ s.diff t ↔ x ∈ s ∧ ¬ x ∈ t := by
  simp [mem_def, diff, contains]

/-- Two strictly ascending lists with the same members are equal. -/
theorem eq_of_pairwise_of_mem_iff {xs ys : List String} (hx : xs.Pairwise (· < ·))
    (hy : ys.Pairwise (· < ·)) (h : ∀ t, t ∈ xs ↔ t ∈ ys) : xs = ys := by
  induction xs generalizing ys with
  | nil =>
    cases ys with
    | nil => rfl
    | cons y ys => exact absurd ((h y).2 (by simp)) (by simp)
  | cons x xs ih =>
    cases ys with
    | nil => exact absurd ((h x).1 (by simp)) (by simp)
    | cons y ys =>
      rw [List.pairwise_cons] at hx hy
      have hxy : x = y := by
        rcases List.mem_cons.1 ((h x).1 (by simp)) with e | hm
        · exact e
        · rcases List.mem_cons.1 ((h y).2 (by simp)) with e | hm'
          · exact e.symm
          · exact absurd (hy.1 x hm) (String.lt_asymm (hx.1 y hm'))
      subst hxy
      have hxn : ¬ x ∈ xs := fun hm => String.lt_irrefl x (hx.1 x hm)
      have hyn : ¬ x ∈ ys := fun hm => String.lt_irrefl x (hy.1 x hm)
      congr 1
      refine ih hx.2 hy.2 fun t => ?_
      by_cases ht : t = x
      · subst ht
        simp [hxn, hyn]
      · have := h t
        simpa [ht] using this

/-- Sets with the same members are equal. -/
@[ext] theorem ext {s t : TagSet} (h : ∀ x, x ∈ s ↔ x ∈ t) : s = t := by
  cases s with
  | mk xs hx =>
    cases t with
    | mk ys hy =>
      congr
      exact eq_of_pairwise_of_mem_iff hx hy h

/-! ## Sizes -/

theorem length_place {tag : String} {ts : List String} (h : ts.Pairwise (· < ·)) :
    (place tag ts).length = if tag ∈ ts then ts.length else ts.length + 1 := by
  induction ts with
  | nil => simp [place]
  | cons t ts ih =>
    obtain ⟨ht, hts⟩ := List.pairwise_cons.1 h
    simp only [place]
    split
    · next hlt =>
      -- all members are greater
      have hnot : tag ∉ t :: ts := by
        intro hmem
        rcases List.mem_cons.1 hmem with heq | hmem
        · exact String.lt_irrefl t (heq ▸ hlt)
        · exact String.lt_asymm hlt (ht tag hmem)
      rw [if_neg hnot, List.length_cons]
    · split
      · next heq => rw [if_pos (heq ▸ List.mem_cons_self)]
      · next hne =>
        rw [List.length_cons, ih hts]
        simp only [List.mem_cons, hne, false_or, List.length_cons]
        split <;> rfl

/-- A member that is there already is not counted again. -/
theorem size_insert (s : TagSet) (tag : String) :
    (s.insert tag).size = if tag ∈ s then s.size else s.size + 1 := length_place s.sorted

theorem insert_of_mem {s : TagSet} {tag : String} (h : tag ∈ s) : s.insert tag = s := by
  ext x
  rw [mem_insert]
  constructor
  · rintro (rfl | hx)
    · exact h
    · exact hx
  · exact Or.inr

theorem size_le_foldl_insert (s : TagSet) (tags : List String) :
    s.size ≤ (tags.foldl insert s).size := by
  induction tags generalizing s with
  | nil => exact Nat.le_refl _
  | cons t ts ih =>
    refine Nat.le_trans ?_ (ih (s.insert t))
    rw [size_insert]
    split <;> omega

/-- Members that do not make the set larger were there before. -/
theorem foldl_insert_eq_self_iff {s : TagSet} {tags : List String} :
    tags.foldl insert s = s ↔ (tags.foldl insert s).size = s.size := by
  refine ⟨congrArg size, fun h => ?_⟩
  induction tags generalizing s with
  | nil => rfl
  | cons t ts ih =>
    have hle := size_le_foldl_insert (s.insert t) ts
    have hmem : t ∈ s := by
      by_cases hmem : t ∈ s
      · exact hmem
      · rw [size_insert, if_neg hmem] at hle
        rw [List.foldl_cons] at h
        omega
    rw [List.foldl_cons, insert_of_mem hmem] at h ⊢
    exact ih h

/-- A union of the same size is the same set. -/
theorem union_eq_self_iff {s t : TagSet} : s.union t = s ↔ (s.union t).size = s.size :=
  foldl_insert_eq_self_iff

/-- A difference of the same size is the same set. -/
theorem diff_eq_self_iff {s t : TagSet} : s.diff t = s ↔ (s.diff t).size = s.size := by
  refine ⟨congrArg size, fun h => ?_⟩
  have hall := List.filter_eq_self.2 (List.length_filter_eq_length_iff.1 h)
  ext x
  rw [mem_def, mem_def]
  exact hall ▸ Iff.rfl

end TagSet

end ScopedSearch
