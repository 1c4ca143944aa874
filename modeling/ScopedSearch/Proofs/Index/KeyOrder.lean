import ScopedSearch.Proofs.Index.Identity
import ScopedSearch.Proofs.Text.Order

/-!
# The order of keys

Identities have an order of their own: by space, and in one space by item.  An index knows keys only
and has the order of the texts that they are.  Mostly this is the same.  It is not where one space
goes on behind the whole of another one: in the keys, what stands behind is compared with the mark
that ends the other space, and the key of the longer space comes first when that starts below the
mark.

The mark comes right after the blank, so below it are only the blank and control characters.  A space
that goes on with a mark is compared further, with the item of the other.

## Main results

* `comesFirst_key_iff`: how the keys of two identities stand, in terms of the identities.
* `before_iff_of_comesFirst`: where the order of keys is the order of identities.
* `comesFirst_key_iff_before`: with ordinary spaces it always is.
-/

namespace ScopedSearch.Identity

open Text (ComesFirst comesFirst_iff append_lt_append_iff)

variable {p q : Identity}

/-- The space of `p` comes first, or they have one space and the item of `p` does. -/
def Before (p q : Identity) : Prop :=
  ComesFirst p.space q.space ∨ p.space = q.space ∧ ComesFirst p.item q.item

instance (p q : Identity) : Decidable (p.Before q) :=
  inferInstanceAs (Decidable (_ ∨ _ ∧ _))

/--
The space of `p` goes on where that of `q` ends: with a character below the mark, or with the mark
and a text that comes before the item of `q` when the item of `p` is joined to it.
-/
def Overtakes (p q : Identity) : Prop :=
  (∃ c rest, c < '!' ∧ p.space.toList = q.space.toList ++ c :: rest) ∨
    ∃ rest, p.space = q.space ++ keySeparator ++ rest ∧ ComesFirst (documentKey rest p.item) q.item

theorem before_iff :
    p.Before q ↔ p.space.toList < q.space.toList ∨
      p.space = q.space ∧ p.item.toList < q.item.toList := by
  rw [Before, comesFirst_iff, comesFirst_iff, String.lt_iff, String.lt_iff]

theorem comesFirst_key_iff_chars :
    ComesFirst p.key q.key ↔
      p.space.toList ++ '!' :: p.item.toList < q.space.toList ++ '!' :: q.item.toList := by
  rw [comesFirst_iff, String.lt_iff, toList_key, toList_key]

/-- Of two identities one is before the other one. -/
theorem before_or_before (h : p ≠ q) : p.Before q ∨ q.Before p := by
  rw [before_iff, before_iff]
  rcases Std.lt_trichotomy p.space.toList q.space.toList with hspace | hspace | hspace
  · exact .inl (.inl hspace)
  · have hspace : p.space = q.space := String.toList_inj.1 hspace
    rcases Std.lt_trichotomy p.item.toList q.item.toList with hitem | hitem | hitem
    · exact .inl (.inr ⟨hspace, hitem⟩)
    · exact absurd (eq_of_space_item hspace (String.toList_inj.1 hitem)) h
    · exact .inr (.inr ⟨hspace.symm, hitem⟩)
  · exact .inr (.inl hspace)

theorem Before.asymm (h : p.Before q) : ¬ q.Before p := by
  rw [before_iff] at h ⊢
  rcases h with hspace | ⟨hspace, hitem⟩ <;> rintro (hspace' | ⟨hspace', hitem'⟩)
  · exact List.lt_asymm hspace hspace'
  · exact List.lt_irrefl _ (hspace' ▸ hspace)
  · exact List.lt_irrefl _ (hspace ▸ hspace')
  · exact List.lt_asymm hitem hitem'

/-! ## Overtaking -/

theorem Overtakes.exists_toList (h : p.Overtakes q) :
    ∃ c rest, p.space.toList = q.space.toList ++ c :: rest ∧
      (c < '!' ∨ c = '!' ∧ rest ++ '!' :: p.item.toList < q.item.toList) := by
  rcases h with ⟨c, rest, hc, hspace⟩ | ⟨rest, hspace, hitem⟩
  · exact ⟨c, rest, hspace, .inl hc⟩
  · refine ⟨'!', rest.toList, by simp [hspace, keySeparator], .inr ⟨rfl, ?_⟩⟩
    rw [comesFirst_iff, String.lt_iff] at hitem
    simpa [documentKey, keySeparator] using hitem

theorem overtakes_of_toList {c : Char} {rest : List Char}
    (hspace : p.space.toList = q.space.toList ++ c :: rest)
    (h : c < '!' ∨ c = '!' ∧ rest ++ '!' :: p.item.toList < q.item.toList) : p.Overtakes q := by
  rcases h with hc | ⟨rfl, hitem⟩
  · exact .inl ⟨c, rest, hc, hspace⟩
  · refine .inr ⟨String.ofList rest, ?_, ?_⟩
    · apply String.toList_inj.1
      simp [hspace, keySeparator]
    · rw [comesFirst_iff, String.lt_iff]
      simpa [documentKey, keySeparator] using hitem

/-- An identity overtakes only such as are before it. -/
theorem Overtakes.before (h : p.Overtakes q) : q.Before p := by
  obtain ⟨c, rest, hspace, -⟩ := h.exists_toList
  rw [before_iff]
  left
  calc q.space.toList = q.space.toList ++ [] := (List.append_nil _).symm
    _ < q.space.toList ++ c :: rest := List.append_left_lt (List.nil_lt_cons c rest)
    _ = p.space.toList := hspace.symm

/-- The key of an identity comes before the keys of those that it overtakes. -/
theorem Overtakes.comesFirst (h : p.Overtakes q) : ComesFirst p.key q.key := by
  obtain ⟨c, rest, hspace, hrest⟩ := h.exists_toList
  rwa [comesFirst_key_iff_chars, hspace, List.append_assoc, append_lt_append_iff, List.cons_append,
    List.cons_lt_cons_iff]

/--
Of identities with keys of their own, the key of the one that is before comes first, unless the
other one overtakes it.
-/
theorem Before.comesFirst_or_overtakes (h : p.Before q) (hkey : p.key ≠ q.key) :
    ComesFirst p.key q.key ∨ q.Overtakes p := by
  rw [comesFirst_key_iff_chars]
  rcases before_iff.1 h with hspace | ⟨hspace, hitem⟩
  · rcases Text.lt_cases hspace with ⟨c, rest, hrest⟩ | hall
    · rw [hrest, List.append_assoc, List.cons_append, append_lt_append_iff, List.cons_lt_cons_iff]
      rcases Std.lt_trichotomy c '!' with hc | rfl | hc
      · exact .inr (overtakes_of_toList hrest (.inl hc))
      · -- what is behind the mark in the longer space stands against the item of the other
        rcases Std.lt_trichotomy (rest ++ '!' :: q.item.toList) p.item.toList with hi | hi | hi
        · exact .inr (overtakes_of_toList hrest (.inr ⟨rfl, hi⟩))
        · refine absurd (String.toList_inj.1 ?_) hkey
          rw [toList_key, toList_key, hrest, ← hi, List.append_assoc, List.cons_append]
        · exact .inl (.inr ⟨rfl, hi⟩)
      · exact .inl (.inl hc)
    · exact .inl (hall _ _)
  · left
    rw [hspace, append_lt_append_iff, List.cons_lt_cons_iff]
    exact .inr ⟨rfl, hitem⟩

/-! ## Keys and identities -/

/--
Where the key of `p` comes before that of `q`, the identity is before the other one too, unless it
overtakes it.
-/
theorem before_iff_of_comesFirst (h : ComesFirst p.key q.key) :
    p.Before q ↔ ¬ p.Overtakes q := by
  constructor
  · intro hbefore hover
    exact hbefore.asymm hover.before
  · intro hover
    have hne : p ≠ q := fun heq => h.ne (congrArg key heq)
    rcases before_or_before hne with hbefore | hbefore
    · exact hbefore
    · rcases hbefore.comesFirst_or_overtakes h.ne.symm with hfirst | hover'
      · exact absurd hfirst h.asymm
      · exact absurd hover' hover

/-- Of two keys the one comes first that overtakes, or that is before and is not overtaken. -/
theorem comesFirst_key_iff (hkey : p.key ≠ q.key) :
    ComesFirst p.key q.key ↔ p.Overtakes q ∨ p.Before q ∧ ¬ q.Overtakes p := by
  constructor
  · intro h
    by_cases hover : p.Overtakes q
    · exact .inl hover
    · exact .inr ⟨(before_iff_of_comesFirst h).2 hover, fun hover' =>
        h.asymm hover'.comesFirst⟩
  · rintro (hover | ⟨hbefore, hover⟩)
    · exact hover.comesFirst
    · exact (hbefore.comesFirst_or_overtakes hkey).resolve_right hover

/-- An identity in a space without marks and characters below the mark overtakes none. -/
theorem not_overtakes (h : ∀ c ∈ p.space.toList, '!' < c) : ¬ p.Overtakes q := by
  intro hover
  obtain ⟨c, rest, hspace, hc⟩ := hover.exists_toList
  have hmark : '!' < c := h c (by simp [hspace])
  rcases hc with hc | ⟨rfl, -⟩
  · exact Char.lt_asymm hmark hc
  · exact Char.lt_irrefl _ hmark

/-- In spaces without marks and characters below the mark, keys have the order of identities. -/
theorem comesFirst_key_iff_before (hp : ∀ c ∈ p.space.toList, '!' < c)
    (hq : ∀ c ∈ q.space.toList, '!' < c) : ComesFirst p.key q.key ↔ p.Before q := by
  refine ⟨fun h => (before_iff_of_comesFirst h).2 (not_overtakes hp), fun h => ?_⟩
  have hne : p ≠ q := by
    rintro rfl
    exact h.asymm h
  have hmark : ∀ r : Identity, (∀ c ∈ r.space.toList, '!' < c) → '!' ∉ r.space.toList :=
    fun r hr hmem => Char.lt_irrefl _ (hr '!' hmem)
  have hkey : p.key ≠ q.key := fun hkey => hne (eq_of_key_eq (hmark p hp) (hmark q hq) hkey)
  exact (h.comesFirst_or_overtakes hkey).resolve_right (not_overtakes hq)

end ScopedSearch.Identity
