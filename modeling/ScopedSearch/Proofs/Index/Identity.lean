import ScopedSearch.Document

/-!
# Identities and their keys

The identity of a document is the pair of its space and its item.  The index works with one text in
its place, the key, which is the two texts with an exclamation mark between them.  Two identities
have one key exactly when an exclamation mark in the one space or the one item can be taken for the
separator.

## Main results

* `key_eq_iff`: which identities have one key.
* `eq_of_key_eq`: where no space has a mark in it, every identity has a key of its own.
-/

namespace ScopedSearch

/-- A space and an item in it. -/
structure Identity where
  space : String
  item : String
  deriving DecidableEq, Repr

/-- The key of an identity. -/
def Identity.key (p : Identity) : String := documentKey p.space p.item

/-- The identity of a document. -/
def Document.identity (d : Document) : Identity := ⟨d.space, d.item⟩

@[simp] theorem Document.key_identity (d : Document) : d.identity.key = d.key := rfl

namespace Identity

/--
The key of `p` reads as the key of `q` when the separator is taken to be a later mark: the space of
`q` is that of `p` with a mark and some of the item behind it.
-/
def ReadsAs (p q : Identity) : Prop :=
  ∃ middle, q.space = p.space ++ keySeparator ++ middle ∧
    p.item = middle ++ keySeparator ++ q.item

theorem toList_key (p : Identity) : p.key.toList = p.space.toList ++ '!' :: p.item.toList := by
  simp [key, documentKey, keySeparator]

theorem readsAs_of_append {p q : Identity} {middle : List Char}
    (hspace : q.space.toList = p.space.toList ++ '!' :: middle)
    (hitem : p.item.toList = middle ++ '!' :: q.item.toList) : p.ReadsAs q := by
  refine ⟨String.ofList middle, ?_, ?_⟩
  · apply String.toList_inj.1
    simp [hspace, keySeparator]
  · apply String.toList_inj.1
    simp [hitem, keySeparator]

theorem ReadsAs.key_eq {p q : Identity} (h : p.ReadsAs q) : p.key = q.key := by
  obtain ⟨middle, hspace, hitem⟩ := h
  simp only [key, documentKey, hspace, hitem, String.append_assoc]

theorem eq_of_space_item {p q : Identity} (hspace : p.space = q.space) (hitem : p.item = q.item) :
    p = q := by
  cases p
  cases q
  simp_all

/-- Where one key is another one and the space begins the other space, the identity reads on. -/
theorem eq_or_readsAs {p q : Identity} {part : List Char}
    (hspace : q.space.toList = p.space.toList ++ part)
    (hitem : '!' :: p.item.toList = part ++ '!' :: q.item.toList) : p = q ∨ p.ReadsAs q := by
  cases part with
  | nil =>
    left
    rw [List.append_nil] at hspace
    rw [List.nil_append, List.cons.injEq] at hitem
    exact eq_of_space_item (String.toList_inj.1 hspace.symm) (String.toList_inj.1 hitem.2)
  | cons c middle =>
    right
    rw [List.cons_append, List.cons.injEq] at hitem
    obtain ⟨rfl, hitem⟩ := hitem
    exact readsAs_of_append hspace hitem

/-- Two identities have one key when they are the same or one reads as the other. -/
theorem key_eq_iff {p q : Identity} : p.key = q.key ↔ p = q ∨ p.ReadsAs q ∨ q.ReadsAs p := by
  constructor
  · intro h
    have hchars : p.space.toList ++ '!' :: p.item.toList =
        q.space.toList ++ '!' :: q.item.toList := by
      rw [← toList_key, ← toList_key, h]
    -- one of the two spaces begins the other one
    rcases List.append_eq_append_iff.1 hchars with ⟨part, hspace, hitem⟩ | ⟨part, hspace, hitem⟩
    · rcases eq_or_readsAs hspace hitem with heq | hreads
      · exact .inl heq
      · exact .inr (.inl hreads)
    · rcases eq_or_readsAs hspace hitem with heq | hreads
      · exact .inl heq.symm
      · exact .inr (.inr hreads)
  · rintro (rfl | h | h)
    · rfl
    · exact h.key_eq
    · exact h.key_eq.symm

/-- Nothing reads as an identity whose space has no mark in it. -/
theorem not_readsAs {p q : Identity} (hq : '!' ∉ q.space.toList) : ¬ p.ReadsAs q := by
  rintro ⟨middle, hspace, -⟩
  apply hq
  rw [hspace]
  simp [keySeparator]

/-- Where no space has a mark in it, every identity has a key of its own. -/
theorem eq_of_key_eq {p q : Identity} (hp : '!' ∉ p.space.toList) (hq : '!' ∉ q.space.toList)
    (h : p.key = q.key) : p = q := by
  rcases key_eq_iff.1 h with heq | hreads | hreads
  · exact heq
  · exact absurd hreads (not_readsAs hq)
  · exact absurd hreads (not_readsAs hp)

end Identity

end ScopedSearch
