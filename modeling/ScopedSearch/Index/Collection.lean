import ScopedSearch.Document

/-!
# Collections of documents

The documents of an index, ascending by key and one a key.  A write puts a document in the place of
the one with the same key, so what is found under a key is what was written there last.

## Main results

* `find?_place_self`, `find?_place_of_ne`: what a write changes.
* `find?_key`: what is found has the key that was asked for.
-/

namespace ScopedSearch

/-- Documents ascending by key, one a key. -/
structure Collection where
  toList : List Document
  sorted : toList.Pairwise fun a b => a.key < b.key

namespace Collection

/-- No documents. -/
def empty : Collection := ⟨[], List.Pairwise.nil⟩

instance : Inhabited Collection := ⟨empty⟩

instance : EmptyCollection Collection := ⟨empty⟩

/-- The number of documents. -/
def size (c : Collection) : Nat := c.toList.length

/-- The document under a key. -/
def find? (c : Collection) (key : String) : Option Document := c.toList.find? (·.key = key)

theorem find?_key {c : Collection} {key : String} {d : Document} (h : c.find? key = some d) :
    d.key = key := by simpa using List.find?_some h

/-- Puts a document into an ascending list, in the place of the one with its key. -/
def placeIn (d : Document) : List Document → List Document
  | [] => [d]
  | e :: rest =>
    if d.key < e.key then d :: e :: rest
    else if d.key = e.key then d :: rest
    else e :: placeIn d rest

theorem mem_placeIn {d e : Document} {docs : List Document} (h : e ∈ placeIn d docs) :
    e = d ∨ e ∈ docs := by
  induction docs with
  | nil => simpa [placeIn] using h
  | cons x rest ih =>
    simp only [placeIn] at h
    split at h
    · simpa using h
    · split at h
      · rcases List.mem_cons.1 h with h | h
        · exact .inl h
        · exact .inr (List.mem_cons_of_mem _ h)
      · rcases List.mem_cons.1 h with h | h
        · exact .inr (h ▸ List.mem_cons_self)
        · exact (ih h).imp_right (List.mem_cons_of_mem _)

theorem key_lt_of_not_lt_of_ne {a b : String} (h : ¬ a < b) (hne : a ≠ b) : b < a :=
  String.not_le.1 fun hle => hne (String.le_antisymm hle (String.not_lt.1 h))

theorem pairwise_placeIn {d : Document} {docs : List Document}
    (h : docs.Pairwise fun a b => a.key < b.key) :
    (placeIn d docs).Pairwise fun a b => a.key < b.key := by
  induction docs with
  | nil => simp [placeIn]
  | cons x rest ih =>
    have ⟨hx, hrest⟩ := List.pairwise_cons.1 h
    simp only [placeIn]
    split
    · next hlt =>
      refine List.pairwise_cons.2 ⟨fun e he => ?_, h⟩
      rcases List.mem_cons.1 he with rfl | he
      · exact hlt
      · exact String.lt_trans hlt (hx e he)
    · next hnlt =>
      split
      · next heq => exact List.pairwise_cons.2 ⟨fun e he => heq ▸ hx e he, hrest⟩
      · next hne =>
        refine List.pairwise_cons.2 ⟨fun e he => ?_, ih hrest⟩
        rcases mem_placeIn he with rfl | he
        · exact key_lt_of_not_lt_of_ne hnlt hne
        · exact hx e he

/-- Writes a document. -/
def place (c : Collection) (d : Document) : Collection :=
  ⟨placeIn d c.toList, pairwise_placeIn c.sorted⟩

/-- Writes documents, one after the other. -/
def placeAll (c : Collection) (docs : List Document) : Collection := docs.foldl place c

theorem find?_placeIn_self (d : Document) (docs : List Document) :
    (placeIn d docs).find? (·.key = d.key) = some d := by
  induction docs with
  | nil => simp [placeIn]
  | cons x rest ih =>
    simp only [placeIn]
    split
    · simp
    · split
      · simp
      · next hne => simpa [List.find?_cons, Ne.symm hne] using ih

theorem find?_placeIn_of_ne {d : Document} {key : String} (hne : d.key ≠ key)
    (docs : List Document) :
    (placeIn d docs).find? (·.key = key) = docs.find? (·.key = key) := by
  induction docs with
  | nil => simp [placeIn, hne]
  | cons x rest ih =>
    simp only [placeIn]
    split
    · simp [hne]
    · split
      · next heq => simp [hne, ← heq]
      · by_cases hx : x.key = key
        · simp [hx]
        · simpa [List.find?_cons, hx] using ih

@[simp] theorem find?_place_self (c : Collection) (d : Document) :
    (c.place d).find? d.key = some d := find?_placeIn_self d c.toList

theorem find?_place_of_ne (c : Collection) {d : Document} {key : String} (h : d.key ≠ key) :
    (c.place d).find? key = c.find? key := find?_placeIn_of_ne h c.toList

end Collection

end ScopedSearch
