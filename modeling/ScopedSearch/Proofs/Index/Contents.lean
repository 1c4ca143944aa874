import ScopedSearch.Index.Collection

/-!
# What an index holds

A collection is a sorted list; what matters of it is which document stands under which key.  That
view is a map from keys to documents, and every write has one equation on it: the key of the written
document now leads to that document, and every other key leads where it led before.

## Main results

* `contents_place`, `contents_placeAll`: writing, seen through the map.
* `writeAll_apply`: what stands under a key after several writes.
* `mem_toList_iff`: a collection holds exactly the documents that stand under their keys.
* `eq_of_contents_eq`: collections that hold the same under all keys are equal.
* `mem_place_iff`: what a collection holds after a write.
-/

namespace ScopedSearch

/-- The document under each key. -/
abbrev Contents := String → Option Document

namespace Contents

/-- Nothing under any key. -/
def none : Contents := fun _ => .none

/-- The document stands under its key from now on. -/
def write (m : Contents) (d : Document) : Contents :=
  fun key => if key = d.key then some d else m key

/-- The documents stand under their keys, later ones in place of earlier ones. -/
def writeAll (m : Contents) (docs : List Document) : Contents := docs.foldl write m

@[simp] theorem write_self (m : Contents) (d : Document) : m.write d d.key = some d := by
  simp [write]

theorem write_of_ne (m : Contents) {d : Document} {key : String} (h : key ≠ d.key) :
    m.write d key = m key := by
  simp [write, h]

@[simp] theorem writeAll_nil (m : Contents) : m.writeAll [] = m := rfl

@[simp] theorem writeAll_cons (m : Contents) (d : Document) (docs : List Document) :
    m.writeAll (d :: docs) = (m.write d).writeAll docs := rfl

theorem writeAll_append (m : Contents) (docs more : List Document) :
    m.writeAll (docs ++ more) = (m.writeAll docs).writeAll more := by
  simp [writeAll]

/-- Writes leave what stands under other keys. -/
theorem writeAll_of_ne {docs : List Document} {key : String} (h : ∀ d ∈ docs, key ≠ d.key)
    (m : Contents) : m.writeAll docs key = m key := by
  induction docs generalizing m with
  | nil => rfl
  | cons d docs ih =>
    rw [writeAll_cons, ih (fun e he => h e (List.mem_cons_of_mem d he)),
      write_of_ne m (h d List.mem_cons_self)]

/-- Under a key stands the last document written there, or what stood there before. -/
theorem writeAll_apply (m : Contents) (docs : List Document) (key : String) :
    m.writeAll docs key = (docs.reverse.find? (·.key = key)).or (m key) := by
  induction docs generalizing m with
  | nil => rfl
  | cons d docs ih =>
    rw [writeAll_cons, ih, List.reverse_cons, List.find?_append, Option.or_assoc]
    congr 1
    by_cases hkey : key = d.key
    · simp [hkey]
    · rw [write_of_ne m hkey]
      simp [Ne.symm hkey]

/-- Documents that are written under keys of their own all stand there. -/
theorem writeAll_of_mem {docs : List Document} (hkeys : (docs.map (·.key)).Nodup) {d : Document}
    (hd : d ∈ docs) (m : Contents) : m.writeAll docs d.key = some d := by
  induction docs generalizing m with
  | nil => cases hd
  | cons e docs ih =>
    rw [List.map_cons, List.nodup_cons] at hkeys
    rcases List.mem_cons.1 hd with rfl | hd
    · have hne : ∀ e ∈ docs, d.key ≠ e.key := by
        intro e he heq
        exact hkeys.1 (heq ▸ List.mem_map_of_mem he)
      rw [writeAll_cons, writeAll_of_ne hne, write_self]
    · exact ih hkeys.2 hd _

/-- What stands under some key after writes stood there before or was written. -/
theorem mem_of_writeAll_eq {m : Contents} {docs : List Document} {key : String} {d : Document}
    (h : m.writeAll docs key = some d) : m key = some d ∨ d ∈ docs := by
  induction docs generalizing m with
  | nil => exact .inl h
  | cons e docs ih =>
    rcases ih h with hwrite | hmem
    · by_cases hkey : key = e.key
      · subst hkey
        rw [write_self, Option.some.injEq] at hwrite
        exact .inr (by simp [hwrite])
      · exact .inl (by rwa [write_of_ne m hkey] at hwrite)
    · exact .inr (List.mem_cons_of_mem e hmem)

end Contents

namespace Collection

/-- The document under each key of a collection. -/
def contents (c : Collection) : Contents := c.find?

@[simp] theorem contents_empty : (∅ : Collection).contents = Contents.none := rfl

theorem contents_place (c : Collection) (d : Document) :
    (c.place d).contents = c.contents.write d := by
  funext key
  by_cases h : key = d.key
  · subst h
    simp [contents]
  · rw [Contents.write_of_ne c.contents h]
    exact find?_place_of_ne c (Ne.symm h)

theorem contents_placeAll (c : Collection) (docs : List Document) :
    (c.placeAll docs).contents = c.contents.writeAll docs := by
  induction docs generalizing c with
  | nil => rfl
  | cons d docs ih =>
    show ((c.place d).placeAll docs).contents = _
    rw [ih, contents_place]
    rfl

/-- In an ascending list a document is the first one with its key. -/
theorem find?_eq_some_of_mem {docs : List Document} {d : Document}
    (hsorted : docs.Pairwise fun a b => a.key < b.key) (hd : d ∈ docs) :
    docs.find? (·.key = d.key) = some d := by
  induction docs with
  | nil => simp at hd
  | cons e docs ih =>
    obtain ⟨he, hdocs⟩ := List.pairwise_cons.1 hsorted
    rcases List.mem_cons.1 hd with rfl | hd
    · simp
    · have hne : e.key ≠ d.key := fun heq => String.lt_irrefl d.key (heq ▸ he d hd)
      rw [List.find?_cons_of_neg (by simpa using hne)]
      exact ih hdocs hd

/-- A collection holds exactly the documents that stand under their keys. -/
theorem mem_toList_iff {c : Collection} {d : Document} :
    d ∈ c.toList ↔ c.contents d.key = some d :=
  ⟨fun h => find?_eq_some_of_mem c.sorted h, List.mem_of_find?_eq_some⟩

/-- A collection holds a document no more than once. -/
theorem nodup_toList (c : Collection) : c.toList.Nodup := by
  refine c.sorted.imp ?_
  intro d e hlt heq
  exact String.lt_irrefl e.key (heq ▸ hlt)

/-- Collections that hold the same under all keys are equal. -/
theorem eq_of_contents_eq {c c' : Collection} (h : c.contents = c'.contents) : c = c' := by
  have hperm : c.toList.Perm c'.toList := by
    refine (List.perm_ext_iff_of_nodup c.nodup_toList c'.nodup_toList).2 fun d => ?_
    rw [mem_toList_iff, mem_toList_iff, h]
  have hlist : c.toList = c'.toList := by
    refine List.Perm.eq_of_pairwise ?_ c.sorted c'.sorted hperm
    intro a b _ _ hab hba
    exact absurd hba (String.lt_asymm hab)
  cases c
  cases c'
  simp_all

/-- What stands under a key has that key. -/
theorem key_of_contents {c : Collection} {key : String} {d : Document}
    (h : c.contents key = some d) : d.key = key := find?_key h

/-- After a write, a collection holds the new document and the old ones under other keys. -/
theorem mem_place_iff {c : Collection} {d e : Document} :
    e ∈ (c.place d).toList ↔ e = d ∨ e ∈ c.toList ∧ e.key ≠ d.key := by
  rw [mem_toList_iff, mem_toList_iff, contents_place]
  by_cases hkey : e.key = d.key
  · rw [hkey, Contents.write_self, Option.some.injEq]
    constructor
    · exact fun h => .inl h.symm
    · rintro (rfl | ⟨_, hne⟩)
      · rfl
      · exact absurd rfl hne
  · rw [Contents.write_of_ne _ hkey]
    constructor
    · exact fun h => .inr ⟨h, hkey⟩
    · rintro (rfl | ⟨h, _⟩)
      · exact absurd rfl hkey
      · exact h

end Collection

end ScopedSearch
