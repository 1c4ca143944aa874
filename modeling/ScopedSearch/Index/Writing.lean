import ScopedSearch.Index.Collection
import ScopedSearch.Index.Record

/-!
# Writing

A writer does two things: it deletes the documents with a key and adds a record.  Nothing of it is
seen before it commits.  To put a document in the place of the one with its key, it does both, in
this order.

## Main results

* `place_remove`: to delete what has the key of a document and to add the document is to place it.
* `commit_replacing`: documents written in this way are placed, one after the other.
-/

namespace ScopedSearch

/-- What a writer is told to do. -/
inductive WriterStep
  /-- Deletes the documents with a key. -/
  | delete (key : String)
  | add (r : IndexRecord)
  deriving DecidableEq, Repr

/-- What puts a document in the place of the one with its key. -/
def Document.replacing (d : Document) : List WriterStep := [.delete d.key, .add d.record]

namespace Collection

/-- Takes the documents with a key away. -/
def remove (c : Collection) (key : String) : Collection :=
  ⟨c.toList.filter (·.key ≠ key), c.sorted.filter _⟩

/-- The documents after a step of a writer.  Of a record only the stored values are kept. -/
def step (c : Collection) : WriterStep → Collection
  | .delete key => c.remove key
  | .add r => c.place r.stored.document

/-- The documents after a writer has committed. -/
def commit (c : Collection) (steps : List WriterStep) : Collection := steps.foldl step c

theorem filter_key_of_forall_lt {docs : List Document} {key : String}
    (h : ∀ d ∈ docs, key < d.key) : docs.filter (·.key ≠ key) = docs := by
  refine List.filter_eq_self.2 fun d hd => ?_
  simpa using (String.ne_of_lt (h d hd)).symm

theorem placeIn_filter {d : Document} {docs : List Document}
    (h : docs.Pairwise fun a b => a.key < b.key) :
    placeIn d (docs.filter (·.key ≠ d.key)) = placeIn d docs := by
  induction docs with
  | nil => rfl
  | cons x rest ih =>
    obtain ⟨hx, hrest⟩ := List.pairwise_cons.1 h
    by_cases hlt : d.key < x.key
    · -- all keys are greater, and nothing is deleted
      have hall : ∀ e ∈ x :: rest, d.key < e.key := by
        intro e he
        rcases List.mem_cons.1 he with rfl | he
        · exact hlt
        · exact String.lt_trans hlt (hx e he)
      rw [filter_key_of_forall_lt hall]
    · by_cases heq : d.key = x.key
      · have hall : ∀ e ∈ rest, d.key < e.key := fun e he => heq ▸ hx e he
        have hfilter : (x :: rest).filter (·.key ≠ d.key) = rest := by
          rw [List.filter_cons_of_neg (by simp [heq]), filter_key_of_forall_lt hall]
        have hplace : placeIn d (x :: rest) = d :: rest := by simp [placeIn, heq]
        rw [hfilter, hplace]
        cases rest with
        | nil => rfl
        | cons y rest => simp [placeIn, hall y List.mem_cons_self]
      · have hfilter : (x :: rest).filter (·.key ≠ d.key) = x :: rest.filter (·.key ≠ d.key) :=
          List.filter_cons_of_pos (by simpa using Ne.symm heq)
        rw [hfilter]
        simp only [placeIn, hlt, heq, if_false]
        rw [ih hrest]

/-- To delete what has the key of a document and to add the document is to place it. -/
theorem place_remove (c : Collection) (d : Document) : (c.remove d.key).place d = c.place d := by
  have h : ((c.remove d.key).place d).toList = (c.place d).toList := placeIn_filter c.sorted
  cases hc : (c.remove d.key).place d
  cases hc' : c.place d
  simp_all

/-- Documents that are written are placed, one after the other. -/
theorem commit_replacing (c : Collection) (docs : List Document) :
    c.commit (docs.flatMap Document.replacing) = c.placeAll docs := by
  induction docs generalizing c with
  | nil => rfl
  | cons d docs ih =>
    have hhead : c.commit (d.replacing ++ docs.flatMap Document.replacing) =
        ((c.remove d.key).place d.record.stored.document).commit
          (docs.flatMap Document.replacing) := rfl
    rw [List.flatMap_cons, hhead, Document.document_stored_record, place_remove, ih]
    rfl

end Collection

end ScopedSearch
