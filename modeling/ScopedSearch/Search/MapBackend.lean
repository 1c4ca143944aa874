import ScopedSearch.Search.Backend

/-!
# Documents in a map

The plainest backend: documents by space and item, ascending by both.  A search looks at the spaces
alone and answers every document there, all with one score.  It patches by reading, changing and
storing.

## Main results

* `find?_placeIn_of_ne`: placing a document lets documents of other identities be.
-/

namespace ScopedSearch

/-- Documents by space and item. -/
structure DocumentMap where
  toList : List Document := []
  deriving Repr, Inhabited

namespace DocumentMap

/-- The document of an item. -/
def find? (m : DocumentMap) (space item : String) : Option Document :=
  m.toList.find? fun d => d.space = space ∧ d.item = item

/-- One identity comes before another one. -/
def precedes (d e : Document) : Bool :=
  decide (d.space < e.space) || (d.space == e.space && decide (d.item < e.item))

/-- Puts a document into a list in the place of the one with its identity. -/
def placeIn (d : Document) : List Document → List Document
  | [] => [d]
  | e :: rest =>
    if e.space = d.space ∧ e.item = d.item then d :: rest
    else if precedes d e then d :: e :: rest
    else e :: placeIn d rest

/-- Stores a document. -/
def place (m : DocumentMap) (d : Document) : DocumentMap := ⟨placeIn d m.toList⟩

/-- A document of another identity is let be. -/
theorem find?_placeIn_of_ne {d : Document} {space item : String}
    (h : ¬(d.space = space ∧ d.item = item)) (docs : List Document) :
    (placeIn d docs).find? (fun e => decide (e.space = space ∧ e.item = item)) =
      docs.find? fun e => decide (e.space = space ∧ e.item = item) := by
  induction docs with
  | nil => simpa [placeIn] using h
  | cons e rest ih =>
    unfold placeIn
    split
    · rename_i he
      obtain ⟨h1, h2⟩ := he
      rw [List.find?_cons_of_neg (by simpa using h),
        List.find?_cons_of_neg (by simpa [h1, h2] using h)]
    · split
      · rw [List.find?_cons_of_neg (by simpa using h)]
      · simp only [List.find?_cons, ih]

end DocumentMap

/-- The documents of a map as a backend. -/
def DocumentMap.backend {σ : Type} (docs : Part σ DocumentMap) : Backend σ :=
  let upsert (ctx : Context σ) (ds : List Document) : Op σ Unit := do
    ctx.check
    docs.modify fun m => ds.foldl DocumentMap.place m
  let get (ctx : Context σ) (space item : String) : Op σ (Option Document) := do
    ctx.check
    Op.read fun s => (docs.get s).find? space item
  { name := "map"
    upsert
    get
    patch := Backend.patchByUpsert upsert get
    search := fun ctx q => do
      ctx.check
      let m ← Op.read docs.get
      let found := m.toList.filter fun d => q.spaces.contains d.space
      return {
        hits := ((found.drop q.offset).take q.limit).map fun d => (d, 1)
        total := UInt64.ofNat found.length }
    count := fun ctx => do
      ctx.check
      Op.read fun s => (docs.get s).toList.length }

end ScopedSearch
