import ScopedSearch.Op
import ScopedSearch.Request

/-!
# Backends

A backend stores documents by key and answers queries that are already confined to the spaces the
asker may see.  It knows nothing of storage, extraction or actors.
-/

namespace ScopedSearch

/-- A query as a backend gets it. -/
structure BackendQuery where
  /-- Text of the query language; blank for everything in scope. -/
  query : String := ""
  /-- The spaces to look in. -/
  spaces : List String := []
  /-- Only this path and the paths below it. -/
  pathScope : Option String := none
  includeTrashed : Bool := false
  offset : Nat := 0
  limit : Nat := 0
  deriving DecidableEq, Repr, Inhabited

/-- The documents of one page with their scores, best first, and the number on all pages. -/
structure Hits where
  hits : List (Document × Score) := []
  total : UInt64 := 0
  deriving Repr, Inhabited

/-- What the engine asks of an index, as operations on a state. -/
structure Backend (σ : Type) where
  name : String
  /-- Stores the documents by key, each in place of the one stored before it. -/
  upsert : Context σ → List Document → Op σ Unit
  /-- The document stored for an item. -/
  get : Context σ → String → String → Op σ (Option Document)
  /-- Applies a patch to the document of an item; false when there is none. -/
  patch : Context σ → String → String → Patch → Op σ Bool
  search : Context σ → BackendQuery → Op σ Hits
  /-- The number of documents stored, trashed ones included. -/
  count : Context σ → Op σ Nat

/-- Patching by reading, changing and storing, for backends without a patch of their own. -/
def Backend.patchByUpsert {σ : Type} (upsert : Context σ → List Document → Op σ Unit)
    (get : Context σ → String → String → Op σ (Option Document))
    (ctx : Context σ) (space item : String) (p : Patch) : Op σ Bool := do
  match ← get ctx space item with
  | none => return false
  | some d =>
    upsert ctx [p.apply d]
    return true

end ScopedSearch
