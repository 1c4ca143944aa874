import ScopedSearch.Path
import ScopedSearch.TagSet

/-!
# Documents

A document is one searchable record of a space.  Its identity is the pair of space and item; every
index keys it by the two texts joined with an exclamation mark.  Patches change one thing of a
document, tag deltas change its tags, and neither touches the identity.

## Main results

* `key_apply`: a patch keeps the key.
* `TagDelta.changes_iff`: a delta reports a change exactly when the tags differ afterwards.
-/

namespace ScopedSearch

/-- Stands between space and item in the key of a document. -/
def keySeparator : String := "!"

/-- The key under which an index holds the document of an item. -/
def documentKey (space item : String) : String := space ++ keySeparator ++ item

/-- One searchable record. -/
structure Document where
  space : String
  item : String
  /-- The logical path inside the space. -/
  path : String
  name : String
  mimeType : String
  size : UInt64
  /-- Modification time in seconds since 1970. -/
  mtime : Int64
  tags : TagSet := TagSet.empty
  /-- Extracted text; empty when extraction gave up or was not tried. -/
  content : String := ""
  trashed : Bool := false
  /-- Extraction gave up; the next rebuild tries again. -/
  degraded : Bool := false
  deriving DecidableEq, Repr, Inhabited

namespace Document

/-- The key under which an index holds the document. -/
def key (d : Document) : String := documentKey d.space d.item

/-- Points the document at another path; its name follows. -/
def relocate (d : Document) (path : String) : Document :=
  { d with path := Path.normalize path, name := Path.lastName (Path.normalize path) }

/-- The normal paths at or above the document, root first. -/
def ancestors (d : Document) : List String := Path.ancestors d.path

@[simp] theorem key_relocate (d : Document) (path : String) : (d.relocate path).key = d.key := rfl

end Document

/-! ## Patches -/

/-- A change of one thing of a document. -/
inductive Patch
  /-- A new path; the name follows. -/
  | relocate (path : String)
  | setTrashed (flag : Bool)
  deriving DecidableEq, Repr, Inhabited

/-- The document after a patch. -/
def Patch.apply : Patch → Document → Document
  | .relocate path, d => d.relocate path
  | .setTrashed flag, d => { d with trashed := flag }

/-- A patch keeps the key. -/
@[simp] theorem Patch.key_apply (p : Patch) (d : Document) : (p.apply d).key = d.key := by
  cases p <;> rfl

/-! ## Tag deltas -/

/-- A change of the tags of a document. -/
inductive TagDelta
  | add (tags : TagSet)
  | remove (tags : TagSet)
  deriving DecidableEq, Repr, Inhabited

namespace TagDelta

/-- The tags after a delta. -/
def applyTo : TagDelta → TagSet → TagSet
  | .add tags, s => s.union tags
  | .remove tags, s => s.diff tags

/-- The document after a delta. -/
def apply (δ : TagDelta) (d : Document) : Document := { d with tags := δ.applyTo d.tags }

/-- The delta changes the number of tags, and so the tags. -/
def changes (δ : TagDelta) (d : Document) : Bool := (δ.applyTo d.tags).size != d.tags.size

theorem applyTo_eq_self_iff {δ : TagDelta} {s : TagSet} :
    δ.applyTo s = s ↔ (δ.applyTo s).size = s.size := by
  cases δ with
  | add tags => exact TagSet.union_eq_self_iff
  | remove tags => exact TagSet.diff_eq_self_iff

/-- A delta reports a change exactly when the tags differ afterwards. -/
theorem changes_iff {δ : TagDelta} {d : Document} :
    δ.changes d = true ↔ (δ.apply d).tags ≠ d.tags := by
  rw [changes, bne_iff_ne]
  exact not_congr applyTo_eq_self_iff.symm

/-- A delta that reports no change leaves the document as it is. -/
theorem apply_of_not_changes {δ : TagDelta} {d : Document} (h : δ.changes d = false) :
    δ.apply d = d := by
  have htags : δ.applyTo d.tags = d.tags := by
    rw [applyTo_eq_self_iff]
    simpa [changes] using h
  rw [apply, htags]

end TagDelta

end ScopedSearch
