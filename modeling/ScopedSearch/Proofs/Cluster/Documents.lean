import ScopedSearch.Cluster.Body
import ScopedSearch.Proofs.Json.Fields

/-!
# Documents as a cluster keeps them

What a cluster keeps of a document has more fields than the document has: its key and the paths
above it are there to be searched.  A reader skips them and finds the document.  An answer to a
search leaves the content out, and then it is the document without content that is found.

## Main results

* `ofJson?_source`: what is kept of a document is read as the document.
* `ofJson?_source_without_content`: without its content it is read as the document without content.
* `parse?_source`: the text of what is kept reads back.
-/

namespace ScopedSearch

/-- The record without the fields of a name. -/
def Json.without (name : String) : Json → Json
  | .record fields => .record (fields.filter (·.1 != name))
  | v => v

namespace Document

theorem cells?_source (d : Document) : Json.cells? fieldNames d.source = some [
    some (.text d.space), some (.text d.item), some (.text d.path), some (.text d.name),
    some (.text d.mimeType), some (.nat d.size.toNat), some (.int d.mtime.toInt),
    some (.texts d.tags.toList), some (.text d.content), some (.bool d.trashed),
    some (.bool d.degraded)] := rfl

theorem cells?_source_without_content (d : Document) :
    Json.cells? fieldNames (d.source.without "content") = some [
      some (.text d.space), some (.text d.item), some (.text d.path), some (.text d.name),
      some (.text d.mimeType), some (.nat d.size.toNat), some (.int d.mtime.toInt),
      some (.texts d.tags.toList), none, some (.bool d.trashed), some (.bool d.degraded)] := rfl

/-- What is kept of a document is read as the document. -/
theorem ofJson?_source (d : Document) : ofJson? d.source = some d := by
  simp [ofJson?, cells?_source, Json.required, Json.withDefault, Json.text?, Json.bool?,
    readSize?_nat, readTime?_int, Json.tagSet?_texts]

/-- Without its content it is read as the document without content. -/
theorem ofJson?_source_without_content (d : Document) :
    ofJson? (d.source.without "content") = some { d with content := "" } := by
  simp [ofJson?, cells?_source_without_content, Json.required, Json.withDefault, Json.text?,
    Json.bool?, readSize?_nat, readTime?_int, Json.tagSet?_texts]

theorem isExact_source (d : Document) : d.source.isExact = true := by
  have hsize := Json.isExact_nat d.size.toNat_lt
  simp [source, Json.isExact, Json.exactFields, Json.texts, Json.exactList_texts, hsize,
    Json.minSigned_le_toInt, Json.toInt_le_maxWord]

/-- The text of what is kept reads back. -/
theorem parse?_source (d : Document) : Json.parse? d.source.compact = some d.source :=
  Json.parse?_compact d.isExact_source

end Document

end ScopedSearch
