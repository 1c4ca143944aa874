import ScopedSearch.Index.Collection
import ScopedSearch.Json.Reader
import ScopedSearch.Records

/-!
# Archived collections

The text that a collection is kept as between two runs of the program: one document a line.

## Main results

* `ofArchive_empty`: an empty text holds no documents.
-/

namespace ScopedSearch.Collection

/-- The text that a collection is kept as. -/
def archive (c : Collection) : String :=
  String.join (c.toList.map fun d => d.toJson.compact ++ "\n")

/-- The documents of the lines of a text that hold one. -/
def ofArchive (text : String) : Collection :=
  Collection.empty.placeAll <| (Text.splitOn '\n' text.toList).filterMap fun line =>
    (Json.parseChars? line).bind Document.ofJson?

theorem ofArchive_empty : ofArchive "" = Collection.empty := by
  have h : Json.parseChars? [] = none := rfl
  simp [ofArchive, Text.splitOn, placeAll, h]

end ScopedSearch.Collection
