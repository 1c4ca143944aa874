import ScopedSearch.Json.Printer
import ScopedSearch.Records
import ScopedSearch.Search.Backend

/-!
# What is sent to a cluster

The documents, patches and queries as JSON.  A document carries its key and the paths above it,
so that a query can be confined to a path by comparing whole texts.

Documents are stored in bulk: for each one a line that says where it goes and a line with the
document itself.

## Main results

* `length_bulkLines`: there are two lines for each document.
-/

namespace ScopedSearch

/-- The document as a cluster keeps it. -/
def Document.source (d : Document) : Json :=
  .record [
    ("id", .text d.key), ("space_id", .text d.space), ("item_id", .text d.item),
    ("path", .text d.path), ("path_ancestors", .texts d.ancestors), ("name", .text d.name),
    ("content", .text d.content), ("tags", .texts d.tags.toList),
    ("mime_type", .text d.mimeType), ("size", .nat d.size.toNat), ("mtime", .int d.mtime.toInt),
    ("trashed", .bool d.trashed), ("degraded", .bool d.degraded)]

/-- The fields of a stored document that a patch gives anew. -/
def Patch.source : Patch → Json
  | .relocate path =>
    let path := Path.normalize path
    .record [
      ("name", .text (Path.lastName path)), ("path_ancestors", .texts (Path.ancestors path)),
      ("path", .text path)]
  | .setTrashed flag => .record [("trashed", .bool flag)]

/-- The patch as it is sent. -/
def Patch.body (p : Patch) : Json := .record [("doc", p.source)]

/-- Says where the next document goes. -/
def bulkAction (index : String) (d : Document) : Json :=
  .record [("index", .record [("_index", .text index), ("_id", .text d.key)])]

/-- The lines for documents that are stored in bulk. -/
def bulkLines (index : String) (ds : List Document) : List Json :=
  ds.flatMap fun d => [bulkAction index d, d.source]

theorem length_bulkLines (index : String) (ds : List Document) :
    (bulkLines index ds).length = 2 * ds.length := by
  induction ds with
  | nil => rfl
  | cons d ds ih => simp [bulkLines, List.flatMap_cons, Nat.mul_add] at ih ⊢; omega

/-- The documents as they are sent: each line ends with a line feed. -/
def bulkBody (index : String) (ds : List Document) : String :=
  String.join ((bulkLines index ds).map fun line => line.compact ++ "\n")

namespace BackendQuery

/-- What a document has to match. -/
def clause (q : BackendQuery) : Json :=
  if q.query = "" then .record [("match_all", .record [])]
  else .record [("query_string", .record [
    ("query", .text q.query), ("fields", .texts ["name", "content", "tags"]),
    ("default_operator", .text "AND")])]

/-- What confines the search. -/
def filters (q : BackendQuery) : List Json :=
  [.record [("terms", .record [("space_id", .texts q.spaces)])]] ++
  (match q.pathScope with
    | some path => [.record [("term", .record [("path_ancestors", .text path)])]]
    | none => []) ++
  (if q.includeTrashed then [] else [.record [("term", .record [("trashed", .bool false)])]])

/-- The query as it is sent: best score first, and by key among equals. -/
def body (q : BackendQuery) : Json :=
  .record [
    ("query",
      .record [("bool", .record [("must", .list [q.clause]), ("filter", .list q.filters)])]),
    ("sort", .list [.record [("_score", .text "desc")], .record [("id", .text "asc")]]),
    ("from", .nat q.offset), ("size", .nat q.limit), ("track_total_hits", .bool true),
    ("_source", .record [("excludes", .texts ["content"])])]

end BackendQuery

/-- How a cluster is told to treat the fields of documents. -/
def indexMapping : Json :=
  let kinds := [
    ("id", "keyword"), ("space_id", "keyword"), ("item_id", "keyword"), ("path", "keyword"),
    ("path_ancestors", "keyword"), ("name", "text"), ("content", "text"), ("tags", "text"),
    ("mime_type", "keyword"), ("size", "long"), ("mtime", "long"), ("trashed", "boolean")]
  .record [("mappings", .record [("properties", .record <|
    (kinds.map fun (name, kind) => (name, .record [("type", .text kind)])) ++
    [("degraded", .record [("type", .text "boolean"), ("index", .bool false)])])])]

end ScopedSearch
