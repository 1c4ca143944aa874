import ScopedSearch.Decimal.Single
import ScopedSearch.Json.Record
import ScopedSearch.Json.Printer
import ScopedSearch.Request

/-!
# The records in JSON

How documents, resources, actors, requests and answers are written and read.  Each record type
has its field names in one list; reading follows the rules of `Json.Record`, so a record may also
be given as the list of its values.
-/

namespace ScopedSearch

open Json

/-! ## Documents -/

/-- The names of the fields of a document. -/
def Document.fieldNames : List String :=
  ["space_id", "item_id", "path", "name", "mime_type", "size", "mtime", "tags", "content",
    "trashed", "degraded"]

/-- The document as a record. -/
def Document.toJson (d : Document) : Json :=
  .record [
    ("space_id", .text d.space), ("item_id", .text d.item), ("path", .text d.path),
    ("name", .text d.name), ("mime_type", .text d.mimeType), ("size", .nat d.size.toNat),
    ("mtime", .int d.mtime.toInt), ("tags", .texts d.tags.toList), ("content", .text d.content),
    ("trashed", .bool d.trashed), ("degraded", .bool d.degraded)]

/-- An unsigned 64-bit number as a word. -/
def readSize? (v : Json) : Option UInt64 := (word? v).map UInt64.ofNat

/-- A signed 64-bit number as a word. -/
def readTime? (v : Json) : Option Int64 := (signed? v).map Int64.ofInt

/-- The document that a value is a record of. -/
def Document.ofJson? (v : Json) : Option Document := do
  match ← cells? fieldNames v with
  | [space, item, path, name, mimeType, size, mtime, tags, content, trashed, degraded] =>
    return {
      space := ← required text? space
      item := ← required text? item
      path := ← required text? path
      name := ← required text? name
      mimeType := ← required text? mimeType
      size := ← required readSize? size
      mtime := ← required readTime? mtime
      tags := ← withDefault tagSet? TagSet.empty tags
      content := ← withDefault text? "" content
      trashed := ← withDefault bool? false trashed
      degraded := ← withDefault bool? false degraded }
  | _ => none

/-! ## Resources -/

/-- The names of the fields of a resource. -/
def Resource.fieldNames : List String :=
  ["space_id", "item_id", "path", "name", "mime_type", "size", "mtime", "tags", "is_dir"]

/-- The resource as a record. -/
def Resource.toJson (r : Resource) : Json :=
  .record [
    ("space_id", .text r.space), ("item_id", .text r.item), ("path", .text r.path),
    ("name", .text r.name), ("mime_type", .text r.mimeType), ("size", .nat r.size.toNat),
    ("mtime", .int r.mtime.toInt), ("tags", .texts r.tags.toList), ("is_dir", .bool r.isDir)]

/-- The resource that a value is a record of. -/
def Resource.ofJson? (v : Json) : Option Resource := do
  match ← cells? fieldNames v with
  | [space, item, path, name, mimeType, size, mtime, tags, isDir] =>
    return {
      space := ← required text? space
      item := ← required text? item
      path := ← required text? path
      name := ← required text? name
      mimeType := ← required text? mimeType
      size := ← required readSize? size
      mtime := ← required readTime? mtime
      tags := ← withDefault tagSet? TagSet.empty tags
      isDir := ← withDefault bool? false isDir }
  | _ => none

/-! ## Actors -/

/-- An optional text: null when there is none. -/
def optionJson : Option String → Json
  | none => .null
  | some s => .text s

/-- The actor as a record. -/
def Actor.toJson (a : Actor) : Json :=
  .record [
    ("id", .text a.id), ("username", .text a.username),
    ("display_name", optionJson a.displayName), ("service", .bool a.service)]

/-- The actor that a value is a record of. -/
def Actor.ofJson? (v : Json) : Option Actor := do
  match ← cells? ["id", "username", "display_name", "service"] v with
  | [id, username, displayName, service] =>
    return {
      id := ← required text? id
      username := ← required text? username
      displayName := ← withDefault optionText? none displayName
      service := ← withDefault bool? false service }
  | _ => none

/-! ## Requests -/

/-- The reference as a record. -/
def Reference.toJson (r : Reference) : Json :=
  .record [
    ("space_id", optionJson r.space), ("item_id", optionJson r.item), ("path", optionJson r.path)]

/-- The reference that a value is a record of. -/
def Reference.ofJson? (v : Json) : Option Reference := do
  match ← cells? ["space_id", "item_id", "path"] v with
  | [space, item, path] =>
    return {
      space := ← withDefault optionText? none space
      item := ← withDefault optionText? none item
      path := ← withDefault optionText? none path }
  | _ => none

/-- The request as a record. -/
def Request.toJson (r : Request) : Json :=
  .record [
    ("query", .text r.query), ("page_size", .int r.pageSize.toInt),
    ("reference", r.reference.toJson), ("page_token", .text r.pageToken),
    ("include_trashed", .bool r.includeTrashed)]

/-- The request that a value is a record of. -/
def Request.ofJson? (v : Json) : Option Request := do
  match ← cells? ["query", "page_size", "reference", "page_token", "include_trashed"] v with
  | [query, pageSize, reference, pageToken, includeTrashed] =>
    return {
      query := ← required text? query
      pageSize := Int32.ofInt (← required signed32? pageSize)
      reference := ← withDefault Reference.ofJson? {} reference
      pageToken := ← withDefault text? "" pageToken
      includeTrashed := ← withDefault bool? false includeTrashed }
  | _ => none

/-! ## Answers -/

/-- A score as a number; null where it is none. -/
def scoreJson (score : Score) : Json :=
  match Decimal.Binary.ofBits? score.toBits with
  | none => .null
  | some b =>
    let (digits, exponent) := b.shortest
    .decimal ⟨b.negative, digits, exponent⟩

/-- The fields of a match beside its score. -/
def Match.fields (m : Match) : List (String × Json) := [
  ("space_id", .text m.space), ("item_id", .text m.item), ("path", .text m.path),
  ("name", .text m.name), ("mime_type", .text m.mimeType), ("size", .nat m.size.toNat),
  ("mtime", .int m.mtime.toInt), ("tags", .texts m.tags), ("trashed", .bool m.trashed)]

/-- The match as a record. -/
def Match.toJson (m : Match) : Json := .record (("score", scoreJson m.score) :: m.fields)

/-- The answer as a record. -/
def Response.toJson (r : Response) : Json :=
  .record [
    ("matches", .list (r.hits.map Match.toJson)), ("total_matches", .int r.total.toInt),
    ("next_page_token", .text r.nextToken)]

/-- The match that a value is a record of. -/
def Match.ofJson? (v : Json) : Option Match := do
  match ← cells? ["score", "space_id", "item_id", "path", "name", "mime_type", "size", "mtime",
      "tags", "trashed"] v with
  | [score, space, item, path, name, mimeType, size, mtime, tags, trashed] =>
    return {
      score := ← required float32? score
      space := ← required text? space
      item := ← required text? item
      path := ← required text? path
      name := ← required text? name
      mimeType := ← required text? mimeType
      size := ← required readSize? size
      mtime := ← required readTime? mtime
      tags := ← required textList? tags
      trashed := ← required bool? trashed }
  | _ => none

/-- The answer that a value is a record of. -/
def Response.ofJson? (v : Json) : Option Response := do
  match ← cells? ["matches", "total_matches", "next_page_token"] v with
  | [hits, total, nextToken] =>
    let items ← required (fun v => match v with
      | .list items => items.mapM Match.ofJson?
      | _ => none) hits
    return {
      hits := items
      total := ← required readTime? total
      nextToken := ← required text? nextToken }
  | _ => none

end ScopedSearch
