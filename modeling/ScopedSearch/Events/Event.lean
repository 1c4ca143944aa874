import ScopedSearch.Json.Reader
import ScopedSearch.Json.Record
import ScopedSearch.Records

/-!
# Change events

What storage reports about its items, one event a change.  As a record an event carries the type of
the change beside the identity of the item, and the fields of that type.  A type that is not known
stands for itself as unknown; its fields are skipped.
-/

namespace ScopedSearch

/-- What happened to an item. -/
inductive Change
  | itemTrashed
  | itemRestored
  | itemMoved (oldPath newPath : String)
  | itemUploaded
  /-- Processing of an upload has ended. -/
  | uploadReady (user : String) (failed : Bool)
  | containerCreated
  | fileTouched
  | fileVersionRestored
  | tagsAdded (tags : TagSet)
  | tagsRemoved (tags : TagSet)
  | unknown
  deriving DecidableEq, Repr, Inhabited

/-- A change of an item, and who caused it. -/
structure Event where
  space : String
  item : String
  executant : Option String := none
  change : Change
  deriving DecidableEq, Repr, Inhabited

namespace Change

/-- The type of a change, which is also the subject it is published under. -/
def name : Change → String
  | itemTrashed => "ItemTrashed"
  | itemRestored => "ItemRestored"
  | itemMoved _ _ => "ItemMoved"
  | itemUploaded => "ItemUploaded"
  | uploadReady _ _ => "UploadReady"
  | containerCreated => "ContainerCreated"
  | fileTouched => "FileTouched"
  | fileVersionRestored => "FileVersionRestored"
  | tagsAdded _ => "TagsAdded"
  | tagsRemoved _ => "TagsRemoved"
  | unknown => "Unknown"

/-- The fields of a change beside its type. -/
def fields : Change → List (String × Json)
  | itemMoved oldPath newPath => [("old_path", .text oldPath), ("new_path", .text newPath)]
  | uploadReady user failed => [("executing_user", .text user), ("failed", .bool failed)]
  | tagsAdded tags | tagsRemoved tags => [("tags", .texts tags.toList)]
  | _ => []

/-- Reads the fields of a change out of those of a record. -/
abbrev FieldReader := List (String × Json) → Option Change

/-- Reads the tags of a change. -/
def readTags (make : TagSet → Change) : FieldReader := fun fields => do
  return make (← Json.required Json.tagSet? (← Json.cell fields "tags"))

/-- The types of changes in their order, each with the reader of its fields. -/
def readers : List (String × FieldReader) := [
  ("ItemTrashed", fun _ => some itemTrashed),
  ("ItemRestored", fun _ => some itemRestored),
  ("ItemMoved", fun fields => do
    return itemMoved
      (← Json.withDefault Json.text? "" (← Json.cell fields "old_path"))
      (← Json.required Json.text? (← Json.cell fields "new_path"))),
  ("ItemUploaded", fun _ => some itemUploaded),
  ("UploadReady", fun fields => do
    return uploadReady
      (← Json.withDefault Json.text? "" (← Json.cell fields "executing_user"))
      (← Json.withDefault Json.bool? false (← Json.cell fields "failed"))),
  ("ContainerCreated", fun _ => some containerCreated),
  ("FileTouched", fun _ => some fileTouched),
  ("FileVersionRestored", fun _ => some fileVersionRestored),
  ("TagsAdded", readTags tagsAdded),
  ("TagsRemoved", readTags tagsRemoved)]

/-- Reads the fields of an unknown change: there are none. -/
def readUnknown : FieldReader := fun _ => some unknown

/-- The reader that the type of a record names, by its text or by its number in the order. -/
def reader? : Json → Option FieldReader
  | .text name => some ((readers.lookup name).getD readUnknown)
  | .int n => if 0 ≤ n then some ((readers[n.toNat]?.map (·.2)).getD readUnknown) else none
  | _ => none

end Change

namespace Event

/-- The event as a record. -/
def toJson (e : Event) : Json :=
  .record ([("space_id", .text e.space), ("item_id", .text e.item)] ++
    (e.executant.toList.map fun user => ("executant", .text user)) ++
    ("type", .text e.change.name) :: e.change.fields)

/--
The event that a value is a record of.  Every field of the record is looked at, so that one without
a value or nested too deep spoils it.
-/
def ofJson? (v : Json) : Option Event :=
  if !v.isReadable then none
  else match v with
    | .record fields => do
      let space ← Json.required Json.text? (← Json.cell fields "space_id")
      let item ← Json.required Json.text? (← Json.cell fields "item_id")
      let executant ← Json.withDefault Json.optionText? none (← Json.cell fields "executant")
      let reader ← Json.required Change.reader? (← Json.cell fields "type")
      return { space, item, executant, change := ← reader fields }
    | _ => none

/-- The event that a text is a record of. -/
def parse? (text : String) : Option Event := (Json.parse? text).bind ofJson?

end Event

/-- The subjects that rebuilding subscribes to: every known type. -/
def subscribedSubjects : List String := Change.readers.map (·.1)

end ScopedSearch
