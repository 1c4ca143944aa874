import ScopedSearch.Document

/-!
# Resources and actors

A resource is a file or directory as storage reports it.  An actor is the identity on whose behalf
something is asked; a service actor may see every space.
-/

namespace ScopedSearch

/-- A file or directory as storage reports it. -/
structure Resource where
  space : String
  item : String
  path : String
  name : String
  mimeType : String
  size : UInt64
  mtime : Int64
  tags : TagSet := TagSet.empty
  isDir : Bool := false
  deriving DecidableEq, Repr, Inhabited

/-- The document of a resource with the given text: its path is in normal spelling. -/
def Resource.toDocument (r : Resource) (content : String) (degraded : Bool := false) :
    Document where
  space := r.space
  item := r.item
  path := Path.normalize r.path
  name := r.name
  mimeType := r.mimeType
  size := r.size
  mtime := r.mtime
  tags := r.tags
  content := content
  trashed := false
  degraded := degraded

/-- The identity on whose behalf something is asked. -/
structure Actor where
  id : String
  username : String
  displayName : Option String := none
  /-- Privileged: may see every space. -/
  service : Bool := false
  deriving DecidableEq, Repr, Inhabited

end ScopedSearch
