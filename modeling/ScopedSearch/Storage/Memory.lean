import ScopedSearch.Storage
import ScopedSearch.Storage.ByName

/-!
# Storage held in memory

Spaces with their members and items, for programs that hold their resources themselves.  Spaces
and items are listed in the order of their identities.  A space can be broken, so that it cannot be
walked, and the listing of spaces can fail as a whole.
-/

namespace ScopedSearch

namespace MemoryStorage

/-- A resource and its bytes. -/
structure Entry where
  resource : Resource
  body : ByteArray

/-- A space: who may see it besides its owner, and what it holds by identity. -/
structure Space where
  members : List String := []
  items : List (String × Entry) := []
  /-- The space cannot be walked. -/
  broken : Bool := false

end MemoryStorage

/-- Storage held in memory. -/
structure MemoryStorage where
  spaces : List (String × MemoryStorage.Space) := []
  /-- Listing the spaces fails. -/
  listingFails : Bool := false

namespace MemoryStorage

/-- The space with a name, empty when there is none. -/
def space (m : MemoryStorage) (id : String) : Space := (m.spaces.lookup id).getD {}

/-- Changes the space with a name; one that was not there is made. -/
def onSpace (m : MemoryStorage) (id : String) (f : Space → Space) : MemoryStorage :=
  { m with spaces := placeByName id (f (m.space id)) m.spaces }

/-- Makes a space, or gives it other members. -/
def addSpace (m : MemoryStorage) (id : String) (members : List String) : MemoryStorage :=
  m.onSpace id fun s => { s with members }

/-- Stores a resource with its bytes. -/
def store (m : MemoryStorage) (r : Resource) (body : ByteArray) : MemoryStorage :=
  m.onSpace r.space fun s => { s with items := placeByName r.item ⟨r, body⟩ s.items }

/-- What a space holds under an identity. -/
def entry? (m : MemoryStorage) (space item : String) : Option Entry := do
  let s ← m.spaces.lookup space
  s.items.lookup item

/-- Takes a resource away. -/
def remove (m : MemoryStorage) (space item : String) : MemoryStorage :=
  if (m.entry? space item).isSome then
    m.onSpace space fun s => { s with items := s.items.filter (·.1 ≠ item) }
  else m

/-- Changes what is known of a resource; it stays under its identity. -/
def update (m : MemoryStorage) (space item : String) (f : Resource → Resource) : MemoryStorage :=
  if (m.entry? space item).isSome then
    m.onSpace space fun s =>
      { s with items := s.items.map fun (id, e) =>
          if id = item then (id, { e with resource := f e.resource }) else (id, e) }
  else m

/-- The actor may see the space. -/
def mayView (a : Actor) (id : String) (s : Space) : Bool :=
  a.service || id == a.id || s.members.contains a.id

/-- The answers of the storage. -/
def toStorage (m : MemoryStorage) : Storage where
  listSpaces a :=
    if m.listingFails then .error (.storage .listing)
    else .ok ((m.spaces.filter fun (id, s) => mayView a id s).map (·.1))
  walkSpace id :=
    match m.spaces.lookup id with
    | none => .error (.storage (.unknownSpace id))
    | some s =>
      if s.broken then .error (.storage (.unavailableSpace id))
      else .ok (s.items.map (·.2.resource))
  resolve id item :=
    match m.entry? id item with
    | none => .error (.itemNotFound (documentKey id item))
    | some e => .ok e.resource
  bytes r :=
    match m.entry? r.space r.item with
    | none => .error (.itemNotFound r.item)
    | some e => .ok e.body

end MemoryStorage

end ScopedSearch
