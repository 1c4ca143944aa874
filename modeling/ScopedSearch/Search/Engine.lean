import ScopedSearch.Extraction
import ScopedSearch.Search.Backend
import ScopedSearch.Search.Paging

/-!
# The engine

The engine ties a backend to storage and extraction.  It rebuilds a space from storage, changes
single documents, and answers searches within what their actor may see.

A rebuild takes one listing of the space and goes through it in order.  A resource whose document
is up to date is skipped.  For any other one a document is made; it keeps the indexed text when the
file itself is unchanged, and is written in batches.
-/

namespace ScopedSearch

/-- What a rebuild of one space did. -/
structure IndexStats where
  scanned : Nat := 0
  indexed : Nat := 0
  skipped : Nat := 0
  degraded : Nat := 0
  deriving DecidableEq, Repr, Inhabited

/-- The counts as a record. -/
def IndexStats.toJson (s : IndexStats) : Json :=
  .record [
    ("scanned", .nat s.scanned), ("indexed", .nat s.indexed), ("skipped", .nat s.skipped),
    ("degraded", .nat s.degraded)]

/-- A full-text index over storage spaces, as callers use it. -/
structure Engine (σ : Type) where
  /-- Makes every document of a space anew from storage. -/
  indexSpace : Context σ → String → Op σ IndexStats
  upsertItem : Context σ → Document → Op σ Unit
  document : Context σ → String → String → Op σ (Option Document)
  moveItem : Context σ → String → String → String → Op σ Unit
  trashItem : Context σ → String → String → Op σ Unit
  restoreItem : Context σ → String → String → Op σ Unit
  search : Context σ → Request → Actor → Op σ Response

/-- Documents written at once in a rebuild. -/
def batchSize : Nat := 64

/-- The indexed text still belongs to the file. -/
def Document.isReusableFor (d : Document) (r : Resource) : Bool :=
  !d.degraded && !r.isDir && d.mtime == r.mtime && d.size == r.size

/-- The document already says what a rebuild would make it say. -/
def Document.isCurrentFor (d : Document) (r : Resource) : Bool :=
  !d.trashed && !d.degraded && d.mtime == r.mtime && d.path == Path.normalize r.path &&
    d.tags == r.tags && d.size == r.size

/-- A backend, storage and an extractor working together on one state. -/
structure IndexEngine (σ : Type) where
  backend : Backend σ
  storage : σ → Storage
  extractor : Extractor σ

namespace IndexEngine

variable {σ : Type}

/-- What a rebuild makes of one resource: nothing when its document is current. -/
inductive Prepared
  | skip
  | write (d : Document)
  deriving DecidableEq, Repr

/-- Prepares the document of one listed resource. -/
def prepare (e : IndexEngine σ) (ctx : Context σ) (r : Resource) : Op σ Prepared := do
  let existing ← e.backend.get ctx r.space r.item
  let fresh : Op σ Prepared := do
    if r.isDir then return .write (r.toDocument "")
    let x ← e.extractor.extract ctx r
    return .write (r.toDocument x.content x.degraded.isSome)
  match existing with
  | none => fresh
  | some d =>
    if d.isCurrentFor r then return .skip
    else if d.isReusableFor r then return .write (r.toDocument d.content)
    else fresh

/-- The part of a rebuild that is still in hand: its counts so far and the batch being filled. -/
structure Progress where
  stats : IndexStats
  batch : List Document := []
  deriving DecidableEq, Repr

/-- Writes the batch. -/
def flush (e : IndexEngine σ) (ctx : Context σ) (p : Progress) : Op σ Progress := do
  e.backend.upsert ctx p.batch
  return { stats := { p.stats with indexed := p.stats.indexed + p.batch.length }, batch := [] }

/-- Takes one resource into a rebuild; a full batch is written. -/
def step (e : IndexEngine σ) (ctx : Context σ) (p : Progress) (r : Resource) : Op σ Progress := do
  ctx.check
  match ← e.prepare ctx r with
  | .skip => return { p with stats := { p.stats with skipped := p.stats.skipped + 1 } }
  | .write d =>
    let p : Progress := {
      stats := { p.stats with degraded := p.stats.degraded + (if d.degraded then 1 else 0) }
      batch := p.batch ++ [d] }
    if batchSize ≤ p.batch.length then e.flush ctx p else return p

/-- The resources of a listing, one after the other. -/
def steps (e : IndexEngine σ) (ctx : Context σ) : Progress → List Resource → Op σ Progress
  | p, [] => return p
  | p, r :: rs => do
    let p ← e.step ctx p r
    e.steps ctx p rs

/-- Makes every document of a space anew from storage. -/
def indexSpace (e : IndexEngine σ) (ctx : Context σ) (space : String) : Op σ IndexStats := do
  ctx.check
  let storage ← Op.read e.storage
  let resources ← Op.ofExcept (storage.walkSpace space)
  let p ← e.steps ctx { stats := { scanned := resources.length } } resources
  let p ← e.flush ctx p
  return p.stats

/-- Patches the document of an item; an unknown item is let be. -/
def patchIfKnown (e : IndexEngine σ) (ctx : Context σ) (space item : String) (p : Patch) :
    Op σ Unit := do
  let _ ← e.backend.patch ctx space item p

/-- The spaces that a search looks in: those permitted, cut down to the one that is named. -/
def selectSpaces (permitted : List String) (r : Reference) : List String :=
  match r.space? with
  | some space => if permitted.contains space then [space] else []
  | none => permitted

/-- The path of the item that a reference names, when one space is selected. -/
def referencedPath (storage : Storage) (spaces : List String) (r : Reference) :
    Except Fault (Option String) :=
  match r.item, spaces with
  | some item, [space] =>
    match storage.resolve space item with
    | .ok resource => .ok (some resource.path)
    | .error (.itemNotFound _) => .error (.badQuery (.unknownReference item space))
    | .error e => .error e
  | _, _ => .ok none

/-- The token of the page after one that ends before `next`. -/
def nextToken (fingerprint : UInt64) (next count : Nat) (total : UInt64) : String :=
  if count ≠ 0 ∧ next < total.toNat ∧ next ≤ resultWindow then
    PageToken.encode ⟨UInt64.ofNat next, fingerprint⟩
  else ""

/-- Answers a search within what its actor may see. -/
def search (e : IndexEngine σ) (ctx : Context σ) (request : Request) (actor : Actor) :
    Op σ Response := do
  ctx.check
  let limit := pageLimit request.pageSize
  let fingerprint := request.fingerprint
  let offset ← Op.ofExcept
    ((PageToken.offsetFor fingerprint request.pageToken).mapError (.badQuery ∘ .pageToken))
  let storage ← Op.read e.storage
  let permitted ← Op.ofExcept (storage.listSpaces actor)
  let spaces := selectSpaces permitted request.reference
  if spaces.isEmpty then return {}
  let base ← Op.ofExcept (referencedPath storage spaces request.reference)
  let found ← e.backend.search ctx {
    query := Text.trim request.query
    spaces
    pathScope := Path.scope base request.reference.path
    includeTrashed := request.includeTrashed
    offset
    limit }
  let hits := found.hits.map fun (d, score) => Match.ofDocument d score
  return {
    hits
    total := found.total.toInt64
    nextToken := nextToken fingerprint (offset + hits.length) hits.length found.total }

/-- The engine as callers use it. -/
def toEngine (e : IndexEngine σ) : Engine σ where
  indexSpace := e.indexSpace
  upsertItem ctx d := e.backend.upsert ctx [d]
  document := e.backend.get
  moveItem ctx space item path := e.patchIfKnown ctx space item (.relocate path)
  trashItem ctx space item := e.patchIfKnown ctx space item (.setTrashed true)
  restoreItem ctx space item := e.patchIfKnown ctx space item (.setTrashed false)
  search := e.search

end IndexEngine

end ScopedSearch
