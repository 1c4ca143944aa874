import ScopedSearch.Search.Engine
import ScopedSearch.Search.MapBackend

/-!
# Recorded engines

An engine that notes what it is asked to do, and fails where it is told to.  It shows what others
ask of an engine, call by call.
-/

namespace ScopedSearch

/-- What an engine is asked to do. -/
inductive EngineUse
  | indexSpace (space : String)
  | upsertItem (space item : String)
  | document (space item : String)
  | moveItem (space item path : String)
  | trashItem (space item : String)
  | restoreItem (space item : String)
  | search (query actor : String)
  deriving DecidableEq, Repr

/-- The name of what is asked. -/
def EngineUse.name : EngineUse → String
  | indexSpace _ => "index_space"
  | upsertItem _ _ => "upsert_item"
  | document _ _ => "document"
  | moveItem _ _ _ => "move_item"
  | trashItem _ _ => "trash_item"
  | restoreItem _ _ => "restore_item"
  | search _ _ => "search"

/-- What is asked, in one line. -/
def EngineUse.line (u : EngineUse) : String :=
  u.name ++ " " ++ match u with
    | indexSpace space => space
    | upsertItem space item | document space item | trashItem space item
    | restoreItem space item => space ++ "/" ++ item
    | moveItem space item path => space ++ "/" ++ item ++ " -> " ++ path
    | search query actor => query ++ " as " ++ actor

/-- What was asked of an engine so far, and how it goes on. -/
structure Recording where
  uses : List EngineUse := []
  /-- The faults that uses of a name end with. -/
  faults : List (String × Fault) := []
  documents : DocumentMap := {}
  /-- The answer to every search. -/
  answer : Response := {}
  deriving Inhabited

namespace Recording

variable {σ α : Type}

/-- Notes a use, and does it unless it is to fail. -/
def note (r : Part σ Recording) (u : EngineUse) (act : Op σ α) : Op σ α := do
  r.modify fun rec => { rec with uses := rec.uses ++ [u] }
  match (← Op.read r.get).faults.lookup u.name with
  | some fault => Op.fail fault
  | none => act

/-- The engine that notes its uses in a piece of the state. -/
def engine (r : Part σ Recording) : Engine σ where
  indexSpace _ space := note r (.indexSpace space) (pure {})
  upsertItem _ d := note r (.upsertItem d.space d.item) <|
    r.modify fun rec => { rec with documents := rec.documents.place d }
  document _ space item := note r (.document space item) <|
    Op.read fun s => (r.get s).documents.find? space item
  moveItem _ space item path := note r (.moveItem space item path) (pure ())
  trashItem _ space item := note r (.trashItem space item) (pure ())
  restoreItem _ space item := note r (.restoreItem space item) (pure ())
  search _ request actor := note r (.search request.query actor.id) <|
    Op.read fun s => (r.get s).answer

end Recording

end ScopedSearch
