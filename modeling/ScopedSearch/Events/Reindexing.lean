import ScopedSearch.Events.Feed
import ScopedSearch.Events.Plan
import ScopedSearch.Search.Engine

/-!
# Reindexing

Carries events out on an engine.  Every call of a plan is made, whatever became of the one before
it; what fails is counted and otherwise let be, so an event is done once its calls have returned.
-/

namespace ScopedSearch

namespace Engine

variable {σ : Type}

/-- Changes the tags of a document; one that is not indexed or does not change is let be. -/
def retag (e : Engine σ) (ctx : Context σ) (space item : String) (delta : TagDelta) :
    Op σ Unit := do
  match ← e.document ctx space item with
  | none => return
  | some d => if delta.changes d then e.upsertItem ctx (delta.apply d)

/-- Makes one call. -/
def carryOut (e : Engine σ) (ctx : Context σ) : EngineCall → Op σ Unit
  | .indexSpace space => do
    let _ ← e.indexSpace ctx space
  | .trashItem space item => e.trashItem ctx space item
  | .restoreItem space item => e.restoreItem ctx space item
  | .moveItem space item path => e.moveItem ctx space item path
  | .upsertItem space item delta => e.retag ctx space item delta

/-- Makes calls one after the other and counts those that fail. -/
def carryOutAll (e : Engine σ) (ctx : Context σ) : List EngineCall → Op σ Nat
  | [] => return 0
  | call :: rest => do
    let failures : Nat := match ← (e.carryOut ctx call).outcome with
      | .ok () => 0
      | .error _ => 1
    return failures + (← e.carryOutAll ctx rest)

/-- Handles an event; answers how many of its calls failed. -/
def handle (e : Engine σ) (options : ReindexOptions) (ctx : Context σ) (event : Event) : Op σ Nat :=
  e.carryOutAll ctx (plan options event)

/-- Handles events one after the other. -/
def handleAll (e : Engine σ) (options : ReindexOptions) (ctx : Context σ) :
    List Event → Op σ Unit
  | [] => return
  | event :: rest => do
    let _ ← e.handle options ctx event
    e.handleAll options ctx rest

/-- Handles events of a channel, oldest first; each one is acknowledged once it is done. -/
def serveAll (e : Engine σ) (options : ReindexOptions) (ctx : Context σ)
    (channel : Part σ EventChannel) : List Event → Op σ Unit
  | [] => return
  | event :: rest => do
    let _ ← e.handle options ctx event
    channel.modify EventChannel.finish
    e.serveAll options ctx channel rest

/-- Handles what waits in a channel. -/
def serve (e : Engine σ) (options : ReindexOptions) (ctx : Context σ)
    (channel : Part σ EventChannel) : Op σ Unit := do
  e.serveAll options ctx channel (← Op.read fun s => (channel.get s).waiting)

end Engine

end ScopedSearch
