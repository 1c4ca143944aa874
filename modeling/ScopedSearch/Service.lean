import ScopedSearch.Identity.Token
import ScopedSearch.Search.Cache
import ScopedSearch.Search.Engine

/-!
# The service

What callers talk to: a search names its actor by a token and may be answered from the cache; a
rebuild takes one space or all of them.  The faults below are folded into three classes.

## Main results

* `classOf_eq_badRequest_iff`: only a bad query is the sender's to mend.
-/

namespace ScopedSearch

/-- The classes of the faults of the service. -/
inductive FaultClass
  | unauthenticated
  | badRequest
  | internal
  deriving DecidableEq, Repr

/-- The name of a class. -/
def FaultClass.name : FaultClass → String
  | unauthenticated => "UNAUTHENTICATED"
  | badRequest => "BAD_REQUEST"
  | internal => "INTERNAL"

/-- A fault of the service. -/
structure ServiceFault where
  faultClass : FaultClass
  message : String
  deriving DecidableEq, Repr

/-- The fault in one line. -/
def ServiceFault.text (f : ServiceFault) : String := f.faultClass.name ++ ": " ++ f.message

/-- The class that a fault below the service falls into. -/
def Fault.faultClass : Fault → FaultClass
  | .unauthenticated _ => .unauthenticated
  | .badQuery _ => .badRequest
  | _ => .internal

theorem classOf_eq_badRequest_iff (f : Fault) :
    f.faultClass = .badRequest ↔ ∃ cause, f = .badQuery cause := by
  cases f <;> simp [Fault.faultClass]

/-- The fault of the service that a fault below it makes. -/
def Fault.toServiceFault (f : Fault) : ServiceFault := ⟨f.faultClass, f.message⟩

/-- What a rebuild of all spaces does when one of them fails. -/
inductive RebuildPolicy
  /-- Goes on with the next space. -/
  | proceed
  | abortOnFirst
  deriving DecidableEq, Repr, Inhabited

/-- What became of the spaces in a rebuild. -/
structure RebuildReport where
  indexed : List String := []
  /-- The spaces that failed, each with what was wrong. -/
  failed : List (String × String) := []
  deriving DecidableEq, Repr, Inhabited

/-- The report as a record. -/
def RebuildReport.toJson (r : RebuildReport) : Json :=
  .record [
    ("indexed", .texts r.indexed),
    ("failed", .list (r.failed.map fun (space, error) =>
      .record [("space_id", .text space), ("error", .text error)]))]

/-- No space failed. -/
def RebuildReport.isComplete (r : RebuildReport) : Bool := r.failed.isEmpty

/-- The parts that a service works with. -/
structure Service (σ : Type) where
  engine : Engine σ
  /-- Who is behind a token. -/
  identify : String → Op σ Actor
  /-- The identity that may see every space. -/
  serviceActor : Except Fault Actor
  storage : σ → Storage
  cache : Part σ ResultCache
  /-- Milliseconds on a clock that never goes back. -/
  now : σ → Nat
  policy : RebuildPolicy := .proceed

namespace Service

variable {σ : Type}

/-- What the service makes of a fault of the engine in a search: a bad query is told plainly. -/
def searchFault : Fault → ServiceFault
  | .badQuery cause => ⟨.badRequest, cause.message⟩
  | f => ⟨.internal, f.message⟩

/-- Answers a search on behalf of who is behind a token. -/
def search (s : Service σ) (ctx : Context σ) (request : Request) (token : String) :
    Op σ (Except ServiceFault Response) := do
  match ← (s.identify token).outcome with
  | .error f => return .error ⟨.unauthenticated, f.message⟩
  | .ok actor =>
    let key := CacheKey.of request actor
    let asked ← Op.read s.now
    let cached ← Op.read fun st => ((s.cache.get st).get? asked key).1
    s.cache.modify fun c => (c.get? asked key).2
    match cached with
    | some response => return .ok response
    | none =>
      match ← (s.engine.search ctx request actor).outcome with
      | .error f => return .error (searchFault f)
      | .ok response =>
        let answered ← Op.read s.now
        s.cache.modify fun c => c.put answered key response
        return .ok response

/-- Rebuilds spaces one after the other, by the policy. -/
def rebuildAll (s : Service σ) (ctx : Context σ) : RebuildReport → List String →
    Op σ (Except ServiceFault RebuildReport)
  | report, [] => return .ok report
  | report, space :: rest => do
    match ← (s.engine.indexSpace ctx space).outcome with
    | .ok _ => s.rebuildAll ctx { report with indexed := report.indexed ++ [space] } rest
    | .error f =>
      match s.policy with
      | .abortOnFirst => return .error (Fault.perSpace space f).toServiceFault
      | .proceed =>
        s.rebuildAll ctx { report with failed := report.failed ++ [(space, f.message)] } rest

/-- The spaces of a rebuild of all spaces. -/
def allSpaces (s : Service σ) (st : σ) : Except Fault (List String) :=
  (s.serviceActor.bind (s.storage st).listSpaces).mapError fun f => .enumerationFailed f.message

/-- Rebuilds one space, or all of them when none is named. -/
def indexSpace (s : Service σ) (ctx : Context σ) (space : Option String) :
    Op σ (Except ServiceFault RebuildReport) := do
  match space.filter (· ≠ "") with
  | some space =>
    match ← (s.engine.indexSpace ctx space).outcome with
    | .ok _ => return .ok { indexed := [space] }
    | .error f => return .error f.toServiceFault
  | none =>
    match ← Op.read s.allSpaces with
    | .error f => return .error f.toServiceFault
    | .ok spaces => s.rebuildAll ctx {} spaces

end Service

end ScopedSearch
