import ScopedSearch.Events.Plan
import ScopedSearch.Identity.Token
import ScopedSearch.Service

/-!
# Settings

What the program is set to do.  Every setting has a default, so that no settings at all are
settings.

## Main results

* `fault?_eq_none_iff`: settings without fault have a worker, room in the cache, and an address to
  go to if they want one.
-/

namespace ScopedSearch

/-- Where the index is. -/
inductive EngineKind
  /-- In files of the program's own. -/
  | embedded
  /-- In a cluster. -/
  | remote
  deriving DecidableEq, Repr, Inhabited

/-- What makes text of files. -/
inductive ExtractorKind
  /-- Nothing does. -/
  | basic
  /-- A converter in the network. -/
  | converter
  deriving DecidableEq, Repr, Inhabited

/-- How a cluster is reached. -/
structure ClusterSettings where
  addresses : List String := ["http://127.0.0.1:9200"]
  index : String := "space-search-resources"
  username : Option String := none
  password : Option String := none
  /-- Headers for every request. -/
  headers : List (String × String) := []
  timeoutSeconds : Nat := 10
  /-- A certificate that nobody vouches for is accepted. -/
  insecure : Bool := false
  deriving DecidableEq, Repr, Inhabited

structure EngineSettings where
  kind : EngineKind := .embedded
  /-- The directory of the index files. -/
  dataDir : String
  /-- Bytes of memory for writing. -/
  writerHeap : Nat := 50000000
  remote : ClusterSettings := {}
  deriving DecidableEq, Repr, Inhabited

structure ExtractorSettings where
  kind : ExtractorKind := .basic
  url : String := "http://127.0.0.1:9998"
  timeoutSeconds : Nat := 30
  /-- Larger files are indexed without text. -/
  maxFileSize : Nat := 20971520
  deriving DecidableEq, Repr, Inhabited

structure EventSettings where
  asyncUploads : Bool := false
  rebuildAfterMutation : Bool := true
  workers : Nat := 1
  channelSize : Nat := 32
  deriving DecidableEq, Repr, Inhabited

structure CacheSettings where
  /-- Milliseconds for which an answer is good. -/
  lifetime : Nat := 1000
  capacity : Nat := 1024
  deriving DecidableEq, Repr, Inhabited

structure TokenSettings where
  secret : String := ""
  /-- Seconds for which a token is good. -/
  lifetime : Int := 86400
  deriving DecidableEq, Repr, Inhabited

structure Settings where
  engine : EngineSettings
  extractor : ExtractorSettings := {}
  events : EventSettings := {}
  cache : CacheSettings := {}
  policy : RebuildPolicy := .proceed
  /-- The directory whose directories are the spaces. -/
  storageRoot : String
  tokens : TokenSettings := {}
  account : ServiceAccount := {}
  deriving DecidableEq, Repr, Inhabited

/-! ## Words -/

def EngineKind.word : EngineKind → String
  | embedded => "tantivy"
  | remote => "remote"

def EngineKind.ofWord? (w : String) : Option EngineKind :=
  [embedded, remote].find? (·.word == w)

def ExtractorKind.word : ExtractorKind → String
  | basic => "basic"
  | converter => "tika"

def ExtractorKind.ofWord? (w : String) : Option ExtractorKind :=
  [basic, converter].find? (·.word == w)

def RebuildPolicy.word : RebuildPolicy → String
  | proceed => "continue"
  | abortOnFirst => "abort-on-first"

def RebuildPolicy.ofWord? (w : String) : Option RebuildPolicy :=
  [proceed, abortOnFirst].find? (·.word == w)

namespace Settings

/-- The settings that nobody changed, for a data directory. -/
def default (dataDir : String) : Settings where
  engine := { dataDir }
  storageRoot := dataDir ++ "/spaces"

/-- What events lead to. -/
def reindexOptions (s : Settings) : ReindexOptions where
  asyncUploads := s.events.asyncUploads
  rebuildAfterMutation := s.events.rebuildAfterMutation

/-! ## Faults -/

/-- What makes settings useless. -/
inductive Flaw
  | noAddress
  | noWorker
  | noCacheRoom
  deriving DecidableEq, Repr

def Flaw.message : Flaw → String
  | noAddress => "remote engine selected but no addresses configured"
  | noWorker => "events.workers must be at least 1"
  | noCacheRoom => "cache.capacity must be at least 1"

/-- What is wrong with settings, the first thing of all. -/
def fault? (s : Settings) : Option Flaw :=
  if s.engine.kind = .remote ∧ s.engine.remote.addresses = [] then some .noAddress
  else if s.events.workers = 0 then some .noWorker
  else if s.cache.capacity = 0 then some .noCacheRoom
  else none

theorem fault?_eq_none_iff (s : Settings) :
    s.fault? = none ↔
      (s.engine.kind = .remote → s.engine.remote.addresses ≠ []) ∧ 0 < s.events.workers ∧
        0 < s.cache.capacity := by
  unfold fault?
  split
  · rename_i h
    simp [h]
  · rename_i h
    split
    · rename_i hw
      simp [hw]
    · rename_i hw
      split
      · rename_i hc
        simp [hc]
      · rename_i hc
        simp only [true_iff]
        exact ⟨fun hk ha => h ⟨hk, ha⟩, Nat.pos_of_ne_zero hw, Nat.pos_of_ne_zero hc⟩

end Settings

end ScopedSearch
