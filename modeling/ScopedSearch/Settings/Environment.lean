import ScopedSearch.Settings
import ScopedSearch.Text.Blank
import ScopedSearch.Text.Numeral
import ScopedSearch.Text.Split

/-!
# Settings in the environment

Variables of the environment go before what is set elsewhere.  Each variable has one field of its
own, and a value that the field has no use for is let be.

## Main results

* `override_nil`: an empty environment changes nothing.
-/

namespace ScopedSearch

/-- The variables of an environment with their values. -/
abbrev Environment := List (String × String)

namespace Settings

open ScopedSearch.Text

/-- What the names of the variables begin with. -/
def variableStart : String := "SPACE_SEARCH_"

/-- The words that stand for truth, in any case of ASCII letters; all others stand for falsehood. -/
def truthOf (value : String) : Bool :=
  ["1", "true", "yes"].contains (String.ofList (value.toList.map Char.toLower))

/-- The texts between commas, without blanks around them and without empty ones. -/
def itemsOf (value : String) : List String :=
  ((splitOn ',' value.toList).map fun item => trim (String.ofList item)).filter (· ≠ "")

/-- Changes the settings of the cluster. -/
def onCluster (f : ClusterSettings → ClusterSettings) (s : Settings) : Settings :=
  { s with engine := { s.engine with remote := f s.engine.remote } }

/-- The number of a 64-bit word that a value is the numeral of. -/
def numberOf? (value : String) : Option Nat := (readWord value.toList).toOption

/--
A variable, by what follows the common beginning, with the field that is its own and what the field
reads in a value.  A value in which it reads nothing is one that it has no use for.
-/
structure Override where
  key : String
  {α : Type}
  field : Part Settings α
  read : String → Option α

/-- The name of the variable. -/
def Override.name (o : Override) : String := variableStart ++ o.key

/-- The variables, in the order in which they are looked up. -/
def overrides : List Override := [
  ⟨"ENGINE",
    { get := (·.engine.kind), put := fun kind s => { s with engine := { s.engine with kind } } },
    EngineKind.ofWord?⟩,
  ⟨"DATA_DIR",
    { get := (·.engine.dataDir)
      put := fun dataDir s => { s with engine := { s.engine with dataDir } } },
    some⟩,
  ⟨"REMOTE_ADDRESSES",
    { get := (·.engine.remote.addresses)
      put := fun addresses => onCluster ({ · with addresses }) },
    some ∘ itemsOf⟩,
  ⟨"REMOTE_INDEX",
    { get := (·.engine.remote.index), put := fun index => onCluster ({ · with index }) },
    some⟩,
  ⟨"REMOTE_USERNAME",
    { get := (·.engine.remote.username), put := fun username => onCluster ({ · with username }) },
    some ∘ some⟩,
  ⟨"REMOTE_PASSWORD",
    { get := (·.engine.remote.password), put := fun password => onCluster ({ · with password }) },
    some ∘ some⟩,
  ⟨"EXTRACTOR",
    { get := (·.extractor.kind)
      put := fun kind s => { s with extractor := { s.extractor with kind } } },
    ExtractorKind.ofWord?⟩,
  ⟨"TIKA_URL",
    { get := (·.extractor.url)
      put := fun url s => { s with extractor := { s.extractor with url } } },
    some⟩,
  ⟨"EXTRACTOR_TIMEOUT_SECS",
    { get := (·.extractor.timeoutSeconds)
      put := fun timeoutSeconds s => { s with extractor := { s.extractor with timeoutSeconds } } },
    numberOf?⟩,
  ⟨"ASYNC_UPLOADS",
    { get := (·.events.asyncUploads)
      put := fun asyncUploads s => { s with events := { s.events with asyncUploads } } },
    some ∘ truthOf⟩,
  ⟨"REBUILD_AFTER_MUTATION",
    { get := (·.events.rebuildAfterMutation)
      put := fun rebuildAfterMutation s =>
        { s with events := { s.events with rebuildAfterMutation } } },
    some ∘ truthOf⟩,
  ⟨"EVENT_WORKERS",
    { get := (·.events.workers)
      put := fun workers s => { s with events := { s.events with workers } } },
    numberOf?⟩,
  ⟨"CACHE_TTL_MS",
    { get := (·.cache.lifetime)
      put := fun lifetime s => { s with cache := { s.cache with lifetime } } },
    numberOf?⟩,
  ⟨"REINDEX_POLICY",
    { get := (·.policy), put := fun policy s => { s with policy } },
    RebuildPolicy.ofWord?⟩,
  ⟨"STORAGE_ROOT",
    { get := (·.storageRoot), put := fun storageRoot s => { s with storageRoot } },
    some⟩,
  ⟨"JWT_SECRET",
    { get := (·.tokens.secret)
      put := fun secret s => { s with tokens := { s.tokens with secret } } },
    some⟩,
  ⟨"SERVICE_ACCOUNT_ID",
    { get := (·.account.id), put := fun id s => { s with account := { s.account with id } } },
    some⟩,
  ⟨"SERVICE_ACCOUNT_SECRET",
    { get := (·.account.secret)
      put := fun secret s => { s with account := { s.account with secret } } },
    some⟩]

/-- Puts what a field reads in the value of its variable, if the variable is set and it does. -/
def applyOverride (env : Environment) (s : Settings) (o : Override) : Settings :=
  match (env.lookup o.name).bind o.read with
  | some a => o.field.put a s
  | none => s

/-- The settings after what the environment says. -/
def override (env : Environment) (s : Settings) : Settings := overrides.foldl (applyOverride env) s

theorem override_nil (s : Settings) : s.override [] = s := rfl

end Settings

/-! ## Places -/

/-- What is at a name in a directory. -/
def joinPath (dir name : String) : String :=
  if dir.endsWith "/" then dir ++ name else dir ++ "/" ++ name

/-- A directory that a variable names; only a path from the root on is one. -/
def Environment.directory? (env : Environment) (name : String) : Option String :=
  (env.lookup name).filter (·.startsWith "/")

/-- A directory of the user: named by a variable, or else at a place below the home directory. -/
def Environment.userDirectory? (env : Environment) (name below : String) : Option String :=
  (env.directory? name).or <|
    ((env.lookup "HOME").filter (· ≠ "")).map fun home => joinPath home below

/-- The directory for the data of the program. -/
def Environment.dataDirectory (env : Environment) : String :=
  match env.userDirectory? "XDG_DATA_HOME" ".local/share" with
  | some dir => joinPath dir "space-search"
  | none => ".space-search"

/-- The file with the settings. -/
def Environment.settingsFile (env : Environment) : String :=
  match env.userDirectory? "XDG_CONFIG_HOME" ".config" with
  | some dir => joinPath dir "space-search/config.toml"
  | none => "space-search.toml"

end ScopedSearch
