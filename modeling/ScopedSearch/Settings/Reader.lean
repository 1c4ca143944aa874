import ScopedSearch.Settings.Environment
import ScopedSearch.Toml.Reader

/-!
# Settings in a file

A file of settings is a TOML document with a table for each section.  What it does not mention
keeps its default, and what nobody knows is let be; a value of the wrong kind spoils the file.  A
section may also be an array of its values, in the order of its fields.

## Main results

* `ofFields?_nil`: an empty document leaves the defaults.
-/

namespace ScopedSearch.Settings

/-- Why settings cannot be had. -/
inductive LoadFault
  /-- The file cannot be read or does not hold settings. -/
  | unreadable
  | flawed (flaw : Flaw)
  deriving DecidableEq, Repr

/-- The values given for the names of a section. -/
def cells? (names : List String) : Toml → Option (List (Option Toml))
  | .table _ fields => some (names.map fun name => fields.lookup name)
  | .array items => some ((List.range names.length).map (items[·]?))
  | .tables items => some ((List.range names.length).map fun i =>
      (items[i]?).map (.table .opened))
  | _ => none

/-- A text. -/
def text? : Toml → Option String
  | .text s => some s
  | _ => none

/-- A truth value. -/
def bool? : Toml → Option Bool
  | .bool b => some b
  | _ => none

/-- A whole number of a range. -/
def intIn? (lo hi : Int) : Toml → Option Int
  | .int n => if lo ≤ n ∧ n ≤ hi then some n else none
  | _ => none

/-- A number of a 64-bit word. -/
def word? (v : Toml) : Option Nat := (intIn? 0 Text.maxWord v).map Int.toNat

/-- A list of texts. -/
def texts? : Toml → Option (List String)
  | .array items => items.mapM text?
  | .tables [] => some []
  | _ => none

/-- Texts by name. -/
def textTable? : Toml → Option (List (String × String))
  | .table _ fields => fields.mapM fun (name, v) => do return (name, ← text? v)
  | _ => none

/-- One of a few words, which may also be the only name in a table, with nothing to it. -/
def choice? {α : Type} (choice : String → Option α) : Toml → Option α
  | .text w => choice w
  | .table _ [(w, .table _ [])] => choice w
  | .table _ [(w, .array [])] => choice w
  | _ => none

/-- A field that keeps its value when none is given. -/
def given {α : Type} (read : Toml → Option α) (value : α) : Option Toml → Option α
  | none => some value
  | some v => read v

def cluster? (s : ClusterSettings) (v : Toml) : Option ClusterSettings := do
  match ← cells? ["addresses", "index", "username", "password", "headers", "timeout_secs",
      "insecure"] v with
  | [addresses, index, username, password, headers, timeoutSeconds, insecure] =>
    return {
      addresses := ← given texts? s.addresses addresses
      index := ← given text? s.index index
      username := ← given (fun v => (text? v).map some) s.username username
      password := ← given (fun v => (text? v).map some) s.password password
      headers := ← given textTable? s.headers headers
      timeoutSeconds := ← given word? s.timeoutSeconds timeoutSeconds
      insecure := ← given bool? s.insecure insecure }
  | _ => none

def engine? (s : EngineSettings) (v : Toml) : Option EngineSettings := do
  match ← cells? ["type", "data_dir", "writer_heap_bytes", "remote"] v with
  | [kind, dataDir, writerHeap, remote] =>
    return {
      kind := ← given (choice? EngineKind.ofWord?) s.kind kind
      dataDir := ← given text? s.dataDir dataDir
      writerHeap := ← given word? s.writerHeap writerHeap
      remote := ← given (cluster? s.remote) s.remote remote }
  | _ => none

def extractor? (s : ExtractorSettings) (v : Toml) : Option ExtractorSettings := do
  match ← cells? ["type", "tika_url", "timeout_secs", "max_file_size"] v with
  | [kind, url, timeoutSeconds, maxFileSize] =>
    return {
      kind := ← given (choice? ExtractorKind.ofWord?) s.kind kind
      url := ← given text? s.url url
      timeoutSeconds := ← given word? s.timeoutSeconds timeoutSeconds
      maxFileSize := ← given word? s.maxFileSize maxFileSize }
  | _ => none

def events? (s : EventSettings) (v : Toml) : Option EventSettings := do
  match ← cells? ["async_uploads", "rebuild_after_mutation", "workers", "channel_size"] v with
  | [asyncUploads, rebuildAfterMutation, workers, channelSize] =>
    return {
      asyncUploads := ← given bool? s.asyncUploads asyncUploads
      rebuildAfterMutation := ← given bool? s.rebuildAfterMutation rebuildAfterMutation
      workers := ← given word? s.workers workers
      channelSize := ← given word? s.channelSize channelSize }
  | _ => none

def cache? (s : CacheSettings) (v : Toml) : Option CacheSettings := do
  match ← cells? ["ttl_ms", "capacity"] v with
  | [lifetime, capacity] =>
    return {
      lifetime := ← given word? s.lifetime lifetime
      capacity := ← given word? s.capacity capacity }
  | _ => none

def policy? (p : RebuildPolicy) (v : Toml) : Option RebuildPolicy := do
  match ← cells? ["policy"] v with
  | [policy] => given (choice? RebuildPolicy.ofWord?) p policy
  | _ => none

def root? (root : String) (v : Toml) : Option String := do
  match ← cells? ["root"] v with
  | [given?] => given text? root given?
  | _ => none

def tokens? (s : TokenSettings) (v : Toml) : Option TokenSettings := do
  match ← cells? ["secret", "token_ttl_secs"] v with
  | [secret, lifetime] =>
    return {
      secret := ← given text? s.secret secret
      lifetime := ← given (intIn? Text.minSigned Text.maxSigned) s.lifetime lifetime }
  | _ => none

def account? (s : ServiceAccount) (v : Toml) : Option ServiceAccount := do
  match ← cells? ["id", "secret"] v with
  | [id, secret] =>
    return { id := ← given text? s.id id, secret := ← given text? s.secret secret }
  | _ => none

/-- The settings after what the fields of a document say. -/
def ofFields? (s : Settings) (fields : Toml.Fields) : Option Settings := do
  let section? (name : String) := fields.lookup name
  return {
    engine := ← given (engine? s.engine) s.engine (section? "engine")
    extractor := ← given (extractor? s.extractor) s.extractor (section? "extractor")
    events := ← given (events? s.events) s.events (section? "events")
    cache := ← given (cache? s.cache) s.cache (section? "cache")
    policy := ← given (policy? s.policy) s.policy (section? "reindex")
    storageRoot := ← given (root? s.storageRoot) s.storageRoot (section? "storage")
    tokens := ← given (tokens? s.tokens) s.tokens (section? "token_manager")
    account := ← given (account? s.account) s.account (section? "service_account") }

theorem ofFields?_nil (s : Settings) : s.ofFields? [] = some s := rfl

/-- The settings of a file with some contents, or of no file, in an environment. -/
def load (env : Environment) (contents : Option ByteArray) : Except LoadFault Settings := do
  let start := default env.dataDirectory
  let fromFile ← match contents with
    | none => pure start
    | some bytes =>
      match ((String.fromUTF8? bytes).bind Toml.parse?).bind start.ofFields? with
      | some s => pure s
      | none => throw .unreadable
  let s := fromFile.override env
  match s.fault? with
  | some flaw => throw (.flawed flaw)
  | none => return s

end ScopedSearch.Settings
