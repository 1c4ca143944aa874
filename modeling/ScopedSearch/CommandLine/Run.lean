import ScopedSearch.Cluster.Remote
import ScopedSearch.CommandLine.Help
import ScopedSearch.Events.Reindexing
import ScopedSearch.Extraction.Converter
import ScopedSearch.Index.Embedded
import ScopedSearch.Settings.Reader
import ScopedSearch.Storage.Directory

/-!
# Running commands

A command runs on a host: files, an environment, clocks and a network.  What comes of it is an exit
code and two texts.  A failure is a row of messages, what was being done first and what went wrong
last.

## Main results

* `Failure.text_single`: a failure with one message is one line.
-/

namespace ScopedSearch

/-- Why a file cannot be had. -/
inductive FileFault
  | missing
  | unreadable (detail : String)
  deriving DecidableEq, Repr

def FileFault.message : FileFault → String
  | missing => "No such file or directory (os error 2)"
  | unreadable detail => detail

/-- What a command finds around it. -/
structure Host (σ : Type) where
  environment : Environment
  /-- The bytes of a file. -/
  file : String → σ → Except FileFault ByteArray
  standardInput : σ → ByteArray
  /-- The spaces under a directory. -/
  directory : String → σ → DirectoryStorage
  /-- The index files in a data directory. -/
  indexFiles : String → Part σ IndexFiles
  /-- The program's own view of the index. -/
  view : Part σ Collection
  /-- How many requests the program has addressed. -/
  turns : Part σ Nat
  cache : Part σ ResultCache
  /-- Seconds since the epoch. -/
  seconds : σ → Nat
  /-- Milliseconds on a clock that never goes back. -/
  millis : σ → Nat
  network : Http.Network σ

/-- The messages of a failure, the outermost one first. -/
abbrev Failure := List String

/-- What a program leaves behind. -/
structure Outcome where
  code : Nat
  stdout : String := ""
  stderr : String := ""
  deriving DecidableEq, Repr, Inhabited

/-- The failure as it is told. -/
def Failure.text : Failure → String
  | [] => ""
  | [message] => "Error: " ++ message ++ "\n"
  | [message, cause] => "Error: " ++ message ++ "\n\nCaused by:\n    " ++ cause ++ "\n"
  | message :: causes =>
    "Error: " ++ message ++ "\n\nCaused by:\n" ++
      String.join (causes.zipIdx.map fun (cause, i) => s!"    {i}: {cause}\n")

theorem Failure.text_single (message : String) :
    Failure.text [message] = "Error: " ++ message ++ "\n" := rfl

/-- Something that a command does: it may fail, with messages. -/
abbrev Doing (σ : Type) := ExceptT Failure (StateM σ)

namespace Doing

variable {σ α : Type}

/-- Does an operation; what was being done stands before its fault. -/
def of (op : Op σ α) (doing : Failure := []) : Doing σ α :=
  ExceptT.mk fun s =>
    match op.perform s with
    | (.ok a, s) => (.ok a, s)
    | (.error f, s) => (.error (doing ++ [f.message]), s)

/-- What a service answers. -/
def ofAnswer (op : Op σ (Except ServiceFault α)) : Doing σ α := do
  match ← of op with
  | .ok a => return a
  | .error f => throw [f.text]

end Doing

namespace Host

variable {σ : Type}

/-- The settings in a file, or in the file where settings are looked for. -/
def settings (h : Host σ) (file : Option String) : Doing σ Settings := do
  let path := file.getD h.environment.settingsFile
  let found ← Doing.of (Op.read (h.file path))
  let contents ← match found with
    | .ok bytes =>
      if (String.fromUTF8? bytes).isNone then
        throw ["reading config " ++ path, "stream did not contain valid UTF-8"]
      else pure (some bytes)
    | .error .missing => pure none
    | .error (.unreadable detail) => throw ["reading config " ++ path, detail]
  match Settings.load h.environment contents with
  | .ok s => return s
  | .error .unreadable => throw ["parsing config " ++ path, "TOML parse error"]
  | .error (.flawed flaw) => throw [flaw.message]

/-- The storage that settings tell. -/
def storage (h : Host σ) (s : Settings) (st : σ) : Storage :=
  (h.directory s.storageRoot st).toStorage

/-- The extractor that settings tell. -/
def extractor (h : Host σ) (s : Settings) : Extractor σ :=
  match s.extractor.kind with
  | .basic => Extractor.basic
  | .converter => (Converter.make s.extractor h.network (h.storage s)).extractor

/-- Opens the backend that settings tell. -/
def openBackend (h : Host σ) (s : Settings) : Op σ (Backend σ) := do
  match s.engine.kind with
  | .embedded =>
    let files := h.indexFiles s.engine.dataDir
    Embedded.openHandle files h.view
    return Embedded.backend 0 files h.view s.engine.writerHeap
  | .remote =>
    h.turns.modify fun _ => 0
    let cluster ← Op.ofExcept (Cluster.make s.engine.remote h.network h.turns)
    cluster.connect Context.background
    return cluster.backend

/-- Opens the engine that settings tell. -/
def openEngine (h : Host σ) (s : Settings) : Op σ (Engine σ) := do
  let backend ← h.openBackend s
  return ({ backend, extractor := h.extractor s, storage := h.storage s : IndexEngine σ }).toEngine

/-- The manager of tokens that settings tell. -/
def tokenManager (s : Settings) : Except Fault TokenManager :=
  TokenManager.make s.tokens.secret s.tokens.lifetime s.account

/-- Opens the service that settings tell. -/
def openService (h : Host σ) (s : Settings) : Doing σ (Service σ) := do
  let engine ← Doing.of (h.openEngine s) ["opening search engine"]
  let tokens ← Doing.of (Op.ofExcept (tokenManager s)) ["initializing token manager"]
  Doing.of (h.cache.modify fun _ => Memo.empty s.cache.lifetime s.cache.capacity)
  return {
    engine
    identify := fun token => do Op.ofExcept (tokens.actorOf (← Op.read h.seconds) token)
    serviceActor := tokens.serviceActor
    storage := h.storage s
    cache := h.cache
    now := h.millis
    policy := s.policy }

/-- Writes a value to standard output. -/
def printed (v : Json) : Outcome := { code := 0, stdout := v.pretty ++ "\n" }

/-- Rebuilds spaces.  The report is printed even if some of them failed. -/
def index (h : Host σ) (s : Settings) (space : Option String) : Doing σ Outcome := do
  let service ← h.openService s
  let report ← Doing.ofAnswer (service.indexSpace Context.background space)
  let shown := printed report.toJson
  if report.isComplete then return shown
  else
    let failure : Failure := [s!"{report.failed.length} space(s) failed to index"]
    return { shown with code := 1, stderr := failure.text }

/-- Answers a search. -/
def search (h : Host σ) (s : Settings) (request : Request) (token : String)
    (timeout : Option Nat) (started : Nat) : Doing σ Outcome := do
  let service ← h.openService s
  let ctx := match timeout with
    | none => Context.background
    | some millis => Context.before h.millis (started + millis)
  return printed (← Doing.ofAnswer (service.search ctx request token)).toJson

/-- The bytes that events are read from. -/
def eventBytes (h : Host σ) (source : String) : Doing σ ByteArray := do
  if source = "-" then Doing.of (Op.read h.standardInput)
  else
    match ← Doing.of (Op.read (h.file source)) with
    | .ok bytes => return bytes
    | .error fault => throw ["opening event file " ++ source, fault.message]

/-- Carries events out. -/
def watch (h : Host σ) (s : Settings) (source : String) : Doing σ Outcome := do
  let engine ← Doing.of (h.openEngine s)
  let bytes ← h.eventBytes source
  let (events, _) := (EventLines.mk (some bytes.toList)).consume subscribedSubjects
  Doing.of do
    engine.handleAll s.reindexOptions Context.background (← Op.ofExcept events)
  return { code := 0 }

/-- Issues a token. -/
def token (h : Host σ) (s : Settings) (user displayName : String) : Doing σ Outcome := do
  let tokens ← Doing.of (Op.ofExcept (tokenManager s))
  let now ← Doing.of (Op.read h.seconds)
  return { code := 0, stdout := tokens.mint now user displayName ++ "\n" }

/-- Does something with the settings, and then lets go of the index. -/
def withSettings (h : Host σ) (file : Option String) (act : Settings → Doing σ Outcome) :
    Doing σ Outcome := do
  let s ← h.settings file
  let result : Except Failure Outcome ← ExceptT.lift (act s).run
  Doing.of (Embedded.close 0 (h.indexFiles s.engine.dataDir))
  ExceptT.mk (pure result)

/-- Does what is asked. -/
def carryOut (h : Host σ) (i : Invocation) : Doing σ Outcome := do
  let started ← Doing.of (Op.read h.millis)
  match i.command with
  | .index space => h.withSettings i.settingsFile fun s => h.index s space
  | .search request token timeout =>
    h.withSettings i.settingsFile fun s => h.search s request token timeout started
  | .watch source => h.withSettings i.settingsFile fun s => h.watch s source
  | .token user displayName => h.withSettings i.settingsFile fun s => h.token s user displayName
  | .completions shell => return { code := 0, stdout := completionText shell }
  | .manual => return { code := 0, stdout := manualText }

/-- What is left when arguments are refused. -/
def refused : Refusal → Outcome
  | .help command => { code := 0, stdout := helpText command }
  | .version long => { code := 0, stdout := versionText long }
  | .misuse => { code := 2, stderr := helpText none }

/-- Runs the program with arguments. -/
def run (h : Host σ) (args : List String) : StateM σ Outcome := do
  match Invocation.read h.environment none args with
  | .error refusal => return refused refusal
  | .ok invocation =>
    match ← (h.carryOut invocation).run with
    | .ok outcome => return outcome
    | .error failure => return { code := 1, stderr := failure.text }

end Host

end ScopedSearch
