import ScopedSearch.CommandLine.Run
import ScopedSearch.Index.Archive

/-!
# The program

Reads what a command needs from the machine, runs the command, and writes back what it left.  The
program has no sockets: for it, every server is out of reach.
-/

namespace ScopedSearch.Program

/-- The state of the program while a command runs. -/
structure Machine where
  files : IndexFiles := {}
  view : Collection := ∅
  turns : Nat := 0
  cache : ResultCache := Memo.empty 0 1

def filesPart : Part Machine IndexFiles :=
  { get := Machine.files, put := fun a s => { s with files := a } }

def viewPart : Part Machine Collection :=
  { get := Machine.view, put := fun a s => { s with view := a } }

def turnsPart : Part Machine Nat :=
  { get := Machine.turns, put := fun a s => { s with turns := a } }

def cachePart : Part Machine ResultCache :=
  { get := Machine.cache, put := fun a s => { s with cache := a } }

/-- The variables of the environment that have a say. -/
def variableNames : List String :=
  ["HOME", "XDG_CONFIG_HOME", "XDG_DATA_HOME", "SPACE_SEARCH_CONFIG", "SPACE_SEARCH_TOKEN"] ++
    Settings.overrides.map (·.name)

def readEnvironment : IO Environment := do
  let found ← variableNames.mapM fun name => do
    return (← IO.getEnv name).map fun value => (name, value)
  return found.filterMap id

/-- The bytes of a file. -/
def readFile (path : String) : IO (Except FileFault ByteArray) := do
  let here ← IO.currentDir
  if ← (here / path).pathExists then
    try return .ok (← IO.FS.readBinFile path)
    catch e => return .error (.unreadable (toString e))
  else return .error .missing

mutual

/-- What is at a path; its identity is made of its place in its space. -/
partial def readNode (path place : String) : IO Node := do
  let here ← IO.currentDir
  let identity :=
    String.ofList (Nat.toDigits 16 (Mixing.hash (Mixing.textWords place)).toNat)
  let stat (info : IO.FS.Metadata) : Stat := ⟨identity, Int64.ofInt info.modified.sec⟩
  let info ← (here / path).symlinkMetadata
  match info.type with
  | .dir => return .directory (stat info) (← readEntries path place)
  | .symlink =>
    try
      let target ← (here / path).metadata
      match target.type with
      | .file => return .file (stat target) (← IO.FS.readBinFile path)
      | _ => return .link ""
    catch _ => return .link ""
  | _ => return .file (stat info) (← IO.FS.readBinFile path)

/-- What is in a directory. -/
partial def readEntries (path place : String) : IO (List (String × Node)) := do
  let here ← IO.currentDir
  let entries ← (here / path).readDir
  entries.foldlM (fun found entry => do
    let name := entry.fileName
    let inner :=
      if place = "" then "/" else if place = "/" then "/" ++ name else place ++ "/" ++ name
    return placeByName name (← readNode (joinPath path name) inner) found) []

end

/-- The spaces under a directory. -/
def readDirectory (root : String) : IO DirectoryStorage := do
  let here ← IO.currentDir
  if ← (here / root).isDir then
    return ⟨root, .ok (.directory ⟨"", 0⟩ (← readEntries root ""))⟩
  else return ⟨root, .error FileFault.missing.message⟩

/-- The directory of the index in a data directory. -/
def indexDirectory (dataDir : String) : String := joinPath dataDir "index/v2"

/-- The file of the index in a data directory. -/
def indexFile (dataDir : String) : String := joinPath (indexDirectory dataDir) "documents.jsonl"

def readIndex (dataDir : String) : IO IndexFiles := do
  match ← readFile (indexFile dataDir) with
  | .ok bytes => return { documents := Collection.ofArchive ((String.fromUTF8? bytes).getD "") }
  | .error _ => return {}

def writeIndex (dataDir : String) (files : IndexFiles) : IO Unit := do
  IO.FS.createDirAll (indexDirectory dataDir)
  IO.FS.writeFile (indexFile dataDir) files.documents.archive

/-- Seconds since the epoch, by the time that a file made now is given. -/
def readClock : IO Nat :=
  IO.FS.withTempFile fun handle path => do
    handle.flush
    return (← path.metadata).modified.sec.toNat

/-- All that is to be read, up to the end. -/
def readAll (stream : IO.FS.Stream) : IO ByteArray := do
  let mut bytes := ByteArray.empty
  let mut more := true
  while more do
    let chunk ← stream.read 65536
    bytes := bytes ++ chunk
    more := !chunk.isEmpty
  return bytes

/-- The source of events that a command names. -/
def eventSource? : Command → Option String
  | .watch source => some source
  | _ => none

end ScopedSearch.Program

open ScopedSearch ScopedSearch.Program in
def main (args : List String) : IO UInt32 := do
  let environment ← readEnvironment
  let invocation := Invocation.read environment none args
  let asked := invocation.toOption
  let settingsPath := (asked.bind (·.settingsFile)).getD environment.settingsFile
  let settingsBytes ← readFile settingsPath
  let settings := (Settings.load environment settingsBytes.toOption).toOption
  let source := (asked.bind fun i => eventSource? i.command).getD ""
  let eventBytes ← readFile source
  let input ← if source = "-" then readAll (← IO.getStdin) else pure ByteArray.empty
  let storage ← match settings with
    | some s => readDirectory s.storageRoot
    | none => pure ⟨"", .error ""⟩
  let files ← match settings with
    | some s => readIndex s.engine.dataDir
    | none => pure {}
  let seconds ← readClock
  let host : Host Machine := {
    environment
    file := fun path _ => if path = settingsPath then settingsBytes else eventBytes
    standardInput := fun _ => input
    directory := fun _ _ => storage
    indexFiles := fun _ => filesPart
    view := viewPart
    turns := turnsPart
    cache := cachePart
    seconds := fun _ => seconds
    millis := fun _ => 0
    network := Http.Network.closed }
  let (outcome, after) := (host.run args).run { files }
  match settings with
  | some s => if asked.isSome then writeIndex s.engine.dataDir after.files
  | none => pure ()
  (← IO.getStdout).putStr outcome.stdout
  (← IO.getStderr).putStr outcome.stderr
  return UInt32.ofNat outcome.code
