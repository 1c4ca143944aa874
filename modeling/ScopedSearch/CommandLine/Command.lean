import ScopedSearch.Request
import ScopedSearch.Settings.Environment
import ScopedSearch.Text.Numeral

/-!
# Commands

What the program can be asked to do, and how it is asked on the command line.  Arguments are taken
one after the other, and the first one that cannot be taken decides; what is missing shows at the
end.

## Main results

* `take_nil`: without arguments nothing is given.
-/

namespace ScopedSearch

/-- A shell that can be taught the commands. -/
inductive Shell
  | bash
  | elvish
  | fish
  | powershell
  | zsh
  deriving DecidableEq, Repr

def Shell.name : Shell → String
  | bash => "bash"
  | elvish => "elvish"
  | fish => "fish"
  | powershell => "powershell"
  | zsh => "zsh"

def Shell.ofName? (name : String) : Option Shell :=
  [bash, elvish, fish, powershell, zsh].find? (·.name == name)

/-- What the program is asked to do. -/
inductive Command
  /-- Rebuild one space, or all of them. -/
  | index (space : Option String)
  /-- Answer a query for who is behind a token, within so many milliseconds. -/
  | search (request : Request) (token : String) (timeout : Option Nat)
  /-- Carry out events from a file; a hyphen stands for standard input. -/
  | watch (source : String)
  /-- Issue a token. -/
  | token (user displayName : String)
  | completions (shell : Shell)
  | manual
  deriving Repr

/-- The names of the commands. -/
def commandNames : List String := ["index", "search", "watch", "token", "completions", "man"]

/-- A command with the file of settings that was named. -/
structure Invocation where
  settingsFile : Option String
  command : Command
  deriving Repr

/-- Why arguments are no invocation. -/
inductive Refusal
  /-- Help is asked for, about one command or about all. -/
  | help (command : Option String)
  | version (long : Bool)
  | misuse
  deriving DecidableEq, Repr

/-! ## Taking arguments -/

/-- How an option is given. -/
inductive OptionKind
  | flag
  /-- With a value that passes a test. -/
  | value (accepts : String → Bool)

/-- The options of a command, and how many other arguments it has room for. -/
structure ArgumentSpec where
  options : List (String × OptionKind)
  room : Nat := 0

/-- What was given. -/
structure Given where
  options : List (String × String) := []
  others : List String := []
  deriving Repr

namespace Given

/-- The value given for an option. -/
def value? (g : Given) (name : String) : Option String := g.options.lookup name

/-- Notes an option; it may be given once. -/
def addOption (g : Given) (name value : String) : Option Given :=
  if (g.value? name).isSome then none else some { g with options := (name, value) :: g.options }

/-- Notes another argument, if there is room for it. -/
def addOther (g : Given) (room : Nat) (arg : String) : Option Given :=
  if g.others.length < room then some { g with others := g.others ++ [arg] } else none

/-- Notes an option with a value. -/
def addValue (g : Given) (spec : ArgumentSpec) (name value : String) : Option Given :=
  match spec.options.lookup name with
  | some (.value accepts) => if accepts value then g.addOption name value else none
  | _ => none

/-- Notes an option without a value. -/
def addFlag (g : Given) (spec : ArgumentSpec) (name : String) : Option Given :=
  match spec.options.lookup name with
  | some .flag => g.addOption name ""
  | _ => none

end Given

/-- The argument looks like an option. -/
def looksLikeOption (arg : String) : Bool := arg.startsWith "-" && arg ≠ "-"

/-- The argument asks for help. -/
def asksForHelp (arg : String) : Bool :=
  arg = "--help" || (arg.startsWith "-h" && !arg.startsWith "--")

/-- Splits an argument such as `--name=value` into its parts. -/
def splitArgument (arg : String) : Option (String × Option String) :=
  match arg.toList with
  | '-' :: '-' :: cs =>
    let name := String.ofList (cs.takeWhile (· ≠ '='))
    match cs.dropWhile (· ≠ '=') with
    | [] => some (name, none)
    | _ :: value => some (name, some (String.ofList value))
  | _ => none

/-- Takes arguments one after the other. -/
def takeArguments (spec : ArgumentSpec) : Given → List String → Option Given
  | g, [] => some g
  | g, arg :: rest =>
    if arg = "--" then rest.foldlM (fun g other => g.addOther spec.room other) g
    else if looksLikeOption arg then
      match splitArgument arg, rest with
      | some (name, some value), rest => do takeArguments spec (← g.addValue spec name value) rest
      | some (name, none), rest =>
        match g.addFlag spec name, rest with
        | some g, rest => takeArguments spec g rest
        | none, value :: rest => do
          if looksLikeOption value then none
          else takeArguments spec (← g.addValue spec name value) rest
        | none, [] => none
      | none, _ => none
    else do takeArguments spec (← g.addOther spec.room arg) rest

@[simp] theorem take_nil (spec : ArgumentSpec) (g : Given) : takeArguments spec g [] = some g := rfl

/-- The arguments before the first one that asks for help, when there is one. -/
def beforeHelp? (args : List String) : Option (List String) :=
  let shown := args.takeWhile fun a => !asksForHelp a && a ≠ "--"
  match args.drop shown.length with
  | arg :: _ => if asksForHelp arg then some shown else none
  | [] => none

/-- Takes the arguments of a command, or finds that help is asked for before anything is wrong. -/
def takeAll (name : String) (spec : ArgumentSpec) (args : List String) : Except Refusal Given :=
  match beforeHelp? args with
  | some shown =>
    if (takeArguments spec {} shown).isSome then .error (.help (some name)) else .error .misuse
  | none =>
    match takeArguments spec {} args with
    | some g => .ok g
    | none => .error .misuse

/-! ## Commands from arguments -/

/-- A value of any kind. -/
def anyValue : OptionKind := .value fun _ => true

/-- The arguments that a command takes. -/
def Command.spec : String → ArgumentSpec
  | "index" => { options := [("space", anyValue)] }
  | "search" => {
      options := [("token", anyValue), ("space", anyValue), ("item", anyValue), ("path", anyValue),
        ("page-size", .value fun v => (Text.readHalfSigned v.toList).toOption.isSome),
        ("page-token", anyValue), ("include-trashed", .flag),
        ("timeout-ms", .value fun v => (Text.readWord v.toList).toOption.isSome)]
      room := 1 }
  | "watch" => { options := [("events", anyValue)] }
  | "token" => { options := [("user", anyValue), ("name", anyValue)] }
  | "completions" => { options := [], room := 1 }
  | _ => { options := [] }

/-- The search that arguments ask for. -/
def searchCommand? (env : Environment) (g : Given) : Option Command := do
  let query ← g.others.head?
  let token ← (g.value? "token").or (env.lookup "SPACE_SEARCH_TOKEN")
  if (g.value? "item").isSome ∧ (g.value? "space").isNone then none
  let pageSize := ((g.value? "page-size").bind fun v =>
    (Text.readHalfSigned v.toList).toOption).getD 0
  let request : Request := {
    query
    pageSize := Int32.ofInt pageSize
    reference := { space := g.value? "space", item := g.value? "item", path := g.value? "path" }
    pageToken := (g.value? "page-token").getD ""
    includeTrashed := (g.value? "include-trashed").isSome }
  return .search request token <|
    (g.value? "timeout-ms").bind fun v => (Text.readWord v.toList).toOption

/-- The command of a name with what was given for it. -/
def Command.ofGiven? (env : Environment) (name : String) (g : Given) : Option Command :=
  match name with
  | "index" => some (.index (g.value? "space"))
  | "search" => searchCommand? env g
  | "watch" => some (.watch ((g.value? "events").getD "-"))
  | "token" => (g.value? "user").map fun user => .token user ((g.value? "name").getD "")
  | "completions" => (g.others.head?.bind Shell.ofName?).map .completions
  | "man" => some .manual
  | _ => none

/-- The command of a name with arguments. -/
def Command.read (env : Environment) (name : String) (args : List String) :
    Except Refusal Command :=
  if name = "help" then
    match args with
    | [] => .error (.help none)
    | [about] =>
      if commandNames.contains about ∨ about = "help" then .error (.help (some about))
      else .error .misuse
    | _ => .error .misuse
  else if commandNames.contains name then do
    let g ← takeAll name (spec name) args
    match ofGiven? env name g with
    | some command => return command
    | none => throw .misuse
  else .error .misuse

/-- Reads the arguments of the program. -/
def Invocation.read (env : Environment) : Option String → List String → Except Refusal Invocation
  | _, [] => .error .misuse
  | file, arg :: rest =>
    if asksForHelp arg then .error (.help none)
    else if arg = "--version" then .error (.version true)
    else if arg.startsWith "-V" then .error (.version false)
    else if looksLikeOption arg then
      match splitArgument arg, file, rest with
      | some ("config", some value), none, rest => Invocation.read env (some value) rest
      | some ("config", none), none, value :: rest =>
        if looksLikeOption value then .error .misuse else Invocation.read env (some value) rest
      | _, _, _ => .error .misuse
    else do
      let command ← Command.read env arg rest
      return ⟨file.or (env.lookup "SPACE_SEARCH_CONFIG"), command⟩

end ScopedSearch
