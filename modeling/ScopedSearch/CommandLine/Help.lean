import ScopedSearch.CommandLine.Command
import ScopedSearch.Http.Exchange

/-!
# Help

What the program says about itself: its commands, its version, its manual page, and what it tells
shells so that they can complete commands.
-/

namespace ScopedSearch

/-- The name of the program. -/
def programName : String := "space-search"

def programVersion : String := "0.1.0"

/-- What the program is for. -/
def programPurpose : String := "Content indexing and search over storage spaces"

/-- What a command is for. -/
def commandPurpose : String → String
  | "index" => "Rebuild the index of one space, or of every space"
  | "search" => "Run a query and print the response as JSON"
  | "watch" => "Apply change events read as JSON lines until end of input"
  | "token" => "Mint a request token for a user"
  | "completions" => "Generate shell completions to stdout"
  | "man" => "Generate man page to stdout"
  | _ => "Print this message or the help of the given subcommand(s)"

/-- The options of a command as they are shown, with what they are for. -/
def optionLines : String → List (String × String)
  | "index" => [("--space <SPACE>", "Space to rebuild; all spaces when omitted")]
  | "search" => [
      ("--token <TOKEN>", "Request token identifying the caller [env: SPACE_SEARCH_TOKEN]"),
      ("--space <SPACE>", "Restrict to one space"),
      ("--item <ITEM>", "Restrict to the subtree below this item (needs --space)"),
      ("--path <PATH>", "Restrict to this path, relative to --item when given"),
      ("--page-size <PAGE_SIZE>", "Matches per page; 0 uses the default [default: 0]"),
      ("--page-token <PAGE_TOKEN>", "Token from a previous page [default: ]"),
      ("--include-trashed", "Include trashed items"),
      ("--timeout-ms <TIMEOUT_MS>", "Give up after this many milliseconds")]
  | "watch" => [("--events <EVENTS>", "Event file, or `-` for stdin [default: -]")]
  | "token" => [
      ("--user <USER>", ""),
      ("--name <NAME>", "Display name embedded in the token [default: ]")]
  | _ => []

/-- What stands behind the name of a command in its usage. -/
def usageTail : String → String
  | "search" => " [OPTIONS] --token <TOKEN> <QUERY>"
  | "token" => " [OPTIONS] --user <USER>"
  | "completions" => " <SHELL>"
  | _ => " [OPTIONS]"

/-- Lines in two columns. -/
def columns (rows : List (String × String)) : String :=
  String.join (rows.map fun (left, right) => "  " ++ left ++ "  " ++ right ++ "\n")

/-- The option that asks for help. -/
def helpOption : String × String := ("-h, --help", "Print help")

/-- The help about one command, or about all of them. -/
def helpText : Option String → String
  | some name =>
    commandPurpose name ++ "\n\nUsage: " ++ programName ++ " " ++ name ++ usageTail name ++
      "\n\nOptions:\n" ++ columns (optionLines name ++ [helpOption])
  | none =>
    programPurpose ++ "\n\nUsage: " ++ programName ++ " [OPTIONS] <COMMAND>\n\nCommands:\n" ++
      columns ((commandNames ++ ["help"]).map fun name => (name, commandPurpose name)) ++
      "\nOptions:\n" ++ columns [
        ("--config <CONFIG>",
          "Path to the TOML config (defaults to the platform config dir) " ++
            "[env: SPACE_SEARCH_CONFIG]"),
        helpOption, ("-V, --version", "Print version")]

/-- The version, alone or with where the program was built. -/
def versionText (long : Bool) : String :=
  programName ++ " " ++ programVersion ++ "\n" ++
    (if long then "built: unknown\ntarget: unknown\n" else "")

/-- The manual page. -/
def manualText : String :=
  ".TH " ++ programName ++ " 1 \x22" ++ programName ++ " " ++ programVersion ++ "\x22\n" ++
  ".SH NAME\n" ++ programName ++ " \\- " ++ programPurpose ++ "\n" ++
  ".SH SYNOPSIS\n\\fB" ++ programName ++
    "\\fR [\\fB\\-\\-config\\fR] [\\fB\\-h\\fR|\\fB\\-\\-help\\fR] " ++
    "[\\fB\\-V\\fR|\\fB\\-\\-version\\fR] <\\fIsubcommands\\fR>\n" ++
  ".SH DESCRIPTION\n" ++ programPurpose ++ "\n" ++
  ".SH OPTIONS\n.TP\n\\fB\\-\\-config\\fR \\fI<CONFIG>\\fR\n" ++
    "Path to the TOML config (defaults to the platform config dir)\n" ++
  ".SH SUBCOMMANDS\n" ++
  String.join (commandNames.map fun name =>
    ".TP\n" ++ programName ++ "\\-" ++ name ++ "(1)\n" ++ commandPurpose name ++ "\n") ++
  ".SH VERSION\nv" ++ programVersion ++ "\n"

/-- What a shell is told. -/
def completionText (shell : Shell) : String :=
  let names := String.intercalate " " (commandNames ++ ["help"])
  match shell with
  | .bash =>
    "_space-search() \x7b\n" ++
    "    COMPREPLY=( $(compgen -W \x22" ++ names ++
      " --config --help --version\x22 -- \x22$\x7bCOMP_WORDS[COMP_CWORD]\x7d\x22) )\n" ++
    "\x7d\n\ncomplete -F _space-search -o bashdefault -o default space-search\n"
  | .elvish =>
    "set edit:completion:arg-completer[space-search] = \x7b|@words|\n" ++
    "    put " ++ names ++ "\n\x7d\n"
  | .fish =>
    String.join ((commandNames ++ ["help"]).map fun name =>
      "complete -c space-search -n \x22__fish_use_subcommand\x22 -f -a \x22" ++ name ++
        "\x22 -d \x22" ++ commandPurpose name ++ "\x22\n")
  | .powershell =>
    "Register-ArgumentCompleter -Native -CommandName \x27space-search\x27 -ScriptBlock \x7b\n" ++
    "    param($wordToComplete, $commandAst, $cursorPosition)\n" ++
    "    \x22" ++ names ++
    "\x22.Split(\x22 \x22).Where(\x7b$_ -like \x22$wordToComplete*\x22\x7d)\n\x7d\n"
  | .zsh =>
    "#compdef space-search\n\n_space-search() \x7b\n    _values command " ++ names ++
    "\n\x7d\n\n_space-search \x22$@\x22\n"

end ScopedSearch
