import ScopedSearch.Storage.ByName
import ScopedSearch.Text.Split

/-!
# Directory trees

Files, directories and symbolic links below one root.  A path is a list of names; the operating
system's reading of a path, with its dots and links, is `Node.locate`, which answers the path of
names alone that leads to the same place.

## Main results

* `at?_append`: going down a path in two parts.
-/

namespace ScopedSearch

/-- What is known of a file or directory besides its contents. -/
structure Stat where
  /-- The identity, which stays when the node is renamed. -/
  id : String
  /-- Seconds since the epoch. -/
  mtime : Int64
  deriving DecidableEq, Repr, Inhabited

/-- A file, a directory or a symbolic link. -/
inductive Node
  | file (stat : Stat) (body : ByteArray)
  | directory (stat : Stat) (entries : List (String × Node))
  | link (target : String)

instance : Inhabited Node := ⟨.link ""⟩

namespace Node

/-- What is in a directory; nothing is in any other node. -/
def entries : Node → List (String × Node)
  | directory _ entries => entries
  | _ => []

def isDirectory : Node → Bool
  | directory _ _ => true
  | _ => false

/-- The node down a path of names, links not followed. -/
def at? : Node → List String → Option Node
  | n, [] => some n
  | n, name :: names => (n.entries.lookup name).bind fun m => m.at? names

theorem at?_append (n : Node) (names more : List String) :
    n.at? (names ++ more) = (n.at? names).bind fun m => m.at? more := by
  induction names generalizing n with
  | nil => rfl
  | cons name names ih =>
    cases h : n.entries.lookup name with
    | none => simp [at?, h]
    | some m => simp [at?, h, ih]

/-! ## Reading paths -/

/-- The pieces of a path between its slashes. -/
def pieces (path : String) : List String := (Text.splitOn '/' path.toList).map String.ofList

/--
Follows the pieces of a path from the directory `dir` of the tree; `onLink` goes on where a link
stands, with the pieces that its target puts in the place of its name.
-/
def followPieces (root : Node) (onLink : List String → List String → Option (List String)) :
    List String → List String → Option (List String)
  | dir, [] => some dir
  | dir, piece :: rest =>
    match root.at? dir with
    | some (.directory _ entries) =>
      if piece = "" ∨ piece = "." then root.followPieces onLink dir rest
      else if piece = ".." then
        if dir = [] then none else root.followPieces onLink dir.dropLast rest
      else
        match entries.lookup piece with
        | none => none
        | some (.link target) =>
          if target.startsWith "/" then none else onLink dir (pieces target ++ rest)
        | some _ => root.followPieces onLink (dir ++ [piece]) rest
    | _ => none

/-- Follows the pieces of a path over at most `links` links. -/
def locateWithin (root : Node) : Nat → List String → List String → Option (List String)
  | 0 => root.followPieces fun _ _ => none
  | links + 1 => root.followPieces (root.locateWithin links)

/-- The most links that one path may lead over. -/
def maxLinks : Nat := 40

/-- The names from the root to where the pieces of a path lead, starting in a directory. -/
def locate (root : Node) (dir : List String) (path : List String) : Option (List String) :=
  root.locateWithin maxLinks dir path

/-- The file or directory that the pieces of a path lead to. -/
def find? (root : Node) (dir : List String) (path : List String) : Option Node :=
  (root.locate dir path).bind root.at?

/-! ## Changing trees -/

/--
Changes what is at a path of names, nothing standing for no node.  Directories that are missing on
the way are made; below a file nothing changes.
-/
def alter (fresh : List String → Stat) (f : Option Node → Option Node) :
    List String → List String → Option Node → Option Node
  | _, [], n => f n
  | above, name :: rest, n =>
    let inside (stat : Stat) (entries : List (String × Node)) : Node :=
      .directory stat <|
        match alter fresh f (above ++ [name]) rest (entries.lookup name) with
        | some m => placeByName name m entries
        | none => removeName name entries
    match n with
    | some (.directory stat entries) => some (inside stat entries)
    | none => some (inside (fresh above) [])
    | other => other

mutual

/-- The identities of all files and directories of a tree. -/
def identities : Node → List String
  | .file stat _ => [stat.id]
  | .directory stat entries => stat.id :: identitiesAll entries
  | .link _ => []

def identitiesAll : List (String × Node) → List String
  | [] => []
  | e :: es => identitiesEntry e ++ identitiesAll es

def identitiesEntry : String × Node → List String
  | (_, n) => n.identities

end

/-- The names that a path leads to, links followed where they can be. -/
def settle (root : Node) (path : List String) : List String := (root.locate [] path).getD path

end Node

end ScopedSearch
