import ScopedSearch.Json.Reader
import ScopedSearch.Json.Record
import ScopedSearch.Storage
import ScopedSearch.Storage.Tree
import ScopedSearch.Text.Blank

/-!
# Storage in a directory

Every directory under a root is a space, owned by the actor with its name.  The file `.members` of
a space names the other actors that may see it, one a line; the file `.tags.json` gives tags by
path.  Whatever has a name that starts with a dot is not a resource.

The path of a resource is made of the names that lead to it, backslashes standing for slashes.

## Main results

* `mem_visibleAll`: the visible entries are those that no hidden name leads to.
-/

namespace ScopedSearch

/-- A name that starts with a dot. -/
def isHiddenName (name : String) : Bool := name.toList.head? == some '.'

namespace Node

mutual

/-- What is below a node and not hidden, each with the names that lead to it. -/
def visible : Node → List (List String × Node)
  | .directory _ entries => visibleAll entries
  | .file _ _ | .link _ => []

/-- What is at or below entries and not hidden. -/
def visibleAll : List (String × Node) → List (List String × Node)
  | [] => []
  | e :: es => visibleEntry e ++ visibleAll es

/-- An entry and what is below it, unless its name hides it. -/
def visibleEntry : String × Node → List (List String × Node)
  | (name, n) =>
    if isHiddenName name then []
    else ([name], n) :: n.visible.map fun (names, m) => (name :: names, m)

end

theorem mem_visibleAll {x : List String × Node} {es : List (String × Node)} :
    x ∈ visibleAll es ↔ ∃ e ∈ es, x ∈ visibleEntry e := by
  induction es with
  | nil => simp [visibleAll]
  | cons e es ih => simp [visibleAll, ih]

end Node

/-- A directory whose entries are spaces. -/
structure DirectoryStorage where
  /-- The root as it is shown. -/
  root : String
  /-- The tree under the root, or why it cannot be read. -/
  tree : Except String Node

namespace DirectoryStorage

open ScopedSearch.Text

/-- The file that names who may see a space. -/
def membersFile : String := ".members"

/-- The file that gives the tags of what is in a space. -/
def tagsFile : String := ".tags.json"

/-- The name can be the name of a space. -/
def isSpaceName (space : String) : Bool :=
  space ≠ "" && !isHiddenName space && !space.toList.contains '/' && !space.toList.contains '\\'

/-- The names that lead to the directory of a space. -/
def spaceAt (d : DirectoryStorage) (space : String) : Except Fault (List String) :=
  if isSpaceName space then
    match d.tree with
    | .error _ => .error (.storage (.unknownSpace space))
    | .ok tree =>
      match tree.locate [] [space] with
      | none => .error (.storage (.unknownSpace space))
      | some dir =>
        if ((tree.at? dir).map Node.isDirectory).getD false then .ok dir
        else .error (.storage (.unknownSpace space))
  else .error (.storage (.invalidSpace space))

/-- The bytes of the file that the pieces of a path lead to from a directory. -/
def bytesAt? (tree : Node) (dir : List String) (path : List String) : Option ByteArray :=
  match tree.find? dir path with
  | some (.file _ body) => some body
  | _ => none

/-- The text of a file. -/
def textAt? (tree : Node) (dir : List String) (name : String) : Option String :=
  (bytesAt? tree dir [name]).bind String.fromUTF8?

/-- The actors that a text names: one a line, blank lines and those with a number sign let be. -/
def membersOf (contents : String) : List String :=
  ((splitOn '\n' contents.toList).map fun line => String.ofList (trimEnd (trimStart line))).filter
    fun line => line ≠ "" && line.toList.head? ≠ some '#'

/-- The actors that may see a space besides its owner. -/
def members (tree : Node) (dir : List String) : List String :=
  ((textAt? tree dir membersFile).map membersOf).getD []

/-- The tags that a JSON record gives by path, by normal path and the last one first. -/
def tagsOf? : Json → Option (List (String × TagSet))
  | .record fields =>
    (fields.mapM fun (path, tags) => do
      return (Path.normalize path, ← Json.tagSet? tags)).map List.reverse
  | _ => none

/-- The tags given in a space; none when what gives them cannot be read. -/
def tags (tree : Node) (dir : List String) : List (String × TagSet) :=
  (((textAt? tree dir tagsFile).bind Json.parse?).bind tagsOf?).getD []

/-- The logical path of names. -/
def logicalPath (names : List String) : String :=
  Path.normalize <| String.ofList <|
    (join '/' (names.map String.toList)).map fun c => if c = '\\' then '/' else c

/-- The resource at names below the directory of a space. -/
def describe (space : String) (tags : List (String × TagSet)) (names : List String)
    (stat : Stat) (body : Option ByteArray) : Resource :=
  let path := logicalPath names
  let name := if path = "/" then "" else names.getLast?.getD ""
  { space
    item := stat.id
    path
    name
    mimeType := if body.isNone then directoryMime else mimeOfName name
    size := match body with
      | some b => b.size.toUInt64
      | none => 0
    mtime := if stat.mtime < 0 then 0 else stat.mtime
    tags := (tags.lookup path).getD TagSet.empty
    isDir := body.isNone }

/-- The resource of a node; a link is what it leads to, and nothing when it leads nowhere. -/
def resource? (tree : Node) (dir : List String) (space : String) (tags : List (String × TagSet))
    (names : List String) (n : Node) : Option Resource :=
  let target := match n with
    | .link _ => tree.find? dir names
    | other => some other
  match target with
  | some (.file stat body) => some (describe space tags names stat (some body))
  | some (.directory stat _) => some (describe space tags names stat none)
  | _ => none

/-- The resources below the directory of a space. -/
def walkFrom (tree : Node) (dir : List String) (space : String) : List Resource :=
  let tags := tags tree dir
  (((tree.at? dir).map Node.visible).getD []).filterMap fun (names, n) =>
    resource? tree dir space tags names n

/-- The tree, where there is one. -/
def tree? (d : DirectoryStorage) : Node := d.tree.toOption.getD (.directory ⟨"", 0⟩ [])

/-- The actor may see the space. -/
def mayView (tree : Node) (a : Actor) (space : String) : Bool :=
  a.service || space == a.id || (members tree [space]).contains a.id

/-- The spaces under a root that an actor may see. -/
def spaces (tree : Node) (a : Actor) : List String :=
  ((tree.entries.filter fun (name, n) =>
    n.isDirectory && !isHiddenName name && mayView tree a name).map (·.1)).mergeSort
      fun x y => decide (x ≤ y)

def listSpaces (d : DirectoryStorage) (a : Actor) : Except Fault (List String) :=
  match d.tree with
  | .error detail => .error (.storage (.listingRoot d.root detail))
  | .ok tree => .ok (spaces tree a)

def walkSpace (d : DirectoryStorage) (space : String) : Except Fault (List Resource) := do
  let dir ← d.spaceAt space
  return walkFrom d.tree? dir space

/-- The directory of a space as a resource of the space. -/
def rootResource? (tree : Node) (dir : List String) (space : String) : Option Resource :=
  (tree.at? dir).bind (resource? tree dir space (tags tree dir) [])

def resolve (d : DirectoryStorage) (space item : String) : Except Fault Resource := do
  let dir ← d.spaceAt space
  let all := (rootResource? d.tree? dir space).toList ++ walkFrom d.tree? dir space
  match all.find? (·.item == item) with
  | some r => return r
  | none => throw (.itemNotFound (documentKey space item))

def bytes (d : DirectoryStorage) (r : Resource) : Except Fault ByteArray := do
  if r.isDir then throw (.storage (.isDirectory r.path))
  let dir ← d.spaceAt r.space
  let path := String.ofList (r.path.toList.dropWhile (· = '/'))
  match bytesAt? d.tree? dir (Node.pieces path) with
  | some b => return b
  | none => throw (.io "No such file or directory (os error 2)")

/-- The answers of the storage. -/
def toStorage (d : DirectoryStorage) : Storage where
  listSpaces := d.listSpaces
  walkSpace := d.walkSpace
  resolve := d.resolve
  bytes := d.bytes

end DirectoryStorage

end ScopedSearch
