import ScopedSearch.Storage.Tree

/-!
# Editing directory trees

A directory tree under change.  A file or directory that is made gets an identity that nothing had
before it, and keeps it when it is moved; whatever contents a file is given, it stays the same file.
Directories on the way to something that is made are made as well.

## Main results

* `fresh_notMem`: a new identity was not taken.
-/

namespace ScopedSearch

/-- How the identities of new files and directories come about. -/
structure Naming where
  /-- The identity that is wished for at a path. -/
  wish : List String → String
  /-- What is put behind an identity that is taken. -/
  mark : String
  /-- When directories were changed last, as it is told. -/
  directoryTime : Int64

/-- A directory tree under change. -/
structure EditedTree where
  /-- The tree; nothing once its root is gone. -/
  root : Option Node
  /-- The identities that were given so far. -/
  taken : List String := []

instance : Inhabited EditedTree := ⟨⟨none, []⟩⟩

namespace EditedTree

/-- An identity with so many marks behind it. -/
def marked (naming : Naming) (wish : String) (k : Nat) : String :=
  wish ++ String.join (List.replicate k naming.mark)

/-- The identity of something new at a path. -/
def fresh (t : EditedTree) (naming : Naming) (path : List String) : String :=
  let wish := naming.wish path
  (((List.range (t.taken.length + 1)).map (marked naming wish)).find? fun id =>
    !t.taken.contains id).getD wish

/-- A new identity was not taken, if any of those looked at is free. -/
theorem fresh_notMem (t : EditedTree) (naming : Naming) (path : List String)
    (h : ∃ k ≤ t.taken.length, marked naming (naming.wish path) k ∉ t.taken) :
    t.fresh naming path ∉ t.taken := by
  simp only [fresh]
  cases hf : ((List.range (t.taken.length + 1)).map (marked naming (naming.wish path))).find?
      fun id => !t.taken.contains id with
  | some id =>
    have hfree : id ∉ t.taken := by simpa using List.find?_some hf
    exact hfree
  | none =>
    obtain ⟨k, hk, hfree⟩ := h
    rw [List.find?_eq_none] at hf
    have := hf (marked naming (naming.wish path) k)
      (List.mem_map.2 ⟨k, List.mem_range.2 (by omega), rfl⟩)
    simp [hfree] at this

/-- What is known of something new at a path. -/
def freshStat (t : EditedTree) (naming : Naming) (path : List String) : Stat :=
  ⟨t.fresh naming path, naming.directoryTime⟩

/-- Changes what is at a path. -/
def alter (t : EditedTree) (naming : Naming) (path : List String)
    (f : Option Node → Option Node) : EditedTree :=
  match Node.alter (t.freshStat naming) f [] path
      (some (t.root.getD (.directory ⟨"", naming.directoryTime⟩ []))) with
  | none => { t with root := none }
  | some root => { root := some root, taken := (t.taken ++ root.identities).eraseDups }

/-- Gives a file contents; it is made if it is not there. -/
def write (t : EditedTree) (naming : Naming) (path : List String) (body : ByteArray)
    (mtime : Int64) : EditedTree :=
  let path := (t.root.map fun root => root.settle path).getD path
  t.alter naming path fun n => match n with
    | some (.file stat _) => some (.file { stat with mtime } body)
    | none => some (.file { t.freshStat naming path with mtime } body)
    | other => other

/-- Makes a directory, if nothing is there. -/
def makeDirectory (t : EditedTree) (naming : Naming) (path : List String) : EditedTree :=
  t.alter naming path fun n => match n with
    | none => some (.directory (t.freshStat naming path) [])
    | other => other

/-- Makes a link. -/
def makeLink (t : EditedTree) (naming : Naming) (path : List String) (target : String) :
    EditedTree :=
  t.alter naming path fun _ => some (.link target)

/-- What is at a path. -/
def at? (t : EditedTree) (path : List String) : Option Node := t.root.bind fun root => root.at? path

/-- Takes away what is at a path. -/
def remove (t : EditedTree) (naming : Naming) (path : List String) : EditedTree :=
  if (t.at? path).isSome then t.alter naming path fun _ => none else t

/-- Moves what is at a path. -/
def rename (t : EditedTree) (naming : Naming) (path target : List String) : EditedTree :=
  match t.at? path with
  | none => t
  | some n => (t.remove naming path).alter naming target fun _ => some n

end EditedTree

end ScopedSearch
