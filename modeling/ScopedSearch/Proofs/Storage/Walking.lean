import Mathlib.Data.List.Forall2
import ScopedSearch.Proofs.Path.Prefix
import ScopedSearch.Proofs.Storage.Reading

/-!
# What a walk reports

A walk goes down from the directory of a space and leaves out what a hidden name leads to.  In a
tree of files and directories whose names hold no backslash it reports each of the others once, and
a resource is found by its identity exactly when it is reported or is the directory of the space
itself, which is never hidden and never reported.

The tags of a resource stand in a file of the space under spellings of its path.  As long as at most
one spelling is used there, it does not matter in which order the file is read.

## Main results

* `lookup_tags`: the tags of a path of which at most one spelling is used.
* `walkFrom_describes`: each visible node below a space has its resource in the walk.
* `walk_reports_visible`: what walking a space and resolving in it answer.
-/

namespace ScopedSearch

namespace Node

mutual

/-- The names that stand anywhere below a node. -/
def names : Node → List String
  | .directory _ entries => namesAll entries
  | .file _ _ | .link _ => []

def namesAll : List (String × Node) → List String
  | [] => []
  | e :: es => namesEntry e ++ namesAll es

def namesEntry : String × Node → List String
  | (name, n) => name :: n.names

end

theorem subset_namesAll {name : String} {n : Node} {es : List (String × Node)}
    (h : (name, n) ∈ es) : name :: n.names ⊆ namesAll es := by
  induction es with
  | nil => cases h
  | cons e es ih =>
    rw [namesAll]
    rcases List.mem_cons.1 h with rfl | h
    · exact List.subset_append_left _ _
    · exact List.Subset.trans (ih h) (List.subset_append_right _ _)

/-- The names that lead to a node stand in the tree. -/
theorem mem_names_of_at? {n m : Node} {path : List String} (h : n.at? path = some m) :
    ∀ name ∈ path, name ∈ n.names := by
  induction path generalizing n with
  | nil => exact fun name hname => nomatch hname
  | cons first path ih =>
    obtain ⟨k, hk, hrest⟩ := Option.bind_eq_some_iff.1 h
    have hbelow : first :: k.names ⊆ n.names := by
      cases n with
      | directory stat entries => exact subset_namesAll (mem_of_lookup hk)
      | file stat body => cases hk
      | link target => cases hk
    refine List.forall_mem_cons.2 ⟨hbelow List.mem_cons_self, fun name hname => ?_⟩
    exact hbelow (List.mem_cons_of_mem first (ih hrest name hname))

end Node

namespace DirectoryStorage

open ScopedSearch.Text

/-! ## Tags -/

/-- The tags that a JSON record gives, by path as it is spelled there and in the order of the
record. -/
def spelledTagsOf? : Json → Option (List (String × TagSet))
  | .record fields => fields.mapM fun (path, tags) => do return (path, ← Json.tagSet? tags)
  | _ => none

/-- The tags given in a space by the spellings of paths; none when what gives them cannot be
read. -/
def spelledTags (tree : Node) (dir : List String) : List (String × TagSet) :=
  (((textAt? tree dir tagsFile).bind Json.parse?).bind spelledTagsOf?).getD []

/-- The tags are those of a path: where at most one spelling of the path has tags, they are what is
given last under this spelling, and none when nothing is given. -/
def AreTagsOf (spelled : List (String × TagSet)) (path : String) (tags : TagSet) : Prop :=
  ∀ spelling, Path.normalize spelling = path →
    (∀ e ∈ spelled, Path.normalize e.1 = path → e.1 = spelling) →
    tags = (spelled.reverse.lookup spelling).getD TagSet.empty

theorem tagsOf?_record (fields : List (String × Json)) :
    tagsOf? (.record fields) = (spelledTagsOf? (.record fields)).map fun l =>
      (l.map fun e => (Path.normalize e.1, e.2)).reverse := by
  have hmap : (fields.mapM fun ((path, tags) : String × Json) => do
      return (Path.normalize path, ← Json.tagSet? tags) : Option (List (String × TagSet))) =
      (spelledTagsOf? (.record fields)).map fun l =>
        l.map fun e => (Path.normalize e.1, e.2) := by
    rw [spelledTagsOf?]
    induction fields with
    | nil => rfl
    | cons field fields ih =>
      obtain ⟨path, v⟩ := field
      rw [List.mapM_cons, List.mapM_cons, ih]
      dsimp only
      cases Json.tagSet? v with
      | none => rfl
      | some tags =>
        cases (fields.mapM fun ((path, tags) : String × Json) => do
          return (path, ← Json.tagSet? tags) : Option (List (String × TagSet))) <;> rfl
  rw [tagsOf?, hmap, Option.map_map]
  rfl

/-- The tags by normal path are those by spelling, the last one first. -/
theorem tags_eq (tree : Node) (dir : List String) :
    tags tree dir = ((spelledTags tree dir).map fun e => (Path.normalize e.1, e.2)).reverse := by
  have hrecord : ∀ v, tagsOf? v =
      (spelledTagsOf? v).map fun l => (l.map fun e => (Path.normalize e.1, e.2)).reverse := by
    intro v
    cases v with
    | record fields => exact tagsOf?_record fields
    | _ => rfl
  rw [tags, spelledTags]
  cases (textAt? tree dir tagsFile).bind Json.parse? with
  | none => rfl
  | some v =>
    rw [Option.bind_some, Option.bind_some, hrecord]
    cases spelledTagsOf? v <;> rfl

/-- Where a path has one spelling only, it is looked up by normal path or by spelling alike. -/
theorem lookup_map_normalize {path spelling : String} {spelled : List (String × TagSet)}
    (hspelling : Path.normalize spelling = path)
    (honly : ∀ e ∈ spelled, Path.normalize e.1 = path → e.1 = spelling) :
    (spelled.map fun e => (Path.normalize e.1, e.2)).lookup path = spelled.lookup spelling := by
  induction spelled with
  | nil => rfl
  | cons e spelled ih =>
    obtain ⟨hfirst, hrest⟩ := List.forall_mem_cons.1 honly
    have hsame : (path == Path.normalize e.1) = (spelling == e.1) := by
      rw [Bool.eq_iff_iff, beq_iff_eq, beq_iff_eq]
      exact ⟨fun h => (hfirst h.symm).symm, fun h => h ▸ hspelling.symm⟩
    rw [List.map_cons, List.lookup_cons, List.lookup_cons, hsame, ih hrest]

/-- The tags of a path are found under the only spelling of it that is used. -/
theorem lookup_tags (tree : Node) (dir : List String) (path : String) :
    AreTagsOf (spelledTags tree dir) path (((tags tree dir).lookup path).getD TagSet.empty) := by
  intro spelling hspelling honly
  rw [tags_eq, ← List.map_reverse,
    lookup_map_normalize hspelling fun e he => honly e (List.mem_reverse.1 he)]

/-! ## Resources -/

theorem toList_intercalate_slash (names : List String) :
    ("/".intercalate names).toList = join '/' (names.map String.toList) := by
  rw [String.toList_intercalate]
  induction names with
  | nil => rfl
  | cons name names ih =>
    cases names with
    | nil => simp [join, List.intercalate]
    | cons other names =>
      rw [List.map_cons, List.map_cons, join, ← List.map_cons, ← ih]
      · simp [List.intercalate]
      · simp

/-- A path spelled with names has slashes before and between them. -/
theorem render_toList (names : List String) :
    Path.render (names.map String.toList) = "/" ++ "/".intercalate names := by
  apply String.toList_injective
  rw [Path.render, String.toList_ofList, String.toList_append, toList_intercalate_slash]
  rfl

/-- The resource says what stands at names below the directory of a space. -/
structure Describes (tree : Node) (space : String) (names : List String) (n : Node)
    (r : Resource) : Prop where
  located : r.space = space
  spelled : r.path = "/" ++ "/".intercalate names
  named : r.name = names.getLast?.getD ""
  /-- The identity, the flag of directories, the size and the kind of contents. -/
  kind : match n with
    | .file stat body => r.item = stat.id ∧ r.isDir = false ∧ r.size = body.size.toUInt64 ∧
        r.mimeType = mimeOfName r.name
    | .directory stat _ => r.item = stat.id ∧ r.isDir = true ∧ r.size = 0 ∧
        r.mimeType = directoryMime
    | .link _ => False
  tagged : AreTagsOf (spelledTags tree [space]) r.path r.tags

/-- The resource made for a node of a plain tree says what stands there. -/
theorem resource?_describes (tree : Node) (space : String) {names : List String} {n : Node}
    (hn : n.isPlain = true) (hnames : ∀ name ∈ names, isFileName name = true)
    (hback : WithoutBackslash names) :
    ∃ r, resource? tree [space] space (tags tree [space]) names n = some r ∧
      Describes tree space names n r := by
  have hpath : logicalPath names = "/" ++ "/".intercalate names := by
    rw [logicalPath_eq hnames hback, render_toList]
  have hname : (if logicalPath names = "/" then "" else names.getLast?.getD "") =
      names.getLast?.getD "" := by
    split
    · rename_i hroot
      cases names with
      | nil => rfl
      | cons name names =>
        have hopened := openedPieces_logicalPath (List.cons_ne_nil name names) hnames hback
        rw [hroot] at hopened
        have hempty : name = "" := (List.cons.inj hopened).1.symm
        exact absurd hempty (isFileName_iff.1 (hnames name List.mem_cons_self)).1
    · rfl
  have htags := lookup_tags tree [space] (logicalPath names)
  cases n with
  | file stat body =>
    refine ⟨describe space (tags tree [space]) names stat (some body), rfl, ?_⟩
    rw [describe, hname]
    exact ⟨rfl, hpath, rfl, ⟨rfl, rfl, rfl, by simp⟩, htags⟩
  | directory stat entries =>
    refine ⟨describe space (tags tree [space]) names stat none, rfl, ?_⟩
    rw [describe, hname]
    exact ⟨rfl, hpath, rfl, ⟨rfl, rfl, rfl, by simp⟩, htags⟩
  | link target => cases hn

theorem forall₂_filterMap {α β : Type} {f : α → Option β} {R : α → β → Prop} {l : List α}
    (h : ∀ x ∈ l, ∃ y, f x = some y ∧ R x y) : List.Forall₂ R l (l.filterMap f) := by
  induction l with
  | nil => exact .nil
  | cons x l ih =>
    obtain ⟨⟨y, hy, hR⟩, hrest⟩ := List.forall_mem_cons.1 h
    rw [List.filterMap_cons_some hy]
    exact .cons hR (ih hrest)

variable {d : DirectoryStorage} {tree n : Node} {space : String} {names : List String}

/-- Each visible node below a space has its resource in the walk, and there is no other. -/
theorem walkFrom_describes (hplain : tree.isPlain = true) (hback : WithoutBackslash tree.names)
    (hspace : tree.at? [space] = some n) :
    List.Forall₂ (fun names r => ∃ m, tree.at? (space :: names) = some m ∧
      Describes tree space names m r) (n.visible.map (·.1)) (walkFrom tree [space] space) := by
  rw [List.forall₂_map_left_iff, walkFrom, hspace]
  refine forall₂_filterMap fun ⟨names, m⟩ hmem => ?_
  obtain ⟨-, hbelow, -⟩ := (Node.mem_visible_iff (Node.isPlain_at? hplain hspace).1).1 hmem
  have hat : tree.at? ([space] ++ names) = some m := by
    rw [Node.at?_append, hspace]
    exact hbelow
  obtain ⟨hm, hall⟩ := Node.isPlain_at? hplain hat
  obtain ⟨r, hr, hdescribes⟩ := resource?_describes tree space hm
    (List.forall_mem_cons.1 hall).2 fun name hname =>
      hback name (Node.mem_names_of_at? hat name (List.mem_cons_of_mem space hname))
  exact ⟨r, hr, m, hat, hdescribes⟩

/-- Names below a space are those of a visible node when they lead to one and none is hidden. -/
theorem mem_map_visible_iff (hplain : tree.isPlain = true) (hspace : tree.at? [space] = some n) :
    names ∈ n.visible.map (·.1) ↔ names ≠ [] ∧ (tree.at? (space :: names)).isSome = true ∧
      ∀ name ∈ names, isHiddenName name = false := by
  have hat : tree.at? ([space] ++ names) = n.at? names := by
    rw [Node.at?_append, hspace]
    rfl
  change _ ↔ names ≠ [] ∧ (tree.at? ([space] ++ names)).isSome = true ∧ _
  rw [hat, Option.isSome_iff_exists]
  simp [Node.mem_visible_iff (Node.isPlain_at? hplain hspace).1]

/--
What walking a space and resolving in it answer, in a tree of files and directories without
backslashes in their names.  The walk reports one resource for each row of names that leads from the
directory of the space to a node below it and has no hidden name in it, and no other resource; each
says what stands there.  Resolving answers with the directory of the space for its identity, for any
other one with a resource of the walk that has it, and that there is no such item exactly when there
is neither.
-/
theorem walk_reports_visible (htree : d.tree = .ok tree) (hplain : tree.isPlain = true)
    (hback : WithoutBackslash tree.names) {stat : Stat} {entries : List (String × Node)}
    (hspace : tree.at? [space] = some (.directory stat entries))
    (hshown : isHiddenName space = false) :
    ∃ resources places, d.walkSpace space = .ok resources ∧ places.Nodup ∧
      (∀ names, names ∈ places ↔ names ≠ [] ∧ (tree.at? (space :: names)).isSome = true ∧
        ∀ name ∈ names, isHiddenName name = false) ∧
      List.Forall₂ (fun names r => ∃ m, tree.at? (space :: names) = some m ∧
        Describes tree space names m r) places resources ∧
      (∃ root, d.resolve space stat.id = .ok root ∧
        Describes tree space [] (.directory stat entries) root) ∧
      (∀ item, item ≠ stat.id → (∃ r ∈ resources, r.item = item) →
        ∃ r ∈ resources, r.item = item ∧ d.resolve space item = .ok r) ∧
      ∀ item, (∃ key, d.resolve space item = .error (.itemNotFound key)) ↔
        item ≠ stat.id ∧ ∀ r ∈ resources, r.item ≠ item := by
  have hat := Node.mem_names_of_at? hspace space List.mem_cons_self
  have haccepted := spaceAt_of_at? htree hplain hspace rfl hshown (hback space hat)
  have hdirectory := (Node.isPlain_at? hplain hspace).1
  have hnone : ∀ name, name ∉ ([] : List String) := fun name => List.not_mem_nil
  obtain ⟨root, hroot, hdescribes⟩ := resource?_describes tree space hdirectory
    (fun name hname => absurd hname (hnone name)) fun name hname => absurd hname (hnone name)
  have hrootItem : root.item = stat.id := hdescribes.kind.1
  have hresource : rootResource? tree [space] space = some root := by
    rw [rootResource?, hspace]
    exact hroot
  have hresolve := resolve_eq_find? haccepted
  rw [tree?_eq htree, hresource, Option.toList_some, List.singleton_append] at hresolve
  refine ⟨walkFrom tree [space] space, (Node.directory stat entries).visible.map (·.1),
    walkSpace_of_spaceAt htree haccepted, Node.nodup_visible _ hdirectory,
    fun names => mem_map_visible_iff hplain hspace, walkFrom_describes hplain hback hspace,
    ⟨root, ?_, hdescribes⟩, ?_, ?_⟩
  · rw [hresolve, List.find?_cons_of_pos (p := fun r : Resource => r.item == stat.id) (beq_iff_eq.2 hrootItem)]
  · intro item hitem hsome
    have hother : ¬ (root.item == item) = true := by
      rw [beq_iff_eq, hrootItem]
      exact fun h => hitem h.symm
    obtain ⟨r, hr⟩ := Option.isSome_iff_exists.1 (List.find?_isSome.2
      (hsome.imp fun r hr => ⟨hr.1, beq_iff_eq.2 hr.2⟩) :
      ((walkFrom tree [space] space).find? (·.item == item)).isSome = true)
    refine ⟨r, List.mem_of_find?_eq_some hr, by simpa using List.find?_some hr, ?_⟩
    rw [hresolve, List.find?_cons_of_neg (p := fun r : Resource => r.item == item) hother, hr]
  · intro item
    rw [hresolve]
    cases hfind : (root :: walkFrom tree [space] space).find? (·.item == item) with
    | some r =>
      have hmem := List.mem_of_find?_eq_some hfind
      have hr : r.item = item := by simpa using List.find?_some hfind
      refine iff_of_false (fun h => by simp at h) fun ⟨hne, hnone⟩ => ?_
      rcases List.mem_cons.1 hmem with rfl | hmem
      · exact hne (hr ▸ hrootItem)
      · exact hnone r hmem hr
    | none =>
      have hall := List.find?_eq_none.1 hfind
      refine iff_of_true ⟨_, rfl⟩ ⟨fun h => ?_, fun r hr h => ?_⟩
      · exact hall root List.mem_cons_self (beq_iff_eq.2 (hrootItem.trans h.symm))
      · exact hall r (List.mem_cons_of_mem root hr) (beq_iff_eq.2 h)

/-- A space with a hidden directory, tags for one path, and a file in a directory. -/
def keptTree : Node :=
  .directory ⟨"1", 0⟩ [
    ("team", .directory ⟨"2", 0⟩ [
      (".git", .directory ⟨"3", 0⟩ [("config", .file ⟨"4", 0⟩ secret)]),
      (".tags.json", .file ⟨"5", 0⟩ "\x7b\"docs//plan.txt\":[\"alpha\"]\x7d".toUTF8),
      ("docs", .directory ⟨"6", 0⟩ [("plan.txt", .file ⟨"7", 0⟩ notes)])])]

def kept : DirectoryStorage := ⟨"/srv", .ok keptTree⟩

/-- The directory and the file in it are reported, and what the hidden directory holds is not found
by its identity either. -/
theorem walk_reports_visible_kept : ∃ resources, kept.walkSpace "team" = .ok resources ∧
    resources.map (fun r => (r.path, r.isDir, r.size, r.tags.toList)) =
      [("/docs", true, 0, []), ("/docs/plan.txt", false, 4, ["alpha"])] ∧
    (∃ root, kept.resolve "team" "2" = .ok root ∧ root.path = "/") ∧
    (∃ r ∈ resources, r.item = "7" ∧ kept.resolve "team" "7" = .ok r) ∧
    ∃ key, kept.resolve "team" "4" = .error (.itemNotFound key) := by
  obtain ⟨resources, places, hwalk, -, -, -, ⟨root, hroot, hdescribes⟩, hfound, hmissing⟩ :=
    walk_reports_visible (show kept.tree = .ok keptTree from rfl) (by decide +kernel)
      (by decide +kernel) (show keptTree.at? ["team"] = some (.directory ⟨"2", 0⟩ _) from rfl) rfl
  have hresources : resources = walkFrom keptTree ["team"] "team" := by
    cases hwalk
    rfl
  refine ⟨resources, hwalk, ?_, ⟨root, hroot, hdescribes.spelled⟩, hfound "7" (by decide) ?_,
    (hmissing "4").2 ⟨by decide, ?_⟩⟩ <;> rw [hresources] <;> decide +kernel

end DirectoryStorage

end ScopedSearch
