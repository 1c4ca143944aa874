import ScopedSearch.Index.Ranking
import ScopedSearch.Index.Writing
import ScopedSearch.Query.Meaning
import ScopedSearch.Search.Backend

/-!
# The embedded index

An index in files of its own, with any number of handles on it.  Every handle has a view of the
documents: it is taken when the handle is opened, and again after each write through the handle.
The first write of a handle takes the writer, which one handle holds at a time.

A search selects by a combination of four criteria: the query, one of the spaces, the path scope,
and not being trashed.

## Main results

* `holds_confined_iff`: what a search selects, document by document.
-/

namespace ScopedSearch

/-- What the handles of one embedded index share. -/
structure IndexFiles where
  documents : Collection := ∅
  /-- The handle that holds the writer. -/
  writer : Option Nat := none
  deriving Inhabited

/-- The criterion of the spaces that are looked in. -/
def spacesCriterion (spaces : List String) : Criterion :=
  .combine (spaces.map fun s => (.should, .term .space (.text s)))

/-- The clauses that a search selects by, beside the query itself. -/
def scopeClauses (q : BackendQuery) : List (Occurrence × Criterion) :=
  (.must, spacesCriterion q.spaces) ::
    (q.pathScope.toList.map fun path => (.must, .term .ancestors (.text path))) ++
    (if q.includeTrashed then [] else [(.must, .term .trashed (.flag false))])

/-- The criterion of the text of a query; a blank one selects everything. -/
def textCriterion (query : String) : Except QueryTextFault Criterion :=
  if Text.trim query = "" then .ok .everything else Criterion.ofText query

/-- All that a search selects by. -/
def BackendQuery.criterion (q : BackendQuery) : Except QueryTextFault Criterion :=
  (textCriterion q.query).map fun c => .combine ((.must, c) :: scopeClauses q)

/-- The answers of a collection to a criterion, best first. -/
def Collection.answers (docs : Collection) (c : Criterion) : List Scored :=
  let indexed := docs.toList.map Indexed.ofDocument
  let st := Statistics.gather indexed c.terms
  rank ((indexed.filter c.holds).map fun x => (x.document, c.score st 1 x))

/-- One page of the answers and their number. -/
def Collection.search (docs : Collection) (q : BackendQuery) : Except QueryTextFault Hits :=
  if q.spaces.isEmpty || q.limit = 0 then .ok {}
  else do
    let c ← q.criterion
    let found := docs.answers c
    return { hits := (found.drop q.offset).take q.limit, total := UInt64.ofNat found.length }

namespace Embedded

variable {σ : Type}

/-- Bytes of memory for writing that always do. -/
def defaultHeap : Nat := 50000000

/-- The fewest bytes of memory that a writer can work with. -/
def smallestHeap : Nat := 15000000

/-- What is said of too little memory. -/
def heapFault : IndexFault :=
  .invalidArgument
    s!"The memory arena in bytes per thread needs to be at least {toString smallestHeap}."

/-- Takes the writer for a handle, unless another one holds it or the memory does not do. -/
def takeWriter (handle heap : Nat) (files : Part σ IndexFiles) : Op σ Unit := do
  let f ← Op.read files.get
  match f.writer with
  | none =>
    if heap < smallestHeap then Op.fail heapFault.toFault
    else files.modify fun f => { f with writer := some handle }
  | some holder => if holder = handle then pure () else Op.fail IndexFault.locked.toFault

/--
Writes documents through a handle that holds the writer: puts each in the place of the one with its
key, commits, and takes the view anew.
-/
def write (files : Part σ IndexFiles) (view : Part σ Collection) (docs : List Document) :
    Op σ Unit := do
  files.modify fun f =>
    { f with documents := f.documents.commit (docs.flatMap Document.replacing) }
  let f ← Op.read files.get
  view.modify fun _ => f.documents

/-- A handle on an embedded index, with its view of the documents. -/
def backend (handle : Nat) (files : Part σ IndexFiles) (view : Part σ Collection)
    (heap : Nat := defaultHeap) : Backend σ where
  name := "tantivy"
  upsert ctx docs := do
    if docs.isEmpty then return
    ctx.check
    takeWriter handle heap files
    write files view docs
  get ctx space item := do
    ctx.check
    let docs ← Op.read view.get
    return docs.find? (documentKey space item)
  patch ctx space item p := do
    ctx.check
    takeWriter handle heap files
    let docs ← Op.read view.get
    match docs.find? (documentKey space item) with
    | none => return false
    | some d =>
      write files view [p.apply d]
      return true
  search ctx q := do
    ctx.check
    let docs ← Op.read view.get
    Op.ofExcept ((docs.search q).mapError (.badQuery ∘ .text))
  count ctx := do
    ctx.check
    let docs ← Op.read view.get
    return docs.size

/-- Opens a handle: its view is what the files hold. -/
def openHandle (files : Part σ IndexFiles) (view : Part σ Collection) : Op σ Unit := do
  let f ← Op.read files.get
  view.modify fun _ => f.documents

/-- Closes a handle: the writer is free again if the handle held it. -/
def close (handle : Nat) (files : Part σ IndexFiles) : Op σ Unit :=
  files.modify fun f => if f.writer = some handle then { f with writer := none } else f

end Embedded

/-! ## What a search selects -/

theorem holds_term_space (d : Document) (s : String) :
    (Criterion.term .space (.text s)).holds (.ofDocument d) = decide (d.space = s) := by
  by_cases h : d.space = s <;>
    simp [Criterion.holds, Indexed.occurrences, Document.postings, h]

theorem holds_term_trashed (d : Document) :
    (Criterion.term .trashed (.flag false)).holds (.ofDocument d) = !d.trashed := by
  cases h : d.trashed <;> simp [Criterion.holds, Indexed.occurrences, Document.postings, h]

theorem holds_term_ancestors (d : Document) (path : String) :
    (Criterion.term .ancestors (.text path)).holds (.ofDocument d) =
      decide (path ∈ d.ancestors) := by
  simp only [Criterion.holds, Indexed.occurrences, Indexed.postings_ofDocument, Document.postings]
  rw [decide_eq_decide]
  simp [List.length_pos_iff, List.filter_eq_nil_iff]

theorem someOptional_spaces (x : Indexed) (spaces : List String) :
    Criterion.someOptional x (spaces.map fun s => (.should, .term .space (.text s))) =
      spaces.any fun s => (Criterion.term .space (.text s)).holds x := by
  induction spaces with
  | nil => rfl
  | cons s rest ih => simp [Criterion.someOptional, ih]

theorem allRequired_spaces (x : Indexed) (spaces : List String) :
    Criterion.allRequired x (spaces.map fun s => (.should, .term .space (.text s))) = true := by
  induction spaces with
  | nil => rfl
  | cons s rest ih => simp [Criterion.allRequired, ih]

theorem holds_spacesCriterion (d : Document) (spaces : List String) :
    (spacesCriterion spaces).holds (.ofDocument d) = decide (d.space ∈ spaces) := by
  have hmust : Criterion.hasMust
      (spaces.map fun s => (Occurrence.should, Criterion.term .space (.text s))) = false := by
    simp [Criterion.hasMust]
  rw [spacesCriterion, Criterion.holds, allRequired_spaces, someOptional_spaces, hmust,
    Bool.true_and, Bool.false_or]
  simp only [holds_term_space]
  rw [Bool.eq_iff_iff]
  simp only [List.any_eq_true, decide_eq_true_eq]
  constructor
  · rintro ⟨s, hs, rfl⟩
    exact hs
  · exact fun h => ⟨d.space, h, rfl⟩

/-- What a search selects: by its text, in its spaces, in its scope, and trashed only if asked. -/
theorem holds_confined_iff (q : BackendQuery) (c : Criterion) (d : Document) :
    (Criterion.combine ((.must, c) :: scopeClauses q)).holds (.ofDocument d) = true ↔
      c.holds (.ofDocument d) = true ∧ d.space ∈ q.spaces ∧
        (∀ path, q.pathScope = some path → path ∈ d.ancestors) ∧
        (q.includeTrashed = false → d.trashed = false) := by
  have hmust : Criterion.hasMust ((.must, c) :: scopeClauses q) = true := by
    simp [Criterion.hasMust]
  rw [Criterion.holds, hmust, Bool.true_or, Bool.and_true]
  cases hp : q.pathScope <;> cases ht : q.includeTrashed <;>
    simp [scopeClauses, hp, ht, Criterion.allRequired, holds_spacesCriterion,
      holds_term_ancestors, holds_term_trashed]

end ScopedSearch
