import ScopedSearch.Index.Phrase
import ScopedSearch.Json.Value

/-!
# Criteria

What an index selects documents by.  Whether a document is selected depends on that document
alone; how well it answers depends on the whole index and is told apart in the ranking.

## Main results

* `holds_combine_nil`: no clause selects nothing.
* `holds_weighted`: a weight does not change what is selected.
-/

namespace ScopedSearch

/-- How a clause takes part in a combination. -/
inductive Occurrence
  | must
  | should
  | mustNot
  deriving DecidableEq, Repr

/-- One end of a range. -/
inductive Bound (α : Type)
  | including (a : α)
  | excluding (a : α)
  | unbounded
  deriving DecidableEq, Repr

/-- What documents are selected by. -/
inductive Criterion
  | everything
  | term (field : Field) (t : Term)
  /-- Words at their distances from the start of the phrase. -/
  | phrase (field : Field) (words : List (Nat × String)) (slop : Nat)
  /-- A phrase and behind it a word of which only the beginning is given. -/
  | phraseStart (field : Field) (words : List (Nat × String)) (place : Nat) (start : String)
  | range (field : Field) (lower upper : Bound Term)
  | oneOf (field : Field) (terms : List Term)
  | combine (clauses : List (Occurrence × Criterion))
  /-- Counts so many times as much. -/
  | weighted (factor : Decimal) (c : Criterion)
  deriving Repr, Inhabited

/-- A document and its terms in the fields that are cut into words. -/
structure Indexed where
  document : Document
  name : List Posting
  content : List Posting
  tags : List Posting

namespace Indexed

/-- Cuts the texts of a document into words. -/
def ofDocument (d : Document) : Indexed where
  document := d
  name := d.postings .name
  content := d.postings .content
  tags := d.postings .tags

/-- The terms of a field. -/
def postings (x : Indexed) (f : Field) : List Posting :=
  match f with
  | .name => x.name
  | .content => x.content
  | .tags => x.tags
  | f => x.document.postings f

@[simp] theorem postings_ofDocument (d : Document) (f : Field) :
    (ofDocument d).postings f = d.postings f := by cases f <;> rfl

/-- How often a term stands in a field. -/
def occurrences (x : Indexed) (f : Field) (t : Term) : Nat :=
  ((x.postings f).filter (·.term = t)).length

end Indexed

/-- The term lies above a lower end. -/
def Bound.isBelow : Bound Term → Term → Bool
  | .including a, t => !t.less a
  | .excluding a, t => a.less t
  | .unbounded, _ => true

/-- The term lies below an upper end. -/
def Bound.isAbove : Bound Term → Term → Bool
  | .including a, t => !a.less t
  | .excluding a, t => t.less a
  | .unbounded, _ => true

namespace Criterion

/-- One of the clauses has to hold. -/
def hasMust (clauses : List (Occurrence × Criterion)) : Bool := clauses.any (·.1 = .must)

mutual

/--
The document is selected.  Of a combination all clauses that must hold do, none that must not
does, and where none must hold, one that should does.
-/
def holds (x : Indexed) : Criterion → Bool
  | .everything => true
  | .term f t => 0 < x.occurrences f t
  | .phrase f ws slop => 0 < Phrase.count (x.postings f) ws slop
  | .phraseStart f ws place start => Phrase.startsAfter (x.postings f) ws place start
  | .range f lower upper =>
    (x.postings f).any fun p => lower.isBelow p.term && upper.isAbove p.term
  | .oneOf f terms => (x.postings f).any fun p => terms.contains p.term
  | .combine clauses =>
    allRequired x clauses && (hasMust clauses || someOptional x clauses)
  | .weighted _ c => c.holds x

/-- All clauses that must hold do, and none that must not. -/
def allRequired (x : Indexed) : List (Occurrence × Criterion) → Bool
  | [] => true
  | (.must, c) :: rest => c.holds x && allRequired x rest
  | (.mustNot, c) :: rest => !c.holds x && allRequired x rest
  | (.should, _) :: rest => allRequired x rest

/-- A clause that should hold does. -/
def someOptional (x : Indexed) : List (Occurrence × Criterion) → Bool
  | [] => false
  | (.should, c) :: rest => c.holds x || someOptional x rest
  | (.must, _) :: rest | (.mustNot, _) :: rest => someOptional x rest

end

@[simp] theorem holds_combine_nil (x : Indexed) : (combine []).holds x = false := rfl

@[simp] theorem holds_weighted (x : Indexed) (factor : Decimal) (c : Criterion) :
    (weighted factor c).holds x = c.holds x := by rw [holds]

end Criterion

end ScopedSearch
