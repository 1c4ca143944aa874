import ScopedSearch.Cluster.Body
import ScopedSearch.Proofs.Index.Answers
import ScopedSearch.Proofs.Search.Answering
import ScopedSearch.Text.Blank

/-!
# What a query selects in a cluster

A query is put to the embedded index as a combination of criteria and to a cluster as a record.  The
two are made by different code, and they confine a search to the same documents: the filters of the
record hold of what a cluster keeps of a document exactly when the clauses of the combination hold
of the document as it is indexed.

What a filter means is written down here as the cluster documents it.  A `term` holds where the
field has the value, or has it in its list, and `terms` where it has one of the values.  How the
cluster judges the text of a query is a parameter, and it makes no difference to a blank query.

## Main results

* `filtersHold_filters`: the filters and the clauses agree on every document.
* `clause_of_blank`, `clause_of_not_blank`: how the text of a query is passed on.
* `selects_body`: what the record selects.
* `Request.selected_alike`: the index and the cluster select alike.
-/

namespace ScopedSearch

namespace Json

/-- The values are one text or one truth value. -/
def isSame : Json → Json → Bool
  | .text s, .text t => s = t
  | .bool a, .bool b => a = b
  | _, _ => false

/-- The values that a record has under a name: those of a list, or the only one. -/
def valuesAt (name : String) (kept : Json) : List Json :=
  match kept.field? name with
  | some (.list items) => items
  | some v => [v]
  | none => []

/-- The record has the value under the name. -/
def hasValue (kept : Json) (name : String) (value : Json) : Bool :=
  (kept.valuesAt name).any value.isSame

/-- A filter holds of a record. -/
def filterHolds (kept : Json) : Json → Bool
  | .record [(kind, .record [(name, value)])] =>
    if kind = "term" then kept.hasValue name value
    else if kind = "terms" then
      match value with
      | .list values => values.any (kept.hasValue name)
      | _ => false
    else false
  | _ => false

/--
What has to match does match a record.  How the text of a query is judged is up to the cluster.
-/
def clauseHolds (judge : Json → Json → Bool) (kept : Json) : Json → Bool
  | .record [(kind, value)] =>
    if kind = "match_all" then true
    else if kind = "query_string" then judge value kept
    else false
  | _ => false

/-- The record of a query selects what is kept of a document. -/
def selects (judge : Json → Json → Bool) (body kept : Json) : Bool :=
  match body.follow? ["query", "bool", "must"], body.follow? ["query", "bool", "filter"] with
  | some (.list clauses), some (.list filters) =>
    clauses.all (kept.clauseHolds judge) && filters.all kept.filterHolds
  | _, _ => false

@[simp] theorem isSame_text (s t : String) : isSame (.text s) (.text t) = decide (s = t) := rfl

@[simp] theorem isSame_bool (a b : Bool) : isSame (.bool a) (.bool b) = decide (a = b) := rfl

@[simp] theorem filterHolds_term (kept : Json) (name : String) (value : Json) :
    kept.filterHolds (.record [("term", .record [(name, value)])]) = kept.hasValue name value := rfl

@[simp] theorem filterHolds_terms (kept : Json) (name : String) (values : List Json) :
    kept.filterHolds (.record [("terms", .record [(name, .list values)])]) =
      values.any (kept.hasValue name) := rfl

end Json

/-! ## Fields of what is kept -/

namespace Document

theorem hasValue_space (d : Document) (s : String) :
    d.source.hasValue "space_id" (.text s) = decide (d.space = s) := by
  have hvalues : d.source.valuesAt "space_id" = [.text d.space] := rfl
  simp [Json.hasValue, hvalues, eq_comm]

theorem hasValue_ancestors (d : Document) (path : String) :
    d.source.hasValue "path_ancestors" (.text path) = decide (path ∈ d.ancestors) := by
  have hvalues : d.source.valuesAt "path_ancestors" = d.ancestors.map .text := rfl
  rw [Json.hasValue, hvalues, List.any_map, Bool.eq_iff_iff, decide_eq_true_iff, List.any_eq_true]
  simp

theorem hasValue_trashed (d : Document) :
    d.source.hasValue "trashed" (.bool false) = !d.trashed := by
  have hvalues : d.source.valuesAt "trashed" = [.bool d.trashed] := rfl
  cases h : d.trashed <;> simp [Json.hasValue, hvalues, h]

end Document

/-! ## Queries -/

namespace BackendQuery

variable (q : BackendQuery)

theorem follow?_must : q.body.follow? ["query", "bool", "must"] = some (.list [q.clause]) := rfl

theorem follow?_filter : q.body.follow? ["query", "bool", "filter"] = some (.list q.filters) := rfl

/--
The filters hold of what is kept of a document exactly when the clauses beside the text hold of the
document in the index.
-/
theorem filtersHold_filters (d : Document) :
    q.filters.all d.source.filterHolds =
      Criterion.allRequired (.ofDocument d) (scopeClauses q) := by
  have hspaces : ∀ spaces : List String,
      (spaces.map Json.text).any (d.source.hasValue "space_id") = decide (d.space ∈ spaces) := by
    intro spaces
    rw [List.any_map, Bool.eq_iff_iff, List.any_eq_true, decide_eq_true_iff]
    simp [Document.hasValue_space]
  cases hscope : q.pathScope <;> cases htrashed : q.includeTrashed <;>
    simp [filters, scopeClauses, hscope, htrashed, Json.texts, hspaces, Criterion.allRequired,
      holds_spacesCriterion, holds_term_ancestors, holds_term_trashed,
      Document.hasValue_ancestors, Document.hasValue_trashed]

variable {q}

/-- A blank query is put as one that everything matches, to the index and to the cluster. -/
theorem clause_of_blank (h : q.query = "") :
    q.clause = .record [("match_all", .record [])] ∧ textCriterion q.query = .ok .everything :=
  ⟨if_pos h, textCriterion_of_blank (by rw [h]; rfl)⟩

/-- Any other query is put with its text, which the index reads and the cluster judges. -/
theorem clause_of_not_blank (h : q.query ≠ "") (htrim : Text.trim q.query = q.query) :
    q.clause = .record [("query_string", .record [
        ("query", .text q.query), ("fields", .texts ["name", "content", "tags"]),
        ("default_operator", .text "AND")])] ∧
      textCriterion q.query = Criterion.ofText q.query :=
  ⟨if_neg h, if_neg (by rwa [htrim])⟩

/-- The record of a query selects where the text matches and the clauses beside it hold. -/
theorem selects_body (judge : Json → Json → Bool) (d : Document) :
    q.body.selects judge d.source =
      (d.source.clauseHolds judge q.clause &&
        Criterion.allRequired (.ofDocument d) (scopeClauses q)) := by
  rw [Json.selects, follow?_must, follow?_filter, ← filtersHold_filters]
  simp

/-- Where the cluster judges the text of a query as the index does, both select the same. -/
theorem selects_body_of_judged {judge : Json → Json → Bool} {c : Criterion}
    (h : textCriterion q.query = .ok c) {d : Document}
    (hjudge : d.source.clauseHolds judge q.clause = c.holds (.ofDocument d)) :
    q.body.selects judge d.source = decide (q.Selects d) := by
  have hcriterion : q.criterion = .ok (.combine ((.must, c) :: scopeClauses q)) := by
    rw [criterion, h]
    rfl
  have hmust : Criterion.hasMust ((.must, c) :: scopeClauses q) = true := by
    simp [Criterion.hasMust]
  rw [selects_body, hjudge, ← holds_criterion hcriterion, Criterion.holds, hmust, Bool.true_or,
    Bool.and_true, Criterion.allRequired]

/-- A blank query selects in a cluster what it selects in the index, whatever the cluster judges. -/
theorem selects_body_of_blank (h : q.query = "") (judge : Json → Json → Bool) (d : Document) :
    q.body.selects judge d.source = decide (q.Selects d) := by
  obtain ⟨hclause, htext⟩ := clause_of_blank h
  refine selects_body_of_judged htext ?_
  rw [hclause]
  rfl

/-- A page of the index is the slice of its ranked list, also where no space is looked in. -/
theorem search_of_ranked {docs : Collection} {ranked : List Scored} (hlimit : q.limit ≠ 0)
    (h : docs.ranked q = .ok ranked) :
    docs.search q =
      .ok ⟨(ranked.drop q.offset).take q.limit, UInt64.ofNat ranked.length⟩ := by
  by_cases hspaces : q.spaces = []
  · have hnone : ∀ d ∈ docs.toList, ¬ decide (q.Selects d) = true := by
      intro d _ hselects
      have hspace := (of_decide_eq_true hselects).space
      rw [hspaces] at hspace
      cases hspace
    have hperm := Collection.ranked_perm h
    rw [List.filter_eq_nil_iff.2 hnone, List.perm_nil, List.map_eq_nil_iff] at hperm
    rw [Collection.search, if_pos (by simp [hspaces]), hperm]
    simp
  · exact (Collection.search_eq_ok_iff hspaces hlimit).2 ⟨ranked, h, rfl⟩

/-- For a blank query the ranked list of the index holds the documents that the cluster selects. -/
theorem ranked_of_blank (h : q.query = "") (judge : Json → Json → Bool) (docs : Collection) :
    ∃ ranked, docs.ranked q = .ok ranked ∧
      (ranked.map (·.1)).Perm (docs.toList.filter fun d => q.body.selects judge d.source) := by
  obtain ⟨_, htext⟩ := clause_of_blank h
  obtain ⟨ranked, hranked⟩ := docs.exists_ranked htext
  refine ⟨ranked, hranked, ?_⟩
  simp only [selects_body_of_blank h judge]
  exact Collection.ranked_perm hranked

end BackendQuery

/--
What a search asks of its backend confines it alike in the index and in a cluster: the filters of
the record hold of what is kept of a document exactly when the clauses hold of the indexed document.
Everything matches the text in the one exactly when it does in the other, that is for a blank query,
and both are given the same text otherwise.  The page begins at the same place and is of the same
length.  So for a blank query both select the same documents, and as many.
-/
theorem Request.selected_alike (r : Request) (spaces : List String) (base : Option String)
    (offset : Nat) (judge : Json → Json → Bool) :
    let q := r.toBackend spaces base offset
    (∃ filters, q.body.follow? ["query", "bool", "filter"] = some (.list filters) ∧
      ∀ d : Document, filters.all d.source.filterHolds =
        Criterion.allRequired (.ofDocument d) (scopeClauses q)) ∧
    (∃ clause, q.body.follow? ["query", "bool", "must"] = some (.list [clause]) ∧
      (q.query = "" ∧ clause = .record [("match_all", .record [])] ∧
          textCriterion q.query = .ok .everything ∨
        q.query ≠ "" ∧ clause = .record [("query_string", .record [
            ("query", .text q.query), ("fields", .texts ["name", "content", "tags"]),
            ("default_operator", .text "AND")])] ∧
          textCriterion q.query = Criterion.ofText q.query)) ∧
    (q.body.field? "from" = some (.nat q.offset) ∧ q.body.field? "size" = some (.nat q.limit) ∧
      ∀ (docs : Collection) (ranked : List Scored), docs.ranked q = .ok ranked →
        docs.search q =
          .ok ⟨(ranked.drop q.offset).take q.limit, UInt64.ofNat ranked.length⟩) ∧
    (Text.trim r.query = "" → ∀ docs : Collection, ∃ ranked, docs.ranked q = .ok ranked ∧
      (ranked.map (·.1)).Perm (docs.toList.filter fun d => q.body.selects judge d.source) ∧
      ranked.length = (docs.toList.filter fun d => q.body.selects judge d.source).length) := by
  intro q
  have htrim : Text.trim q.query = q.query := Text.trim_trim r.query
  have hlimit : q.limit ≠ 0 := Nat.ne_of_gt (pageLimit_pos r.pageSize)
  refine ⟨⟨q.filters, q.follow?_filter, q.filtersHold_filters⟩, ⟨q.clause, q.follow?_must, ?_⟩,
    ⟨rfl, rfl, fun docs ranked h => BackendQuery.search_of_ranked hlimit h⟩, ?_⟩
  · by_cases hblank : q.query = ""
    · exact .inl ⟨hblank, BackendQuery.clause_of_blank hblank⟩
    · exact .inr ⟨hblank, BackendQuery.clause_of_not_blank hblank htrim⟩
  · intro hblank docs
    obtain ⟨ranked, hranked, hperm⟩ := BackendQuery.ranked_of_blank (q := q) hblank judge docs
    have hlength := hperm.length_eq
    rw [List.length_map] at hlength
    exact ⟨ranked, hranked, hperm, hlength⟩

end ScopedSearch
