import ScopedSearch.Index.Embedded

/-!
# The answers of an index

The answers to a query are one ranked list, and a page is a slice of it.  Which documents are in the
list is decided document by document: the query text, the spaces, the scope and the trash flag are
clauses that all must hold.  The rank of an answer depends on the whole index, its place in the list
does not.

## Main results

* `answers_perm`: the answers are the documents that the criterion selects.
* `search_eq_ok_iff`: when a search of a collection succeeds, and with what.
* `ranked_perm`: the ranked list of a query holds the documents that the query selects.
* `of_mem_hits`, `exists_mem_hits`: which documents are hits, on some page.
-/

namespace ScopedSearch

/--
The document satisfies a query: every document does when the query is blank, and none does when it
cannot be read.
-/
def Document.satisfies (query : String) (d : Document) : Bool :=
  match textCriterion query with
  | .ok c => c.holds (.ofDocument d)
  | .error _ => false

theorem textCriterion_of_blank {query : String} (h : Text.trim query = "") :
    textCriterion query = .ok .everything := if_pos h

/-- A query that some document satisfies can be read. -/
theorem Document.exists_textCriterion {query : String} {d : Document}
    (h : d.satisfies query = true) : ∃ c, textCriterion query = .ok c := by
  cases hc : textCriterion query with
  | ok c => exact ⟨c, rfl⟩
  | error fault => simp [satisfies, hc] at h

/-- The document is an answer to a query of a backend. -/
structure BackendQuery.Selects (q : BackendQuery) (d : Document) : Prop where
  satisfies : d.satisfies q.query = true
  space : d.space ∈ q.spaces
  below : ∀ path ∈ q.pathScope, path ∈ d.ancestors
  live : d.trashed = true → q.includeTrashed = true

theorem BackendQuery.selects_iff {q : BackendQuery} {d : Document} :
    q.Selects d ↔ d.satisfies q.query = true ∧ d.space ∈ q.spaces ∧
      (∀ path ∈ q.pathScope, path ∈ d.ancestors) ∧
      (d.trashed = true → q.includeTrashed = true) :=
  ⟨fun h => ⟨h.satisfies, h.space, h.below, h.live⟩, fun ⟨h₁, h₂, h₃, h₄⟩ => ⟨h₁, h₂, h₃, h₄⟩⟩

instance (q : BackendQuery) (d : Document) : Decidable (q.Selects d) :=
  decidable_of_iff _ BackendQuery.selects_iff.symm

/-- Which documents a query selects does not depend on the page. -/
theorem BackendQuery.selects_page {q : BackendQuery} {offset limit : Nat} {d : Document} :
    ({ q with offset := offset, limit := limit } : BackendQuery).Selects d ↔ q.Selects d :=
  ⟨fun h => ⟨h.satisfies, h.space, h.below, h.live⟩,
    fun h => ⟨h.satisfies, h.space, h.below, h.live⟩⟩

/-- The criterion of a query holds of the documents that the query selects. -/
theorem BackendQuery.holds_criterion {q : BackendQuery} {c : Criterion} (h : q.criterion = .ok c)
    (d : Document) : c.holds (.ofDocument d) = decide (q.Selects d) := by
  cases htext : textCriterion q.query with
  | error fault => simp [criterion, htext, Except.map] at h
  | ok text =>
    have hc : c = .combine ((.must, text) :: scopeClauses q) := by
      simpa [criterion, htext, Except.map] using h.symm
    rw [Bool.eq_iff_iff, decide_eq_true_iff, BackendQuery.selects_iff, hc, holds_confined_iff,
      Document.satisfies, htext]
    cases q.includeTrashed <;> simp

namespace Collection

/-- The answers are the documents that the criterion selects, each once. -/
theorem answers_perm (docs : Collection) (c : Criterion) :
    ((docs.answers c).map (·.1)).Perm (docs.toList.filter fun d => c.holds (.ofDocument d)) := by
  have hfst : ∀ (xs : List Document) (st : Statistics),
      (((xs.map Indexed.ofDocument).filter c.holds).map
        fun x => (x.document, c.score st 1 x)).map (·.1) =
        xs.filter fun d => c.holds (.ofDocument d) := by
    intro xs st
    rw [List.map_map, List.filter_map, List.map_map]
    exact List.map_id _
  unfold answers
  rw [← hfst]
  exact (rank_perm _).map _

/-- The ranked list of all answers to a query, of which a search returns one page. -/
def ranked (docs : Collection) (q : BackendQuery) : Except QueryTextFault (List Scored) :=
  q.criterion.map docs.answers

/-- A query that can be read has a ranked list. -/
theorem exists_ranked (docs : Collection) {q : BackendQuery} {c : Criterion}
    (h : textCriterion q.query = .ok c) : ∃ ranked, docs.ranked q = .ok ranked := by
  refine ⟨docs.answers (.combine ((.must, c) :: scopeClauses q)), ?_⟩
  rw [ranked, BackendQuery.criterion, h]
  rfl

/-- A search returns the slice of the ranked list that its page is, and the length of the list. -/
theorem search_eq_ok_iff {docs : Collection} {q : BackendQuery} (hspaces : q.spaces ≠ [])
    (hlimit : q.limit ≠ 0) {found : Hits} :
    docs.search q = .ok found ↔ ∃ ranked, docs.ranked q = .ok ranked ∧
      found = ⟨(ranked.drop q.offset).take q.limit, UInt64.ofNat ranked.length⟩ := by
  have hnonempty : (q.spaces.isEmpty || decide (q.limit = 0)) = false := by
    simp [List.isEmpty_eq_false_iff, hspaces, hlimit]
  unfold search ranked
  rw [hnonempty]
  cases hc : q.criterion with
  | error fault => simp [Except.map, bind, Except.bind]
  | ok c =>
    simp only [Except.map, bind, Except.bind, pure, Except.pure, Except.ok.injEq, if_false,
      Bool.false_eq_true, exists_eq_left']
    exact eq_comm

/-- The ranked list of a query holds the documents that the query selects, each once. -/
theorem ranked_perm {docs : Collection} {q : BackendQuery} {ranked : List Scored}
    (h : docs.ranked q = .ok ranked) :
    (ranked.map (·.1)).Perm (docs.toList.filter fun d => q.Selects d) := by
  unfold Collection.ranked at h
  cases hc : q.criterion with
  | error fault => simp [hc, Except.map] at h
  | ok c =>
    have hranked : ranked = docs.answers c := by
      simpa [hc, Except.map] using h.symm
    have hselects : (fun d => c.holds (.ofDocument d)) = fun d => decide (q.Selects d) :=
      funext fun d => BackendQuery.holds_criterion hc d
    rw [hranked, ← hselects]
    exact answers_perm docs c

theorem mem_ranked_iff {docs : Collection} {q : BackendQuery} {ranked : List Scored}
    (h : docs.ranked q = .ok ranked) {d : Document} :
    d ∈ ranked.map (·.1) ↔ d ∈ docs.toList ∧ q.Selects d := by
  rw [(ranked_perm h).mem_iff, List.mem_filter, decide_eq_true_iff]

/-- A hit is a document of the collection that the query selects. -/
theorem of_mem_hits {docs : Collection} {q : BackendQuery} {found : Hits}
    (h : docs.search q = .ok found) {d : Document} (hd : d ∈ found.hits.map (·.1)) :
    d ∈ docs.toList ∧ q.Selects d := by
  by_cases hnone : (q.spaces.isEmpty || decide (q.limit = 0)) = true
  · rw [Collection.search, if_pos hnone] at h
    cases h
    cases hd
  · rw [Bool.or_eq_true, decide_eq_true_iff, List.isEmpty_iff, not_or] at hnone
    obtain ⟨ranked, hranked, rfl⟩ := (search_eq_ok_iff hnone.1 hnone.2).1 h
    obtain ⟨hit, hhit, rfl⟩ := List.mem_map.1 hd
    exact (mem_ranked_iff hranked).1
      (List.mem_map_of_mem (List.mem_of_mem_drop (List.mem_of_mem_take hhit)))

/-- A document that the query selects is a hit on a page that is long enough. -/
theorem exists_mem_hits {docs : Collection} {q : BackendQuery} {d : Document}
    (hd : d ∈ docs.toList) (hselects : q.Selects d) :
    ∃ limit found, docs.search { q with offset := 0, limit := limit } = .ok found ∧
      d ∈ found.hits.map (·.1) := by
  obtain ⟨c, hc⟩ := Document.exists_textCriterion hselects.satisfies
  obtain ⟨ranked, hranked⟩ := exists_ranked docs hc
  have hmem : d ∈ ranked.map (·.1) := (mem_ranked_iff hranked).2 ⟨hd, hselects⟩
  have hlength : ranked.length ≠ 0 := by
    rw [← List.length_map (·.1)]
    exact Nat.ne_of_gt (List.length_pos_of_mem hmem)
  have hfound := (search_eq_ok_iff (q := { q with offset := 0, limit := ranked.length })
    (List.ne_nil_of_mem hselects.space) hlength).2 ⟨ranked, hranked, rfl⟩
  refine ⟨ranked.length, _, hfound, ?_⟩
  show d ∈ ((ranked.drop 0).take ranked.length).map (·.1)
  rwa [List.drop_zero, List.take_length]

end Collection

end ScopedSearch
