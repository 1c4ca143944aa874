import ScopedSearch.Proofs.Index.Identity
import ScopedSearch.Proofs.Search.Reference

/-!
# What a search counts

The total of an answer is the number of all documents that the query selects, whatever page of them
the answer has.  Which documents these are depends on where storage lets the request look, and on
each document alone: on the fields that the text of the request names, on its space and its path,
and on the trash flag unless the request asks for what is trashed.

So two documents that differ in no field that is named are counted alike.  A text can name the trash
flag like any other field, and then even a request for everything tells trashed documents from
others.

## Main results

* `Criterion.holds_congr`: a criterion depends on the fields that it names.
* `Installation.total_of_search`: what the total of an answer counts.
* `Request.selects_setTrashed_iff`: what a request counts in the trash and out of it.
-/

namespace ScopedSearch

namespace Criterion

mutual

/-- The criterion looks at a field. -/
def names (f : Field) : Criterion → Bool
  | .everything => false
  | .term g _ | .phrase g _ _ | .phraseStart g _ _ _ | .range g _ _ | .oneOf g _ => g = f
  | .combine clauses => anyNames f clauses
  | .weighted _ c => c.names f

/-- A clause looks at a field. -/
def anyNames (f : Field) : List (Occurrence × Criterion) → Bool
  | [] => false
  | (_, c) :: rest => c.names f || anyNames f rest

end

variable {x y : Indexed}

mutual

/-- A criterion holds of two documents alike that have the same terms in the fields it names. -/
theorem holds_congr : ∀ (c : Criterion),
    (∀ f, c.names f = true → x.postings f = y.postings f) → c.holds x = c.holds y
  | .everything, _ => rfl
  | .term f t, h => by
    have hoccurrences : x.occurrences f t = y.occurrences f t := by
      rw [Indexed.occurrences, h f (by simp [names]), Indexed.occurrences]
    simp only [holds, hoccurrences]
  | .phrase f ws slop, h => by
    simp only [holds, h f (by simp [names])]
  | .phraseStart f ws place start, h => by
    simp only [holds, h f (by simp [names])]
  | .range f lower upper, h => by
    simp only [holds, h f (by simp [names])]
  | .oneOf f terms, h => by
    simp only [holds, h f (by simp [names])]
  | .combine clauses, h => by
    have hclauses : ∀ f, anyNames f clauses = true → x.postings f = y.postings f :=
      fun f hf => h f (by simpa [names] using hf)
    simp only [holds, allRequired_congr clauses hclauses, someOptional_congr clauses hclauses]
  | .weighted factor c, h => by
    rw [holds_weighted, holds_weighted]
    exact holds_congr c fun f hf => h f (by simpa [names] using hf)

theorem allRequired_congr : ∀ (clauses : List (Occurrence × Criterion)),
    (∀ f, anyNames f clauses = true → x.postings f = y.postings f) →
      allRequired x clauses = allRequired y clauses
  | [], _ => rfl
  | (occurrence, c) :: rest, h => by
    have hc := holds_congr c fun f hf => h f (by simp [anyNames, hf])
    have hrest := allRequired_congr rest fun f hf => h f (by simp [anyNames, hf])
    cases occurrence <;> simp only [allRequired, hc, hrest]

theorem someOptional_congr : ∀ (clauses : List (Occurrence × Criterion)),
    (∀ f, anyNames f clauses = true → x.postings f = y.postings f) →
      someOptional x clauses = someOptional y clauses
  | [], _ => rfl
  | (occurrence, c) :: rest, h => by
    have hc := holds_congr c fun f hf => h f (by simp [anyNames, hf])
    have hrest := someOptional_congr rest fun f hf => h f (by simp [anyNames, hf])
    cases occurrence <;> simp only [someOptional, hc, hrest]

end

end Criterion

/-- A document has the same terms in the trash and out of it, but for the flag of the trash. -/
theorem Document.postings_setTrashed (d : Document) (b : Bool) {f : Field} (hf : f ≠ .trashed) :
    ({ d with trashed := b } : Document).postings f = d.postings f := by
  cases f <;> first | rfl | exact absurd rfl hf

/-- Where storage lets a request look: in which spaces, and below which path. -/
def Storage.scope (S : Storage) (r : Request) (a : Actor) :
    Except Fault (List String × Option String) := do
  let permitted ← S.listSpaces a
  let spaces := IndexEngine.selectSpaces permitted r.reference
  let base ← IndexEngine.referencedPath S spaces r.reference
  return (spaces, base)

theorem Storage.scope_eq {S : Storage} {r : Request} {a : Actor} {permitted : List String}
    {base : Option String} (hpermitted : S.listSpaces a = .ok permitted)
    (hbase : IndexEngine.referencedPath S (IndexEngine.selectSpaces permitted r.reference)
      r.reference = .ok base) :
    S.scope r a = .ok (IndexEngine.selectSpaces permitted r.reference, base) := by
  rw [scope, hpermitted]
  show (IndexEngine.referencedPath S _ r.reference >>= _) = _
  rw [hbase]
  rfl

namespace Request

/-- The documents that a request selects where it may look. -/
def counted (r : Request) (scope : List String × Option String) (docs : Collection) :
    List Document :=
  docs.toList.filter fun d => (r.toBackend scope.1 scope.2 0).Selects d

/-- The text of a request looks at a field. -/
def namesField (r : Request) (f : Field) : Bool :=
  match textCriterion (Text.trim r.query) with
  | .ok c => c.names f
  | .error _ => false

/-- A text that does not name the flag of the trash is satisfied in the trash and out of it. -/
theorem satisfies_setTrashed {r : Request} (h : r.namesField .trashed = false) (d : Document)
    (b : Bool) :
    ({ d with trashed := b } : Document).satisfies (Text.trim r.query) =
      d.satisfies (Text.trim r.query) := by
  unfold namesField at h
  unfold Document.satisfies
  cases hc : textCriterion (Text.trim r.query) with
  | error fault => rfl
  | ok c =>
    rw [hc] at h
    replace h : c.names .trashed = false := h
    refine Criterion.holds_congr c fun f hf => ?_
    rw [Indexed.postings_ofDocument, Indexed.postings_ofDocument]
    refine Document.postings_setTrashed d b ?_
    rintro rfl
    rw [h] at hf
    cases hf

/--
A request that asks for what is trashed, and whose text does not name the flag of the trash, selects
a document in the trash exactly when it selects it out of it.
-/
theorem selects_setTrashed_iff {r : Request} (htrashed : r.includeTrashed = true)
    (h : r.namesField .trashed = false) {spaces : List String} {base : Option String} {offset : Nat}
    (d : Document) (b : Bool) :
    (r.toBackend spaces base offset).Selects { d with trashed := b } ↔
      (r.toBackend spaces base offset).Selects d := by
  have hsatisfies : ({ d with trashed := b } : Document).satisfies
      (r.toBackend spaces base offset).query =
        d.satisfies (r.toBackend spaces base offset).query := satisfies_setTrashed h d b
  rw [BackendQuery.selects_iff, BackendQuery.selects_iff, hsatisfies]
  refine and_congr_right fun _ => and_congr_right fun _ => and_congr_right fun _ => ?_
  exact ⟨fun _ _ => htrashed, fun _ _ => htrashed⟩

end Request

namespace Installation

variable {σ : Type} (I : Installation σ) {ctx : Context σ} {request : Request} {actor : Actor}
  {s t : σ}

/--
The document of an identity is among those that a search for a request counts, whose number is the
total of every answer to it.
-/
def Counts (s : σ) (request : Request) (actor : Actor) (p : Identity) : Prop :=
  ∃ scope, (I.storage s).scope request actor = .ok scope ∧
    ∃ d ∈ request.counted scope (I.documents s), d.identity = p

variable {I}

/-- The total of an answer is the number of the documents that are counted. -/
theorem total_of_search (hctx : I.Quiet ctx) {response : Response}
    (h : (I.engine.search ctx request actor).perform s = (.ok response, t)) :
    ∃ scope, (I.storage s).scope request actor = .ok scope ∧
      response.total = Int64.ofNat (request.counted scope (I.documents s)).length := by
  obtain ⟨permitted, hpermitted, ⟨hnone, rfl⟩ | ⟨hsome, offset, base, found, hbase, hfound, rfl⟩⟩ :=
    search_listed hctx h
  · have hbase : IndexEngine.referencedPath (I.storage s)
        (IndexEngine.selectSpaces permitted request.reference) request.reference = .ok none := by
      rw [hnone, IndexEngine.referencedPath_eq_none_iff]
      exact .inr Nat.zero_ne_one
    refine ⟨_, Storage.scope_eq hpermitted hbase, ?_⟩
    have hnothing : request.counted
        (IndexEngine.selectSpaces permitted request.reference, none) (I.documents s) = [] := by
      rw [Request.counted, List.filter_eq_nil_iff]
      intro d _ hselects
      have hspace := (of_decide_eq_true hselects).space
      rw [hnone] at hspace
      cases hspace
    rw [hnothing]
    rfl
  · refine ⟨_, Storage.scope_eq hpermitted hbase, ?_⟩
    obtain ⟨ranked, hranked, rfl⟩ := (Collection.search_eq_ok_iff hsome
      (Nat.ne_of_gt (pageLimit_pos request.pageSize))).1 hfound
    have hlength := (Collection.ranked_perm hranked).length_eq
    rw [List.length_map] at hlength
    rw [Request.total_page, hlength]
    refine congrArg (fun docs : List Document => Int64.ofNat docs.length) ?_
    exact List.filter_congr fun d _ => decide_eq_decide.2 (BackendQuery.selects_page
      (q := request.toBackend (IndexEngine.selectSpaces permitted request.reference) base 0))

/-- A known document is counted when it is selected where the request may look. -/
theorem counts_iff {d : Document} (hd : (I.documents s).contents d.key = some d) :
    I.Counts s request actor d.identity ↔ ∃ scope, (I.storage s).scope request actor = .ok scope ∧
      (request.toBackend scope.1 scope.2 0).Selects d := by
  refine exists_congr fun scope => and_congr_right fun _ => ?_
  constructor
  · rintro ⟨e, he, hidentity⟩
    obtain ⟨he, hselects⟩ := List.mem_filter.1 he
    have hkey : e.key = d.key := by
      rw [← Document.key_identity, hidentity, Document.key_identity]
    rw [Collection.mem_toList_iff, hkey, hd, Option.some.injEq] at he
    subst he
    exact of_decide_eq_true hselects
  · intro hselects
    exact ⟨d, List.mem_filter.2 ⟨Collection.mem_toList_iff.2 hd, decide_eq_true hselects⟩, rfl⟩

end Installation

end ScopedSearch
