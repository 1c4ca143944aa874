import ScopedSearch.Proofs.Cluster.Sorting
import ScopedSearch.Proofs.Index.Isolation
import ScopedSearch.Proofs.Index.KeyOrder

/-!
# Ties

Answers of one score have to stand in some order that is the same on every page.  It is the order of
their keys, byte by byte, in the embedded index and in a cluster, which is asked for it.  Keys know
identities only as one text, so it is the order of identities where no identity overtakes another.

## Main results

* `pairwise_hits`: the hits of a search, two by two.
* `answers_of_equal_scores`: answers that all score alike.
* `ties_by_key`: how two hits of one score stand.
-/

namespace ScopedSearch

open Text (ComesFirst)

namespace Collection

variable {docs : Collection} {c : Criterion} {q : BackendQuery} {found : Hits}

/-- The answers have keys of their own. -/
theorem nodup_answers_key (docs : Collection) (c : Criterion) :
    ((docs.answers c).map fun a => a.1.key).Nodup := by
  have hkeys : (docs.toList.map Document.key).Nodup :=
    List.pairwise_map.2 (docs.sorted.imp fun {_ _} hlt => Std.ne_of_lt hlt)
  have hperm := (docs.answers_perm c).map Document.key
  rw [List.map_map] at hperm
  exact hperm.nodup_iff.2 (hkeys.sublist (List.filter_sublist.map _))

/-- Each answer stands before those behind it by its score, or by its key among equals. -/
theorem pairwise_answers (docs : Collection) (c : Criterion) :
    (docs.answers c).Pairwise fun a b => Scored.precedes a b ∧ a.1.key ≠ b.1.key :=
  (pairwise_rank _).and (List.pairwise_map.1 (nodup_answers_key docs c))

theorem pairwise_hits (h : docs.search q = .ok found) :
    found.hits.Pairwise fun a b => Scored.precedes a b ∧ a.1.key ≠ b.1.key := by
  unfold search at h
  split at h
  · cases h
    exact List.Pairwise.nil
  · cases hc : q.criterion with
    | error fault =>
      rw [hc] at h
      cases h
    | ok c =>
      rw [hc] at h
      cases h
      exact ((docs.pairwise_answers c).drop).take

/-- How well a document of the collection answers. -/
def scoreOf (docs : Collection) (c : Criterion) (d : Document) : Score :=
  c.score (.gather (docs.toList.map .ofDocument) c.terms) 1 (.ofDocument d)

/-- Answers that all score alike are the selected documents, as the collection has them. -/
theorem answers_of_equal_scores {x : Score}
    (h : ∀ d ∈ docs.toList, docs.scoreOf c d = x) :
    docs.answers c = (docs.toList.filter fun d => c.holds (.ofDocument d)).map (·, x) := by
  have hsorted : ((docs.toList.filter fun d => c.holds (.ofDocument d)).map (·, x)).Pairwise
      fun a b => Scored.precedes a b := by
    refine List.pairwise_map.2 ((docs.sorted.filter _).imp fun {d e} hlt => ?_)
    simp [Scored.precedes, Std.le_of_lt hlt]
  rw [← List.mergeSort_of_pairwise hsorted, answers, rank, List.filter_map, List.map_map]
  refine congrArg (List.mergeSort · Scored.precedes) (List.map_congr_left fun d hd => ?_)
  exact Prod.ext rfl (h d (List.mem_filter.1 hd).1)

end Collection

/-- What stands before an answer of the same score has the lesser key. -/
theorem Scored.comesFirst_of_precedes {a b : Scored} (h : a.precedes b)
    (hkey : a.1.key ≠ b.1.key) (hscore : a.2.toBits = b.2.toBits) :
    ComesFirst a.1.key b.1.key := by
  rcases (precedes_iff hkey).1 h with hlt | ⟨-, hfirst⟩
  · exact absurd (hscore ▸ hlt) (UInt32.lt_irrefl _)
  · exact hfirst

namespace Installation

variable {σ : Type} {I : Installation σ}

/--
Hits of one score stand in the order of their keys, and a cluster is asked for this order.  Of two
documents it puts the one first whose identity is before the other, unless the other overtakes.
-/
theorem ties_by_key {ctx : Context σ} {q : BackendQuery} {found : Hits} {s t : σ}
    (h : (I.backend.search ctx q).perform s = (.ok found, t)) :
    (found.hits.Pairwise fun a b =>
      a.2.toBits = b.2.toBits → ComesFirst a.1.key b.1.key) ∧
    (∀ a b : Scored, a.2.toBits = b.2.toBits →
      (q.body.sortOrder? a.kept b.kept = some .lt ↔ ComesFirst a.1.key b.1.key)) ∧
    ∀ p p' : Identity, p.key ≠ p'.key →
      (ComesFirst p.key p'.key ↔ p.Overtakes p' ∨ p.Before p' ∧ ¬ p'.Overtakes p) := by
  refine ⟨?_, fun a b hscore => ?_, fun p p' => Identity.comesFirst_key_iff⟩
  · refine (Collection.pairwise_hits (documents_search h)).imp fun {a b} hab hscore => ?_
    exact Scored.comesFirst_of_precedes hab.1 hab.2 hscore
  · simp [BackendQuery.sortOrder?_body_eq_lt_iff, hscore]

/-- Two items of one number in two spaces, with nothing else to tell them apart. -/
def twins (space space' : String) : Shelf :=
  let docs := (∅ : Collection).placeAll [bareDocument ⟨space, "1"⟩, bareDocument ⟨space', "1"⟩]
  { files := { documents := docs }, view := docs, storage := default }

/-- A query for all that is in two spaces. -/
def inBoth (space space' : String) : BackendQuery := { spaces := [space, space'], limit := 10 }

/-- All that a query for two spaces selects by. -/
def inBothCriterion (space space' : String) : Criterion :=
  .combine ((.must, .everything) :: scopeClauses (inBoth space space'))

/-- Where the two items score alike, a search finds them in the order that the index has them in. -/
theorem search_twins {d e : Document} {x : Score} (space space' : String)
    (hdocs : (twins space space').view.toList = [d, e])
    (hd : (twins space space').view.scoreOf (inBothCriterion space space') d = x)
    (he : (twins space space').view.scoreOf (inBothCriterion space space') e = x)
    (hholds : [d, e].filter (fun d => (inBothCriterion space space').holds (.ofDocument d)) =
      [d, e]) :
    ((Shelf.installation .basic 1).backend.search .background (inBoth space space')).perform
      (twins space space') = (.ok ⟨[(d, x), (e, x)], 2⟩, twins space space') := by
  have hanswers : (twins space space').view.answers (inBothCriterion space space') =
      [(d, x), (e, x)] := by
    rw [Collection.answers_of_equal_scores (x := x), hdocs, hholds]
    · rfl
    · rw [hdocs]
      simp [hd, he]
  have hsearch : (twins space space').view.search (inBoth space space') =
      .ok ⟨[(d, x), (e, x)], 2⟩ := by
    have hcriterion : (inBoth space space').criterion = .ok (inBothCriterion space space') := rfl
    rw [Collection.search, hcriterion]
    show Except.ok (Hits.mk _ _) = _
    rw [hanswers]
    rfl
  have hdocuments : (Shelf.installation .basic 1).documents (twins space space') =
      (twins space space').view := rfl
  rw [search_of_check rfl, hdocuments, mapError_eq_ok_iff.2 hsearch]

/-- Two hits in two ordinary spaces stand in the order of their spaces. -/
theorem ties_by_key_team : ∃ found t,
    ((Shelf.installation .basic 1).backend.search .background (inBoth "team" "team-b")).perform
      (twins "team" "team-b") = (.ok found, t) ∧
    ∃ a b : Scored, found.hits = [a, b] ∧ a.2 = b.2 ∧
      a.1.identity = ⟨"team", "1"⟩ ∧ b.1.identity = ⟨"team-b", "1"⟩ ∧
      ComesFirst a.1.key b.1.key ∧
      (inBoth "team" "team-b").body.sortOrder? a.kept b.kept = some .lt ∧
      (a.1.identity.Overtakes b.1.identity ∨
        a.1.identity.Before b.1.identity ∧ ¬ b.1.identity.Overtakes a.1.identity) := by
  have hsearch := search_twins (d := bareDocument ⟨"team", "1"⟩)
    (e := bareDocument ⟨"team-b", "1"⟩) "team" "team-b" (by decide +kernel) rfl (by rfl)
    (by decide +kernel)
  obtain ⟨hpairs, hsort, hidentities⟩ := ties_by_key hsearch
  have hfirst := List.rel_of_pairwise_cons hpairs List.mem_cons_self rfl
  exact ⟨_, _, hsearch, _, _, rfl, rfl, rfl, rfl, hfirst, (hsort _ _ (by rfl)).2 hfirst,
    (hidentities ⟨"team", "1"⟩ ⟨"team-b", "1"⟩ hfirst.ne).1 hfirst⟩

/-- A space that goes on with a blank overtakes the one without it, in the index and in a cluster. -/
theorem blank_overtakes : ∃ found t,
    ((Shelf.installation .basic 1).backend.search .background (inBoth "a" "a ")).perform
      (twins "a" "a ") = (.ok found, t) ∧
    (∃ a b : Scored, found.hits = [a, b] ∧ a.2 = b.2 ∧
      a.1.identity = ⟨"a ", "1"⟩ ∧ b.1.identity = ⟨"a", "1"⟩ ∧
      (inBoth "a" "a ").body.sortOrder? a.kept b.kept = some .lt) ∧
    Identity.Before ⟨"a", "1"⟩ ⟨"a ", "1"⟩ ∧ ¬ Identity.Before ⟨"a ", "1"⟩ ⟨"a", "1"⟩ := by
  have hsearch := search_twins (d := bareDocument ⟨"a ", "1"⟩) (e := bareDocument ⟨"a", "1"⟩)
    "a" "a " (by decide +kernel) rfl (by rfl) (by decide +kernel)
  refine ⟨_, _, hsearch, ⟨_, _, rfl, rfl, rfl, rfl, ?_⟩, by decide +kernel, by decide +kernel⟩
  rw [BackendQuery.sortOrder?_body_eq_lt_iff]
  exact .inr ⟨rfl, by decide +kernel⟩

end Installation

end ScopedSearch
