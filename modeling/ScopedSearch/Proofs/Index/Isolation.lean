import ScopedSearch.Proofs.Index.Answers
import ScopedSearch.Proofs.Index.Identity
import ScopedSearch.Proofs.Index.Installation

/-!
# One identity beside another

Writing the document of one identity should leave every other identity alone: what is looked up
under it, how it counts, and which searches find it.  That is so for identities whose keys differ,
in every state that an embedded index can reach.  Identities of one key are not kept apart: the
index takes a document of the one for that of the other.

Which documents a search finds is meant here, not their scores.  A score tells how well a document
answers beside all others of the index, so it may move with every write.

## Main results

* `sameFor_of_contents_eq`: what an index shows of an identity depends on one key.
* `isolated_of_key_ne`, `not_isolated_of_key_eq`: the two directions.
* `isolated_iff`: which identities are isolated.
-/

namespace ScopedSearch

namespace Installation

variable {σ : Type} (I : Installation σ)

/-- The states that an index can reach: from nothing, by writes, and by steps that leave it be. -/
inductive Reachable : σ → Prop
  | empty {s : σ} (h : I.IsEmpty s) : Reachable s
  | upsert {s : σ} {ctx : Context σ} (h : Reachable s) (hctx : I.Quiet ctx)
      (docs : List Document) : Reachable ((I.backend.upsert ctx docs).perform s).2
  | patch {s : σ} {ctx : Context σ} (h : Reachable s) (hctx : I.Quiet ctx) (p : Identity)
      (change : Patch) : Reachable ((I.backend.patch ctx p.space p.item change).perform s).2
  | calm {s t : σ} (h : Reachable s) (hcalm : I.Calm s t) : Reachable t

/-- How many documents of an identity the index counts. -/
def stored (s : σ) (p : Identity) : Nat :=
  ((I.documents s).toList.filter fun d => d.identity = p).length

/-- The document is a hit of the query, on some page. -/
def Finds (s : σ) (query : BackendQuery) (d : Document) : Prop :=
  ∃ offset limit found t,
    (I.backend.search .background { query with offset := offset, limit := limit }).perform s =
      (.ok found, t) ∧ d ∈ found.hits.map (·.1)

/-- Two states show the same of an identity. -/
structure SameFor (p : Identity) (s t : σ) : Prop where
  got : ((I.backend.get .background p.space p.item).perform t).1 =
    ((I.backend.get .background p.space p.item).perform s).1
  counted : I.stored t p = I.stored s p
  found : ∀ query d, d.identity = p → (I.Finds t query d ↔ I.Finds s query d)

/-- Writing documents of `p` leaves `q` alone, and looking `p` up finds no document of `q`. -/
structure Isolated (p q : Identity) : Prop where
  upsert : ∀ s ctx docs, I.Reachable s → I.Quiet ctx → (∀ d ∈ docs, d.identity = p) →
    I.SameFor q s ((I.backend.upsert ctx docs).perform s).2
  patch : ∀ s ctx change, I.Reachable s → I.Quiet ctx →
    I.SameFor q s ((I.backend.patch ctx p.space p.item change).perform s).2
  get : ∀ s ctx d t, I.Reachable s → I.Quiet ctx →
    (I.backend.get ctx p.space p.item).perform s = (.ok (some d), t) → d.identity ≠ q

variable {I} {s t : σ} {ctx : Context σ} {p q : Identity}

/-- In a state that is reached, the handle sees what the files hold. -/
theorem Reachable.settled (h : I.Reachable s) : I.Settled s := by
  induction h with
  | empty h => exact h.settled
  | upsert _ hctx docs ih =>
    rcases upsert_spec hctx ih docs with ⟨t, hrun, h⟩ | ⟨e, t, hrun, h⟩ <;>
      · rw [hrun]
        exact h.settled
  | patch _ hctx p change ih =>
    rcases patch_spec hctx ih p.space p.item change with ⟨t, hrun, h⟩ | ⟨e, t, hrun, h⟩ <;>
      · rw [hrun]
        exact h.settled
  | calm _ hcalm ih => exact (hcalm.becomes ih).settled

/-- A query finds the documents that it selects. -/
theorem finds_iff {query : BackendQuery} {d : Document} :
    I.Finds s query d ↔ d ∈ (I.documents s).toList ∧ query.Selects d := by
  constructor
  · rintro ⟨offset, limit, found, t, hsearch, hd⟩
    obtain ⟨hmem, hselects⟩ := Collection.of_mem_hits (search_ok quiet_background hsearch).2 hd
    exact ⟨hmem, BackendQuery.selects_page.1 hselects⟩
  · rintro ⟨hmem, hselects⟩
    obtain ⟨limit, found, hfound, hd⟩ := Collection.exists_mem_hits hmem hselects
    refine ⟨0, limit, found, s, ?_, hd⟩
    rw [search_of_check rfl, hfound]
    rfl

/-- An index counts the document under the key of an identity, if it is of that identity. -/
theorem stored_eq (p : Identity) :
    I.stored s p =
      (((I.documents s).contents p.key).filter fun d => d.identity = p).toList.length := by
  have hnodup : ∀ o : Option Document, o.toList.Nodup := by
    rintro (_ | d)
    · exact List.nodup_nil
    · exact List.pairwise_singleton _ d
  refine List.Perm.length_eq ((List.perm_ext_iff_of_nodup
    ((I.documents s).nodup_toList.filter _) (hnodup _)).2 fun d => ?_)
  rw [List.mem_filter, decide_eq_true_iff, Option.mem_toList, Option.filter_eq_some_iff,
    decide_eq_true_iff, Collection.mem_toList_iff]
  refine and_congr_left fun hidentity => ?_
  rw [← hidentity, Document.key_identity]

/-- What an index shows of an identity depends on what stands under its key. -/
theorem sameFor_of_contents_eq
    (h : (I.documents t).contents p.key = (I.documents s).contents p.key) : I.SameFor p s t where
  got := by
    rw [get_of_check rfl, get_of_check rfl]
    exact congrArg Except.ok h
  counted := by rw [stored_eq, stored_eq, h]
  found query d hd := by
    have hkey : d.key = p.key := by rw [← hd, Document.key_identity]
    rw [finds_iff, finds_iff, Collection.mem_toList_iff, Collection.mem_toList_iff, hkey, h]

/-! ## Writing beside an identity -/

/-- Documents of one identity leave what stands under other keys. -/
theorem contents_placeAll_of_ne {c : Collection} {docs : List Document} (hkey : p.key ≠ q.key)
    (hdocs : ∀ d ∈ docs, d.identity = p) : (c.placeAll docs).contents q.key = c.contents q.key := by
  rw [Collection.contents_placeAll]
  refine Contents.writeAll_of_ne (fun d hd => ?_) c.contents
  rw [← Document.key_identity, hdocs d hd]
  exact Ne.symm hkey

/-- A patch of one identity leaves what stands under other keys. -/
theorem contents_patch_of_ne {c : Collection} {change : Patch} (hkey : p.key ≠ q.key) :
    (c.patch p.key change).contents q.key = c.contents q.key := by
  unfold Collection.patch
  cases hfind : c.find? p.key with
  | none => rfl
  | some d =>
    have hd : q.key ≠ (change.apply d).key := by
      rw [Patch.key_apply, Collection.find?_key hfind]
      exact Ne.symm hkey
    show (c.place (change.apply d)).contents q.key = _
    rw [Collection.contents_place, Contents.write_of_ne _ hd]

/-- Identities whose keys differ are isolated. -/
theorem isolated_of_key_ne (hkey : p.key ≠ q.key) : I.Isolated p q where
  upsert s ctx docs hs hctx hdocs := by
    apply sameFor_of_contents_eq
    rcases upsert_spec hctx hs.settled docs with ⟨t, hrun, h⟩ | ⟨e, t, hrun, h⟩
    · rw [hrun, h.documents]
      exact contents_placeAll_of_ne hkey hdocs
    · rw [hrun, h.documents]
  patch s ctx change hs hctx := by
    apply sameFor_of_contents_eq
    rcases patch_spec hctx hs.settled p.space p.item change with ⟨t, hrun, h⟩ | ⟨e, t, hrun, h⟩
    · rw [hrun, h.documents]
      exact contents_patch_of_ne hkey
    · rw [hrun, h.documents]
  get s ctx d t _ hctx hget := by
    obtain ⟨u, _, hfound | ⟨e, hfailed⟩⟩ := get_spec hctx p.space p.item s
    · rw [hget, Prod.mk.injEq, Except.ok.injEq] at hfound
      have hkeyd : d.key = p.key := Collection.find?_key hfound.1.symm
      rintro rfl
      exact hkey (hkeyd.symm.trans d.key_identity.symm)
    · rw [hget] at hfailed
      cases hfailed

/-- The document of an identity, with nothing else in it. -/
def bareDocument (p : Identity) : Document where
  space := p.space
  item := p.item
  path := "/"
  name := ""
  mimeType := ""
  size := 0
  mtime := 0

/-- Two identities of one key are not isolated: the one is found under the other. -/
theorem not_isolated_of_key_eq {s : σ} (hempty : I.IsEmpty s)
    (hheap : Embedded.smallestHeap ≤ I.heap) (hkey : p.key = q.key) : ¬ I.Isolated p q := by
  intro h
  obtain ⟨t, hrun, ht⟩ := upsert_of_isEmpty hempty hheap [bareDocument q]
  have hreach : I.Reachable t := by
    have hwritten := Reachable.upsert (.empty hempty) quiet_background [bareDocument q]
    rwa [hrun] at hwritten
  have hfound : (I.documents t).find? (documentKey p.space p.item) = some (bareDocument q) := by
    rw [ht.documents, ← Identity.key, hkey]
    exact Collection.find?_place_self ∅ (bareDocument q)
  refine h.get t .background (bareDocument q) t hreach quiet_background ?_ rfl
  rw [get_of_check rfl, hfound]

/-- Identities are isolated exactly when neither reads as the other. -/
theorem isolated_iff {s : σ} (hempty : I.IsEmpty s) (hheap : Embedded.smallestHeap ≤ I.heap)
    (hne : p ≠ q) : I.Isolated p q ↔ ¬ p.ReadsAs q ∧ ¬ q.ReadsAs p := by
  rw [← not_or]
  constructor
  · intro h hreads
    exact not_isolated_of_key_eq hempty hheap (Identity.key_eq_iff.2 (.inr hreads)) h
  · intro h
    refine isolated_of_key_ne fun hkey => ?_
    rcases Identity.key_eq_iff.1 hkey with heq | hreads
    · exact hne heq
    · exact h hreads

/-- Two items of one number in two spaces are isolated. -/
theorem isolated_across_spaces :
    (Shelf.installation .basic 1).Isolated ⟨"alice", "1"⟩ ⟨"bob", "1"⟩ :=
  (isolated_iff (s := { storage := default }) ⟨rfl, rfl⟩ (by decide) (by decide)).2
    ⟨Identity.not_readsAs (by decide), Identity.not_readsAs (by decide)⟩

/-- Two items whose identities are written `a!b!c` are not isolated. -/
theorem not_isolated_across_mark :
    ¬ (Shelf.installation .basic 1).Isolated ⟨"a!b", "c"⟩ ⟨"a", "b!c"⟩ :=
  not_isolated_of_key_eq (s := { storage := default }) ⟨rfl, rfl⟩ (by decide) (by decide)

end Installation

end ScopedSearch
