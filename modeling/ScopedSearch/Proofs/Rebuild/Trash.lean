import ScopedSearch.Proofs.Rebuild.Deletion
import ScopedSearch.Proofs.Rebuild.Revision
import ScopedSearch.Proofs.Search.Counting

/-!
# Into the trash and back

The trash is a flag of a document.  While it is set, rebuilds do not list the item, other items are
written, moved and tagged, and searches are answered; none of this comes near the document, which is
the one before the trash with the flag set.  So taking the flag away brings that one back, whatever
has happened meanwhile.

In the trash the document is kept from every search that does not ask for what is trashed.  One that
asks counts it as before, unless the text of the request is about the flag itself.

## Main results

* `Meanwhile.inTrash`: what is true for as long as the item is in the trash.
* `trash_and_restore`: what searches show meanwhile, and what the restored document is.
* `not_counted_in_trash`: a text about the flag tells the trashed document from the one before.
-/

namespace ScopedSearch

namespace Installation

variable {σ : Type} (I : Installation σ)

/--
An item is in the trash, and of all items other ones come along: rebuilds list them, they are stored
and their documents are changed.  The item itself may be trashed again.  There are searches, and
storage may become another one of those that there are.  Each operation may fail as well.
-/
inductive Meanwhile (world : Storage → Prop) (items : Identity → Prop) (x : Identity) (s : σ) :
    σ → Prop
  | start : Meanwhile world items x s s
  | change {t u} (h : Meanwhile world items x s t) (hfiles : I.files.get u = I.files.get t)
    (hview : I.view.get u = I.view.get t) (hstorage : world (I.storage u)) :
    Meanwhile world items x s u
  | rebuild {t u} {ctx : Context σ} {space : String} {outcome : Except Fault IndexStats}
    (h : Meanwhile world items x s t) (hctx : I.Unobtrusive ctx)
    (hlisted : ∀ rs, (I.storage t).walkSpace space = .ok rs →
      ∀ r ∈ rs, items r.identity ∧ r.identity ≠ x)
    (hrun : (I.engine.toEngine.indexSpace ctx space).perform t = (outcome, u)) :
    Meanwhile world items x s u
  | store {t u} {ctx : Context σ} {d : Document} {outcome : Except Fault Unit}
    (h : Meanwhile world items x s t) (hctx : I.Quiet ctx) (hitem : items d.identity)
    (hne : d.identity ≠ x) (hrun : (I.engine.toEngine.upsertItem ctx d).perform t = (outcome, u)) :
    Meanwhile world items x s u
  | point {t u} {ctx : Context σ} {y : Identity} {p : PointChange} {outcome : Except Fault Unit}
    (h : Meanwhile world items x s t) (hctx : I.Quiet ctx) (hitem : items y) (hne : y ≠ x)
    (hrun : (I.engine.toEngine.carryOut ctx (p.call y.space y.item)).perform t = (outcome, u)) :
    Meanwhile world items x s u
  | trash {t u} {ctx : Context σ} {outcome : Except Fault Unit}
    (h : Meanwhile world items x s t) (hctx : I.Quiet ctx)
    (hrun : (I.engine.toEngine.trashItem ctx x.space x.item).perform t = (outcome, u)) :
    Meanwhile world items x s u
  | search {t u} {ctx : Context σ} {request : Request} {actor : Actor}
    {outcome : Except Fault Response} (h : Meanwhile world items x s t) (hctx : I.Quiet ctx)
    (hrun : (I.engine.toEngine.search ctx request actor).perform t = (outcome, u)) :
    Meanwhile world items x s u

/--
The index holds the document in the trash, and has it as it was but for that; storage is one of
those that there are.
-/
structure InTrash (world : Storage → Prop) (d : Document) (t : σ) : Prop where
  settled : I.Settled t
  stored : world (I.storage t)
  kept : (I.documents t).contents d.key = some { d with trashed := true }

variable {I} {world : Storage → Prop} {ctx : Context σ} {d : Document} {s t u : σ} {c : Collection}

/-- In the trash a document is counted when it is selected with the flag. -/
theorem counts_trashed_iff {request : Request} {actor : Actor}
    (hd : (I.documents s).contents d.key = some { d with trashed := true }) :
    I.Counts s request actor d.identity ↔ ∃ scope, (I.storage s).scope request actor = .ok scope ∧
      (request.toBackend scope.1 scope.2 0).Selects { d with trashed := true } :=
  counts_iff (d := { d with trashed := true }) hd

namespace InTrash

/-- Where the document is left, it is still in the trash. -/
theorem keep (h : I.InTrash world d t) (hu : I.Becomes t u c)
    (hc : c.contents d.key = (I.documents t).contents d.key) : I.InTrash world d u where
  settled := hu.settled
  stored := by
    rw [hu.storage]
    exact h.stored
  kept := by rw [hu.documents, hc, h.kept]

theorem change (h : I.InTrash world d t) (hfiles : I.files.get u = I.files.get t)
    (hview : I.view.get u = I.view.get t) (hstorage : world (I.storage u)) :
    I.InTrash world d u where
  settled := by
    rw [Settled, hfiles, hview]
    exact h.settled
  stored := hstorage
  kept := by
    rw [documents, hview]
    exact h.kept

/-- Rebuilds write nothing that they do not list. -/
theorem rebuild (h : I.InTrash world d t) (hctx : I.Unobtrusive ctx) {space : String}
    (hlisted : ∀ rs, (I.storage t).walkSpace space = .ok rs → ∀ r ∈ rs, r.key ≠ d.key)
    {outcome : Except Fault IndexStats}
    (hrun : (I.engine.indexSpace ctx space).perform t = (outcome, u)) : I.InTrash world d u := by
  obtain ⟨hsettled, hsame⟩ := indexSpace_leaves hctx h.settled hlisted hrun
  have hstorage := storage_of_alone hctx h.settled (IndexEngine.alone_iff.2 hrun)
  exact ⟨hsettled, hstorage ▸ h.stored, hsame.trans h.kept⟩

theorem store (h : I.InTrash world d t) (hctx : I.Quiet ctx) {e : Document} (hkey : e.key ≠ d.key)
    {outcome : Except Fault Unit} (hrun : (I.backend.upsert ctx [e]).perform t = (outcome, u)) :
    I.InTrash world d u := by
  rcases upsert_spec hctx h.settled [e] with ⟨v, hok, hv⟩ | ⟨fault, v, herror, hv⟩
  · cases hok.symm.trans hrun
    exact h.keep hv (Collection.contents_placeAll_of_forall_ne (by simpa using hkey))
  · cases herror.symm.trans hrun
    exact h.keep hv rfl

theorem point (h : I.InTrash world d t) (hctx : I.Quiet ctx) {y : Identity} (hkey : y.key ≠ d.key)
    {p : PointChange} {outcome : Except Fault Unit}
    (hrun : (I.engine.toEngine.carryOut ctx (p.call y.space y.item)).perform t = (outcome, u)) :
    I.InTrash world d u := by
  rcases pointCall_spec hctx h.settled y.space y.item p with ⟨v, hok, hv⟩ | ⟨fault, v, herror, hv⟩
  · cases hok.symm.trans hrun
    refine h.keep hv ?_
    rw [Collection.contents_amend _ _ p.key_apply]
    exact if_neg hkey.symm
  · cases herror.symm.trans hrun
    exact h.keep hv rfl

/-- What is in the trash is not changed by being trashed again. -/
theorem trash (h : I.InTrash world d t) (hctx : I.Quiet ctx) {outcome : Except Fault Unit}
    (hrun : (I.engine.patchIfKnown ctx d.space d.item (.setTrashed true)).perform t =
      (outcome, u)) : I.InTrash world d u := by
  obtain ⟨hsettled, hstorage, hu⟩ := setTrashed_spec hctx h.settled h.kept true hrun
  rcases hu with ⟨-, hu⟩ | ⟨-, hu⟩ <;> exact ⟨hsettled, hstorage ▸ h.stored, hu⟩

theorem search (h : I.InTrash world d t) (hctx : I.Quiet ctx) {request : Request} {actor : Actor}
    {outcome : Except Fault Response}
    (hrun : (I.engine.search ctx request actor).perform t = (outcome, u)) :
    I.InTrash world d u := by
  have hcalm := engine_search_within (I := I) Calm.refl Calm.trans hctx request actor t
  rw [hrun] at hcalm
  exact h.keep (hcalm.becomes h.settled) rfl

end InTrash

/-- The document is in the trash for as long as only other items come along. -/
theorem Meanwhile.inTrash {items : Identity → Prop} (h : I.Meanwhile world items d.identity s t)
    (hkeys : ∀ y, items y → y.key = d.key → y = d.identity) (hs : I.InTrash world d s) :
    I.InTrash world d t := by
  have hother : ∀ y, items y → y ≠ d.identity → y.key ≠ d.key :=
    fun y hy hne hkey => hne (hkeys y hy hkey)
  induction h with
  | start => exact hs
  | change _ hfiles hview hstorage ih => exact ih.change hfiles hview hstorage
  | rebuild _ hctx hlisted hrun ih =>
    refine ih.rebuild hctx (fun rs hrs r hr => ?_) hrun
    obtain ⟨hitem, hne⟩ := hlisted rs hrs r hr
    exact hother _ hitem hne
  | store _ hctx hitem hne hrun ih => exact ih.store hctx (hother _ hitem hne) hrun
  | point _ hctx hitem hne hrun ih => exact ih.point hctx (hother _ hitem hne) hrun
  | trash _ hctx hrun ih => exact ih.trash hctx hrun
  | search _ hctx hrun ih => exact ih.search hctx hrun

/--
A document that is not in the trash is trashed and, after other items have come along, restored.
Meanwhile no search finds it that does not ask for what is trashed.  A search that asks, and that
may look at the same in every storage that there is, counts it as it does right after the trash; it
counts it as it did before the trash if its text does not name the flag.  Restoring succeeds where
the handle can write, and the restored document is the one from before.
-/
theorem trash_and_restore {items : Identity → Prop} (hs : I.Settled s)
    (hworld : world (I.storage s)) (hd : (I.documents s).find? d.key = some d)
    (hlive : d.trashed = false)
    (hkeys : ∀ y, items y → y.key = d.key → y = d.identity) (hctx : I.Quiet ctx)
    (htrash : (I.engine.toEngine.trashItem ctx d.space d.item).perform s = (.ok (), t))
    (h : I.Meanwhile world items d.identity t u) :
    (∀ (ctx : Context σ) (request : Request) actor response v, I.Quiet ctx →
      request.includeTrashed = false →
      (I.engine.toEngine.search ctx request actor).perform u = (.ok response, v) →
      ∀ m ∈ response.hits, ¬ (m.space = d.space ∧ m.item = d.item)) ∧
    (∀ (request : Request) actor, request.includeTrashed = true →
      (∀ S, world S → S.scope request actor = (I.storage s).scope request actor) →
      (I.Counts u request actor d.identity ↔ I.Counts t request actor d.identity) ∧
      (request.namesField .trashed = false →
        (I.Counts u request actor d.identity ↔ I.Counts s request actor d.identity))) ∧
    (∀ (ctx : Context σ) v, I.Quiet ctx →
      (I.engine.toEngine.restoreItem ctx d.space d.item).perform u = (.ok (), v) →
      (I.documents v).find? d.key = some d) ∧
    ∀ ctx : Context σ, I.Holds ctx → I.Ready u →
      ∃ v, (I.engine.toEngine.restoreItem ctx d.space d.item).perform u = (.ok (), v) := by
  obtain ⟨hsettled, hstorage, ⟨-, ht⟩ | ⟨hfailed, -⟩⟩ := setTrashed_spec hctx hs hd true htrash
  swap
  · exact absurd rfl hfailed
  have hu := h.inTrash hkeys ⟨hsettled, hstorage ▸ hworld, ht⟩
  refine ⟨fun ctx request actor response v hquiet hdefault hsearch => ?_,
    fun request actor htrashed hscope => ⟨?_, fun hunnamed => ?_⟩,
    fun ctx v hquiet hrestore => ?_, fun ctx hholds hready => ?_⟩
  · exact not_found_of_trashed hquiet hu.kept rfl hdefault hsearch
  · rw [counts_trashed_iff hu.kept, counts_trashed_iff ht, hscope _ hu.stored, hstorage]
  · rw [counts_trashed_iff hu.kept, counts_iff hd, hscope _ hu.stored]
    exact exists_congr fun scope => and_congr_right fun _ =>
      Request.selects_setTrashed_iff htrashed hunnamed d true
  · obtain ⟨-, -, ⟨-, hv⟩ | ⟨hfailed, -⟩⟩ :=
      setTrashed_spec hquiet hu.settled hu.kept false hrestore
    · rw [← hlive] at hv
      exact hv
    · exact absurd rfl hfailed
  · obtain ⟨v, hrestore, -⟩ := patchIfKnown_ready hholds hready d.space d.item (.setTrashed false)
    exact ⟨v, hrestore⟩

/-! ## A note in the trash -/

/-- The file of the second note, written anew. -/
def secondFile : Resource := { firstFile with item := "2", mtime := 200 }

/-- The index of the notes, with the first one in the trash. -/
def trashedShelf : Shelf :=
  (((Shelf.installation .basic 1).engine.toEngine.trashItem .background "alice" "1").perform
    filedShelf).2

theorem trashItem_filedShelf :
    ((Shelf.installation .basic 1).engine.toEngine.trashItem .background "alice" "1").perform
      filedShelf = (.ok (), trashedShelf) :=
  Op.perform_eq_of_toOption (by decide +kernel)

/-- A search for a word of the notes, in the trash as well. -/
def helloAnywhere : Request := { helloRequest with includeTrashed := true }

/-- A search for what is not in the trash, in the trash as well. -/
def liveAnywhere : Request := { helloAnywhere with query := "trashed:false" }

/--
While the first note is in the trash, its file goes and the second one is written anew; the space is
rebuilt, the second note gets a tag, and there is a search.  The first note is still counted by who
asks for it, and is restored as it was.
-/
theorem trash_and_restore_firstNote :
    ((Shelf.installation .basic 1).engine.toEngine.trashItem .background "alice" "1").perform
        filedShelf = (.ok (), trashedShelf) ∧
    ∃ u v, (Shelf.installation .basic 1).Meanwhile (fun S => ∃ rs, S = aliceStorage rs)
        (·.space = "alice") firstNote.identity trashedShelf u ∧
      (∃ d ∈ u.view.find? secondNote.key, d.mtime = 200 ∧ "blue" ∈ d.tags) ∧
      (Shelf.installation .basic 1).Counts u helloAnywhere alice firstNote.identity ∧
      ((Shelf.installation .basic 1).engine.toEngine.restoreItem .background "alice"
        "1").perform u = (.ok (), v) ∧
      v.view.find? firstNote.key = some firstNote := by
  have hstart : (Shelf.installation .basic 1).Meanwhile (fun S => ∃ rs, S = aliceStorage rs)
      (·.space = "alice") firstNote.identity trashedShelf trashedShelf := .start
  have hgone := hstart.change (u := { trashedShelf with storage := aliceStorage [secondFile] })
    rfl rfl ⟨_, rfl⟩
  have hrebuilt := hgone.rebuild unobtrusive_basic (by rintro _ ⟨⟩; decide)
    (show ((Shelf.installation .basic 1).engine.toEngine.indexSpace .background "alice").perform _ =
      (.ok { scanned := 1, indexed := 1 }, _) from Op.perform_eq_of_toOption (by decide +kernel))
  have htagged := hrebuilt.point (y := secondNote.identity)
    (p := .retag (.add (TagSet.ofList ["blue"]))) quiet_background rfl (by decide)
    (Op.perform_eq_of_toOption (a := ()) (by decide +kernel))
  have hsearched := htagged.search quiet_background
    (show ((Shelf.installation .basic 1).engine.toEngine.search .background liveAnywhere
      alice).perform _ = (_, _) from Prod.mk.eta.symm)
  have hkeys : ∀ y : Identity, y.space = "alice" → y.key = firstNote.key →
      y = firstNote.identity := fun y hy hkey =>
    Identity.eq_of_key_eq (by rw [hy]; decide) (by decide) hkey
  have hsettled : (Shelf.installation .basic 1).Settled filedShelf := rfl
  obtain ⟨-, hcounts, hrestore, -⟩ := trash_and_restore (d := firstNote) hsettled ⟨[firstFile], rfl⟩
    (by decide +kernel) rfl hkeys quiet_background trashItem_filedShelf hsearched
  have hscope : ∀ S, (∃ rs, S = aliceStorage rs) →
      S.scope helloAnywhere alice = filedShelf.storage.scope helloAnywhere alice := by
    rintro _ ⟨rs, rfl⟩
    rfl
  have hnote : ((Shelf.installation .basic 1).documents filedShelf).contents firstNote.key =
      some firstNote := by decide +kernel
  have hbefore : (Shelf.installation .basic 1).Counts filedShelf helloAnywhere alice
      firstNote.identity := (counts_iff hnote).2 ⟨(["alice"], none), rfl, by decide +kernel⟩
  refine ⟨trashItem_filedShelf, _, _, hsearched, by decide +kernel,
    ((hcounts helloAnywhere alice rfl hscope).2 (by decide +kernel)).2 hbefore,
    Op.perform_eq_of_toOption (by decide +kernel), ?_⟩
  exact hrestore .background _ quiet_background (Op.perform_eq_of_toOption (by decide +kernel))

/-- A text about the flag of the trash tells a document in the trash from the one before. -/
theorem not_counted_in_trash :
    filedShelf.view.find? firstNote.key = some firstNote ∧ firstNote.trashed = false ∧
      liveAnywhere.includeTrashed = true ∧
      (Shelf.installation .basic 1).Counts filedShelf liveAnywhere alice firstNote.identity ∧
      ((Shelf.installation .basic 1).engine.toEngine.trashItem .background "alice" "1").perform
        filedShelf = (.ok (), trashedShelf) ∧
      ¬ (Shelf.installation .basic 1).Counts trashedShelf liveAnywhere alice
        firstNote.identity := by
  have hbefore : ((Shelf.installation .basic 1).documents filedShelf).contents firstNote.key =
      some firstNote := by decide +kernel
  have hafter : ((Shelf.installation .basic 1).documents trashedShelf).contents firstNote.key =
      some { firstNote with trashed := true } := by decide +kernel
  refine ⟨hbefore, rfl, rfl, (counts_iff hbefore).2 ⟨(["alice"], none), rfl, by decide +kernel⟩,
    trashItem_filedShelf, fun hcounts => ?_⟩
  obtain ⟨_, ⟨⟩, hselects⟩ := (counts_trashed_iff hafter).1 hcounts
  revert hselects
  decide +kernel

end Installation

end ScopedSearch
