import ScopedSearch.Proofs.Rebuild.Run
import ScopedSearch.Proofs.Rebuild.Upkeep

/-!
# What an index can have come to

Rebuilds and events bring an index from one state to the next while storage changes beside it, and
any of them may fail halfway.  Patches touch paths, flags and tags, and rebuilds take texts over
from documents that are there, so a document may be made of several resources at different times.
What stays true of it is where its text is from: some storage has listed a resource of its item, and
as long as the document is not degraded, it has the modification time, the size and the text of that
resource.  This is the invariant that lets a rebuild trust the texts that it finds.

## Main results

* `History.sound`: the invariant holds in every state of a history.
* `keepsText`: where an item stays of its kind, a rebuild keeps no text but that of the resource.
-/

namespace ScopedSearch

variable {σ : Type} {texts : Texts} {world : Storage → Prop} {r : Resource} {d : Document}

/-! ## Where a document is from -/

/-- Some storage lists the resource. -/
def Resource.ListedIn (world : Storage → Prop) (r : Resource) : Prop :=
  ∃ storage, world storage ∧ storage.Lists r

/-- Resources with different identities have different keys. -/
def KeysApart (world : Storage → Prop) : Prop :=
  ∀ r r' : Resource, r.ListedIn world → r'.ListedIn world → r.key = r'.key →
    r.identity = r'.identity

/-- The item is not a file in one listing and a directory in another, of the same time and size. -/
def Resource.KeepsKind (world : Storage → Prop) (r : Resource) : Prop :=
  ∀ r' : Resource, r'.ListedIn world → r'.identity = r.identity → r'.mtime = r.mtime →
    r'.size = r.size → r'.isDir = r.isDir

namespace Document

/--
The document is of an item that has been listed.  Unless extraction has given up on it, it has the
modification time, the size and the text of a resource of that item.
-/
def MadeIn (texts : Texts) (world : Storage → Prop) (d : Document) : Prop :=
  ∃ r : Resource, r.ListedIn world ∧ d.identity = r.identity ∧
    (d.degraded = false → d.mtime = r.mtime ∧ d.size = r.size ∧ r.text? texts = some d.content)

/-- A document that differs only in other fields is of the same item and has the same text. -/
theorem MadeIn.congr {e : Document} (h : d.MadeIn texts world) (hidentity : e.identity = d.identity)
    (hdegraded : e.degraded = d.degraded) (hmtime : e.mtime = d.mtime) (hsize : e.size = d.size)
    (hcontent : e.content = d.content) : e.MadeIn texts world := by
  obtain ⟨r, hr, hd, htext⟩ := h
  refine ⟨r, hr, hidentity.trans hd, ?_⟩
  rw [hdegraded, hmtime, hsize, hcontent]
  exact htext

theorem MadeIn.change (p : PointChange) (h : d.MadeIn texts world) :
    (p.apply d).MadeIn texts world := by
  cases p <;> exact h.congr rfl rfl rfl rfl rfl

theorem madeIn_fresh (hr : r.ListedIn world) : (r.fresh texts).MadeIn texts world := by
  refine ⟨r, hr, rfl, fun hdegraded => ⟨rfl, rfl, ?_⟩⟩
  exact Resource.text?_of_content_eq (d := r.fresh texts) rfl rfl hdegraded

/-- A text that is reused is still the text of a listed resource. -/
theorem MadeIn.reuse (h : d.MadeIn texts world) (hd : d.identity = r.identity)
    (hreusable : d.isReusableFor r = true) : (r.toDocument d.content).MadeIn texts world := by
  obtain ⟨hdegraded, _, hmtime, hsize⟩ := isReusableFor_iff.1 hreusable
  exact h.congr hd.symm hdegraded.symm hmtime.symm hsize.symm rfl

/-- What a rebuild writes of a listed resource is made of listed resources. -/
theorem madeIn_of_revise {old : Option Document} (hr : r.ListedIn world)
    (hold : ∀ e ∈ old, e.MadeIn texts world ∧ e.identity = r.identity)
    (h : r.revise texts old = .write d) : d.MadeIn texts world := by
  unfold Resource.revise at h
  split at h
  · cases h
  · cases h
    cases old with
    | none => exact madeIn_fresh hr
    | some e =>
      obtain ⟨hmade, hidentity⟩ := hold e rfl
      simp only [Resource.revised]
      split
      · exact hmade
      · split
        · next hreusable => exact hmade.reuse hidentity hreusable
        · exact madeIn_fresh hr

/-- Where an item stays of its kind, a rebuild keeps no text but that of the resource. -/
theorem MadeIn.keepsText (h : d.MadeIn texts world) (hd : d.identity = r.identity)
    (hkind : r.KeepsKind world) : d.KeepsText texts r := by
  obtain ⟨r', hr', hidentity, htext⟩ := h
  intro hkept
  have hsame : d.degraded = false ∧ d.mtime = r.mtime ∧ d.size = r.size := by
    rcases hkept with hcurrent | hreusable
    · obtain ⟨_, hdegraded, hmtime, _, _, hsize⟩ := isCurrentFor_iff.1 hcurrent
      exact ⟨hdegraded, hmtime, hsize⟩
    · obtain ⟨hdegraded, _, hmtime, hsize⟩ := isReusableFor_iff.1 hreusable
      exact ⟨hdegraded, hmtime, hsize⟩
  obtain ⟨hmtime, hsize, hcontent⟩ := htext hsame.1
  have hidentity' : r'.identity = r.identity := hidentity.symm.trans hd
  have hmtime' : r'.mtime = r.mtime := hmtime.symm.trans hsame.2.1
  have hsize' : r'.size = r.size := hsize.symm.trans hsame.2.2
  have hdir : r'.isDir = r.isDir := hkind r' hr' hidentity' hmtime' hsize'
  rw [← hcontent, Resource.text?, Resource.text?, hdir, hidentity', hmtime', hsize']

end Document

namespace Installation

variable {I : Installation σ} {ctx : Context σ} {s t : σ}

/-! ## The invariant -/

/-- What stands under the key of a listed resource is of the same item. -/
theorem Sound.of_contents (hs : I.Sound world (·.MadeIn texts world) s) (hkeys : KeysApart world)
    (hr : r.ListedIn world) (hd : (I.documents s).contents r.key = some d) :
    d.MadeIn texts world ∧ d.identity = r.identity := by
  have hkey : d.key = r.key := Collection.key_of_contents hd
  have hmade : d.MadeIn texts world := hs.under_key hd
  obtain ⟨r', hr', hidentity, _⟩ := id hmade
  refine ⟨hmade, ?_⟩
  have hsame : r'.key = r.key := by
    rw [← hkey, ← Document.key_identity, hidentity]
    rfl
  rw [hidentity]
  exact hkeys r' r hr' hr hsame

/-- As long as storage stays, a listed resource is prepared by documents of listed resources. -/
theorem prepare_safe {rs : List Resource} {S : Storage} (hkeys : KeysApart world)
    (hctx : I.Reads texts ctx S rs) (hr : r ∈ rs) (hlisted : r.ListedIn world)
    (hS : world S) (hs : I.Sound (· = S) (·.MadeIn texts world) s) :
    I.Safe (· = S) (·.MadeIn texts world) (I.engine.prepare ctx r) s fun prepared _ =>
      ∀ d, prepared = .write d → d.MadeIn texts world := by
  have hsound : I.Sound world (·.MadeIn texts world) s := by
    refine hs.mono ?_ fun _ hd => hd
    rw [hs.stored]
    exact hS
  obtain ⟨t, hcalm, hok | ⟨e, herror⟩⟩ := prepare_spec hctx hs.stored hr
  · refine Safe.of_ok hok (hs.calm hcalm) fun d hd => ?_
    exact Document.madeIn_of_revise hlisted (fun e he => hsound.of_contents hkeys hlisted he) hd
  · exact Safe.of_error herror (hs.calm hcalm)

/-- A rebuild keeps the invariant, also when it fails. -/
theorem rebuild_safe (hkeys : KeysApart world) (hctx : I.Orderly texts world ctx)
    (hs : I.Sound world (·.MadeIn texts world) s) (space : String) :
    I.Safe world (·.MadeIn texts world) (I.engine.indexSpace ctx space) s fun _ _ => True := by
  refine indexSpace_safe rfl hctx.quiet hs space fun t rs _ hwalk ht => ?_
  have hlists : ∀ r ∈ rs, (I.storage t).Lists r := fun r hr => ⟨space, rs, hwalk, hr⟩
  have hreads := hctx.reads ht.stored hlists
  -- storage stays while the listing is gone through
  have hnow : I.Sound (· = I.storage t) (·.MadeIn texts world) t := ht.mono rfl fun _ hd => hd
  refine Safe.mono (steps_safe rfl hctx.quiet hnow ?_ fun r v hprepares hv => ?_) ?_
  · exact fun d hd => by cases hd
  · have hr := hprepares.mem
    exact prepare_safe hkeys hreads hr ⟨_, ht.stored, hlists r hr⟩ ht.stored hv
  · rintro S rfl
    exact ht.stored

/-- An event keeps the invariant, whatever calls of it fail. -/
theorem carryOutAll_safe (hkeys : KeysApart world) (hctx : I.Orderly texts world ctx)
    (hs : I.Sound world (·.MadeIn texts world) s) (calls : List EngineCall) :
    I.Safe world (·.MadeIn texts world) (I.engine.toEngine.carryOutAll ctx calls) s
      fun _ _ => True := by
  induction calls generalizing s with
  | nil => exact Safe.of_pure hs trivial
  | cons call rest ih =>
    have hcall := carryOut_safe rfl hctx.quiet hs (fun p _ => Document.MadeIn.change p) call
      fun space _ => rebuild_safe hkeys hctx hs space
    refine Safe.bind hcall.outcome fun _ t ht _ => ?_
    exact Safe.bind (ih ht) fun _ _ hu _ => Safe.of_pure hu trivial

/-! ## Histories -/

/--
The states that an index can come to.  It starts out empty; rebuilds are run and events handled,
with any outcome; and storage changes in between.
-/
inductive History (I : Installation σ) (texts : Texts) (world : Storage → Prop) : σ → Prop
  | empty {s : σ} (h : I.IsEmpty s) (hworld : world (I.storage s)) : History I texts world s
  | change {s t : σ} (h : History I texts world s) (hfiles : I.files.get t = I.files.get s)
      (hview : I.view.get t = I.view.get s) (hworld : world (I.storage t)) :
      History I texts world t
  | rebuild {s : σ} {ctx : Context σ} (h : History I texts world s)
      (hctx : I.Orderly texts world ctx) (space : String) :
      History I texts world ((I.engine.indexSpace ctx space).perform s).2
  | handle {s : σ} {ctx : Context σ} (h : History I texts world s)
      (hctx : I.Orderly texts world ctx) (options : ReindexOptions) (event : Event) :
      History I texts world ((I.engine.toEngine.handle options ctx event).perform s).2

/-- In every state of a history, all documents are made of listed resources. -/
theorem History.sound (hkeys : KeysApart world) (h : I.History texts world s) :
    I.Sound world (·.MadeIn texts world) s := by
  induction h with
  | empty h hworld => exact h.sound hworld
  | change _ hfiles hview hworld ih =>
    refine ⟨?_, hworld, ?_⟩
    · rw [Settled, hfiles, hview]
      exact ih.settled
    · rw [documents, hview]
      exact ih.holds
  | rebuild _ hctx space ih => exact (rebuild_safe hkeys hctx ih space _ _ rfl).1
  | handle _ hctx options event ih =>
    exact (carryOutAll_safe hkeys hctx ih (plan options event) _ _ rfl).1

end Installation

end ScopedSearch
