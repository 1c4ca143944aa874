import ScopedSearch.Proofs.Rebuild.History

/-!
# Where rebuilds lead

A rebuild should make an index say what it would say had it been built from storage today, whatever
it has been through.  It does so for all of a document but two things.  Which documents may stay is
decided without a look at name and MIME type, and a move changes the path and the name of a document
but not its MIME type; so where a file has been renamed across types, the document keeps the type of
the old name.

## Main results

* `rebuild_converges_iff`: which documents a rebuild leaves as a rebuild from nothing makes them.
* `not_rebuild_converges_after_move`: a file that has been moved, and is not among them.
-/

namespace ScopedSearch

namespace Installation

variable {σ : Type} {I : Installation σ} {texts : Texts} {world : Storage → Prop}
  {ctx ctx₀ : Context σ} {s s₀ t t₀ : σ} {space : String} {rs : List Resource} {r : Resource}

/-- Listed resources with different items have different keys. -/
theorem nodup_keys (hkeys : KeysApart world) (hlisted : ∀ r ∈ rs, r.ListedIn world)
    (hitems : (rs.map (·.item)).Nodup) : (rs.map Resource.key).Nodup := by
  rw [List.nodup_iff_pairwise_ne, List.pairwise_map] at hitems ⊢
  refine hitems.imp_of_mem fun {a b} ha hb hne hkey => hne ?_
  exact (Identity.mk.inj (hkeys a b (hlisted a ha) (hlisted b hb) hkey)).2

/-- A rebuild revises the document of every listed resource. -/
theorem contents_of_rebuild (hkeys : KeysApart world) (hctx : I.Orderly texts world ctx)
    (hs : I.Sound world (·.MadeIn texts world) s) {stats : IndexStats}
    (hwalk : (I.storage s).walkSpace space = .ok rs) (hitems : (rs.map (·.item)).Nodup)
    (hrun : (I.engine.indexSpace ctx space).perform s = (.ok stats, t)) (hr : r ∈ rs) :
    (I.documents t).contents r.key =
      some (r.revised texts ((I.documents s).contents r.key)) := by
  have hlisted : ∀ r ∈ rs, r.ListedIn world := fun r hr => ⟨_, hs.stored, space, rs, hwalk, hr⟩
  have hnodup := nodup_keys hkeys hlisted hitems
  have hreads := hctx.reads hs.stored fun r hr => ⟨space, rs, hwalk, hr⟩
  rw [(indexSpace_ok hs.settled hwalk hreads hnodup hrun).2]
  exact Contents.reviseAll_apply texts hnodup hr

/-- A rebuild of an empty index makes the document of every listed resource from scratch. -/
theorem contents_of_first_rebuild (hkeys : KeysApart world) (hctx : I.Orderly texts world ctx)
    (hs : I.IsEmpty s) (hworld : world (I.storage s)) {stats : IndexStats}
    (hwalk : (I.storage s).walkSpace space = .ok rs) (hitems : (rs.map (·.item)).Nodup)
    (hrun : (I.engine.indexSpace ctx space).perform s = (.ok stats, t)) (hr : r ∈ rs) :
    (I.documents t).contents r.key = some (r.fresh texts) := by
  rw [contents_of_rebuild hkeys hctx (hs.sound hworld) hwalk hitems hrun hr]
  have hnothing : (I.documents s).contents r.key = none := by
    rw [documents, hs.view]
    rfl
  rw [hnothing]
  rfl

/--
After a history, a rebuild leaves the document of a listed resource as a rebuild of an empty index
makes it exactly when what it keeps of the document before belongs to the resource: the text of a
document that is current or whose text is reused, and the name and the MIME type of a document that
is current.  As long as the item stays a file or stays a directory, the text always belongs to the
resource, and the two documents agree in everything but name and MIME type.
-/
theorem rebuild_converges_iff (hkeys : KeysApart world) (hs : I.History texts world s)
    (hctx : I.Orderly texts world ctx) (hctx₀ : I.Orderly texts world ctx₀)
    (hempty : I.IsEmpty s₀) (hstorage : I.storage s₀ = I.storage s) {stats stats₀ : IndexStats}
    (hwalk : (I.storage s).walkSpace space = .ok rs) (hitems : (rs.map (·.item)).Nodup)
    (hrun : (I.engine.indexSpace ctx space).perform s = (.ok stats, t))
    (hrun₀ : (I.engine.indexSpace ctx₀ space).perform s₀ = (.ok stats₀, t₀)) (hr : r ∈ rs) :
    ∃ d d₀, (I.documents t).contents r.key = some d ∧
      (I.documents t₀).contents r.key = some d₀ ∧
      (d = d₀ ↔ ∀ old, (I.documents s).contents r.key = some old →
        old.KeepsText texts r ∧ old.KeepsLabels r) ∧
      (r.KeepsKind world → d.Agrees d₀ ∧
        (d = d₀ ↔ ∀ old, (I.documents s).contents r.key = some old → old.KeepsLabels r)) := by
  have hsound := hs.sound hkeys
  have hlisted : r.ListedIn world := ⟨_, hsound.stored, space, rs, hwalk, hr⟩
  have hold : ∀ old ∈ (I.documents s).contents r.key, old.identity = r.identity :=
    fun old h => (hsound.of_contents hkeys hlisted h).2
  refine ⟨_, _, contents_of_rebuild hkeys hctx hsound hwalk hitems hrun hr,
    contents_of_first_rebuild hkeys hctx₀ hempty (hstorage ▸ hsound.stored) (hstorage ▸ hwalk)
      hitems hrun₀ hr, Resource.revised_eq_fresh_iff hold, fun hkind => ?_⟩
  have htext : ∀ old ∈ (I.documents s).contents r.key, old.KeepsText texts r :=
    fun old h => (hsound.of_contents hkeys hlisted h).1.keepsText (hold old h) hkind
  refine ⟨Resource.agrees_revised hold htext, ?_⟩
  rw [Resource.revised_eq_fresh_iff hold]
  exact ⟨fun h old hmem => (h old hmem).2, fun h old hmem => ⟨htext old hmem, h old hmem⟩⟩

/-! ## A file that is moved -/

/-- Storage that has a single resource. -/
def onlyResource (r : Resource) : Storage :=
  { (default : Storage) with walkSpace := fun _ => .ok [r] }

/-- A text file. -/
def textNote : Resource where
  space := "alice"
  item := "42"
  path := "/a.txt"
  name := "a.txt"
  mimeType := "text/plain"
  size := 5
  mtime := 100

/-- The file under another name. -/
def renamedNote : Resource := { textNote with path := "/b.txt", name := "b.txt" }

/-- The file under a name that tells another type. -/
def retypedNote : Resource :=
  { textNote with path := "/a.md", name := "a.md", mimeType := "text/markdown" }

/-- A rebuild of the space of the file. -/
def rebuildNote : Op Shelf IndexStats :=
  (Shelf.installation .basic 1).engine.indexSpace .background "alice"

/-- The index of the file, which has been moved since, with the move handled. -/
def movedTo (r : Resource) : Shelf :=
  let move : Event := { space := "alice", item := "42", change := .itemMoved "/a.txt" r.path }
  let indexed : Shelf := (rebuildNote.perform { storage := onlyResource textNote }).2
  (((Shelf.installation .basic 1).engine.toEngine.handle {} .background move).perform
    { indexed with storage := onlyResource r }).2

/-- Everything that the storage lists is of the item of the file. -/
def OfNote (storage : Storage) : Prop :=
  ∀ r : Resource, storage.Lists r → r.identity = textNote.identity

theorem ofNote_onlyResource (h : r.identity = textNote.identity) : OfNote (onlyResource r) := by
  rintro r' ⟨space, rs, ⟨⟩, hr⟩
  rw [List.mem_singleton.1 hr]
  exact h

theorem keysApart_ofNote : KeysApart OfNote := by
  rintro r r' ⟨_, hr, hlists⟩ ⟨_, hr', hlists'⟩ _
  exact (hr r hlists).trans (hr' r' hlists').symm

theorem orderly_basic :
    (Shelf.installation .basic 1).Orderly (fun _ _ _ => some "") OfNote .background where
  quiet := quiet_background
  extract s _ _ _ _ := ⟨{ content := "" }, s, rfl, Calm.refl s, rfl, rfl⟩

theorem history_movedTo (h : r.identity = textNote.identity) :
    (Shelf.installation .basic 1).History (fun _ _ _ => some "") OfNote (movedTo r) := by
  have hempty : (Shelf.installation .basic 1).History (fun _ _ _ => some "") OfNote
      { storage := onlyResource textNote } := .empty ⟨rfl, rfl⟩ (ofNote_onlyResource rfl)
  have hindexed := hempty.rebuild orderly_basic "alice"
  have hchanged : (Shelf.installation .basic 1).History (fun _ _ _ => some "") OfNote
      { (rebuildNote.perform { storage := onlyResource textNote }).2 with
        storage := onlyResource r } :=
    hindexed.change rfl rfl (ofNote_onlyResource h)
  exact hchanged.handle orderly_basic {} _

/-- Renaming the file leaves the index as if it had had that name from the start. -/
theorem rebuild_converges_after_rename :
    ∃ t t₀ d, rebuildNote.perform (movedTo renamedNote) = (.ok { scanned := 1, skipped := 1 }, t) ∧
      rebuildNote.perform { storage := onlyResource renamedNote } =
        (.ok { scanned := 1, indexed := 1 }, t₀) ∧
      t.view.contents renamedNote.key = some d ∧ t₀.view.contents renamedNote.key = some d := by
  have hrun : rebuildNote.perform (movedTo renamedNote) =
      (.ok { scanned := 1, skipped := 1 }, _) :=
    Op.perform_eq_of_toOption (by decide +kernel)
  have hrun₀ : rebuildNote.perform { storage := onlyResource renamedNote } =
      (.ok { scanned := 1, indexed := 1 }, _) :=
    Op.perform_eq_of_toOption (by decide +kernel)
  have hhistory := history_movedTo (r := renamedNote) rfl
  have hempty : (Shelf.installation .basic 1).IsEmpty { storage := onlyResource renamedNote } :=
    ⟨rfl, rfl⟩
  have hitems : ([renamedNote].map (·.item)).Nodup := by decide
  obtain ⟨d, d₀, hd, hd₀, hiff, _⟩ := rebuild_converges_iff keysApart_ofNote hhistory
    orderly_basic orderly_basic hempty rfl rfl hitems hrun hrun₀
    (List.mem_singleton_self renamedNote)
  have hsame : d = d₀ := by
    have hindexed : ((Shelf.installation .basic 1).documents (movedTo renamedNote)).contents
        renamedNote.key = some (renamedNote.toDocument "") := by decide +kernel
    refine hiff.2 fun old hold => ?_
    rw [hindexed, Option.some.injEq] at hold
    subst hold
    exact ⟨fun _ => rfl, fun _ => ⟨rfl, rfl⟩⟩
  exact ⟨_, _, d, hrun, hrun₀, hd, hsame ▸ hd₀⟩

/--
A file that is moved to a name of another type keeps its old type in the index, where a rebuild of
an empty index from the same storage takes the new one.
-/
theorem not_rebuild_converges_after_move :
    KeysApart OfNote ∧
      (Shelf.installation .basic 1).History (fun _ _ _ => some "") OfNote (movedTo retypedNote) ∧
      ∃ t t₀, rebuildNote.perform (movedTo retypedNote) =
          (.ok { scanned := 1, skipped := 1 }, t) ∧
        rebuildNote.perform { storage := (movedTo retypedNote).storage } =
          (.ok { scanned := 1, indexed := 1 }, t₀) ∧
        (t.view.contents retypedNote.key).map (·.mimeType) = some "text/plain" ∧
        (t₀.view.contents retypedNote.key).map (·.mimeType) = some "text/markdown" := by
  refine ⟨keysApart_ofNote, history_movedTo rfl, _, _,
    Op.perform_eq_of_toOption (by decide +kernel),
    Op.perform_eq_of_toOption (by decide +kernel), ?_, ?_⟩
  · decide +kernel
  · decide +kernel

end Installation

end ScopedSearch
