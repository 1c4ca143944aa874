import ScopedSearch.Proofs.Index.Replies

/-!
# Two ways of patching

A backend may patch a document in place, or leave it to reading, changing and storing.  The embedded
index does the first, and both come to the same: what they report is whether there is a document,
and what they leave is the collection with the document patched.  Only their failures differ, since
reading and storing ask twice whether the caller still waits.

`Installation.Patches` is what an operation has to do to be a way of patching.  What a row of
patches does is proved from it once, for both.

## Main results

* `patches_backend`, `patches_patchByUpsert`: both are ways of patching.
* `Patches.patchAll_spec`, `Patches.patchAll_ready`: what a row of patches reports and leaves.
-/

namespace ScopedSearch

/-- The document after patches, one after the other. -/
def Patch.applyAll (ps : List Patch) (d : Document) : Document := ps.foldl (fun d p => p.apply d) d

@[simp] theorem Patch.applyAll_nil (d : Document) : applyAll [] d = d := rfl

@[simp] theorem Patch.applyAll_cons (p : Patch) (ps : List Patch) (d : Document) :
    applyAll (p :: ps) d = applyAll ps (p.apply d) := rfl

namespace Collection

/-- The collection after patches of the document under a key. -/
def patchAll (c : Collection) (key : String) (ps : List Patch) : Collection :=
  ps.foldl (fun c p => c.patch key p) c

@[simp] theorem patchAll_nil (c : Collection) (key : String) : c.patchAll key [] = c := rfl

@[simp] theorem patchAll_cons (c : Collection) (key : String) (p : Patch) (ps : List Patch) :
    c.patchAll key (p :: ps) = (c.patch key p).patchAll key ps := rfl

/-- Under the key of a patch stands the patched document. -/
theorem find?_patch (c : Collection) (key : String) (p : Patch) :
    (c.patch key p).find? key = (c.find? key).map p.apply := by
  unfold patch
  cases hfind : c.find? key with
  | none => exact hfind
  | some d =>
    have hkey : (p.apply d).key = key := (p.key_apply d).trans (find?_key hfind)
    calc (c.place (p.apply d)).find? key
        = (c.place (p.apply d)).find? (p.apply d).key := by rw [hkey]
      _ = some (p.apply d) := find?_place_self c _

/-- Under the key of patches stands the document with all of them applied. -/
theorem find?_patchAll (c : Collection) (key : String) (ps : List Patch) :
    (c.patchAll key ps).find? key = (c.find? key).map (Patch.applyAll ps) := by
  induction ps generalizing c with
  | nil => cases hfind : c.find? key <;> simp [hfind]
  | cons p ps ih =>
    rw [patchAll_cons, ih, find?_patch, Option.map_map]
    rfl

end Collection

/-- Patches the document of an item, again and again. -/
def Backend.patchAll {σ : Type} (patch : Context σ → String → String → Patch → Op σ Bool)
    (ctx : Context σ) (space item : String) : List Patch → Op σ (List Bool)
  | [] => return []
  | p :: ps => do
    let known ← patch ctx space item p
    let others ← patchAll patch ctx space item ps
    return known :: others

namespace Installation

variable {σ : Type}

/--
A way of patching: it reports whether there is a document and patches it, or fails and leaves the
index, and it succeeds where the context holds and the handle can write.
-/
structure Patches (I : Installation σ)
    (patch : Context σ → String → String → Patch → Op σ Bool) : Prop where
  spec : ∀ {ctx : Context σ} {s : σ} (_ : I.Quiet ctx) (_ : I.Settled s) (space item : String)
    (p : Patch),
    (∃ t, (patch ctx space item p).perform s =
        (.ok ((I.documents s).find? (documentKey space item)).isSome, t) ∧
        I.Becomes s t ((I.documents s).patch (documentKey space item) p)) ∨
      ∃ e t, (patch ctx space item p).perform s = (.error e, t) ∧ I.Becomes s t (I.documents s)
  ready : ∀ {ctx : Context σ} {s : σ} (_ : I.Holds ctx) (_ : I.Ready s) (space item : String)
    (p : Patch),
    ∃ t, (patch ctx space item p).perform s =
        (.ok ((I.documents s).find? (documentKey space item)).isSome, t) ∧ I.Ready t ∧
      I.Becomes s t ((I.documents s).patch (documentKey space item) p)

variable {I : Installation σ} {s t : σ} {ctx : Context σ}
variable {patch : Context σ → String → String → Patch → Op σ Bool}

/-- Patching in place is a way of patching. -/
theorem patches_backend : I.Patches I.backend.patch where
  spec hctx hs space item p := patch_spec hctx hs space item p
  ready {_ s} hctx hs space item p := by
    obtain ⟨t, hcheck, _⟩ := hctx s
    exact patch_ready hctx.quiet hcheck hs space item p

/-- Reading, changing and storing is a way of patching. -/
theorem patches_patchByUpsert :
    I.Patches (Backend.patchByUpsert I.backend.upsert I.backend.get) where
  spec {ctx s} hctx hs space item p := by
    obtain ⟨t, hcalm, hget | ⟨e, hget⟩⟩ := get_spec hctx space item s
    · have hread : I.Becomes s t (I.documents s) := hcalm.becomes hs
      unfold Backend.patchByUpsert Collection.patch
      rw [Op.perform_bind_of_ok hget]
      cases hfind : (I.documents s).find? (documentKey space item) with
      | none => exact .inl ⟨t, rfl, hread⟩
      | some d =>
        obtain ⟨u, hstore, hu⟩ | ⟨e, u, hstore, hu⟩ := upsert_spec hctx hread.settled [p.apply d]
        · rw [hread.documents] at hu
          exact .inl ⟨u, Op.perform_bind_of_ok hstore, hread.trans hu⟩
        · exact .inr ⟨e, u, Op.perform_bind_of_error hstore, hread.keep hu⟩
    · exact .inr ⟨e, t, Op.perform_bind_of_error hget, hcalm.becomes hs⟩
  ready {ctx s} hctx hs space item p := by
    obtain ⟨t, hcheck, hcalm⟩ := hctx s
    have hdocuments : I.documents t = I.documents s := hcalm.view
    have hget := get_of_check (I := I) hcheck space item
    unfold Backend.patchByUpsert Collection.patch
    rw [Op.perform_bind_of_ok hget, hdocuments]
    cases hfind : (I.documents s).find? (documentKey space item) with
    | none => exact ⟨t, rfl, hs.calm hcalm, hcalm.becomes hs.settled⟩
    | some d =>
      obtain ⟨_, hcheck', _⟩ := hctx t
      obtain ⟨u, hstore, hu, hbecomes⟩ :=
        upsert_ready hctx.quiet hcheck' (hs.calm hcalm) [p.apply d]
      rw [hdocuments] at hbecomes
      exact ⟨u, Op.perform_bind_of_ok hstore, hu, (hcalm.becomes hs.settled).trans hbecomes⟩

namespace Patches

/-- A row of patches that succeeds reports the same each time, and leaves the patched document. -/
theorem patchAll_spec (h : I.Patches patch) (hctx : I.Quiet ctx) (hs : I.Settled s)
    (space item : String) {ps : List Patch} {flags : List Bool}
    (hrun : (Backend.patchAll patch ctx space item ps).perform s = (.ok flags, t)) :
    flags = List.replicate ps.length
        ((I.documents s).find? (documentKey space item)).isSome ∧
      I.Becomes s t ((I.documents s).patchAll (documentKey space item) ps) := by
  induction ps generalizing s flags with
  | nil =>
    cases hrun
    exact ⟨rfl, Becomes.refl hs⟩
  | cons p ps ih =>
    obtain ⟨known, u, hfirst, hrest⟩ := Op.perform_bind_eq_ok.1 hrun
    obtain ⟨others, v, hothers, hlast⟩ := Op.perform_bind_eq_ok.1 hrest
    cases hlast
    obtain ⟨u', hrun', hu⟩ | ⟨e, u', hrun', -⟩ := h.spec hctx hs space item p
    · cases hfirst.symm.trans hrun'
      obtain ⟨hflags, hv⟩ := ih hu.settled hothers
      rw [hu.documents] at hflags hv
      rw [Collection.find?_patch, Option.isSome_map] at hflags
      exact ⟨by rw [hflags]; rfl, hu.trans hv⟩
    · cases hfirst.symm.trans hrun'

/-- A row of patches succeeds where the context holds and the handle can write. -/
theorem patchAll_ready (h : I.Patches patch) (hctx : I.Holds ctx) (hs : I.Ready s)
    (space item : String) (ps : List Patch) :
    ∃ flags t, (Backend.patchAll patch ctx space item ps).perform s = (.ok flags, t) := by
  induction ps generalizing s with
  | nil => exact ⟨[], s, rfl⟩
  | cons p ps ih =>
    obtain ⟨t, hfirst, ht, -⟩ := h.ready hctx hs space item p
    obtain ⟨flags, u, hothers⟩ := ih ht
    exact ⟨_ :: flags, u,
      (Op.perform_bind_of_ok hfirst).trans (Op.perform_bind_of_ok hothers)⟩

end Patches

end Installation

end ScopedSearch
