import ScopedSearch.Proofs.Cluster.Documents
import ScopedSearch.Proofs.Index.Patching

/-!
# Patching in a cluster

A cluster is not asked to patch a document.  It is sent the fields that the patch gives anew, and
puts each of them in the place of the field of its name.  What it keeps afterwards is what is kept
of the patched document: the name and the paths above it follow the path, and the key stays.

So the three ways of patching agree.  In place, by reading and storing, or field by field, a row of
patches leaves the document that they make of it one after the other.

## Main results

* `update_source_body`: one patch, field by field.
* `foldl_update_source`: a row of patches.
* `Installation.patching_agrees`: the three ways of patching.
-/

namespace ScopedSearch

namespace Json

/-- The fields with a value under a name, in the place of the value that was there. -/
def putField (name : String) (value : Json) : List (String × Json) → List (String × Json)
  | [] => [(name, value)]
  | (k, v) :: fields =>
    if k = name then (k, value) :: fields else (k, v) :: putField name value fields

/-- The record with the fields of another one put into it. -/
def merge : Json → Json → Json
  | .record fields, .record changes =>
    .record (changes.foldl (fun fields (name, value) => putField name value fields) fields)
  | v, _ => v

/-- What is kept after a partial update: the fields of its `doc` are put into the record. -/
def update (kept body : Json) : Json :=
  match body.field? "doc" with
  | some changes => kept.merge changes
  | none => kept

end Json

/-- A patch, field by field, makes of what is kept of a document what is kept of the patched one. -/
theorem Patch.update_source_body (p : Patch) (d : Document) :
    d.source.update p.body = (p.apply d).source := by
  cases p <;> rfl

/-- Patches, field by field, make what is kept of the document with all of them applied. -/
theorem Patch.foldl_update_source (ps : List Patch) (d : Document) :
    (ps.map body).foldl Json.update d.source = (applyAll ps d).source := by
  induction ps generalizing d with
  | nil => rfl
  | cons p ps ih =>
    rw [List.map_cons, List.foldl_cons, update_source_body, ih]
    rfl

namespace Installation

variable {σ : Type} {I : Installation σ} {s : σ} {ctx : Context σ}

/--
The ways of patching agree on every row of patches.  Patching in place and by reading and storing
report whether there is a document, each time the same, and leave the same index, with the patched
document in it; where the context holds and the handle can write, both succeed.  Field by field,
what a cluster keeps of a document becomes what it keeps of the patched document, and that is what a
reader finds there, without its content if that is left out.
-/
theorem patching_agrees (hctx : I.Quiet ctx) (hs : I.Settled s) (ps : List Patch) :
    (∀ space item flags flags' t t',
      (Backend.patchAll I.backend.patch ctx space item ps).perform s = (.ok flags, t) →
      (Backend.patchAll (Backend.patchByUpsert I.backend.upsert I.backend.get) ctx space item
        ps).perform s = (.ok flags', t') →
      flags = flags' ∧
        flags = List.replicate ps.length
          ((I.documents s).find? (documentKey space item)).isSome ∧
        I.documents t = I.documents t' ∧
        (I.documents t).find? (documentKey space item) =
          ((I.documents s).find? (documentKey space item)).map (Patch.applyAll ps)) ∧
    (I.Holds ctx → I.Ready s → ∀ space item, ∃ flags flags' t t',
      (Backend.patchAll I.backend.patch ctx space item ps).perform s = (.ok flags, t) ∧
      (Backend.patchAll (Backend.patchByUpsert I.backend.upsert I.backend.get) ctx space item
        ps).perform s = (.ok flags', t')) ∧
    ∀ d : Document,
      (ps.map Patch.body).foldl Json.update d.source = (Patch.applyAll ps d).source ∧
      Document.ofJson? ((ps.map Patch.body).foldl Json.update d.source) =
        some (Patch.applyAll ps d) ∧
      Document.ofJson? (((ps.map Patch.body).foldl Json.update d.source).without "content") =
        some { Patch.applyAll ps d with content := "" } := by
  refine ⟨?_, ?_, ?_⟩
  · intro space item flags flags' t t' hrun hrun'
    obtain ⟨hflags, ht⟩ := patches_backend.patchAll_spec hctx hs space item hrun
    obtain ⟨hflags', ht'⟩ := patches_patchByUpsert.patchAll_spec hctx hs space item hrun'
    refine ⟨hflags.trans hflags'.symm, hflags, ht.documents.trans ht'.documents.symm, ?_⟩
    rw [ht.documents, Collection.find?_patchAll]
  · intro hholds hready space item
    obtain ⟨flags, t, hrun⟩ := patches_backend.patchAll_ready hholds hready space item ps
    obtain ⟨flags', t', hrun'⟩ :=
      patches_patchByUpsert.patchAll_ready hholds hready space item ps
    exact ⟨flags, flags', t, t', hrun, hrun'⟩
  · intro d
    rw [Patch.foldl_update_source]
    exact ⟨rfl, Document.ofJson?_source _, Document.ofJson?_source_without_content _⟩

/-- The report is moved and put into the trash. -/
def reportPatches : List Patch := [.relocate "drafts/./report.txt/", .setTrashed true]

/-- The report, stored in an empty index, is moved and put into the trash in each of the ways. -/
theorem patching_draftReport : ∃ s t t',
    let I := Shelf.installation .basic 1
    let moved : Document := { draftReport with path := "/drafts/report.txt", trashed := true }
    (I.backend.upsert .background [draftReport]).perform { storage := default } = (.ok (), s) ∧
      (Backend.patchAll I.backend.patch .background "alice" "1" reportPatches).perform s =
        (.ok [true, true], t) ∧
      (Backend.patchAll (Backend.patchByUpsert I.backend.upsert I.backend.get) .background
        "alice" "1" reportPatches).perform s = (.ok [true, true], t') ∧
      I.documents t = I.documents t' ∧
      (I.documents t).find? (documentKey "alice" "1") = some moved ∧
      Document.ofJson? ((reportPatches.map Patch.body).foldl Json.update draftReport.source) =
        some moved := by
  have hempty : (Shelf.installation .basic 1).IsEmpty { storage := default } := ⟨rfl, rfl⟩
  obtain ⟨s, hstored, hready, hs⟩ :=
    upsert_ready quiet_background rfl (hempty.ready (by decide)) [draftReport]
  have hfound : ((Shelf.installation .basic 1).documents s).find? (documentKey "alice" "1") =
      some draftReport := by
    rw [hs.documents]
    rfl
  have hpatched : Patch.applyAll reportPatches draftReport =
      { draftReport with path := "/drafts/report.txt", trashed := true } := by decide +kernel
  obtain ⟨hagree, hrun, hcluster⟩ :=
    patching_agrees quiet_background hs.settled reportPatches
  obtain ⟨flags, flags', t, t', h, h'⟩ := hrun holds_background hready "alice" "1"
  obtain ⟨hsame, hflags, hdocuments, hleft⟩ := hagree "alice" "1" flags flags' t t' h h'
  rw [hfound] at hflags hleft
  subst hsame
  subst hflags
  refine ⟨s, t, t', hstored, h, h', hdocuments, ?_, ?_⟩
  · rw [hleft, Option.map_some, hpatched]
  · rw [(hcluster draftReport).2.1, hpatched]

end Installation

end ScopedSearch
