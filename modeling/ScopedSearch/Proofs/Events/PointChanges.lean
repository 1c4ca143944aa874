import ScopedSearch.Events.Reindexing
import ScopedSearch.Proofs.Index.Replies

/-!
# Changes of a single document

Of the calls that an event asks for, all but a rebuild change one document and leave the others as
they are.  Each of them does so in its own way: patches are left to the backend, and a change of
tags looks the document up and stores it anew if its tags are others then.  What comes of them is
the same: the document under the key of the item is changed, if there is one.

## Main results

* `PointChange.apply_apply`: a change that is made a second time changes nothing.
* `pointCall_spec`: what a call makes of the index.
* `pointCall_ready`: where it succeeds.
-/

namespace ScopedSearch

/-! ## One document -/

namespace PointChange

/-- The document after a change. -/
def apply : PointChange → Document → Document
  | trash, d => Patch.apply (.setTrashed true) d
  | restore, d => Patch.apply (.setTrashed false) d
  | move path, d => Patch.apply (.relocate path) d
  | retag delta, d => delta.apply d

/-- A change keeps the identity. -/
@[simp] theorem identity_apply (p : PointChange) (d : Document) :
    (p.apply d).identity = d.identity := by
  cases p <;> rfl

/-- A change keeps the key. -/
@[simp] theorem key_apply (p : PointChange) (d : Document) : (p.apply d).key = d.key := by
  rw [← Document.key_identity, identity_apply, Document.key_identity]

/-- A change touches the path and the name, the flag of the trash, and the tags at most. -/
theorem apply_eq (p : PointChange) (d : Document) :
    p.apply d = { d with
      path := (p.apply d).path
      name := (p.apply d).name
      trashed := (p.apply d).trashed
      tags := (p.apply d).tags } := by
  cases p <;> rfl

end PointChange

theorem TagDelta.mem_applyTo_iff {δ : TagDelta} {s : TagSet} {tag : String} :
    tag ∈ δ.applyTo s ↔
      match δ with
      | .add tags => tag ∈ s ∨ tag ∈ tags
      | .remove tags => tag ∈ s ∧ ¬ tag ∈ tags := by
  cases δ with
  | add tags => exact TagSet.mem_union
  | remove tags => exact TagSet.mem_diff

/-- A delta that is applied a second time changes nothing. -/
theorem TagDelta.applyTo_applyTo (δ : TagDelta) (s : TagSet) :
    δ.applyTo (δ.applyTo s) = δ.applyTo s := by
  ext tag
  cases δ with
  | add tags => simp only [TagDelta.mem_applyTo_iff, or_assoc, or_self]
  | remove tags => simp only [TagDelta.mem_applyTo_iff, and_assoc, and_self]

/-- A change that is made a second time changes nothing. -/
theorem PointChange.apply_apply (p : PointChange) (d : Document) :
    p.apply (p.apply d) = p.apply d := by
  cases p with
  | trash => rfl
  | restore => rfl
  | move path => rfl
  | retag delta =>
    show { d with tags := delta.applyTo (delta.applyTo d.tags) } =
      { d with tags := delta.applyTo d.tags }
    rw [TagDelta.applyTo_applyTo]

/-! ## The document under a key -/

/-- What stands under each key after the document under one key has been changed. -/
def Contents.amend (m : Contents) (key : String) (f : Document → Document) : Contents :=
  fun k => if k = key then (m k).map f else m k

/-- Changes the document under a key, if there is one. -/
def Collection.amend (c : Collection) (key : String) (f : Document → Document) : Collection :=
  match c.find? key with
  | none => c
  | some d => c.place (f d)

/-- The document under the key is changed, and all others are left. -/
theorem Collection.contents_amend (c : Collection) (key : String) {f : Document → Document}
    (hf : ∀ d, (f d).key = d.key) : (c.amend key f).contents = c.contents.amend key f := by
  funext k
  unfold Collection.amend Contents.amend
  cases hfind : c.find? key with
  | none =>
    have hold : c.contents key = none := hfind
    by_cases hk : k = key
    · rw [if_pos hk, hk, hold, Option.map_none]
    · rw [if_neg hk]
  | some d =>
    have hold : c.contents key = some d := hfind
    have hd : (f d).key = key := (hf d).trans (find?_key hfind)
    dsimp only
    rw [contents_place]
    by_cases hk : k = key
    · rw [if_pos hk, hk, hold, ← hd, Contents.write_self, Option.map_some]
    · rw [if_neg hk, Contents.write_of_ne _ (hd ▸ hk)]

/-- A change that leaves the document under the key leaves the collection. -/
theorem Collection.amend_eq_self {c : Collection} {key : String} {f : Document → Document}
    (hf : ∀ d, (f d).key = d.key) (h : ∀ d ∈ c.find? key, f d = d) : c.amend key f = c := by
  apply eq_of_contents_eq
  rw [contents_amend c key hf]
  funext k
  unfold Contents.amend
  split
  · next hk =>
    rw [hk, contents]
    cases hfind : c.find? key with
    | none => rfl
    | some d => rw [Option.map_some, h d hfind]
  · rfl

/-- The identity of the item that an event is about. -/
def Event.identity (e : Event) : Identity := ⟨e.space, e.item⟩

/-- What stands under each key after the change of a document that an event asks for, if any. -/
def Contents.follow (m : Contents) (e : Event) : Contents :=
  match e.change.pointChange? with
  | .none => m
  | some p => m.amend e.identity.key p.apply

namespace Contents

/-- What an event does to the document under a key. -/
def changeAt (e : Event) (key : String) : Document → Document :=
  match e.change.pointChange? with
  | .none => id
  | some p => if key = e.identity.key then p.apply else id

theorem follow_eq_map (m : Contents) (e : Event) (key : String) :
    m.follow e key = (m key).map (changeAt e key) := by
  unfold follow changeAt
  cases e.change.pointChange? with
  | none => rw [Option.map_id]; rfl
  | some p =>
    by_cases h : key = e.identity.key
    · simp only [amend, if_pos h]
    · simp only [amend, if_neg h, Option.map_id]
      rfl

theorem changeAt_changeAt (e : Event) (key : String) (d : Document) :
    changeAt e key (changeAt e key d) = changeAt e key d := by
  unfold changeAt
  cases e.change.pointChange? with
  | none => rfl
  | some p =>
    dsimp only
    split
    · exact p.apply_apply d
    · rfl

/-- An event is followed once and for all. -/
theorem follow_follow (m : Contents) (e : Event) : (m.follow e).follow e = m.follow e := by
  funext key
  rw [follow_eq_map, follow_eq_map, Option.map_map]
  congr 1
  funext d
  exact changeAt_changeAt e key d

end Contents

/-! ## The calls -/

namespace Installation

variable {σ : Type} {I : Installation σ} {ctx : Context σ} {s t : σ}

/-- A patch changes the document under the key, or fails and leaves the index. -/
theorem patchIfKnown_spec (hctx : I.Quiet ctx) (hs : I.Settled s) (space item : String)
    (p : Patch) :
    (∃ t, (I.engine.patchIfKnown ctx space item p).perform s = (.ok (), t) ∧
        I.Becomes s t ((I.documents s).amend (documentKey space item) p.apply)) ∨
      ∃ e t, (I.engine.patchIfKnown ctx space item p).perform s = (.error e, t) ∧
        I.Becomes s t (I.documents s) := by
  rcases patch_spec hctx hs space item p with ⟨t, hpatch, h⟩ | ⟨e, t, hpatch, h⟩
  · exact .inl ⟨t, Op.perform_bind_of_ok hpatch, h⟩
  · exact .inr ⟨e, t, Op.perform_bind_of_error hpatch, h⟩

/-- The flag of the trash of a known document is set to a value, or the document is left. -/
theorem setTrashed_spec (hctx : I.Quiet ctx) (hs : I.Settled s) {space item : String} {d : Document}
    (hd : (I.documents s).contents (documentKey space item) = some d) (b : Bool)
    {outcome : Except Fault Unit}
    (hrun : (I.engine.patchIfKnown ctx space item (.setTrashed b)).perform s = (outcome, t)) :
    I.Settled t ∧ I.storage t = I.storage s ∧
      ((outcome = .ok () ∧
          (I.documents t).contents (documentKey space item) = some { d with trashed := b }) ∨
        (outcome ≠ .ok () ∧ (I.documents t).contents (documentKey space item) = some d)) := by
  rcases patchIfKnown_spec hctx hs space item (.setTrashed b) with
    ⟨v, hok, hv⟩ | ⟨fault, v, herror, hv⟩
  · cases hok.symm.trans hrun
    refine ⟨hv.settled, hv.storage, .inl ⟨rfl, ?_⟩⟩
    rw [hv.documents, Collection.contents_amend _ _ (Patch.setTrashed b).key_apply,
      Contents.amend, hd]
    exact if_pos rfl
  · cases herror.symm.trans hrun
    refine ⟨hv.settled, hv.storage, .inr ⟨by simp, ?_⟩⟩
    rw [hv.documents, hd]

/-- A patch succeeds where the context holds and the handle can write. -/
theorem patchIfKnown_ready (hctx : I.Holds ctx) (hs : I.Ready s) (space item : String)
    (p : Patch) :
    ∃ t, (I.engine.patchIfKnown ctx space item p).perform s = (.ok (), t) ∧ I.Ready t ∧
      I.Becomes s t ((I.documents s).amend (documentKey space item) p.apply) := by
  obtain ⟨_, hcheck, _⟩ := hctx s
  obtain ⟨t, hpatch, hready, h⟩ := patch_ready hctx.quiet hcheck hs space item p
  exact ⟨t, Op.perform_bind_of_ok hpatch, hready, h⟩

/-- What a change of tags makes of the document that has been looked up. -/
theorem amend_retag {c : Collection} {key : String} {d : Document} (hd : c.find? key = some d)
    (delta : TagDelta) :
    c.amend key delta.apply = if delta.changes d then c.placeAll [delta.apply d] else c := by
  split
  · rw [Collection.amend, hd]
    rfl
  · next h =>
    refine Collection.amend_eq_self (fun _ => rfl) fun e he => ?_
    rw [hd] at he
    cases he
    exact TagDelta.apply_of_not_changes (Bool.eq_false_iff.2 h)

/-- A change of tags changes the document under the key, or fails and leaves the index. -/
theorem retag_spec (hctx : I.Quiet ctx) (hs : I.Settled s) (space item : String)
    (delta : TagDelta) :
    (∃ t, (I.engine.toEngine.retag ctx space item delta).perform s = (.ok (), t) ∧
        I.Becomes s t ((I.documents s).amend (documentKey space item) delta.apply)) ∨
      ∃ e t, (I.engine.toEngine.retag ctx space item delta).perform s = (.error e, t) ∧
        I.Becomes s t (I.documents s) := by
  unfold Engine.retag
  obtain ⟨t, hcalm, hget | ⟨e, hget⟩⟩ := get_spec hctx space item s
  · have h := hcalm.becomes hs
    rw [show I.engine.toEngine.document = I.backend.get from rfl, Op.perform_bind_of_ok hget]
    cases hfind : (I.documents s).find? (documentKey space item) with
    | none =>
      refine .inl ⟨t, rfl, ?_⟩
      rw [Collection.amend, hfind]
      exact h
    | some d =>
      rw [amend_retag hfind]
      dsimp only
      split
      · rcases upsert_spec hctx h.settled [delta.apply d] with ⟨u, hupsert, h'⟩ | ⟨e, u, hupsert, h'⟩
        · rw [h.documents] at h'
          exact .inl ⟨u, hupsert, h.trans h'⟩
        · exact .inr ⟨e, u, hupsert, h.keep h'⟩
      · exact .inl ⟨t, rfl, h⟩
  · exact .inr ⟨e, t, Op.perform_bind_of_error hget, hcalm.becomes hs⟩

/-- A change of tags succeeds where the context holds and the handle can write. -/
theorem retag_ready (hctx : I.Holds ctx) (hs : I.Ready s) (space item : String)
    (delta : TagDelta) :
    ∃ t, (I.engine.toEngine.retag ctx space item delta).perform s = (.ok (), t) ∧ I.Ready t ∧
      I.Becomes s t ((I.documents s).amend (documentKey space item) delta.apply) := by
  obtain ⟨t, hcheck, hcalm⟩ := hctx s
  have h := hcalm.becomes hs.settled
  have hget : (I.engine.toEngine.document ctx space item).perform s =
      (.ok ((I.documents t).find? (documentKey space item)), t) := get_of_check hcheck space item
  rw [h.documents] at hget
  unfold Engine.retag
  rw [Op.perform_bind_of_ok hget]
  cases hfind : (I.documents s).find? (documentKey space item) with
  | none =>
    refine ⟨t, rfl, hs.calm hcalm, ?_⟩
    rw [Collection.amend, hfind]
    exact h
  | some d =>
    rw [amend_retag hfind]
    dsimp only
    split
    · obtain ⟨_, hcheck', _⟩ := hctx t
      obtain ⟨u, hupsert, hready, h'⟩ :=
        upsert_ready hctx.quiet hcheck' (hs.calm hcalm) [delta.apply d]
      rw [h.documents] at h'
      exact ⟨u, hupsert, hready, h.trans h'⟩
    · exact ⟨t, rfl, hs.calm hcalm, h⟩

/-- A call changes the document under the key of its item, or fails and leaves the index. -/
theorem pointCall_spec (hctx : I.Quiet ctx) (hs : I.Settled s) (space item : String)
    (p : PointChange) :
    (∃ t, (I.engine.toEngine.carryOut ctx (p.call space item)).perform s = (.ok (), t) ∧
        I.Becomes s t ((I.documents s).amend (documentKey space item) p.apply)) ∨
      ∃ e t, (I.engine.toEngine.carryOut ctx (p.call space item)).perform s = (.error e, t) ∧
        I.Becomes s t (I.documents s) := by
  cases p with
  | trash => exact patchIfKnown_spec hctx hs space item (.setTrashed true)
  | restore => exact patchIfKnown_spec hctx hs space item (.setTrashed false)
  | move path => exact patchIfKnown_spec hctx hs space item (.relocate path)
  | retag delta => exact retag_spec hctx hs space item delta

/-- A call succeeds where the context holds and the handle can write. -/
theorem pointCall_ready (hctx : I.Holds ctx) (hs : I.Ready s) (space item : String)
    (p : PointChange) :
    ∃ t, (I.engine.toEngine.carryOut ctx (p.call space item)).perform s = (.ok (), t) ∧
      I.Ready t ∧ I.Becomes s t ((I.documents s).amend (documentKey space item) p.apply) := by
  cases p with
  | trash => exact patchIfKnown_ready hctx hs space item (.setTrashed true)
  | restore => exact patchIfKnown_ready hctx hs space item (.setTrashed false)
  | move path => exact patchIfKnown_ready hctx hs space item (.relocate path)
  | retag delta => exact retag_ready hctx hs space item delta

end Installation

namespace Engine

/-- What changes a document does not look at storage or files. -/
theorem carryOut_pointCall {σ : Type} {e e' : IndexEngine σ} {ctx : Context σ}
    (h : e.backend = e'.backend) (space item : String) (p : PointChange) :
    e.toEngine.carryOut ctx (p.call space item) =
      e'.toEngine.carryOut ctx (p.call space item) := by
  cases p <;>
    simp only [PointChange.call, carryOut, retag, IndexEngine.toEngine, IndexEngine.patchIfKnown, h]

variable {σ : Type} {e : Engine σ} {ctx : Context σ} {s u : σ}

/-- Where there are no calls, none fails. -/
theorem carryOutAll_nil_eq_zero :
    (e.carryOutAll ctx []).perform s = (.ok 0, u) ↔ u = s := by
  constructor
  · rintro ⟨⟩
    rfl
  · rintro rfl
    rfl

/-- No call fails exactly when the first one does not and none of the others does. -/
theorem carryOutAll_cons_eq_zero {call : EngineCall} {rest : List EngineCall} :
    (e.carryOutAll ctx (call :: rest)).perform s = (.ok 0, u) ↔
      ∃ t, (e.carryOut ctx call).perform s = (.ok (), t) ∧
        (e.carryOutAll ctx rest).perform t = (.ok 0, u) := by
  rw [carryOutAll, Op.perform_bind_of_ok (Op.perform_outcome _ s)]
  rcases (e.carryOut ctx call).perform s with ⟨fault | ⟨⟩, t⟩
  · constructor
    · -- one failure is counted already
      intro h
      obtain ⟨n, v, _, hsum⟩ := Op.perform_bind_eq_ok.1 h
      rw [Op.perform_pure, Prod.mk.injEq, Except.ok.injEq] at hsum
      have hnone : 1 + n = 0 := hsum.1
      omega
    · rintro ⟨t', ⟨⟩, _⟩
  · constructor
    · intro h
      obtain ⟨n, v, hrest, hsum⟩ := Op.perform_bind_eq_ok.1 h
      rw [Op.perform_pure, Prod.mk.injEq, Except.ok.injEq, Nat.zero_add] at hsum
      obtain ⟨rfl, rfl⟩ := hsum
      exact ⟨t, rfl, hrest⟩
    · rintro ⟨t', ⟨⟩, hrest⟩
      exact Op.perform_bind_of_ok hrest

/-- No call fails when none fails of the first ones and none of the others. -/
theorem carryOutAll_append_eq_zero {calls rest : List EngineCall} :
    (e.carryOutAll ctx (calls ++ rest)).perform s = (.ok 0, u) ↔
      ∃ t, (e.carryOutAll ctx calls).perform s = (.ok 0, t) ∧
        (e.carryOutAll ctx rest).perform t = (.ok 0, u) := by
  induction calls generalizing s with
  | nil => simp [carryOutAll_nil_eq_zero]
  | cons call calls ih =>
    rw [List.cons_append, carryOutAll_cons_eq_zero]
    constructor
    · rintro ⟨v, hcall, hmore⟩
      obtain ⟨t, hcalls, hrest⟩ := ih.1 hmore
      exact ⟨t, carryOutAll_cons_eq_zero.2 ⟨v, hcall, hcalls⟩, hrest⟩
    · rintro ⟨t, hcalls, hrest⟩
      obtain ⟨v, hcall, hmore⟩ := carryOutAll_cons_eq_zero.1 hcalls
      exact ⟨v, hcall, ih.2 ⟨t, hmore, hrest⟩⟩

end Engine

end ScopedSearch
