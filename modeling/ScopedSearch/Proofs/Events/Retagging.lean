import ScopedSearch.Proofs.Events.Replay

/-!
# Rows of tag deltas

A tag delta says whether it has changed the tags by their number alone.  That is enough, since what
it adds can only make the set larger and what it removes only smaller, and a set of the same size is
then the same set.  After a row of deltas a tag is there when the last delta that mentions it adds
it, and where none mentions it, when it was there before.

So a document need not be stored when its delta reports no change.  Whoever stores it all the same
leaves the same index, after one call whatever becomes of it, and after a row of calls wherever the
handle can write.

## Main results

* `TagDelta.mem_tags_applyAll_iff`: the tags after a row of deltas.
* `documents_retagAlways`: one call that stores in any case.
* `deltas_change_as_reported`: what deltas report and do, and that nothing is lost by heeding it.
-/

namespace ScopedSearch

/-! ## Deltas in a row -/

namespace TagDelta

/-- The tags that a delta mentions. -/
def tags : TagDelta → TagSet
  | add tags => tags
  | remove tags => tags

/-- The document after deltas, one after the other. -/
def applyAll (δs : List TagDelta) (d : Document) : Document := δs.foldl (fun d δ => δ.apply d) d

variable {δs : List TagDelta} {d : Document} {tag : String}

/-- One more of the deltas is applied to what those before it have made. -/
theorem applyAll_take_succ {i : Nat} (hi : i < δs.length) :
    applyAll (δs.take (i + 1)) d = δs[i].apply (applyAll (δs.take i) d) := by
  rw [applyAll, List.take_succ_eq_append_getElem hi, List.foldl_append]
  rfl

/-- Deltas are changes of a document that mention its tags. -/
theorem applyAll_eq_applyAll_retag (δs : List TagDelta) (d : Document) :
    applyAll δs d = PointChange.applyAll (δs.map .retag) d := by
  rw [PointChange.applyAll, List.foldl_map]
  rfl

theorem mention?_eq_true_iff {δ : TagDelta} :
    (PointChange.retag δ).mention? tag = some true ↔ ∃ added, δ = add added ∧ tag ∈ added := by
  cases δ <;> simp [PointChange.mention?]

theorem mention?_eq_none_iff {δ : TagDelta} :
    (PointChange.retag δ).mention? tag = none ↔ tag ∉ δ.tags := by
  cases δ <;> simp [PointChange.mention?, tags]

/-- The last word on a tag is that it is added. -/
theorem last?_mention_eq_true_iff :
    PointChange.last? (PointChange.mention? tag) (δs.map .retag) = some true ↔
      ∃ earlier added later, δs = earlier ++ add added :: later ∧ tag ∈ added ∧
        ∀ δ ∈ later, tag ∉ δ.tags := by
  rw [PointChange.last?, ← List.map_reverse, List.findSome?_map, List.findSome?_eq_some_iff]
  simp only [Function.comp_apply, mention?_eq_true_iff, mention?_eq_none_iff]
  constructor
  · rintro ⟨later, _, earlier, hδs, ⟨added, rfl, htag⟩, hlater⟩
    refine ⟨earlier.reverse, added, later.reverse, ?_, htag, fun δ hδ => ?_⟩
    · simpa using congrArg List.reverse hδs
    · exact hlater δ (List.mem_reverse.1 hδ)
  · rintro ⟨earlier, added, later, rfl, htag, hlater⟩
    refine ⟨later.reverse, add added, earlier.reverse, by simp, ⟨added, rfl, htag⟩, fun δ hδ => ?_⟩
    exact hlater δ (List.mem_reverse.1 hδ)

/-- There is no word on a tag. -/
theorem last?_mention_eq_none_iff :
    PointChange.last? (PointChange.mention? tag) (δs.map .retag) = none ↔
      ∀ δ ∈ δs, tag ∉ δ.tags := by
  simp [PointChange.last?, List.findSome?_eq_none_iff, mention?_eq_none_iff]

/-- The last delta that mentions a tag decides whether it is there. -/
theorem mem_tags_applyAll_iff :
    tag ∈ (applyAll δs d).tags ↔
      (∃ earlier added later, δs = earlier ++ add added :: later ∧ tag ∈ added ∧
        ∀ δ ∈ later, tag ∉ δ.tags) ∨
      (∀ δ ∈ δs, tag ∉ δ.tags) ∧ tag ∈ d.tags := by
  rw [applyAll_eq_applyAll_retag, (PointChange.settles_applyAll _ d).tags,
    ← last?_mention_eq_true_iff, ← last?_mention_eq_none_iff]
  rcases PointChange.last? (PointChange.mention? tag) (δs.map .retag) with _ | _ | _ <;> simp

end TagDelta

/-! ## Storing in any case -/

namespace Engine

variable {σ : Type}

/-- Changes the tags of a document and stores it, whether they have changed or not. -/
def retagAlways (e : Engine σ) (ctx : Context σ) (space item : String) (delta : TagDelta) :
    Op σ Unit := do
  match ← e.document ctx space item with
  | none => return
  | some d => e.upsertItem ctx (delta.apply d)

/-- Makes a call; one that changes tags stores the document in any case. -/
def carryOutAlways (e : Engine σ) (ctx : Context σ) : EngineCall → Op σ Unit
  | .upsertItem space item delta => e.retagAlways ctx space item delta
  | call => e.carryOut ctx call

/-- Does something with one call after the other. -/
def inTurn (make : EngineCall → Op σ Unit) : List EngineCall → Op σ Unit
  | [] => return
  | call :: rest => do
    make call
    inTurn make rest

end Engine

namespace Installation

variable {σ : Type} {I : Installation σ} {ctx : Context σ} {s t : σ}

/-- A document that is stored with the tags that it has already leaves the index. -/
theorem placeAll_of_not_changes {c : Collection} {key : String} {d : Document} {δ : TagDelta}
    (hd : c.find? key = some d) (hδ : δ.changes d = false) : c.placeAll [δ.apply d] = c := by
  have hamend : c.amend key δ.apply = c.placeAll [δ.apply d] := by
    rw [Collection.amend, hd]
    rfl
  rw [← hamend, amend_retag hd, hδ, if_neg Bool.false_ne_true]

/-- Whatever becomes of a change of tags, storing in any case leaves the same index. -/
theorem documents_retagAlways (hctx : I.Quiet ctx) (hs : I.Settled s) (space item : String)
    (δ : TagDelta) :
    I.documents ((I.engine.toEngine.retagAlways ctx space item δ).perform s).2 =
      I.documents ((I.engine.toEngine.retag ctx space item δ).perform s).2 := by
  unfold Engine.retagAlways Engine.retag
  obtain ⟨t, hcalm, hget | ⟨e, hget⟩⟩ := get_spec hctx space item s
  · have ht := hcalm.becomes hs
    rw [show I.engine.toEngine.document = I.backend.get from rfl, Op.perform_bind_of_ok hget,
      Op.perform_bind_of_ok hget]
    cases hfind : (I.documents s).find? (documentKey space item) with
    | none => rfl
    | some d =>
      dsimp only
      cases hδ : δ.changes d with
      | true => rfl
      | false =>
        rw [if_neg Bool.false_ne_true]
        show I.documents ((I.backend.upsert ctx [δ.apply d]).perform t).2 = I.documents t
        rcases upsert_spec hctx ht.settled [δ.apply d] with ⟨u, hrun, h⟩ | ⟨e, u, hrun, h⟩
        · rw [hrun, h.documents, ht.documents, placeAll_of_not_changes hfind hδ]
        · rw [hrun, h.documents]
  · rw [show I.engine.toEngine.document = I.backend.get from rfl, Op.perform_bind_of_error hget,
      Op.perform_bind_of_error hget]

/-- Storing in any case succeeds where the context holds and the handle can write. -/
theorem retagAlways_ready (hctx : I.Holds ctx) (hs : I.Ready s) (space item : String)
    (δ : TagDelta) :
    ∃ t, (I.engine.toEngine.retagAlways ctx space item δ).perform s = (.ok (), t) ∧ I.Ready t ∧
      I.Becomes s t ((I.documents s).amend (documentKey space item) δ.apply) := by
  obtain ⟨t, hcheck, hcalm⟩ := hctx s
  have h := hcalm.becomes hs.settled
  have hget : (I.engine.toEngine.document ctx space item).perform s =
      (.ok ((I.documents t).find? (documentKey space item)), t) := get_of_check hcheck space item
  rw [h.documents] at hget
  unfold Engine.retagAlways Collection.amend
  rw [Op.perform_bind_of_ok hget]
  cases (I.documents s).find? (documentKey space item) with
  | none => exact ⟨t, rfl, hs.calm hcalm, h⟩
  | some d =>
    obtain ⟨_, hcheck', _⟩ := hctx t
    obtain ⟨u, hupsert, hready, h'⟩ :=
      upsert_ready hctx.quiet hcheck' (hs.calm hcalm) [δ.apply d]
    rw [h.documents] at h'
    exact ⟨u, hupsert, hready, h.trans h'⟩

/-- A call that stores in any case changes the document under the key of its item. -/
theorem pointCall_always_ready (hctx : I.Holds ctx) (hs : I.Ready s) (space item : String)
    (p : PointChange) :
    ∃ t, (I.engine.toEngine.carryOutAlways ctx (p.call space item)).perform s = (.ok (), t) ∧
      I.Ready t ∧ I.Becomes s t ((I.documents s).amend (documentKey space item) p.apply) := by
  cases p with
  | trash => exact pointCall_ready hctx hs space item .trash
  | restore => exact pointCall_ready hctx hs space item .restore
  | move path => exact pointCall_ready hctx hs space item (.move path)
  | retag δ => exact retagAlways_ready hctx hs space item δ

/-- The calls for changes of items. -/
def callsFor (changes : List (Identity × PointChange)) : List EngineCall :=
  changes.map fun (i, p) => p.call i.space i.item

/-- Where each call succeeds and makes its change, a row of them makes all changes. -/
theorem inTurn_ready {make : EngineCall → Op σ Unit}
    (hmake : ∀ {s}, I.Ready s → ∀ space item p,
      ∃ t, (make (PointChange.call space item p)).perform s = (.ok (), t) ∧ I.Ready t ∧
        I.Becomes s t ((I.documents s).amend (documentKey space item) p.apply))
    (hs : I.Ready s) (changes : List (Identity × PointChange)) :
    ∃ t, (Engine.inTurn make (callsFor changes)).perform s = (.ok (), t) ∧
      I.documents t =
        changes.foldl (fun c (i, p) => c.amend (documentKey i.space i.item) p.apply)
          (I.documents s) := by
  induction changes generalizing s with
  | nil => exact ⟨s, rfl, rfl⟩
  | cons change changes ih =>
    obtain ⟨i, p⟩ := change
    obtain ⟨t, hrun, ht, h⟩ := hmake hs i.space i.item p
    obtain ⟨u, hrest, hdocuments⟩ := ih ht
    refine ⟨u, (Op.perform_bind_of_ok hrun).trans hrest, ?_⟩
    rw [hdocuments, h.documents]
    rfl

/--
Each of a row of deltas reports a change exactly when the tags differ afterwards, and changes
nothing else.  A tag is there in the end when the last delta that mentions it adds it, and where
none mentions it, when it was there at the start.  Storing a document whose delta reports no change
leaves the same index as not to store it: after one call whatever becomes of it, and after a row of
calls where the context holds and the handle can write, as all of them succeed then.
-/
theorem deltas_change_as_reported (hctx : I.Quiet ctx) (hs : I.Settled s) (δs : List TagDelta)
    (d : Document) :
    (∀ (i : Nat) (hi : i < δs.length),
      let before := TagDelta.applyAll (δs.take i) d
      let after := TagDelta.applyAll (δs.take (i + 1)) d
      after = δs[i].apply before ∧ (δs[i].changes before = true ↔ after.tags ≠ before.tags) ∧
        after = { before with tags := after.tags }) ∧
    (∀ tag, tag ∈ (TagDelta.applyAll δs d).tags ↔
      (∃ earlier added later, δs = earlier ++ .add added :: later ∧ tag ∈ added ∧
        ∀ δ ∈ later, tag ∉ δ.tags) ∨
      (∀ δ ∈ δs, tag ∉ δ.tags) ∧ tag ∈ d.tags) ∧
    (∀ space item δ,
      I.documents ((I.engine.toEngine.carryOutAlways ctx (.upsertItem space item δ)).perform s).2 =
        I.documents ((I.engine.toEngine.carryOut ctx (.upsertItem space item δ)).perform s).2) ∧
    (I.Holds ctx → I.Ready s → ∀ changes, ∃ t t',
      (Engine.inTurn (I.engine.toEngine.carryOutAlways ctx) (callsFor changes)).perform s =
        (.ok (), t) ∧
      (Engine.inTurn (I.engine.toEngine.carryOut ctx) (callsFor changes)).perform s =
        (.ok (), t') ∧
      I.documents t = I.documents t') := by
  refine ⟨?_, fun tag => TagDelta.mem_tags_applyAll_iff, documents_retagAlways hctx hs, ?_⟩
  · intro i hi before after
    have hafter : after = δs[i].apply before := TagDelta.applyAll_take_succ hi
    rw [hafter]
    exact ⟨rfl, TagDelta.changes_iff, rfl⟩
  · intro hholds hready changes
    obtain ⟨t, hrun, ht⟩ := inTurn_ready
      (fun hs => pointCall_always_ready hholds hs) hready changes
    obtain ⟨t', hrun', ht'⟩ := inTurn_ready (fun hs => pointCall_ready hholds hs) hready changes
    exact ⟨t, t', hrun, hrun', ht.trans ht'.symm⟩

/-- A tag is added, it is removed with one that is not there, and another one is added. -/
def rowOfDeltas : List TagDelta := [
  .add (TagSet.ofList ["red"]), .remove (TagSet.ofList ["red", "green"]),
  .add (TagSet.ofList ["blue"])]

/-- The tags of both notes are changed in a row, and of one that is not there. -/
def noteChanges : List (Identity × PointChange) :=
  [⟨"alice", "1"⟩, ⟨"alice", "2"⟩, ⟨"alice", "9"⟩].flatMap fun i =>
    rowOfDeltas.map fun δ => (i, .retag δ)

/-- The first delta changes nothing of the second note and says so; the last one stays. -/
theorem deltas_change_secondNote :
    let I := Shelf.installation .basic 1
    (TagDelta.add (TagSet.ofList ["red"])).changes secondNote = false ∧
    "blue" ∈ (TagDelta.applyAll rowOfDeltas secondNote).tags ∧
    ∃ t t',
      (Engine.inTurn (I.engine.toEngine.carryOutAlways .background)
        (callsFor noteChanges)).perform noteShelf = (.ok (), t) ∧
      (Engine.inTurn (I.engine.toEngine.carryOut .background)
        (callsFor noteChanges)).perform noteShelf = (.ok (), t') ∧
      I.documents t = I.documents t' := by
  intro I
  obtain ⟨hreport, htags, -, hrow⟩ := deltas_change_as_reported (I := I) quiet_background
    noteShelf_ready.settled rowOfDeltas secondNote
  refine ⟨?_, ?_, hrow holds_background noteShelf_ready noteChanges⟩
  · have hsame : (TagDelta.applyAll (rowOfDeltas.take 1) secondNote).tags =
        (TagDelta.applyAll (rowOfDeltas.take 0) secondNote).tags := by decide +kernel
    exact Bool.eq_false_iff.2 fun h => (hreport 0 (by decide)).2.1.1 h hsame
  · exact (htags "blue").2 (.inl ⟨rowOfDeltas.take 2, _, [], rfl, by decide +kernel, nofun⟩)

end Installation

end ScopedSearch
