import Mathlib.Logic.Function.Basic
import ScopedSearch.Proofs.Events.Exchanges
import ScopedSearch.Proofs.Events.PointChanges

/-!
# Several workers on one document

Workers that handle events side by side take turns on the engine, one request at a time.  Here they
all change the document of one item, and no rebuilds follow.  A trash, a restore and a move are one
request, a patch under the writer.  A change of tags is two, and the second one stores what has
become of the document that the first one has found, whatever has been written in between.

A worker is overtaken when another one writes between its lookup and its store.  As long as that
happens to nobody, the workers change the document one after the other, in the order in which they
get done.

## Main results

* `Installation.turns_of_interleaved`: what the requests of the workers make of the index, turn by
  turn.
* `Turns.in_order`: where nobody is overtaken, the changes are made one after the other.
-/

namespace ScopedSearch

variable {ι σ : Type}

/-- The request may change what the index holds. -/
def EngineRequest.isWrite : EngineRequest → Bool
  | .document _ _ => false
  | _ => true

/--
Workers with duties of their own, on one engine: in each step one of them makes the request that it
has come to.
-/
inductive Engine.Interleaved [DecidableEq ι] (e : Engine σ) (ctx : Context σ)
    (duties : ι → List Duty) (s : σ) : List (ι × Exchange) → (ι → List Duty) → σ → Prop
  | nil : Interleaved e ctx duties s [] duties s
  | snoc {trace now t i d ds r u} (hbefore : Interleaved e ctx duties s trace now t)
      (hduty : now i = d :: ds) (hreply : (e.answer ctx d.request).perform t = (r, u)) :
      Interleaved e ctx duties s (trace ++ [(i, ⟨d.request, r⟩)])
        (Function.update now i (d.rest r ++ ds)) u

/--
Between a lookup of the worker and its write, another one has written.  A worker that looks up a
document writes what it makes of it, so that the other write is gone then.
-/
def Overtaken (i : ι) (trace : List (ι × Exchange)) : Prop :=
  ∃ before look between store after,
    trace = before ++ (i, look) :: (between ++ (i, store) :: after) ∧
      look.request.isWrite = false ∧ store.request.isWrite = true ∧
      ∃ x ∈ between, x.1 ≠ i ∧ x.2.request.isWrite = true

/-- Who is overtaken stays so. -/
theorem Overtaken.append {i : ι} {trace : List (ι × Exchange)} (h : Overtaken i trace)
    (more : List (ι × Exchange)) : Overtaken i (trace ++ more) := by
  obtain ⟨before, look, between, store, after, rfl, hlook, hstore, hwrite⟩ := h
  exact ⟨before, look, between, store, after ++ more, by simp, hlook, hstore, hwrite⟩

/-- The index after changes of the document by several workers, one after the other. -/
def changedBy (space item : String) (p : ι → PointChange) (order : List ι) (c : Collection) :
    Collection :=
  order.foldl (fun c i => c.amend (documentKey space item) (p i).apply) c

theorem changedBy_concat {space item : String} {p : ι → PointChange} {c : Collection} {i : ι}
    (order : List ι) :
    changedBy space item p (order ++ [i]) c =
      (changedBy space item p order c).amend (documentKey space item) (p i).apply := by
  rw [changedBy, List.foldl_append]
  rfl

/-! ## Turns -/

section

variable [DecidableEq ι] (space item : String)

/-- The duties of a worker that has a change of the document to make. -/
abbrev dutiesOf (p : PointChange) : List Duty := [.call (p.call space item)]

/--
A turn of a worker that has a change to make: what it was left to do and what the index held, the
request and its reply, and what is left to do and what the index holds then.
-/
inductive Turn (p : PointChange) :
    List Duty → Collection → Exchange → List Duty → Collection → Prop
  /-- A lookup shows that there is nothing to change. -/
  | idle {r c} (hsame : c.amend (documentKey space item) p.apply = c) :
    Turn p (dutiesOf space item p) c ⟨.document space item, r⟩ [] c
  /-- Only a change of tags goes by what it has found. -/
  | look {d r c} (hretag : ∃ delta, p = .retag delta)
    (hfind : c.find? (documentKey space item) = some d) :
    Turn p (dutiesOf space item p) c ⟨.document space item, r⟩ [.store (p.apply d)] c
  | patch {q r c} (hwrite : q.isWrite = true) :
    Turn p (dutiesOf space item p) c ⟨q, r⟩ [] (c.amend (documentKey space item) p.apply)
  | store {d r c} : Turn p [.store d] c ⟨.upsertItem d, r⟩ [] (c.place d)

/-- Turns of workers that have changes to make. -/
inductive Turns (p : ι → PointChange) (c : Collection) :
    List (ι × Exchange) → (ι → List Duty) → Collection → Prop
  | nil : Turns p c [] (fun i => dutiesOf space item (p i)) c
  | snoc {trace now i x ds c' c''} (hbefore : Turns p c trace now c')
      (hturn : Turn space item (p i) (now i) c' x ds c'') :
      Turns p c (trace ++ [(i, x)]) (Function.update now i ds) c''

/-- The worker has not had its first turn, it has its store to make, or it is done. -/
inductive Stage (p : PointChange) : List Duty → Prop
  | fresh : Stage p (dutiesOf space item p)
  | holding (d : Document) : Stage p [.store d]
  | done : Stage p []

variable {space item}

theorem Turn.stage {p : PointChange} {x : Exchange} {ds ds' : List Duty} {c c' : Collection}
    (h : Turn space item p ds c x ds' c') : Stage space item p ds' := by
  cases h with
  | idle _ | patch _ | store => exact .done
  | look _ _ => exact .holding _

theorem Turns.stage {p : ι → PointChange} {c c' : Collection} {trace : List (ι × Exchange)}
    {now : ι → List Duty} (h : Turns space item p c trace now c') (i : ι) :
    Stage space item (p i) (now i) := by
  induction h with
  | nil => exact .fresh
  | @snoc _ _ j _ _ _ _ _ hturn ih =>
    by_cases hij : i = j
    · subst hij
      rw [Function.update_self]
      exact hturn.stage
    · rw [Function.update_of_ne hij]
      exact ih

end

namespace Installation

variable {I : Installation σ} {ctx : Context σ} {s t u : σ} {space item : String}

/-- Storing the document that a change has been made to is a turn. -/
theorem turn_of_store (hctx : I.Holds ctx) (hs : I.Ready s) (p : PointChange) (d : Document)
    {r : EngineReply}
    (hreply : (I.engine.toEngine.answer ctx (.upsertItem d)).perform s = (r, t)) :
    I.Ready t ∧ Turn space item p [.store d] (I.documents s) ⟨.upsertItem d, r⟩ []
      (I.documents t) := by
  obtain ⟨_, hcheck, _⟩ := hctx s
  obtain ⟨u, hupsert, hready, h⟩ := upsert_ready hctx.quiet hcheck hs [d]
  have hrun : (I.engine.toEngine.answer ctx (.upsertItem d)).perform s = (.ok none, u) :=
    Op.perform_bind_of_ok hupsert
  cases hrun.symm.trans hreply
  have hdocuments : I.documents t = (I.documents s).place d := h.documents
  rw [hdocuments]
  exact ⟨hready, .store⟩

/-- A patch that has been asked for is a turn. -/
theorem turn_of_patch (hctx : I.Holds ctx) (hs : I.Ready s) {p : PointChange} {q : Patch}
    {request : EngineRequest} {r : EngineReply} (hwrite : request.isWrite = true)
    (hpatch : ∀ d, q.apply d = p.apply d)
    (hanswer : I.engine.toEngine.answer ctx request = do
      I.engine.patchIfKnown ctx space item q
      return none)
    (hreply : (I.engine.toEngine.answer ctx request).perform s = (r, t)) :
    I.Ready t ∧ Turn space item p (dutiesOf space item p) (I.documents s) ⟨request, r⟩ []
      (I.documents t) := by
  obtain ⟨u, hrun, hready, h⟩ := patchIfKnown_ready hctx hs space item q
  rw [hanswer, Op.perform_bind_of_ok hrun] at hreply
  cases hreply
  have hdocuments : I.documents t = (I.documents s).amend (documentKey space item) p.apply := by
    rw [h.documents, funext hpatch]
  rw [hdocuments]
  exact ⟨hready, .patch hwrite⟩

/-- Looking the document up is a turn of a worker that changes its tags. -/
theorem turn_of_lookup (hctx : I.Holds ctx) (hs : I.Ready s) (delta : TagDelta) {r : EngineReply}
    (hreply : (I.engine.toEngine.answer ctx (.document space item)).perform s = (r, t)) :
    I.Ready t ∧ Turn space item (.retag delta) (dutiesOf space item (.retag delta))
      (I.documents s) ⟨.document space item, r⟩
      ((Duty.call (.upsertItem space item delta)).rest r) (I.documents t) := by
  obtain ⟨u, hcheck, hcalm⟩ := hctx s
  have hrun : (I.engine.toEngine.answer ctx (.document space item)).perform s =
      (.ok ((I.documents u).find? (documentKey space item)), u) := get_of_check hcheck space item
  cases hrun.symm.trans hreply
  have hdocuments : I.documents t = I.documents s := hcalm.view
  rw [hdocuments]
  refine ⟨hs.calm hcalm, ?_⟩
  cases hfind : (I.documents s).find? (documentKey space item) with
  | none =>
    refine .idle ?_
    rw [Collection.amend, hfind]
  | some d =>
    by_cases hchanges : delta.changes d = true
    · have hrest : (Duty.call (.upsertItem space item delta)).rest (.ok (some d)) =
          [.store (delta.apply d)] := if_pos hchanges
      rw [hrest]
      exact .look ⟨delta, rfl⟩ hfind
    · have hrest : (Duty.call (.upsertItem space item delta)).rest (.ok (some d)) = [] :=
        if_neg hchanges
      rw [hrest]
      refine .idle ((amend_retag hfind delta).trans (if_neg hchanges))

/-- A request of a worker that has a change to make is a turn. -/
theorem turn_of_answer (hctx : I.Holds ctx) (hs : I.Ready s) {p : PointChange} {d : Duty}
    {ds : List Duty} {r : EngineReply} (hstage : Stage space item p (d :: ds))
    (hreply : (I.engine.toEngine.answer ctx d.request).perform s = (r, t)) :
    I.Ready t ∧ Turn space item p (d :: ds) (I.documents s) ⟨d.request, r⟩ (d.rest r ++ ds)
      (I.documents t) := by
  cases hstage with
  | fresh =>
    rw [List.append_nil]
    cases p with
    | trash => exact turn_of_patch hctx hs rfl (fun _ => rfl) rfl hreply
    | restore => exact turn_of_patch hctx hs rfl (fun _ => rfl) rfl hreply
    | move path => exact turn_of_patch hctx hs rfl (fun _ => rfl) rfl hreply
    | retag delta => exact turn_of_lookup hctx hs delta hreply
  | holding doc => exact turn_of_store hctx hs p doc hreply

/-- What the requests of the workers make of the index, turn by turn. -/
theorem turns_of_interleaved [DecidableEq ι] {p : ι → PointChange} {trace : List (ι × Exchange)}
    {now : ι → List Duty} (hctx : I.Holds ctx) (hs : I.Ready s)
    (h : I.engine.toEngine.Interleaved ctx (fun i => dutiesOf space item (p i)) s trace now t) :
    I.Ready t ∧ Turns space item p (I.documents s) trace now (I.documents t) := by
  induction h with
  | nil => exact ⟨hs, .nil⟩
  | @snoc trace now t i d ds r u _ hduty hreply ih =>
    obtain ⟨hready, hturns⟩ := ih
    have hstage := hturns.stage i
    rw [hduty] at hstage
    obtain ⟨hready', hturn⟩ := turn_of_answer hctx hready hstage hreply
    rw [← hduty] at hturn
    exact ⟨hready', hturns.snoc hturn⟩

end Installation

/-! ## Where the workers are -/

section

variable [DecidableEq ι] {space item : String} {p : ι → PointChange} {c c' c'' : Collection}
  {trace : List (ι × Exchange)} {now : ι → List Duty} {i : ι} {x : Exchange} {ds : List Duty}

theorem Turn.eq_of_isWrite_eq_false {p : PointChange} {ds ds' : List Duty}
    (h : Turn space item p ds c x ds' c') (hwrite : x.request.isWrite = false) : c' = c := by
  cases h with
  | idle _ | look _ _ => rfl
  | patch hpatch =>
    rw [hpatch] at hwrite
    cases hwrite
  | store => cases hwrite

/--
What is known of a worker by what it is left to do.  One that holds a document has looked it up in
its only turn, and as long as nobody writes the index stays what it was then.
-/
inductive Known (space item : String) (p : ι → PointChange) (c c' : Collection) (i : ι) :
    List (ι × Exchange) → List Duty → Prop
  | fresh {trace : List (ι × Exchange)} (hnone : ∀ y ∈ trace, y.1 ≠ i) :
    Known space item p c c' i trace (dutiesOf space item (p i))
  | holding {before look between now seen d} (hretag : ∃ delta, p i = .retag delta)
      (hlook : look.request.isWrite = false)
      (hbefore : ∀ y ∈ before, y.1 ≠ i) (hbetween : ∀ y ∈ between, y.1 ≠ i)
      (hturns : Turns space item p c before now seen)
      (hfind : seen.find? (documentKey space item) = some d)
      (hquiet : (∀ y ∈ between, y.2.request.isWrite = false) → c' = seen) :
    Known space item p c c' i (before ++ (i, look) :: between) [.store ((p i).apply d)]
  | done {trace : List (ι × Exchange)} : Known space item p c c' i trace []

/-- What is known of a worker stays known while others have their turns. -/
theorem Known.other {j : ι} (h : Known space item p c c' i trace ds) (hj : j ≠ i)
    (hsame : x.request.isWrite = false → c'' = c') :
    Known space item p c c'' i (trace ++ [(j, x)]) ds := by
  cases h with
  | fresh hnone =>
    exact .fresh (List.forall_mem_append.2 ⟨hnone, by simpa using hj⟩)
  | holding hretag hlook hbefore hbetween hturns hfind hquiet =>
    rw [List.append_assoc, List.cons_append]
    refine .holding hretag hlook hbefore
      (List.forall_mem_append.2 ⟨hbetween, by simpa using hj⟩) hturns hfind fun hall => ?_
    obtain ⟨hold, hnew⟩ := List.forall_mem_append.1 hall
    rw [hsame (hnew _ List.mem_cons_self), hquiet hold]
  | done => exact .done

theorem Turns.known (h : Turns space item p c trace now c') (i : ι) :
    Known space item p c c' i trace (now i) := by
  induction h with
  | nil => exact .fresh (List.forall_mem_nil _)
  | @snoc trace now j x ds c' c'' hbefore hturn ih =>
    by_cases hj : j = i
    · subst hj
      rw [Function.update_self]
      generalize hduties : now j = duties at ih hturn
      cases hturn with
      | idle _ | patch _ | store => exact .done
      | look hretag hfind =>
        cases ih with
        | fresh hnone =>
          exact .holding hretag rfl hnone (List.forall_mem_nil _) hbefore hfind fun _ => rfl
    · rw [Function.update_of_ne (Ne.symm hj)]
      exact ih.other hj hturn.eq_of_isWrite_eq_false

/-- A worker that has its call to make has not had a turn. -/
theorem Known.ne_of_call (h : Known space item p c c' i trace (dutiesOf space item (p i))) :
    ∀ y ∈ trace, y.1 ≠ i := by
  cases h with
  | fresh hnone => exact hnone

/-- A worker that holds a document has found it in its only turn. -/
theorem Known.exists_lookup {doc : Document} (h : Known space item p c c' i trace [.store doc]) :
    ∃ before look between earlier seen d, trace = before ++ (i, look) :: between ∧
      (∃ delta, p i = .retag delta) ∧ (∀ y ∈ before, y.1 ≠ i) ∧ (∀ y ∈ between, y.1 ≠ i) ∧
      Turns space item p c before earlier seen ∧
      seen.find? (documentKey space item) = some d ∧ doc = (p i).apply d := by
  cases h with
  | holding hretag _ hbefore hbetween hturns hfind _ =>
    exact ⟨_, _, _, _, _, _, rfl, hretag, hbefore, hbetween, hturns, hfind, rfl⟩

/-! ## Nobody is overtaken -/

/-- A turn makes the whole change of a worker or none of it, unless it has been overtaken. -/
theorem Turn.amend (hknown : Known space item p c c' i trace (now i))
    (hturn : Turn space item (p i) (now i) c' x ds c'') (hnot : ¬ Overtaken i (trace ++ [(i, x)])) :
    (ds = [] ∧ c'' = c'.amend (documentKey space item) (p i).apply) ∨ (ds ≠ [] ∧ c'' = c') := by
  generalize now i = duties at hknown hturn
  cases hturn with
  | idle hsame => exact .inl ⟨rfl, hsame.symm⟩
  | look _ _ => exact .inr ⟨List.cons_ne_nil _ _, rfl⟩
  | patch _ => exact .inl ⟨rfl, rfl⟩
  | @store _ r _ =>
    cases hknown with
    | @holding before look between now seen d _ hlook _ hbetween _ hfind hquiet =>
      have hunwritten : ∀ y ∈ between, y.2.request.isWrite = false := by
        intro y hy
        by_contra hwrite
        rw [Bool.not_eq_false] at hwrite
        exact hnot ⟨before, look, between, ⟨.upsertItem ((p i).apply d), r⟩, [], by simp, hlook,
          rfl, y, hy, hbetween y hy, hwrite⟩
      rw [hquiet hunwritten, Collection.amend, hfind]
      exact .inl ⟨rfl, rfl⟩

/--
Where nobody is overtaken, the workers that are done have changed the document one after the other,
in the order in which they got done, and the others have not changed it.
-/
theorem Turns.in_order (h : Turns space item p c trace now c')
    (hnot : ∀ i, ¬ Overtaken i trace) :
    ∃ order : List ι, order.Nodup ∧ (∀ i, i ∈ order ↔ now i = []) ∧
      c' = changedBy space item p order c := by
  induction h with
  | nil => exact ⟨[], List.nodup_nil, by simp, rfl⟩
  | @snoc trace now i x ds c' c'' hbefore hturn ih =>
    obtain ⟨order, hnodup, hdone, rfl⟩ := ih fun j hj => hnot j (hj.append _)
    have hbusy : i ∉ order := by
      rw [hdone]
      intro hi
      rw [hi] at hturn
      cases hturn
    have hothers : ∀ j, j ≠ i → Function.update now i ds j = now j := fun j hj =>
      Function.update_of_ne hj _ _
    obtain ⟨rfl, rfl⟩ | ⟨hds, rfl⟩ := Turn.amend (hbefore.known i) hturn (hnot i)
    · refine ⟨order ++ [i], ?_, fun j => ?_, (changedBy_concat order).symm⟩
      · rw [← List.concat_eq_append, List.nodup_concat]
        exact ⟨hbusy, hnodup⟩
      · by_cases hj : j = i
        · subst hj
          simp
        · rw [hothers j hj, ← hdone]
          simp [hj]
    · refine ⟨order, hnodup, fun j => ?_, rfl⟩
      by_cases hj : j = i
      · subst hj
        simp [hbusy, hds]
      · rw [hothers j hj, hdone]

end

end ScopedSearch
