import Mathlib.Data.List.Forall2
import ScopedSearch.Events.Reindexing

/-!
# What handling an event asks of an engine

A call of a plan is one request to the engine, with one exception: a change of tags looks the
document up, and stores the document it makes of it where the tags differ.  Between two requests
anybody else may use the engine, so whoever handles events beside others has to be followed request
by request.  What is left to do is then a list of duties; the reply to the first one decides what
takes its place.

## Main results

* `Works.unique`: duties meet with one course of requests and replies from a state.
* `handle_of_works`: the duties of a plan, done one after the other, are the handling of the event.
-/

namespace ScopedSearch

/-- A request to an engine. -/
inductive EngineRequest
  | indexSpace (space : String)
  | trashItem (space item : String)
  | restoreItem (space item : String)
  | moveItem (space item path : String)
  | document (space item : String)
  | upsertItem (d : Document)
  deriving DecidableEq, Repr

/-- What comes of a request: a fault, or a success with the document that was looked up, if any. -/
abbrev EngineReply := Except Fault (Option Document)

/-- A request, and the reply to it. -/
structure Exchange where
  request : EngineRequest
  reply : EngineReply

/-- The request has failed. -/
def Exchange.hasFailed (x : Exchange) : Bool := !x.reply.isOk

/-- The requests and replies of a call, in order.  A change of tags ends with the lookup, unless
the document is known and its tags change. -/
inductive EngineCall.Answered : EngineCall → List Exchange → Prop
  | indexSpace {space r} : Answered (.indexSpace space) [⟨.indexSpace space, r⟩]
  | trashItem {space item r} : Answered (.trashItem space item) [⟨.trashItem space item, r⟩]
  | restoreItem {space item r} : Answered (.restoreItem space item) [⟨.restoreItem space item, r⟩]
  | moveItem {space item path r} :
    Answered (.moveItem space item path) [⟨.moveItem space item path, r⟩]
  | lookupFailed {space item delta f} :
    Answered (.upsertItem space item delta) [⟨.document space item, .error f⟩]
  | unknown {space item delta} :
    Answered (.upsertItem space item delta) [⟨.document space item, .ok none⟩]
  | unchanged {space item delta d} (htags : delta.applyTo d.tags = d.tags) :
    Answered (.upsertItem space item delta) [⟨.document space item, .ok (some d)⟩]
  | changed {space item delta d r} (htags : delta.applyTo d.tags ≠ d.tags) :
    Answered (.upsertItem space item delta)
      [⟨.document space item, .ok (some d)⟩, ⟨.upsertItem (delta.apply d), r⟩]

/-- The requests and replies of all calls of a plan; so many of the calls have failed. -/
structure Event.Answered (options : ReindexOptions) (e : Event) (xs : List Exchange)
    (failed : Nat) : Prop where
  /-- Every call is made, each with its own requests, whatever became of the one before it. -/
  exists_parts : ∃ parts : List (List Exchange), parts.flatten = xs ∧
    List.Forall₂ EngineCall.Answered (plan options e) parts ∧
    parts.countP (·.any Exchange.hasFailed) = failed

/-! ## Duties -/

/-- Something left to do: a call, or the second half of a change of tags. -/
inductive Duty
  | call (c : EngineCall)
  | store (d : Document)
  deriving DecidableEq, Repr

namespace Duty

/-- The request that a duty starts with. -/
def request : Duty → EngineRequest
  | call (.indexSpace space) => .indexSpace space
  | call (.trashItem space item) => .trashItem space item
  | call (.restoreItem space item) => .restoreItem space item
  | call (.moveItem space item path) => .moveItem space item path
  | call (.upsertItem space item _) => .document space item
  | store d => .upsertItem d

/-- What a duty leaves to do after the reply to its request. -/
def rest : Duty → EngineReply → List Duty
  | call (.upsertItem _ _ delta), .ok (some d) =>
    if delta.changes d then [store (delta.apply d)] else []
  | _, _ => []

/-- The requests that a duty takes at most. -/
def weight : Duty → Nat
  | call (.upsertItem _ _ _) => 2
  | _ => 1

/-- The requests that a row of duties takes at most. -/
def load : List Duty → Nat
  | [] => 0
  | d :: ds => d.weight + load ds

@[simp]
theorem load_append (ds es : List Duty) : load (ds ++ es) = load ds + load es := by
  induction ds with
  | nil => simp [load]
  | cons d ds ih => simp [load, ih, Nat.add_assoc]

/-- One request less is left. -/
theorem load_rest_lt (d : Duty) (r : EngineReply) : load (d.rest r) < d.weight := by
  unfold rest
  split
  · split <;> exact Nat.lt_of_sub_eq_succ rfl
  · cases d with
    | call c => cases c <;> exact Nat.lt_of_sub_eq_succ rfl
    | store d => exact Nat.lt_of_sub_eq_succ rfl

/-- The duties of a plan take three requests at most. -/
theorem load_plan_le (options : ReindexOptions) (e : Event) :
    load ((plan options e).map call) ≤ 3 := by
  have hpoint : ∀ p : PointChange, weight (call (p.call e.space e.item)) ≤ 2 := by
    intro p
    cases p <;> simp [PointChange.call, weight]
  have hrebuild : weight (call (.indexSpace e.space)) = 1 := rfl
  unfold plan
  split
  · next p _ =>
    have := hpoint p
    split <;> simp [load, hrebuild] <;> omega
  · split <;> simp [load, hrebuild]

end Duty

namespace Engine

variable {σ : Type}

/-- Answers a request. -/
def answer (e : Engine σ) (ctx : Context σ) : EngineRequest → Op σ (Option Document)
  | .indexSpace space => do
    let _ ← e.indexSpace ctx space
    return none
  | .trashItem space item => do
    e.trashItem ctx space item
    return none
  | .restoreItem space item => do
    e.restoreItem ctx space item
    return none
  | .moveItem space item path => do
    e.moveItem ctx space item path
    return none
  | .document space item => e.document ctx space item
  | .upsertItem d => do
    e.upsertItem ctx d
    return none

/-- Duties done one after the other: the exchanges on the way, and the states around them. -/
inductive Works (e : Engine σ) (ctx : Context σ) : List Duty → σ → List Exchange → σ → Prop
  | nil {s} : Works e ctx [] s [] s
  | cons {d ds r s t u xs} (hreply : (e.answer ctx d.request).perform s = (r, t))
      (hrest : Works e ctx (d.rest r ++ ds) t xs u) :
      Works e ctx (d :: ds) s (⟨d.request, r⟩ :: xs) u

variable {e : Engine σ} {ctx : Context σ}

/-- From a state, duties meet with one course of exchanges. -/
theorem Works.unique {ds : List Duty} {s t t' : σ} {xs xs' : List Exchange}
    (h : Works e ctx ds s xs t) (h' : Works e ctx ds s xs' t') : xs = xs' ∧ t = t' := by
  induction h generalizing xs' t' with
  | nil =>
    cases h'
    exact ⟨rfl, rfl⟩
  | cons hreply _ ih =>
    cases h' with
    | cons hreply' hrest' =>
      rw [hreply] at hreply'
      cases hreply'
      obtain ⟨rfl, rfl⟩ := ih hrest'
      exact ⟨rfl, rfl⟩

theorem Works.append {ds ds' : List Duty} {s t u : σ} {xs ys : List Exchange}
    (h : Works e ctx ds s xs t) (h' : Works e ctx ds' t ys u) :
    Works e ctx (ds ++ ds') s (xs ++ ys) u := by
  induction h with
  | nil => exact h'
  | cons hreply _ ih =>
    have hrest := ih h'
    rw [List.append_assoc] at hrest
    exact .cons hreply hrest

/-- A duty that is done with the reply to its request. -/
theorem works_singleton {d : Duty} {s t : σ} {r : EngineReply}
    (hreply : (e.answer ctx d.request).perform s = (r, t)) (hrest : d.rest r = []) :
    Works e ctx [d] s [⟨d.request, r⟩] t :=
  .cons hreply (by rw [hrest]; exact .nil)

/-! ## Calls -/

/-- The call comes out as its exchanges say: it fails exactly when one of them has failed. -/
structure CarriesOut (e : Engine σ) (ctx : Context σ) (c : EngineCall) (s : σ) (xs : List Exchange)
    (t : σ) : Prop where
  works : Works e ctx [.call c] s xs t
  answered : c.Answered xs
  state : ((e.carryOut ctx c).perform s).2 = t
  fails : (!((e.carryOut ctx c).perform s).1.isOk) = xs.any Exchange.hasFailed

/-- An operation done for its effect alone. -/
theorem perform_then_none {α : Type} (op : Op σ α) (s : σ) :
    (do let _ ← op; return none : Op σ (Option Document)).perform s =
      ((op.perform s).1.map fun _ => none, (op.perform s).2) := by
  rw [Op.perform_bind]
  obtain ⟨r, t⟩ := op.perform s
  cases r <;> rfl

/-- A call that is one request. -/
theorem carriesOut_direct {c : EngineCall} {s : σ}
    (hrest : ∀ r, (Duty.call c).rest r = [])
    (hanswered : ∀ r, c.Answered [⟨(Duty.call c).request, r⟩])
    (hanswer : (e.answer ctx (Duty.call c).request).perform s =
      (((e.carryOut ctx c).perform s).1.map fun _ => none, ((e.carryOut ctx c).perform s).2)) :
    ∃ xs t, e.CarriesOut ctx c s xs t := by
  refine ⟨_, _, works_singleton hanswer (hrest _), hanswered _, rfl, ?_⟩
  cases ((e.carryOut ctx c).perform s).1 <;> rfl

/-- A change of tags goes on as the lookup and the tags found say. -/
theorem perform_retag (e : Engine σ) (ctx : Context σ) (space item : String) (delta : TagDelta) (s : σ) :
    (e.retag ctx space item delta).perform s =
      match (e.document ctx space item).perform s with
      | (.error f, t) => (.error f, t)
      | (.ok none, t) => (.ok (), t)
      | (.ok (some d), t) =>
        if delta.changes d then (e.upsertItem ctx (delta.apply d)).perform t else (.ok (), t) := by
  rw [retag, Op.perform_bind]
  rcases (e.document ctx space item).perform s with ⟨f | _ | d, t⟩
  · rfl
  · rfl
  · show (if delta.changes d then _ else _ : Op σ Unit).perform t =
      if delta.changes d then _ else _
    split <;> rfl

/-- A change of tags is a lookup, and the store of a document whose tags change. -/
theorem exists_carriesOut_retag (space item : String) (delta : TagDelta) (s : σ) :
    ∃ xs t, e.CarriesOut ctx (.upsertItem space item delta) s xs t := by
  have hrun := perform_retag e ctx space item delta s
  rcases hlookup : (e.document ctx space item).perform s with ⟨f | _ | d, t⟩ <;>
    rw [hlookup] at hrun
  · exact ⟨_, t, works_singleton hlookup rfl, .lookupFailed, congrArg Prod.snd hrun,
      congrArg (!·.1.isOk) hrun⟩
  · exact ⟨_, t, works_singleton hlookup rfl, .unknown, congrArg Prod.snd hrun,
      congrArg (!·.1.isOk) hrun⟩
  by_cases hchanges : delta.changes d = true
  · have hrest : (Duty.call (.upsertItem space item delta)).rest (.ok (some d)) =
        [.store (delta.apply d)] := if_pos hchanges
    have hstore := perform_then_none (e.upsertItem ctx (delta.apply d)) t
    have hworks : Works e ctx [.store (delta.apply d)] t _ _ := works_singleton hstore rfl
    have hrun := hrun.trans (if_pos hchanges)
    refine ⟨_, _, .cons hlookup (by rw [hrest]; exact hworks),
      .changed (TagDelta.changes_iff.1 hchanges), congrArg Prod.snd hrun,
      (congrArg (!·.1.isOk) hrun).trans ?_⟩
    cases ((e.upsertItem ctx (delta.apply d)).perform t).1 <;> rfl
  · have hrest : (Duty.call (.upsertItem space item delta)).rest (.ok (some d)) = [] :=
      if_neg hchanges
    have htags : delta.applyTo d.tags = d.tags :=
      not_not.1 fun htags => hchanges (TagDelta.changes_iff.2 htags)
    have hrun := hrun.trans (if_neg hchanges)
    exact ⟨_, t, works_singleton hlookup hrest, .unchanged htags, congrArg Prod.snd hrun,
      congrArg (!·.1.isOk) hrun⟩

/-- Every call has its exchanges. -/
theorem exists_carriesOut (e : Engine σ) (ctx : Context σ) (c : EngineCall) (s : σ) :
    ∃ xs t, e.CarriesOut ctx c s xs t := by
  cases c with
  | indexSpace space =>
    refine carriesOut_direct (fun _ => rfl) (fun _ => .indexSpace) ?_
    have hcall := Op.perform_bind (e.indexSpace ctx space) (fun _ => pure ()) s
    have hanswer := perform_then_none (e.indexSpace ctx space) s
    refine hanswer.trans ?_
    show _ = (((e.indexSpace ctx space >>= fun _ => pure ()).perform s).1.map _,
      ((e.indexSpace ctx space >>= fun _ => pure ()).perform s).2)
    rw [hcall]
    obtain ⟨r, t⟩ := (e.indexSpace ctx space).perform s
    cases r <;> rfl
  | trashItem space item =>
    exact carriesOut_direct (fun _ => rfl) (fun _ => .trashItem) (perform_then_none _ s)
  | restoreItem space item =>
    exact carriesOut_direct (fun _ => rfl) (fun _ => .restoreItem) (perform_then_none _ s)
  | moveItem space item path =>
    exact carriesOut_direct (fun _ => rfl) (fun _ => .moveItem) (perform_then_none _ s)
  | upsertItem space item delta => exact exists_carriesOut_retag space item delta s

/-! ## Plans -/

/-- A call that fails is counted, and the others follow. -/
theorem perform_carryOutAll_cons {c : EngineCall} {calls : List EngineCall} {s t u : σ} {n : Nat}
    {failed : Bool} (hstate : ((e.carryOut ctx c).perform s).2 = t)
    (hfailed : (!((e.carryOut ctx c).perform s).1.isOk) = failed)
    (hcalls : (e.carryOutAll ctx calls).perform t = (.ok n, u)) :
    (e.carryOutAll ctx (c :: calls)).perform s = (.ok (failed.toNat + n), u) := by
  rw [carryOutAll, Op.perform_bind_of_ok (Op.perform_outcome _ s), hstate,
    Op.perform_bind_of_ok hcalls, ← hfailed]
  cases ((e.carryOut ctx c).perform s).1 <;> rfl

/-- The calls of a plan have their exchanges, and so many calls fail as have a failed one. -/
theorem exists_works_calls (e : Engine σ) (ctx : Context σ) (calls : List EngineCall) (s : σ) :
    ∃ parts t, Works e ctx (calls.map .call) s parts.flatten t ∧
      List.Forall₂ EngineCall.Answered calls parts ∧
      (e.carryOutAll ctx calls).perform s =
        (.ok (parts.countP (·.any Exchange.hasFailed)), t) := by
  induction calls generalizing s with
  | nil => exact ⟨[], s, .nil, .nil, rfl⟩
  | cons c calls ih =>
    obtain ⟨xs, t, hc⟩ := exists_carriesOut e ctx c s
    obtain ⟨parts, u, hworks, hanswered, hrun⟩ := ih t
    refine ⟨xs :: parts, u, hc.works.append hworks, .cons hc.answered hanswered, ?_⟩
    rw [perform_carryOutAll_cons hc.state hc.fails hrun, List.countP_cons, Nat.add_comm]
    cases xs.any Exchange.hasFailed <;> rfl

/-- The duties of a plan, done one after the other, are the handling of the event. -/
theorem handle_of_works {options : ReindexOptions} {event : Event} {s t : σ} {xs : List Exchange}
    (h : Works e ctx ((plan options event).map .call) s xs t) :
    ∃ failed, (e.handle options ctx event).perform s = (.ok failed, t) ∧
      event.Answered options xs failed := by
  obtain ⟨parts, u, hworks, hanswered, hrun⟩ := exists_works_calls e ctx (plan options event) s
  obtain ⟨rfl, rfl⟩ := h.unique hworks
  exact ⟨_, hrun, ⟨parts, rfl, hanswered, rfl⟩⟩

end Engine

end ScopedSearch
