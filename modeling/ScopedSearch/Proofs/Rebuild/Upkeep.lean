import ScopedSearch.Proofs.Events.PointChanges

/-!
# What holds of every document

A property that rebuilds and events should keep of all documents in an index has to survive in two
places: in the index, and in the batch that a rebuild still has in hand.  It is kept by everything
but the preparation of a listed resource, where a document is made, as long as changes of single
documents keep it.  So a proof that a rebuild keeps it only has to look at resources, each with the
state that it is prepared in.  Operations may fail halfway, and what is kept is kept then too.

## Main results

* `Safe.bind`: two operations in a row keep a property that each of them keeps.
* `steps_safe`: a listing keeps what the preparation of its resources keeps.
* `carryOut_safe`: a call keeps what rebuilds and changes of single documents keep.
-/

namespace ScopedSearch

/--
While the resources of a listing are taken in, a resource of it comes to be prepared, in the state
that is named last.
-/
inductive IndexEngine.Prepares {σ : Type} (e : IndexEngine σ) (ctx : Context σ) :
    IndexEngine.Progress → σ → List Resource → Resource → σ → Prop
  | here {p : IndexEngine.Progress} {s v : σ} {r : Resource} {rs : List Resource}
      (hcheck : ctx.check.perform s = (.ok (), v)) : Prepares e ctx p s (r :: rs) r v
  | later {p p' : IndexEngine.Progress} {s t v : σ} {r x : Resource} {rs : List Resource}
      (hstep : (e.step ctx p r).perform s = (.ok p', t)) (h : Prepares e ctx p' t rs x v) :
      Prepares e ctx p s (r :: rs) x v

/-- Only what is listed is prepared. -/
theorem IndexEngine.Prepares.mem {σ : Type} {e : IndexEngine σ} {ctx : Context σ}
    {p : IndexEngine.Progress} {s v : σ} {rs : List Resource} {r : Resource}
    (h : e.Prepares ctx p s rs r v) : r ∈ rs := by
  induction h with
  | here _ => exact List.mem_cons_self
  | later _ _ ih => exact List.mem_cons_of_mem _ ih

/-- A document that is there after a change was there before or has been changed. -/
theorem Collection.mem_amend {c : Collection} {key : String} {f : Document → Document}
    {d : Document} (h : d ∈ (c.amend key f).toList) :
    d ∈ c.toList ∨ ∃ e ∈ c.toList, d = f e := by
  unfold amend at h
  cases hfind : c.find? key with
  | none =>
    rw [hfind] at h
    exact .inl h
  | some e =>
    rw [hfind] at h
    rcases mem_place_iff.1 h with rfl | ⟨hd, _⟩
    · exact .inr ⟨e, List.mem_of_find?_eq_some hfind, rfl⟩
    · exact .inl hd

namespace Installation

variable {σ : Type} {I : Installation σ} {world : Storage → Prop} {Q : Document → Prop}
  {ctx : Context σ} {s t : σ}

/-- Every document of the index has the property, and storage is one of the given ones. -/
structure Sound (I : Installation σ) (world : Storage → Prop) (Q : Document → Prop) (s : σ) :
    Prop where
  settled : I.Settled s
  stored : world (I.storage s)
  holds : ∀ d ∈ (I.documents s).toList, Q d

theorem IsEmpty.sound (h : I.IsEmpty s) (hworld : world (I.storage s)) : I.Sound world Q s := by
  refine ⟨h.settled, hworld, fun d hd => ?_⟩
  rw [documents, h.view] at hd
  cases hd

namespace Sound

theorem of_becomes {c : Collection} (hs : I.Sound world Q s) (h : I.Becomes s t c)
    (hc : ∀ d ∈ c.toList, Q d) : I.Sound world Q t where
  settled := h.settled
  stored := by
    rw [h.storage]
    exact hs.stored
  holds := by
    rw [h.documents]
    exact hc

theorem keep (hs : I.Sound world Q s) (h : I.Becomes s t (I.documents s)) :
    I.Sound world Q t := hs.of_becomes h hs.holds

theorem calm (hs : I.Sound world Q s) (h : I.Calm s t) : I.Sound world Q t :=
  hs.keep (h.becomes hs.settled)

/-- What stands under a key has the property. -/
theorem under_key (hs : I.Sound world Q s) {key : String} {d : Document}
    (hd : (I.documents s).contents key = some d) : Q d :=
  hs.holds d (Collection.mem_toList_iff.2 (Collection.key_of_contents hd ▸ hd))

/-- Writing documents that have the property keeps it. -/
theorem placeAll (hs : I.Sound world Q s) (docs : List Document) (hdocs : ∀ d ∈ docs, Q d)
    (h : I.Becomes s t ((I.documents s).placeAll docs)) : I.Sound world Q t := by
  refine hs.of_becomes h fun d hd => ?_
  rw [Collection.mem_toList_iff, Collection.contents_placeAll] at hd
  rcases Contents.mem_of_writeAll_eq hd with hold | hnew
  · exact hs.under_key hold
  · exact hdocs d hnew

/-- A change that keeps the property of a document keeps it of all. -/
theorem amend (hs : I.Sound world Q s) {key : String} {f : Document → Document}
    (hf : ∀ d, Q d → Q (f d)) (h : I.Becomes s t ((I.documents s).amend key f)) :
    I.Sound world Q t := by
  refine hs.of_becomes h fun d hd => ?_
  rcases Collection.mem_amend hd with hold | ⟨e, he, rfl⟩
  · exact hs.holds d hold
  · exact hf e (hs.holds e he)

/-- A state that is sound is so for other storages and a weaker property. -/
theorem mono {world' : Storage → Prop} {Q' : Document → Prop} (hs : I.Sound world Q s)
    (hworld : world' (I.storage s)) (hQ : ∀ d, Q d → Q' d) : I.Sound world' Q' s :=
  ⟨hs.settled, hworld, fun d hd => hQ d (hs.holds d hd)⟩

end Sound

/-! ## Operations -/

/--
Whatever comes of the operation, the index is sound afterwards; where it succeeds, what it yields
is as stated.
-/
def Safe (I : Installation σ) (world : Storage → Prop) (Q : Document → Prop) {α : Type}
    (op : Op σ α) (s : σ) (P : α → σ → Prop) : Prop :=
  ∀ r t, op.perform s = (r, t) → I.Sound world Q t ∧ ∀ a, r = .ok a → P a t

namespace Safe

variable {α β : Type} {op : Op σ α} {next : α → Op σ β} {P : α → σ → Prop} {R : β → σ → Prop}

/-- An operation that succeeds in a sound state is safe. -/
theorem of_ok {a : α} (hrun : op.perform s = (.ok a, t)) (ht : I.Sound world Q t) (ha : P a t) :
    I.Safe world Q op s P := by
  intro r u hrun'
  rw [hrun] at hrun'
  cases hrun'
  exact ⟨ht, fun b hb => by cases hb; exact ha⟩

/-- So is one that fails in a sound state. -/
theorem of_error {e : Fault} (hrun : op.perform s = (.error e, t)) (ht : I.Sound world Q t) :
    I.Safe world Q op s P := by
  intro r u hrun'
  rw [hrun] at hrun'
  cases hrun'
  exact ⟨ht, fun b hb => by cases hb⟩

theorem of_pure {a : α} (hs : I.Sound world Q s) (ha : P a s) : I.Safe world Q (pure a) s P :=
  of_ok rfl hs ha

/-- Two operations in a row keep a property that each of them keeps. -/
theorem bind (h : I.Safe world Q op s P)
    (hnext : ∀ a t, I.Sound world Q t → P a t → I.Safe world Q (next a) t R) :
    I.Safe world Q (op >>= next) s R := by
  intro r u hrun
  rw [Op.perform_bind] at hrun
  rcases hop : op.perform s with ⟨e | a, t⟩
  · rw [hop] at hrun
    cases hrun
    exact ⟨(h _ _ hop).1, fun b hb => by cases hb⟩
  · rw [hop] at hrun
    obtain ⟨ht, ha⟩ := h _ _ hop
    exact hnext a t ht (ha a rfl) r u hrun

theorem of_read {f : σ → α} (hs : I.Sound world Q s) :
    I.Safe world Q (Op.read f) s fun a t => t = s ∧ a = f s :=
  of_ok rfl hs ⟨rfl, rfl⟩

theorem of_ofExcept {x : Except Fault α} (hs : I.Sound world Q s) :
    I.Safe world Q (Op.ofExcept x) s fun a t => t = s ∧ x = .ok a := by
  rintro r t ⟨⟩
  exact ⟨hs, fun a ha => ⟨rfl, ha⟩⟩

theorem outcome (h : I.Safe world Q op s P) :
    I.Safe world Q op.outcome s fun _ t => t = (op.perform s).2 := by
  rintro r t ⟨⟩
  exact ⟨(h _ _ rfl).1, fun _ _ => rfl⟩

/-- Less may be said of what an operation yields. -/
theorem weaken {P' : α → σ → Prop} (h : I.Safe world Q op s P) (hP : ∀ a t, P a t → P' a t) :
    I.Safe world Q op s P' := by
  intro r t hrun
  obtain ⟨ht, ha⟩ := h r t hrun
  exact ⟨ht, fun a hr => hP a t (ha a hr)⟩

/-- What is safe for some storages is safe for more of them. -/
theorem mono {world' : Storage → Prop} (h : I.Safe world Q op s P)
    (hworld : ∀ S, world S → world' S) : I.Safe world' Q op s P := by
  intro r t hrun
  obtain ⟨ht, ha⟩ := h r t hrun
  exact ⟨ht.mono (hworld _ ht.stored) fun _ hd => hd, ha⟩

end Safe

theorem check_safe (hctx : I.Quiet ctx) (hs : I.Sound world Q s) :
    I.Safe world Q ctx.check s fun _ t => ctx.check.perform s = (.ok (), t) := by
  intro r t hrun
  refine ⟨hs.calm (check_calm hctx hrun), ?_⟩
  rintro ⟨⟩ rfl
  exact hrun

theorem upsert_safe {docs : List Document} (hctx : I.Quiet ctx) (hs : I.Sound world Q s)
    (hdocs : ∀ d ∈ docs, Q d) :
    I.Safe world Q (I.backend.upsert ctx docs) s fun _ _ => True := by
  rcases upsert_spec hctx hs.settled docs with ⟨t, hok, h⟩ | ⟨e, t, herror, h⟩
  · exact Safe.of_ok hok (hs.placeAll docs hdocs h) trivial
  · exact Safe.of_error herror (hs.keep h)

theorem get_safe (hctx : I.Quiet ctx) (hs : I.Sound world Q s) (space item : String) :
    I.Safe world Q (I.backend.get ctx space item) s fun found t =>
      (I.backend.get ctx space item).perform s = (.ok found, t) ∧
        found = (I.documents s).contents (documentKey space item) := by
  obtain ⟨t, hcalm, hok | ⟨e, herror⟩⟩ := get_spec hctx space item s
  · exact Safe.of_ok hok (hs.calm hcalm) ⟨hok, rfl⟩
  · exact Safe.of_error herror (hs.calm hcalm)

/-- A call for the change of a document keeps what the change keeps. -/
theorem pointCall_safe (hctx : I.Quiet ctx) (hs : I.Sound world Q s) (space item : String)
    {p : PointChange} (hp : ∀ d, Q d → Q (p.apply d)) :
    I.Safe world Q (I.engine.toEngine.carryOut ctx (p.call space item)) s fun _ _ => True := by
  rcases pointCall_spec hctx hs.settled space item p with ⟨t, hok, h⟩ | ⟨e, t, herror, h⟩
  · exact Safe.of_ok hok (hs.amend hp h) trivial
  · exact Safe.of_error herror (hs.keep h)

/-! ## An engine over the backend -/

section Engine

variable {e : IndexEngine σ} (he : e.backend = I.backend)

include he

theorem flush_safe {p : IndexEngine.Progress} (hctx : I.Quiet ctx) (hs : I.Sound world Q s)
    (hbatch : ∀ d ∈ p.batch, Q d) :
    I.Safe world Q (e.flush ctx p) s fun p' _ => p'.batch = [] := by
  have hupsert := upsert_safe hctx hs hbatch
  rw [← he] at hupsert
  exact Safe.bind hupsert fun _ _ ht _ => Safe.of_pure ht rfl

/-- Taking a resource in keeps what its preparation keeps, in the index and in the batch. -/
theorem step_safe {p : IndexEngine.Progress} {r : Resource} (hctx : I.Quiet ctx)
    (hs : I.Sound world Q s) (hbatch : ∀ d ∈ p.batch, Q d)
    (hprepare : ∀ v, ctx.check.perform s = (.ok (), v) → I.Sound world Q v →
      I.Safe world Q (e.prepare ctx r) v fun prepared _ => ∀ d, prepared = .write d → Q d) :
    I.Safe world Q (e.step ctx p r) s fun p' _ => ∀ d ∈ p'.batch, Q d := by
  refine Safe.bind (check_safe hctx hs) fun _ v hv hcheck => ?_
  refine Safe.bind (hprepare v hcheck hv) fun prepared t ht hprepared => ?_
  cases prepared with
  | skip => exact Safe.of_pure ht hbatch
  | write d =>
    have hmore : ∀ x ∈ p.batch ++ [d], Q x := by
      intro x hx
      rcases List.mem_append.1 hx with hx | hx
      · exact hbatch x hx
      · rw [List.mem_singleton.1 hx]
        exact hprepared d rfl
    dsimp only
    split
    · refine (flush_safe he hctx ht hmore).weaken fun p' _ hempty x hx => ?_
      rw [hempty] at hx
      cases hx
    · exact Safe.of_pure ht hmore

/-- A listing keeps what the preparation of its resources keeps. -/
theorem steps_safe {rs : List Resource} {p : IndexEngine.Progress} (hctx : I.Quiet ctx)
    (hs : I.Sound world Q s) (hbatch : ∀ d ∈ p.batch, Q d)
    (hprepare : ∀ r v, e.Prepares ctx p s rs r v → I.Sound world Q v →
      I.Safe world Q (e.prepare ctx r) v fun prepared _ => ∀ d, prepared = .write d → Q d) :
    I.Safe world Q (e.steps ctx p rs) s fun p' _ => ∀ d ∈ p'.batch, Q d := by
  induction rs generalizing s p with
  | nil => exact Safe.of_pure hs hbatch
  | cons r rs ih =>
    have hstep := step_safe he hctx hs hbatch fun v hcheck => hprepare r v (.here hcheck)
    -- the resources behind this one are prepared in states that its run leads to, so the run is
    -- looked at as such
    intro outcome u hrun
    rw [IndexEngine.steps, Op.perform_bind] at hrun
    rcases hrun' : (e.step ctx p r).perform s with ⟨fault | p', t⟩
    · rw [hrun'] at hrun
      cases hrun
      exact ⟨(hstep _ _ hrun').1, fun _ h => by cases h⟩
    · rw [hrun'] at hrun
      obtain ⟨ht, hbatch'⟩ := hstep _ _ hrun'
      exact ih ht (hbatch' p' rfl) (fun x v hx => hprepare x v (.later hrun' hx)) outcome u hrun

/-- A rebuild keeps what its listing keeps. -/
theorem indexSpace_safe (hctx : I.Quiet ctx) (hs : I.Sound world Q s) (space : String)
    (hsteps : ∀ t rs, ctx.check.perform s = (.ok (), t) → (e.storage t).walkSpace space = .ok rs →
      I.Sound world Q t →
      I.Safe world Q (e.steps ctx { stats := { scanned := rs.length } } rs) t
        fun p _ => ∀ d ∈ p.batch, Q d) :
    I.Safe world Q (e.indexSpace ctx space) s fun _ _ => True := by
  refine Safe.bind (check_safe hctx hs) fun _ t ht hcheck => ?_
  refine Safe.bind (Safe.of_read ht) ?_
  rintro storage t ht ⟨rfl, rfl⟩
  refine Safe.bind (Safe.of_ofExcept ht) ?_
  rintro rs t ht ⟨rfl, hwalk⟩
  refine Safe.bind (hsteps t rs hcheck hwalk ht) fun p u hu hbatch => ?_
  exact Safe.bind (flush_safe he hctx hu hbatch) fun _ _ hv _ => Safe.of_pure hv trivial

/-- A call keeps what rebuilds and changes of single documents keep. -/
theorem carryOut_safe (hctx : I.Quiet ctx) (hs : I.Sound world Q s)
    (hchange : ∀ (p : PointChange) d, Q d → Q (p.apply d)) (call : EngineCall)
    (hindex : ∀ space, call = .indexSpace space →
      I.Safe world Q (e.indexSpace ctx space) s fun _ _ => True) :
    I.Safe world Q (e.toEngine.carryOut ctx call) s fun _ _ => True := by
  have hengine : e.backend = I.engine.backend := he
  have hpoint : ∀ space item (p : PointChange),
      I.Safe world Q (e.toEngine.carryOut ctx (p.call space item)) s fun _ _ => True := by
    intro space item p
    rw [Engine.carryOut_pointCall hengine]
    exact pointCall_safe hctx hs space item (hchange p)
  cases call with
  | indexSpace space => exact Safe.bind (hindex space rfl) fun _ _ ht _ => Safe.of_pure ht trivial
  | trashItem space item => exact hpoint space item .trash
  | restoreItem space item => exact hpoint space item .restore
  | moveItem space item path => exact hpoint space item (.move path)
  | upsertItem space item delta => exact hpoint space item (.retag delta)

end Engine

end Installation

end ScopedSearch
