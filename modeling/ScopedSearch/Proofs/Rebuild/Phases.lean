import Mathlib.Control.Monad.Basic
import ScopedSearch.Proofs.Rebuild.Run

/-!
# A rebuild, phase by phase

A rebuild takes its time: it takes a listing, looks the resources of it up one by one, and writes
what it has made of them in batches.  Between any two of these steps others may use the index.  A
phase is all that a rebuild keeps in hand between two steps.

## Main results

* `perform_finish`: after a step, what is left of a rebuild comes to the same as before it.
* `exists_alone`, `alone_iff`: steps that nobody interrupts are the rebuild.
* `advance_cases`: all that a step can do.
* `Advanced.keeps`: what holds of the resources that are listed and of the documents that are made
  of them holds of what a rebuild has in hand.
* `indexSpace_leaves`: a rebuild leaves the documents of what it does not list.
-/

namespace ScopedSearch

namespace IndexEngine

/-- How far a rebuild has come. -/
inductive Phase
  /-- The listing is to be taken. -/
  | opening
  /-- The resources are to be looked up, and then the batch is to be written. -/
  | going (p : Progress) (rs : List Resource)
  /-- The batch is to be written before the rebuild goes on. -/
  | full (p : Progress) (rs : List Resource)
  | ended (outcome : Except Fault IndexStats)
  deriving DecidableEq

namespace Phase

/-- The rebuild after a resource has been prepared. -/
def take (p : Progress) (rs : List Resource) : Prepared → Phase
  | .skip => going { p with stats := { p.stats with skipped := p.stats.skipped + 1 } } rs
  | .write d =>
    let p : Progress := {
      stats := { p.stats with degraded := p.stats.degraded + (if d.degraded then 1 else 0) }
      batch := p.batch ++ [d] }
    if batchSize ≤ p.batch.length then full p rs else going p rs

/-- The phase after a step; a step that fails ends the rebuild. -/
def after : Except Fault Phase → Phase
  | .ok ph => ph
  | .error e => ended (.error e)

/-- The resources that are still to be looked up. -/
def rest : Phase → List Resource
  | going _ rs | full _ rs => rs
  | _ => []

/-- The documents that are made and not written. -/
def batch : Phase → List Document
  | going p _ | full p _ => p.batch
  | _ => []

/-- The documents that the next step is to write. -/
def due : Phase → List Document
  | going p [] | full p _ => p.batch
  | _ => []

/-- The documents that a step has written; one that fails writes none. -/
def written (ph : Phase) (r : Except Fault Phase) : List Document := if r.isOk then ph.due else []

/-- The resources that are still to be looked up, and the documents that are made, are as stated. -/
structure Of (listed : Resource → Prop) (made : Document → Prop) (ph : Phase) : Prop where
  rest : ∀ r ∈ ph.rest, listed r
  batch : ∀ d ∈ ph.batch, made d

/-- A rebuild that is to open has nothing in hand. -/
theorem of_opening (listed : Resource → Prop) (made : Document → Prop) : opening.Of listed made :=
  ⟨fun _ hr => (nomatch hr), fun _ hd => (nomatch hd)⟩

theorem mem_batch_of_mem_written {ph : Phase} {r : Except Fault Phase} {d : Document}
    (h : d ∈ ph.written r) : d ∈ ph.batch := by
  unfold written at h
  split at h
  · unfold due at h
    split at h
    · exact h
    · exact h
    · cases h
  · cases h

end Phase

section

variable {σ : Type} (e : IndexEngine σ) (ctx : Context σ) (space : String)

/-- The next step of a rebuild. -/
def advance : Phase → Op σ Phase
  | .opening => do
    ctx.check
    let storage ← Op.read e.storage
    let rs ← Op.ofExcept (storage.walkSpace space)
    return .going { stats := { scanned := rs.length } } rs
  | .going p [] => do
    let p ← e.flush ctx p
    return .ended (.ok p.stats)
  | .going p (r :: rs) => do
    ctx.check
    let prepared ← e.prepare ctx r
    return .take p rs prepared
  | .full p rs => do
    let p ← e.flush ctx p
    return .going p rs
  | .ended outcome => return .ended outcome

/-- What is left of a rebuild, in one go. -/
def finish : Phase → Op σ IndexStats
  | .opening => e.indexSpace ctx space
  | .going p rs => do
    let p ← e.steps ctx p rs
    let p ← e.flush ctx p
    return p.stats
  | .full p rs => do
    let p ← e.flush ctx p
    let p ← e.steps ctx p rs
    let p ← e.flush ctx p
    return p.stats
  | .ended outcome => Op.ofExcept outcome

/-- Steps of a rebuild that nobody interrupts. -/
inductive Alone : Phase → σ → Phase → σ → Prop
  | refl {ph s} : Alone ph s ph s
  | step {ph s r t ph' u} (hstep : (e.advance ctx space ph).perform s = (r, t))
      (hrest : Alone (.after r) t ph' u) : Alone ph s ph' u

end

variable {σ : Type} {e : IndexEngine σ} {ctx : Context σ} {space : String} {s t u : σ}
  {ph ph' : Phase}

/-- What is left of a rebuild is its next step, and what is left then. -/
theorem finish_eq_advance (e : IndexEngine σ) (ctx : Context σ) (space : String) (ph : Phase) :
    e.finish ctx space ph = (do
      let ph ← e.advance ctx space ph
      e.finish ctx space ph) := by
  cases ph with
  | opening => simp only [finish, advance, indexSpace, bind_assoc, pure_bind]
  | going p rs =>
    cases rs with
    | nil =>
      simp only [finish, advance, steps, bind_assoc, pure_bind]
      rfl
    | cons r rs =>
      simp only [finish, advance, steps, step, bind_assoc, pure_bind]
      congr 1
      funext _
      congr 1
      funext prepared
      cases prepared with
      | skip => simp only [Phase.take, pure_bind]
      | write d =>
        dsimp only [Phase.take]
        split
        · rfl
        · simp only [pure_bind]
  | full p rs => simp only [finish, advance, bind_assoc, pure_bind]
  | ended outcome => simp only [advance, pure_bind]

/-- After a step, what is left of a rebuild comes to the same as before it. -/
theorem perform_finish {r : Except Fault Phase}
    (hstep : (e.advance ctx space ph).perform s = (r, t)) :
    (e.finish ctx space ph).perform s = (e.finish ctx space (.after r)).perform t := by
  rw [finish_eq_advance, Op.perform_bind, hstep]
  cases r <;> rfl

theorem Alone.trans (h : e.Alone ctx space ph s ph' t) {ph'' : Phase}
    (h' : e.Alone ctx space ph' t ph'' u) : e.Alone ctx space ph s ph'' u := by
  induction h with
  | refl => exact h'
  | step hstep _ ih => exact .step hstep (ih h')

/-- Steps that nobody interrupts leave what is left of a rebuild to come to the same. -/
theorem Alone.perform_finish (h : e.Alone ctx space ph s ph' t) :
    (e.finish ctx space ph).perform s = (e.finish ctx space ph').perform t := by
  induction h with
  | refl => rfl
  | step hstep _ ih => rw [IndexEngine.perform_finish hstep, ih]

/-- Steps come to an end when those after the next one do. -/
theorem exists_alone_of_advance (h : ∀ ph' t, (e.advance ctx space ph).perform s = (.ok ph', t) →
      ∃ outcome u, e.Alone ctx space ph' t (.ended outcome) u) :
    ∃ outcome u, e.Alone ctx space ph s (.ended outcome) u := by
  rcases hstep : (e.advance ctx space ph).perform s with ⟨fault | ph', t⟩
  · exact ⟨.error fault, t, .step hstep .refl⟩
  · obtain ⟨outcome, u, hrest⟩ := h ph' t hstep
    exact ⟨outcome, u, .step hstep hrest⟩

/-- Where a rebuild that goes on with the resources ends, so does one that writes a batch before. -/
theorem exists_alone_full {rs : List Resource}
    (h : ∀ p s, ∃ outcome t, e.Alone ctx space (.going p rs) s (.ended outcome) t) (p : Progress)
    (s : σ) : ∃ outcome t, e.Alone ctx space (.full p rs) s (.ended outcome) t := by
  refine exists_alone_of_advance fun ph' t hstep => ?_
  obtain ⟨p', _, -, hgoing⟩ := Op.perform_bind_eq_ok.1 hstep
  cases hgoing
  exact h p' t

theorem exists_alone_going (rs : List Resource) (p : Progress) (s : σ) :
    ∃ outcome t, e.Alone ctx space (.going p rs) s (.ended outcome) t := by
  induction rs generalizing p s with
  | nil =>
    refine exists_alone_of_advance fun ph' t hstep => ?_
    obtain ⟨p', _, -, hended⟩ := Op.perform_bind_eq_ok.1 hstep
    cases hended
    exact ⟨_, _, .refl⟩
  | cons r rs ih =>
    refine exists_alone_of_advance fun ph' t hstep => ?_
    obtain ⟨_, _, -, hprepare⟩ := Op.perform_bind_eq_ok.1 hstep
    obtain ⟨prepared, _, -, htaken⟩ := Op.perform_bind_eq_ok.1 hprepare
    cases htaken
    cases prepared with
    | skip => exact ih _ t
    | write d =>
      dsimp only [Phase.take]
      split
      · exact exists_alone_full ih _ t
      · exact ih _ t

/-- Steps that nobody interrupts come to an end, wherever they are taken up. -/
theorem exists_alone (e : IndexEngine σ) (ctx : Context σ) (space : String) (ph : Phase) (s : σ) :
    ∃ outcome t, e.Alone ctx space ph s (.ended outcome) t := by
  cases ph with
  | opening =>
    refine exists_alone_of_advance fun ph' t hstep => ?_
    obtain ⟨_, _, -, hread⟩ := Op.perform_bind_eq_ok.1 hstep
    obtain ⟨_, _, -, hwalk⟩ := Op.perform_bind_eq_ok.1 hread
    obtain ⟨rs, _, -, hgoing⟩ := Op.perform_bind_eq_ok.1 hwalk
    cases hgoing
    exact exists_alone_going rs _ t
  | going p rs => exact exists_alone_going rs p s
  | full p rs => exact exists_alone_full (exists_alone_going rs) p s
  | ended outcome => exact ⟨outcome, s, .refl⟩

/-- A rebuild is its steps, when nobody interrupts them. -/
theorem alone_iff {outcome : Except Fault IndexStats} :
    e.Alone ctx space .opening s (.ended outcome) t ↔
      (e.indexSpace ctx space).perform s = (outcome, t) := by
  constructor
  · intro h
    exact h.perform_finish
  · intro h
    obtain ⟨outcome', t', halone⟩ := exists_alone e ctx space .opening s
    have hrun : (e.indexSpace ctx space).perform s = (outcome', t') := halone.perform_finish
    rw [h] at hrun
    cases hrun
    exact halone

end IndexEngine

namespace Installation

open IndexEngine (Phase)

variable {σ : Type} (I : Installation σ)

/-- Neither a check nor the extractor touches the index or storage. -/
structure Unobtrusive (ctx : Context σ) : Prop where
  quiet : I.Quiet ctx
  extract : ∀ r s, I.Calm s ((I.extractor.tryExtract ctx r).perform s).2

variable {I} {ctx : Context σ} {space : String} {s t : σ} {ph : Phase} {x : Except Fault Phase}

/-- A document that has to be made of the file itself is a document of the resource. -/
theorem extracted_leaves (hctx : I.Unobtrusive ctx) (r : Resource) (s : σ) :
    ∃ t content degraded, I.Calm s t ∧
      (I.engine.extracted ctx r).perform s =
        (.ok (.write (r.toDocument content degraded)), t) := by
  have hcalm := hctx.extract r s
  rcases htry : (I.extractor.tryExtract ctx r).perform s with ⟨fault | text, t⟩
  · rw [htry] at hcalm
    exact ⟨t, "", true, hcalm, IndexEngine.perform_extracted_of_error htry⟩
  · rw [htry] at hcalm
    exact ⟨t, text, false, hcalm, IndexEngine.perform_extracted_of_ok htry⟩

/-- What is prepared of a resource is a document of it, and the index stays. -/
theorem prepare_leaves (hctx : I.Unobtrusive ctx) {r : Resource} {t : σ}
    {prepared : Except Fault IndexEngine.Prepared}
    (h : (I.engine.prepare ctx r).perform s = (prepared, t)) :
    I.Calm s t ∧ ∀ d, prepared = .ok (.write d) →
      ∃ content degraded, d = r.toDocument content degraded := by
  rw [IndexEngine.prepare_eq, engine_backend] at h
  obtain ⟨u, hcalm, hget | ⟨fault, hget⟩⟩ := get_spec hctx.quiet r.space r.item s
  · rw [Op.perform_bind_of_ok hget] at h
    cases hdecided : r.decided? ((I.documents s).find? (documentKey r.space r.item)) with
    | some p =>
      rw [hdecided] at h
      cases h
      refine ⟨hcalm, ?_⟩
      rintro d ⟨⟩
      obtain ⟨-, rfl⟩ | ⟨old, -, -, rfl⟩ := Resource.of_decided_write hdecided
      · exact ⟨"", false, rfl⟩
      · exact ⟨old.content, false, rfl⟩
    | none =>
      obtain ⟨v, content, degraded, hcalm', hextracted⟩ := extracted_leaves hctx r u
      rw [hdecided] at h
      cases hextracted.symm.trans h
      refine ⟨hcalm.trans hcalm', ?_⟩
      rintro d ⟨⟩
      exact ⟨content, degraded, rfl⟩
  · rw [Op.perform_bind_of_error hget] at h
    cases h
    exact ⟨hcalm, nofun⟩

/-- All that a step of a rebuild can do. -/
inductive Advanced (I : Installation σ) (space : String) (s t : σ) :
    Phase → Except Fault Phase → Prop
  | failed {ph fault} (h : I.Becomes s t (I.documents s)) : Advanced I space s t ph (.error fault)
  | opened {p rs} (hwalk : (I.storage s).walkSpace space = .ok rs) (hbatch : p.batch = [])
    (h : I.Becomes s t (I.documents s)) : Advanced I space s t .opening (.ok (.going p rs))
  | taken {p r rs prepared}
    (hdocument : ∀ d, prepared = .write d →
      ∃ content degraded, d = Resource.toDocument r content degraded)
    (h : I.Becomes s t (I.documents s)) :
    Advanced I space s t (.going p (r :: rs)) (.ok (.take p rs prepared))
  | flushed {p q rs} (hbatch : q.batch = [])
    (h : I.Becomes s t ((I.documents s).placeAll p.batch)) :
    Advanced I space s t (.full p rs) (.ok (.going q rs))
  | completed {p stats} (h : I.Becomes s t ((I.documents s).placeAll p.batch)) :
    Advanced I space s t (.going p []) (.ok (.ended (.ok stats)))
  | idle {outcome} (h : I.Becomes s t (I.documents s)) :
    Advanced I space s t (.ended outcome) (.ok (.ended outcome))

theorem advance_cases (hctx : I.Unobtrusive ctx) (hs : I.Settled s)
    (hstep : (I.engine.advance ctx space ph).perform s = (x, t)) : I.Advanced space s t ph x := by
  cases ph with
  | opening =>
    rcases hcheck : ctx.check.perform s with ⟨fault | ⟨⟩, u⟩
    · rw [IndexEngine.advance, Op.perform_bind_of_error hcheck] at hstep
      cases hstep
      exact .failed (check_becomes hctx.quiet hs hcheck)
    · have hu := check_becomes hctx.quiet hs hcheck
      rw [IndexEngine.advance, Op.perform_bind_of_ok hcheck,
        Op.perform_bind_of_ok (Op.perform_read _ u), engine_storage, hu.storage] at hstep
      cases hwalk : (I.storage s).walkSpace space with
      | error fault =>
        rw [hwalk] at hstep
        cases hstep
        exact .failed hu
      | ok rs =>
        rw [hwalk] at hstep
        cases hstep
        exact .opened hwalk rfl hu
  | going p rs =>
    cases rs with
    | nil =>
      rcases flush_spec hctx.quiet hs p with ⟨q, u, hflush, -, hu⟩ | ⟨fault, u, hflush, hu⟩
      · rw [IndexEngine.advance, Op.perform_bind_of_ok hflush] at hstep
        cases hstep
        exact .completed hu
      · rw [IndexEngine.advance, Op.perform_bind_of_error hflush] at hstep
        cases hstep
        exact .failed hu
    | cons r rs =>
      rcases hcheck : ctx.check.perform s with ⟨fault | ⟨⟩, u⟩
      · rw [IndexEngine.advance, Op.perform_bind_of_error hcheck] at hstep
        cases hstep
        exact .failed (check_becomes hctx.quiet hs hcheck)
      · have hu := check_becomes hctx.quiet hs hcheck
        rw [IndexEngine.advance, Op.perform_bind_of_ok hcheck] at hstep
        rcases hprepare : (I.engine.prepare ctx r).perform u with ⟨fault | prepared, v⟩
        · obtain ⟨hcalm, -⟩ := prepare_leaves hctx hprepare
          rw [Op.perform_bind_of_error hprepare] at hstep
          cases hstep
          exact .failed (hu.keep (hcalm.becomes hu.settled))
        · obtain ⟨hcalm, hdocument⟩ := prepare_leaves hctx hprepare
          rw [Op.perform_bind_of_ok hprepare] at hstep
          cases hstep
          exact .taken (fun d hd => hdocument d (congrArg _ hd))
            (hu.keep (hcalm.becomes hu.settled))
  | full p rs =>
    rcases flush_spec hctx.quiet hs p with ⟨q, u, hflush, hbatch, hu⟩ | ⟨fault, u, hflush, hu⟩
    · rw [IndexEngine.advance, Op.perform_bind_of_ok hflush] at hstep
      cases hstep
      exact .flushed hbatch hu
    · rw [IndexEngine.advance, Op.perform_bind_of_error hflush] at hstep
      cases hstep
      exact .failed hu
  | ended outcome =>
    cases hstep
    exact .idle (Becomes.refl hs)

/-- A step puts into the index what it has written, and touches nothing else. -/
theorem Advanced.becomes (h : I.Advanced space s t ph x) :
    I.Becomes s t ((I.documents s).placeAll (ph.written x)) := by
  cases h with
  | failed h | opened _ _ h | taken _ h | flushed _ h | completed h | idle h => exact h

/--
What holds of the resources that storage lists and of the documents that are made of them holds of
what a rebuild has in hand.
-/
theorem Advanced.keeps {listed : Resource → Prop} {made : Document → Prop}
    (h : I.Advanced space s t ph x) (hph : ph.Of listed made)
    (hmade : ∀ r, listed r → ∀ content degraded, made (r.toDocument content degraded))
    (hlisted : ∀ rs, (I.storage s).walkSpace space = .ok rs → ∀ r ∈ rs, listed r) :
    (Phase.after x).Of listed made := by
  cases h with
  | failed _ | completed _ | idle _ => exact ⟨nofun, nofun⟩
  | @opened p rs hwalk hbatch _ =>
    refine ⟨hlisted rs hwalk, ?_⟩
    show ∀ d ∈ p.batch, made d
    rw [hbatch]
    exact nofun
  | @flushed p q rs hbatch _ =>
    refine ⟨hph.rest, ?_⟩
    show ∀ d ∈ q.batch, made d
    rw [hbatch]
    exact nofun
  | @taken p r rs prepared hdocument _ =>
    obtain ⟨hr, hrs⟩ := List.forall_mem_cons.1 hph.rest
    cases prepared with
    | skip => exact ⟨hrs, hph.batch⟩
    | write d =>
      obtain ⟨content, degraded, rfl⟩ := hdocument d rfl
      have hbatch : ∀ d ∈ p.batch ++ [r.toDocument content degraded], made d :=
        List.forall_mem_append.2 ⟨hph.batch, by simpa using hmade r hr content degraded⟩
      dsimp only [Phase.after, Phase.take]
      split
      · exact ⟨hrs, hbatch⟩
      · exact ⟨hrs, hbatch⟩

/-- Steps that nobody interrupts leave what stands under a key that is not listed. -/
theorem leaves_of_alone {ph' : Phase} {key : String} (hctx : I.Unobtrusive ctx)
    (hs : I.Settled s)
    (hlisted : ∀ rs, (I.storage s).walkSpace space = .ok rs → ∀ r ∈ rs, r.key ≠ key)
    (hph : ph.Of (·.key ≠ key) (·.key ≠ key)) (h : I.engine.Alone ctx space ph s ph' t) :
    I.Settled t ∧ (I.documents t).contents key = (I.documents s).contents key := by
  induction h with
  | refl => exact ⟨hs, rfl⟩
  | @step ph s x u _ t hstep _ ih =>
    have hadvanced := advance_cases hctx hs hstep
    have hu := hadvanced.becomes
    have hunwritten : ∀ d ∈ ph.written x, key ≠ d.key := fun d hd =>
      (hph.batch d (Phase.mem_batch_of_mem_written hd)).symm
    obtain ⟨hsettled, hsame⟩ := ih hu.settled (by rwa [hu.storage])
      (hadvanced.keeps hph (fun _ hr _ _ => hr) hlisted)
    refine ⟨hsettled, ?_⟩
    rw [hsame, hu.documents, Collection.contents_placeAll, Contents.writeAll_of_ne hunwritten]

/-- Steps that nobody interrupts leave storage. -/
theorem storage_of_alone {ph' : Phase} (hctx : I.Unobtrusive ctx) (hs : I.Settled s)
    (h : I.engine.Alone ctx space ph s ph' t) : I.storage t = I.storage s := by
  induction h with
  | refl => rfl
  | step hstep _ ih =>
    have hu := (advance_cases hctx hs hstep).becomes
    exact (ih hu.settled).trans hu.storage

/-- Whatever comes of it, a rebuild leaves what stands under a key that is not listed. -/
theorem indexSpace_leaves {key : String} {outcome : Except Fault IndexStats}
    (hctx : I.Unobtrusive ctx) (hs : I.Settled s)
    (hlisted : ∀ rs, (I.storage s).walkSpace space = .ok rs → ∀ r ∈ rs, r.key ≠ key)
    (hrun : (I.engine.indexSpace ctx space).perform s = (outcome, t)) :
    I.Settled t ∧ (I.documents t).contents key = (I.documents s).contents key :=
  leaves_of_alone hctx hs hlisted (Phase.of_opening _ _) (IndexEngine.alone_iff.2 hrun)

end Installation

end ScopedSearch
