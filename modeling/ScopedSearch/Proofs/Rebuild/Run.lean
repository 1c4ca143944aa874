import ScopedSearch.Proofs.Index.Installation
import ScopedSearch.Proofs.Rebuild.Revision

/-!
# The run of a rebuild

A rebuild looks every resource up in the index while documents of resources before it still wait in
the batch.  That makes no difference as long as no key is listed twice: the index, with the batch
written, holds what taking in the resources one by one makes of it.  This is the invariant of the
run.  A rebuild that fails leaves the index as the last full batch made it.

## Main results

* `step_spec`: all that taking one resource in can do.
* `steps_midway`: the invariant along a listing.
* `indexSpace_ok`: what a rebuild that succeeds makes of the index.
-/

namespace ScopedSearch

/-- The resource is in some listing of the storage. -/
def Storage.Lists (storage : Storage) (r : Resource) : Prop :=
  ∃ space rs, storage.walkSpace space = .ok rs ∧ r ∈ rs

namespace IndexEngine

variable {σ : Type}

/-- Makes the document of a file from scratch. -/
def extracted (e : IndexEngine σ) (ctx : Context σ) (r : Resource) : Op σ Prepared := do
  let x ← e.extractor.extract ctx r
  return .write (r.toDocument x.content x.degraded.isSome)

/-- A text that the extractor makes is the text of the document. -/
theorem perform_extracted_of_ok {e : IndexEngine σ} {ctx : Context σ} {r : Resource} {s t : σ}
    {text : String} (h : (e.extractor.tryExtract ctx r).perform s = (.ok text, t)) :
    (e.extracted ctx r).perform s = (.ok (.write (r.toDocument text)), t) :=
  Op.perform_bind_of_ok (Extractor.perform_extract_of_ok h)

/-- Where the extractor fails, the document has no text and says so. -/
theorem perform_extracted_of_error {e : IndexEngine σ} {ctx : Context σ} {r : Resource} {s t : σ}
    {fault : Fault} (h : (e.extractor.tryExtract ctx r).perform s = (.error fault, t)) :
    (e.extracted ctx r).perform s = (.ok (.write (r.toDocument "" true)), t) :=
  Op.perform_bind_of_ok (Extractor.perform_extract_of_error h)

/-- A resource is prepared as its document decides; where it does not, the file is extracted. -/
theorem prepare_eq (e : IndexEngine σ) (ctx : Context σ) (r : Resource) :
    e.prepare ctx r = (do
      let old ← e.backend.get ctx r.space r.item
      match r.decided? old with
      | some p => return p
      | none => e.extracted ctx r) := by
  unfold prepare extracted
  congr 1
  funext old
  have hunread : (if r.isDir = true then pure (Prepared.write (r.toDocument "")) else do
        let x ← e.extractor.extract ctx r
        return .write (r.toDocument x.content x.degraded.isSome) : Op σ Prepared) =
      match (if r.isDir then some (.write (r.toDocument "")) else none : Option Prepared) with
      | some p => return p
      | none => do
        let x ← e.extractor.extract ctx r
        return .write (r.toDocument x.content x.degraded.isSome) := by
    cases r.isDir <;> rfl
  cases old with
  | none => exact hunread
  | some d =>
    dsimp only [Resource.decided?]
    split
    · rfl
    · split
      · rfl
      · exact hunread

end IndexEngine

namespace Installation

variable {σ : Type} (I : Installation σ)

/--
Under the context, extraction of a listed file makes the text that the file has, and neither it nor
a check touches the index.  `world` are the storages that come up at all.
-/
structure Orderly (texts : Texts) (world : Storage → Prop) (ctx : Context σ) : Prop where
  quiet : I.Quiet ctx
  extract : ∀ s r, world (I.storage s) → (I.storage s).Lists r → r.isDir = false →
    ∃ x t, (I.extractor.extract ctx r).perform s = (.ok x, t) ∧ I.Calm s t ∧
      x.content = (texts r.identity r.mtime r.size).getD "" ∧
      x.degraded.isSome = (texts r.identity r.mtime r.size).isNone

/--
As long as storage answers as `S` does, extraction of a file among the resources makes the text that
the file has, and neither it nor a check touches the index.
-/
structure Reads (texts : Texts) (ctx : Context σ) (S : Storage) (rs : List Resource) : Prop where
  quiet : I.Quiet ctx
  extract : ∀ s r, I.storage s = S → r ∈ rs → r.isDir = false →
    ∃ x t, (I.extractor.extract ctx r).perform s = (.ok x, t) ∧ I.Calm s t ∧
      x.content = (texts r.identity r.mtime r.size).getD "" ∧
      x.degraded.isSome = (texts r.identity r.mtime r.size).isNone

/-- What a prepared resource does to the index and the batch. -/
inductive Taken (s t : σ) (p p' : IndexEngine.Progress) : IndexEngine.Prepared → Prop
  | skipped (hbatch : p'.batch = p.batch) (h : I.Becomes s t (I.documents s)) : Taken s t p p' .skip
  /-- The document waits in the batch. -/
  | added {d : Document} (hbatch : p'.batch = p.batch ++ [d]) (h : I.Becomes s t (I.documents s)) :
    Taken s t p p' (.write d)
  /-- The batch is full. -/
  | flushed {d : Document} (hbatch : p'.batch = [])
    (h : I.Becomes s t ((I.documents s).placeAll (p.batch ++ [d]))) : Taken s t p p' (.write d)

variable {I} {texts : Texts} {world : Storage → Prop} {ctx : Context σ} {s t : σ} {r : Resource}
  {S : Storage} {rs : List Resource}

/-- In an orderly context, the files of a listing are read. -/
theorem Orderly.reads (hctx : I.Orderly texts world ctx) (hS : world S)
    (hrs : ∀ r ∈ rs, S.Lists r) : I.Reads texts ctx S rs where
  quiet := hctx.quiet
  extract s r hs hr := hctx.extract s r (hs ▸ hS) (hs ▸ hrs r hr)

/-! ## One resource -/

/-- Where a document has to be made of the file itself, it is the one made from scratch. -/
theorem extracted_spec (hctx : I.Reads texts ctx S rs) (hs : I.storage s = S) (hr : r ∈ rs)
    (hdir : r.isDir = false) :
    ∃ t, I.Calm s t ∧
      (I.engine.extracted ctx r).perform s = (.ok (.write (r.fresh texts)), t) := by
  obtain ⟨x, t, hextract, hcalm, hcontent, hdegraded⟩ := hctx.extract s r hs hr hdir
  have htext : r.text? texts = texts r.identity r.mtime r.size := by simp [Resource.text?, hdir]
  refine ⟨t, hcalm, ?_⟩
  rw [Resource.fresh, htext, ← hcontent, ← hdegraded]
  exact Op.perform_bind_of_ok hextract

/-- A listed resource is prepared by the document that the index has of it. -/
theorem prepare_spec (hctx : I.Reads texts ctx S rs) (hs : I.storage s = S) (hr : r ∈ rs) :
    ∃ t, I.Calm s t ∧
      ((I.engine.prepare ctx r).perform s =
          (.ok (r.revise texts ((I.documents s).contents r.key)), t) ∨
        ∃ e, (I.engine.prepare ctx r).perform s = (.error e, t)) := by
  rw [IndexEngine.prepare_eq]
  obtain ⟨t, hcalm, hget | ⟨e, hget⟩⟩ := get_spec hctx.quiet r.space r.item s
  · have hcontents : (I.documents s).find? (documentKey r.space r.item) =
        (I.documents s).contents r.key := rfl
    rw [engine_backend, Op.perform_bind_of_ok hget, Resource.revise_eq_decided, hcontents]
    cases hdecided : r.decided? ((I.documents s).contents r.key) with
    | some p => exact ⟨t, hcalm, .inl rfl⟩
    | none =>
      obtain ⟨u, hcalm', hextracted⟩ := extracted_spec hctx (hcalm.storage.trans hs) hr
        (Resource.isDir_of_undecided hdecided)
      exact ⟨u, hcalm.trans hcalm', .inl hextracted⟩
  · exact ⟨t, hcalm, .inr ⟨e, Op.perform_bind_of_error hget⟩⟩

/-- The batch is written, or the index stays. -/
theorem flush_spec (hctx : I.Quiet ctx) (hs : I.Settled s) (p : IndexEngine.Progress) :
    (∃ p' t, (I.engine.flush ctx p).perform s = (.ok p', t) ∧ p'.batch = [] ∧
        I.Becomes s t ((I.documents s).placeAll p.batch)) ∨
      ∃ e t, (I.engine.flush ctx p).perform s = (.error e, t) ∧
        I.Becomes s t (I.documents s) := by
  rcases upsert_spec hctx hs p.batch with ⟨t, hupsert, h⟩ | ⟨e, t, hupsert, h⟩
  · exact .inl ⟨_, t, Op.perform_bind_of_ok hupsert, rfl, h⟩
  · exact .inr ⟨e, t, Op.perform_bind_of_error hupsert, h⟩

/-- A listed resource is taken in by the document that the index has of it, or the index stays. -/
theorem step_spec (hctx : I.Reads texts ctx S rs) (hs : I.Settled s) (hS : I.storage s = S)
    (hr : r ∈ rs) (p : IndexEngine.Progress) :
    (∃ p' t, (I.engine.step ctx p r).perform s = (.ok p', t) ∧
        I.Taken s t p p' (r.revise texts ((I.documents s).contents r.key))) ∨
      ∃ e t, (I.engine.step ctx p r).perform s = (.error e, t) ∧
        I.Becomes s t (I.documents s) := by
  unfold IndexEngine.step
  rcases hcheck : ctx.check.perform s with ⟨e | ⟨⟩, t₁⟩
  · exact .inr ⟨e, t₁, Op.perform_bind_of_error hcheck, check_becomes hctx.quiet hs hcheck⟩
  · have h₁ := check_becomes hctx.quiet hs hcheck
    obtain ⟨t₂, hcalm, hprepare | ⟨e, hprepare⟩⟩ :=
      prepare_spec hctx (h₁.storage.trans hS) hr
    · have h₂ := h₁.keep (hcalm.becomes h₁.settled)
      rw [h₁.documents] at hprepare
      rw [Op.perform_bind_of_ok hcheck, Op.perform_bind_of_ok hprepare]
      cases hrevise : r.revise texts ((I.documents s).contents r.key) with
      | skip => exact .inl ⟨_, t₂, rfl, .skipped rfl h₂⟩
      | write d =>
        dsimp only
        split
        · rcases flush_spec hctx.quiet h₂.settled { stats := _, batch := p.batch ++ [d] } with
            ⟨p', t₃, hflush, hbatch, h₃⟩ | ⟨e, t₃, hflush, h₃⟩
          · rw [h₂.documents] at h₃
            exact .inl ⟨p', t₃, hflush, .flushed hbatch (h₂.trans h₃)⟩
          · exact .inr ⟨e, t₃, hflush, h₂.keep h₃⟩
        · exact .inl ⟨_, t₂, rfl, .added rfl h₂⟩
    · refine .inr ⟨e, t₂, ?_, h₁.keep (hcalm.becomes h₁.settled)⟩
      rw [Op.perform_bind_of_ok hcheck]
      exact Op.perform_bind_of_error hprepare

/-! ## A listing -/

/--
The resources of `done` have been taken in, of an index that held `old`: the index with the batch
written holds what becomes of `old`, and under all other keys it has not been touched.
-/
structure Midway (I : Installation σ) (texts : Texts) (S : Storage) (old : Contents)
    (done : List Resource) (s : σ) (p : IndexEngine.Progress) : Prop where
  settled : I.Settled s
  storage : I.storage s = S
  batch : ∀ d ∈ p.batch, d.key ∈ done.map Resource.key
  untouched : ∀ key, key ∉ done.map Resource.key → (I.documents s).contents key = old key
  pending : (I.documents s).contents.writeAll p.batch = old.reviseAll texts done

namespace Midway

variable {old : Contents} {done : List Resource} {p q : IndexEngine.Progress} {d : Document}

/-- Nothing has been taken in yet. -/
theorem start (hs : I.Settled s) (stats : IndexStats) :
    I.Midway texts (I.storage s) (I.documents s).contents [] s { stats } :=
  ⟨hs, rfl, by simp, fun _ _ => rfl, rfl⟩

theorem batch_append (h : I.Midway texts S old done s p) :
    ∀ d ∈ p.batch, d.key ∈ (done ++ [r]).map Resource.key := by
  intro d hd
  rw [List.map_append]
  exact List.mem_append_left _ (h.batch d hd)

theorem untouched_append (h : I.Midway texts S old done s p) {key : String}
    (hkey : key ∉ (done ++ [r]).map Resource.key) : (I.documents s).contents key = old key := by
  rw [List.map_append, List.mem_append, not_or] at hkey
  exact h.untouched key hkey.1

/-- A resource that makes no difference is skipped. -/
theorem skip (h : I.Midway texts S old done s p)
    (hnext : old.reviseAll texts (done ++ [r]) = old.reviseAll texts done) :
    I.Midway texts S old (done ++ [r]) s p where
  settled := h.settled
  storage := h.storage
  batch := h.batch_append
  untouched _ := h.untouched_append
  pending := by rw [h.pending, hnext]

/-- The document of a resource goes into the batch. -/
theorem add (h : I.Midway texts S old done s p) (hkey : d.key = r.key)
    (hnext : old.reviseAll texts (done ++ [r]) = (old.reviseAll texts done).write d)
    (hbatch : q.batch = p.batch ++ [d]) : I.Midway texts S old (done ++ [r]) s q where
  settled := h.settled
  storage := h.storage
  batch := by
    rw [hbatch]
    intro e he
    rcases List.mem_append.1 he with he | he
    · exact h.batch_append e he
    · rw [List.mem_singleton.1 he, hkey, List.map_append]
      exact List.mem_append_right _ (List.mem_singleton_self _)
  untouched _ := h.untouched_append
  pending := by
    rw [hbatch, Contents.writeAll_append, h.pending, hnext]
    rfl

/-- The batch is written. -/
theorem flush (h : I.Midway texts S old done s p)
    (ht : I.Becomes s t ((I.documents s).placeAll p.batch)) (hbatch : q.batch = []) :
    I.Midway texts S old done t q where
  settled := ht.settled
  storage := ht.storage.trans h.storage
  batch := by simp [hbatch]
  untouched key hkey := by
    have hne : ∀ d ∈ p.batch, key ≠ d.key := fun d hd heq => hkey (heq ▸ h.batch d hd)
    rw [ht.documents, Collection.contents_placeAll, Contents.writeAll_of_ne hne,
      h.untouched key hkey]
  pending := by
    rw [ht.documents, hbatch, Collection.contents_placeAll, h.pending]
    rfl

/-- A step that leaves the index and the batch keeps the invariant. -/
theorem keep (h : I.Midway texts S old done s p) (ht : I.Becomes s t (I.documents s))
    (hbatch : q.batch = p.batch) : I.Midway texts S old done t q where
  settled := ht.settled
  storage := ht.storage.trans h.storage
  batch := by
    rw [hbatch]
    exact h.batch
  untouched key hkey := by rw [ht.documents, h.untouched key hkey]
  pending := by rw [ht.documents, hbatch, h.pending]

end Midway

/-- Taking a listed resource in whose key has not come up keeps the invariant. -/
theorem step_midway {old : Contents} {done : List Resource} {p p' : IndexEngine.Progress}
    (hold : ∀ d ∈ old r.key, d.key = r.key) (h : I.Midway texts S old done s p)
    (hr : r.key ∉ done.map Resource.key)
    (htaken : I.Taken s t p p' (r.revise texts ((I.documents s).contents r.key))) :
    I.Midway texts S old (done ++ [r]) t p' := by
  have hpending : (old.reviseAll texts done) r.key = old r.key :=
    Contents.reviseAll_of_not_mem texts hr
  have hnext : old.reviseAll texts (done ++ [r]) =
      (old.reviseAll texts done).take (r.revise texts (old r.key)) := by
    rw [Contents.reviseAll, List.foldl_append, ← hpending]
    exact Contents.revise_eq texts (by rwa [← hpending] at hold)
  rw [h.untouched r.key hr] at htaken
  have hkey : ∀ d, r.revise texts (old r.key) = .write d → d.key = r.key :=
    fun d hd => Resource.key_of_revise texts hold hd
  generalize r.revise texts (old r.key) = prepared at hnext htaken hkey
  cases htaken with
  | skipped hbatch ht => exact (h.skip hnext).keep ht hbatch
  | added hbatch ht =>
    exact (h.add (q := { p with batch := _ }) (hkey _ rfl) hnext rfl).keep ht hbatch
  | flushed hbatch ht =>
    exact (h.add (q := { p with batch := _ }) (hkey _ rfl) hnext rfl).flush ht hbatch

/-- A listing without a key twice keeps the invariant to its end. -/
theorem steps_midway {old : Contents} {done listed : List Resource} {p p' : IndexEngine.Progress}
    (hctx : I.Reads texts ctx S listed) (hold : ∀ key, ∀ d ∈ old key, d.key = key)
    (h : I.Midway texts S old done s p) (hrs : ∀ r ∈ rs, r ∈ listed)
    (hkeys : ((done ++ rs).map Resource.key).Nodup)
    (hrun : (I.engine.steps ctx p rs).perform s = (.ok p', t)) :
    I.Midway texts S old (done ++ rs) t p' := by
  induction rs generalizing done s p with
  | nil =>
    cases hrun
    rwa [List.append_nil]
  | cons r rs ih =>
    obtain ⟨q, u, hstep, hrest⟩ := Op.perform_bind_eq_ok.1 hrun
    have hr : r.key ∉ done.map Resource.key := by
      intro hmem
      rw [List.map_append, List.nodup_append] at hkeys
      exact hkeys.2.2 _ hmem _ List.mem_cons_self rfl
    have htaken : I.Taken s u p q (r.revise texts ((I.documents s).contents r.key)) := by
      rcases step_spec hctx h.settled h.storage (hrs r List.mem_cons_self) p with
        ⟨q', u', hok, htaken⟩ | ⟨e, u', herror, _⟩
      · rw [hstep] at hok
        cases hok
        exact htaken
      · rw [hstep] at herror
        cases herror
    rw [List.append_cons] at hkeys ⊢
    exact ih (step_midway (hold r.key) h hr htaken)
      (fun r' hr' => hrs r' (List.mem_cons_of_mem r hr')) hkeys hrest

/-- A rebuild that succeeds has got a listing from storage. -/
theorem walks_of_indexSpace (hctx : I.Quiet ctx) {space : String} {stats : IndexStats}
    (hrun : (I.engine.indexSpace ctx space).perform s = (.ok stats, t)) :
    ∃ rs, (I.storage s).walkSpace space = .ok rs := by
  obtain ⟨⟨⟩, t₁, hcheck, hread⟩ := Op.perform_bind_eq_ok.1 hrun
  obtain ⟨storage, _, ⟨⟩, hwalked⟩ := Op.perform_bind_eq_ok.1 hread
  obtain ⟨rs, _, hwalk, _⟩ := Op.perform_bind_eq_ok.1 hwalked
  rw [Op.perform_ofExcept, engine_storage, (check_calm hctx hcheck).storage, Prod.mk.injEq] at hwalk
  exact ⟨rs, hwalk.1⟩

/-- A rebuild that succeeds takes in what storage lists, as if one resource after the other. -/
theorem indexSpace_ok (hs : I.Settled s) {space : String} {stats : IndexStats}
    (hwalk : (I.storage s).walkSpace space = .ok rs) (hctx : I.Reads texts ctx (I.storage s) rs)
    (hkeys : (rs.map Resource.key).Nodup)
    (hrun : (I.engine.indexSpace ctx space).perform s = (.ok stats, t)) :
    I.Becomes s t (I.documents t) ∧
      (I.documents t).contents = (I.documents s).contents.reviseAll texts rs := by
  unfold IndexEngine.indexSpace at hrun
  simp only [Op.perform_bind_eq_ok, Op.perform_read, Op.perform_ofExcept, Op.perform_pure,
    Prod.mk.injEq, Except.ok.injEq, engine_storage] at hrun
  obtain ⟨⟨⟩, t₁, hcheck, storage, _, ⟨rfl, rfl⟩, rs', _, ⟨hwalk', rfl⟩, p, t₂, hsteps, p', _,
    hflush, _, rfl⟩ := hrun
  have h₁ := check_becomes hctx.quiet hs hcheck
  rw [h₁.storage, hwalk] at hwalk'
  cases hwalk'
  have hstart : I.Midway texts (I.storage s) (I.documents t₁).contents [] t₁
      { stats := { scanned := rs.length } } := h₁.storage ▸ Midway.start h₁.settled _
  have hend := steps_midway hctx (fun _ _ hd => Collection.key_of_contents hd) hstart
    (fun _ hr => hr) hkeys hsteps
  rcases flush_spec hctx.quiet hend.settled p with ⟨q, u, hok, hbatch, h₃⟩ | ⟨e, u, herror, _⟩
  · rw [hflush] at hok
    cases hok
    have hflushed := hend.flush h₃ hbatch
    have hpending := hflushed.pending
    rw [hbatch, h₁.documents] at hpending
    exact ⟨⟨hflushed.settled, rfl, hflushed.storage⟩, hpending⟩
  · rw [hflush] at herror
    cases herror

end Installation

end ScopedSearch
