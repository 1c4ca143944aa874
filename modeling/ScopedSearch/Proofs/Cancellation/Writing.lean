import ScopedSearch.Http.Script
import ScopedSearch.Proofs.Cancellation.Backends
import ScopedSearch.Proofs.Events.Exchanges

/-!
# Cancellation stops writing

While an extraction goes on its context may end.  The extraction then gives an empty text for a
document that is put into the batch like any other.  It is not written: the batch is not empty, so
before the rebuild can write it, or come to its end, it runs into a check that fails.  A document
that is waiting in the batch is thus what a rebuild owes once the end has been noticed.

## Main results

* `obeys_prepare`, `obeys_step`, `obeys_steps`: what a rebuild owes after each of its resources.
* `obeys_indexSpace`: a rebuild during which the end is noticed is cancelled.
* `cancellation_stops_writing`: what requests do once a check has failed.
-/

namespace ScopedSearch

/-- The state after requests to an engine, whatever was replied to each. -/
def Engine.stateAfter {σ : Type} (e : Engine σ) (ctx : Context σ) (requests : List EngineRequest)
    (s : σ) : σ :=
  requests.foldl (fun s request => ((e.answer ctx request).perform s).2) s

namespace Watch

variable {σ α : Type} {W : Watch σ α} {e : IndexEngine σ} {ctx : Context σ} {s t : σ}

variable (W) in
/-- The engine; it is noticed when a context has ended by the end of an extraction. -/
def engine (e : IndexEngine σ) : IndexEngine σ := { e with extractor := W.extractor e.extractor }

/-! ## Rebuilds -/

section

variable (hctx : W.Ends ctx) (hb : W.Heeded ctx e.backend)
  (hx : ∀ r, Op.Within W.Minds (e.extractor.tryExtract (W.context ctx) r))

include hx in
/-- Whatever has ended by then, an extraction has a result. -/
theorem obeys_extract {owed : Prop} (r : Resource) :
    W.Obeys owed ((W.engine e).extractor.extract (W.context ctx) r) fun _ => True := by
  have hminds : Op.Within W.Minds ((W.engine e).extractor.tryExtract (W.context ctx) r) := by
    intro s
    have h := hx r s
    show W.Minds s (if W.ended _ then W.noticed _ else _)
    split
    · next hended => exact h.trans (noticed_minds hended).1
    · exact h
  refine obeys_of_minds (IndexEngine.extract_within hminds) fun s x t hrun _ => .inr ?_
  rcases htry : ((W.engine e).extractor.tryExtract (W.context ctx) r).perform s with ⟨f | text, u⟩
  · rw [Extractor.perform_extract_of_error htry] at hrun
    cases hrun
    exact ⟨_, rfl, trivial⟩
  · rw [Extractor.perform_extract_of_ok htry] at hrun
    cases hrun
    exact ⟨_, rfl, trivial⟩

include hb hx

/-- When the end has been noticed there is a document to write. -/
theorem obeys_prepare {owed : Prop} (r : Resource) :
    W.Obeys owed ((W.engine e).prepare (W.context ctx) r) fun made => made ≠ .skip := by
  have hfresh : W.Obeys False (if r.isDir = true then pure (.write (r.toDocument "")) else do
      let x ← (W.engine e).extractor.extract (W.context ctx) r
      return .write (r.toDocument x.content x.degraded.isSome))
      fun made : IndexEngine.Prepared => made ≠ .skip := by
    split
    · exact obeys_pure fun _ => nofun
    · exact (obeys_extract hx r).bind fun x => obeys_pure fun _ => nofun
  refine (hb.get r.space r.item).obeys.bind fun existing => ?_
  cases existing with
  | none => exact hfresh
  | some d =>
    dsimp only
    split
    · exact obeys_pure False.elim
    · split
      · exact obeys_pure fun _ => nofun
      · exact hfresh

omit hx in
/-- A batch that is owed is not written. -/
theorem obeys_flush (p : IndexEngine.Progress) :
    W.Obeys (p.batch ≠ []) ((W.engine e).flush (W.context ctx) p) fun _ => False := by
  obtain ⟨stats, batch⟩ := p
  cases batch with
  | nil =>
    have hflush : (W.engine e).flush (W.context ctx) ⟨stats, []⟩ =
        e.backend.upsert (W.context ctx) [] >>= fun _ =>
          pure ⟨{ stats with indexed := stats.indexed + 0 }, []⟩ := rfl
    have hnothing : W.Obeys (([] : List Document) ≠ []) (pure () : Op σ Unit) fun _ => False :=
      obeys_pure fun h => h rfl
    rw [hflush, hb.upsert_nil]
    exact hnothing.bind fun _ => obeys_pure False.elim
  | cons d docs =>
    exact (hb.upsert d docs).obeys.bind fun _ => obeys_pure False.elim

include hctx

/-- After a resource, the end has been noticed only with documents in the batch. -/
theorem obeys_step {owed : Prop} (p : IndexEngine.Progress) (r : Resource) :
    W.Obeys owed ((W.engine e).step (W.context ctx) p r) fun p => p.batch ≠ [] := by
  refine (heeds_check hctx).obeys.bind fun _ => ?_
  refine (obeys_prepare hb hx r).bind fun made => ?_
  cases made with
  | skip => exact obeys_pure fun h => absurd rfl h
  | write d =>
    -- the document may be one whose extraction was cut short: it waits, and that is what is owed
    have hbatch : p.batch ++ [d] ≠ [] := by simp
    dsimp only
    split
    · exact (obeys_flush hb _).imp (fun _ => hbatch) fun _ => False.elim
    · exact obeys_pure fun _ => hbatch

theorem obeys_steps (p : IndexEngine.Progress) (rs : List Resource) :
    W.Obeys (p.batch ≠ []) ((W.engine e).steps (W.context ctx) p rs) fun p => p.batch ≠ [] := by
  induction rs generalizing p with
  | nil => exact obeys_pure id
  | cons r rs ih => exact (obeys_step hctx hb hx p r).bind ih

/-- A rebuild during which the end is noticed is cancelled. -/
theorem obeys_indexSpace (space : String) :
    W.Obeys True ((W.engine e).indexSpace (W.context ctx) space) fun _ => False := by
  refine (heeds_check hctx).obeys.bind fun _ => ?_
  refine (obeys_read _).bind fun storage => ?_
  refine (obeys_ofExcept _).bind fun rs => ?_
  refine ((obeys_steps hctx hb hx _ rs).imp False.elim fun _ => id).bind fun p => ?_
  exact (obeys_flush hb p).bind fun _ => obeys_pure False.elim

/-! ## Requests -/

/-- Every request to an engine obeys the context. -/
theorem obeys_answer (request : EngineRequest) :
    W.Obeys True ((W.engine e).toEngine.answer (W.context ctx) request) fun _ => False := by
  have hpatch : ∀ (space item : String) (p : Patch), W.Obeys True
      ((W.engine e).patchIfKnown (W.context ctx) space item p) fun _ => False :=
    fun space item p => (hb.patch space item p).obeys.bind fun _ =>
      obeys_pure id
  cases request with
  | indexSpace space => exact (obeys_indexSpace hctx hb hx space).bind fun _ => obeys_pure id
  | trashItem space item => exact (hpatch space item _).bind fun _ => obeys_pure id
  | restoreItem space item => exact (hpatch space item _).bind fun _ => obeys_pure id
  | moveItem space item path => exact (hpatch space item _).bind fun _ => obeys_pure id
  | document space item => exact (hb.get space item).obeys
  | upsertItem d =>
    exact (hb.upsert d []).obeys.bind fun _ => obeys_pure id

/-- Requests leave what can be seen since the end was noticed, which stays noticed. -/
theorem stateAfter_spec (requests : List EngineRequest) (hs : W.Intact s) :
    W.Intact ((W.engine e).toEngine.stateAfter (W.context ctx) requests s) ∧
      ∀ seen, W.mark.get s = some seen →
        W.mark.get ((W.engine e).toEngine.stateAfter (W.context ctx) requests s) = some seen := by
  induction requests generalizing s with
  | nil => exact ⟨hs, fun seen => id⟩
  | cons request requests ih =>
    have hrequest := obeys_answer hctx hb hx request s _ _ hs (fun _ => trivial) rfl
    obtain ⟨hintact, hstays⟩ := ih hrequest.intact
    exact ⟨hintact, fun seen hseen => hstays seen (hrequest.stays seen hseen)⟩

end

/--
Cancellation stops writing.  Once a check of the context has failed, or the context has ended by the
end of an extraction, nothing changes that can be seen of the documents, whatever the engine is asked
for.  A rebuild during which this happens, or that begins after it, is cancelled.
-/
theorem cancellation_stops_writing (hctx : W.Ends ctx) (hb : Watches W e.backend)
    (hx : ∀ r, Op.Within W.Minds (e.extractor.tryExtract (W.context ctx) r))
    (hs : W.mark.get s = none) (before : List EngineRequest) :
    let engine := (W.engine e).toEngine
    let t := engine.stateAfter (W.context ctx) before s
    (∀ seen, W.mark.get t = some seen → W.look t = seen ∧
      ∀ after, W.look (engine.stateAfter (W.context ctx) after t) = seen) ∧
    ∀ space, W.mark.get ((engine.indexSpace (W.context ctx) space).perform t).2 ≠ none →
      IsCancelled ((engine.indexSpace (W.context ctx) space).perform t).1 := by
  intro engine t
  have hintact : W.Intact s := by
    intro seen hseen
    rw [hs] at hseen
    cases hseen
  have hheeded := hb.heeded hctx
  obtain ⟨ht, -⟩ := stateAfter_spec hctx hheeded hx before hintact
  refine ⟨fun seen hseen => ⟨(ht seen hseen).1, fun after => ?_⟩, fun space hmark => ?_⟩
  · obtain ⟨hafter, hstays⟩ := stateAfter_spec hctx hheeded hx after ht
    exact (hafter seen (hstays seen hseen)).1
  · have hrebuild := obeys_indexSpace hctx hheeded hx space t _ _ ht
      (fun _ => trivial) rfl
    rcases hrebuild.outcome hmark with hcancelled | ⟨-, -, howes⟩
    · exact hcancelled
    · exact howes.elim

end Watch

/-! ## A converter that takes too long -/

/-- An embedded index, storage, and a converter with its clock. -/
structure WatchedShelf where
  files : IndexFiles := {}
  view : Collection := ∅
  storage : Storage := default
  script : Http.Script := {}
  seen : Option (IndexFiles × Collection) := none

namespace WatchedShelf

def servers : Part WatchedShelf Http.Script :=
  { get := script, put := fun c s => { s with script := c } }

/-- Watches a context end after half a second. -/
def watch : Watch WatchedShelf (IndexFiles × Collection) where
  ended s := decide (500 ≤ s.script.clock)
  look s := (s.files, s.view)
  mark := { get := seen, put := fun x s => { s with seen := x } }
  ended_put_mark _ _ := rfl
  look_put_mark _ _ := rfl

/-- A converter that may take a second. -/
def converter : Converter WatchedShelf where
  client := { network := Http.Script.network ["http://localhost:9998"] servers }
  address := "http://localhost:9998/tika"
  timeout := 1000
  maxFileSize := 100
  storage := storage

/-- An engine over the embedded index, storage and the converter. -/
def engine : IndexEngine WatchedShelf where
  backend := Embedded.backend 1 { get := files, put := fun f s => { s with files := f } }
    { get := view, put := fun c s => { s with view := c } }
  storage := storage
  extractor := converter.extractor

def file : Resource where
  space := "alice"
  item := "1"
  path := "/a.txt"
  name := "a.txt"
  mimeType := "text/plain"
  size := 2
  mtime := 100

/-- An index that holds an older copy of a file, and a converter that takes five seconds. -/
def slow : WatchedShelf where
  files := { documents := (∅ : Collection).placeAll [{ file with mtime := 99 }.toDocument "old"] }
  view := (∅ : Collection).placeAll [{ file with mtime := 99 }.toDocument "old"]
  storage := { (default : Storage) with
    walkSpace := fun _ => .ok [file]
    bytes := fun _ => .ok "hi".toUTF8 }
  script := { replies := [{ reply := ⟨200, "new".toUTF8⟩, delay := 5000 }] }

/-- The converter is waited for, and nothing else happens. -/
theorem still_network (request : Http.Request) (millis : Nat) :
    Op.Within watch.Still (converter.client.network request millis) := by
  intro s
  show watch.Still s (Op.perform (Http.Script.network _ servers request millis) s).2
  rw [Http.Script.network, Op.perform_make]
  split
  · exact Watch.Still.refl s
  · next server _ =>
    have hclock : s.script.clock ≤ (s.script.answer server request millis).2.clock := by
      rw [Http.Script.answer]
      split <;> exact Nat.le_add_right _ _
    exact ⟨⟨rfl, fun h => decide_eq_true (Nat.le_trans (of_decide_eq_true h) hclock)⟩, rfl⟩

/-- The converter is asked once and takes too long, the rebuild is cancelled, and the older copy is
still there. -/
theorem cancellation_stops_writing_slow :
    let ctx := watch.context (.before (·.script.clock) 500)
    let run := ((watch.engine engine).indexSpace ctx "alice").perform slow
    run.2.script.heard.length = 1 ∧ run.2.seen ≠ none ∧ IsCancelled run.1 ∧
      run.2.view.toList = [{ file with mtime := 99 }.toDocument "old"] := by
  have hctx : watch.Ends (.before (·.script.clock) 500) := Watch.ends_before fun _ => rfl
  have hb : Watch.Watches watch engine.backend :=
    .embedded (fun _ => rfl) (fun _ _ => ⟨rfl, id⟩) fun _ _ => ⟨rfl, id⟩
  have hseen : (((watch.engine engine).indexSpace (watch.context (.before (·.script.clock) 500))
      "alice").perform slow).2.seen ≠ none :=
    Option.isSome_iff_ne_none.1 (by decide +kernel)
  obtain ⟨-, hrebuild⟩ := Watch.cancellation_stops_writing hctx hb
    (Watch.converter_minds hctx still_network) (show watch.mark.get slow = none from rfl) []
  exact ⟨by decide +kernel, hseen, hrebuild "alice" hseen, by decide +kernel⟩

end WatchedShelf

end ScopedSearch
