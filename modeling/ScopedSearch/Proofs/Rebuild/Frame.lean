import ScopedSearch.Index.Embedded
import ScopedSearch.Search.Engine

/-!
# What a rebuild may do to a state

A rebuild does to the state what its parts do: the checks of its context, the look-ups and writes of
its backend, and the extractor.  So a relation between states that allows each of these, and that
states may follow one another in, allows the whole rebuild.  The backend of an embedded index, in
turn, does nothing but put files and views.

## Main results

* `Embedded.get_within`, `Embedded.upsert_within`: look-ups and writes of an embedded index.
* `IndexEngine.indexSpace_within`: a rebuild over any backend.
-/

namespace ScopedSearch

variable {σ : Type} {R : σ → σ → Prop} {ctx : Context σ}

namespace Embedded

variable {handle heap : Nat} {files : Part σ IndexFiles} {view : Part σ Collection}

/-- Taking the writer puts files at most. -/
theorem takeWriter_within (hrefl : ∀ s, R s s) (hfiles : ∀ f s, R s (files.put f s)) :
    Op.Within R (takeWriter handle heap files) := by
  intro s
  simp only [takeWriter, Op.perform_bind, Op.perform_read, Part.modify]
  split
  · split
    · exact hrefl s
    · exact hfiles _ s
  · split <;> exact hrefl s

/-- Writing puts files, and then a view of them. -/
theorem write_within (htrans : ∀ {s t u}, R s t → R t u → R s u)
    (hfiles : ∀ f s, R s (files.put f s)) (hview : ∀ c s, R s (view.put c s))
    (docs : List Document) : Op.Within R (write files view docs) :=
  fun s => htrans (hfiles _ s) (hview _ _)

theorem get_within (hrefl : ∀ s, R s s) (htrans : ∀ {s t u}, R s t → R t u → R s u)
    (hcheck : Op.Within R ctx.check) (space item : String) :
    Op.Within R ((backend handle files view heap).get ctx space item) :=
  Op.Within.bind (R := R) htrans hcheck fun _ =>
    Op.Within.bind (R := R) htrans (Op.within_read hrefl _) fun _ => Op.within_pure hrefl _

theorem upsert_within (hrefl : ∀ s, R s s) (htrans : ∀ {s t u}, R s t → R t u → R s u)
    (hcheck : Op.Within R ctx.check) (hfiles : ∀ f s, R s (files.put f s))
    (hview : ∀ c s, R s (view.put c s)) (docs : List Document) :
    Op.Within R ((backend handle files view heap).upsert ctx docs) := by
  show Op.Within R (if docs.isEmpty then pure () else _)
  split
  · exact Op.within_pure hrefl ()
  · exact Op.Within.bind (R := R) htrans hcheck fun _ =>
      Op.Within.bind (R := R) htrans (takeWriter_within hrefl hfiles) fun _ =>
        write_within (R := R) htrans hfiles hview docs

end Embedded

namespace IndexEngine

variable {e : IndexEngine σ}

/-- Extraction does to the state what the extractor does. -/
theorem extract_within {x : Extractor σ} {r : Resource}
    (hextract : Op.Within R (x.tryExtract ctx r)) : Op.Within R (x.extract ctx r) := by
  intro s
  have htry := hextract s
  rcases hrun : (x.tryExtract ctx r).perform s with ⟨f | text, t⟩
  · rw [Extractor.perform_extract_of_error hrun]
    rwa [hrun] at htry
  · rw [Extractor.perform_extract_of_ok hrun]
    rwa [hrun] at htry

section

variable (hrefl : ∀ s, R s s) (htrans : ∀ {s t u}, R s t → R t u → R s u)
  (hcheck : Op.Within R ctx.check)
  (hget : ∀ space item, Op.Within R (e.backend.get ctx space item))
  (hupsert : ∀ docs, Op.Within R (e.backend.upsert ctx docs))
  (hextract : ∀ r, Op.Within R (e.extractor.tryExtract ctx r))

include hrefl htrans

include hget hextract in
theorem prepare_within (r : Resource) : Op.Within R (e.prepare ctx r) := by
  have hpure : ∀ p : Prepared, Op.Within R (pure p) := Op.within_pure hrefl
  have hfresh : Op.Within R (if r.isDir = true then pure (Prepared.write (r.toDocument "")) else do
      let x ← e.extractor.extract ctx r
      return .write (r.toDocument x.content x.degraded.isSome)) := by
    split
    · exact hpure _
    · exact Op.Within.bind (R := R) htrans (extract_within (hextract r)) fun _ => hpure _
  refine Op.Within.bind (R := R) htrans (hget r.space r.item) fun old => ?_
  cases old with
  | none => exact hfresh
  | some d =>
    dsimp only
    split
    · exact hpure _
    · split
      · exact hpure _
      · exact hfresh

include hupsert in
theorem flush_within (p : Progress) : Op.Within R (e.flush ctx p) :=
  Op.Within.bind (R := R) htrans (hupsert p.batch) fun _ => Op.within_pure hrefl _

include hcheck hget hupsert hextract

theorem step_within (p : Progress) (r : Resource) : Op.Within R (e.step ctx p r) := by
  have hpure : ∀ p : Progress, Op.Within R (pure p) := Op.within_pure hrefl
  refine Op.Within.bind (R := R) htrans hcheck fun _ => ?_
  refine Op.Within.bind (R := R) htrans (prepare_within hrefl htrans hget hextract r) fun made => ?_
  cases made with
  | skip => exact hpure _
  | write d =>
    dsimp only
    split
    · exact flush_within hrefl htrans hupsert _
    · exact hpure _

theorem steps_within (p : Progress) (rs : List Resource) : Op.Within R (e.steps ctx p rs) := by
  induction rs generalizing p with
  | nil => exact Op.within_pure hrefl p
  | cons r rs ih =>
    exact Op.Within.bind (R := R) htrans
      (step_within hrefl htrans hcheck hget hupsert hextract p r) ih

/-- A rebuild does to the state what its parts do. -/
theorem indexSpace_within (space : String) : Op.Within R (e.indexSpace ctx space) := by
  have hexcept : ∀ x : Except Fault (List Resource), Op.Within R (Op.ofExcept x) :=
    Op.within_ofExcept hrefl
  refine Op.Within.bind (R := R) htrans hcheck fun _ => ?_
  refine Op.Within.bind (R := R) htrans (Op.within_read hrefl _) fun _ => ?_
  refine Op.Within.bind (R := R) htrans (hexcept _) fun rs => ?_
  refine Op.Within.bind (R := R) htrans
    (steps_within hrefl htrans hcheck hget hupsert hextract _ rs) fun _ => ?_
  exact Op.Within.bind (R := R) htrans (flush_within hrefl htrans hupsert _) fun _ =>
    Op.within_pure hrefl _

end

end IndexEngine

end ScopedSearch
