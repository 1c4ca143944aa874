import ScopedSearch.Op
import ScopedSearch.Storage

/-!
# Extraction

The text of a resource is what an extractor makes of it.  Extraction as a whole never fails: when
the extractor fails, the text is empty and the reason is kept.

## Main results

* `perform_extract_of_ok`, `perform_extract_of_error`: what becomes of the outcome of an extractor.
-/

namespace ScopedSearch

/-- The outcome of extracting one resource. -/
structure Extraction where
  content : String
  /-- Why the content is empty although extraction was tried. -/
  degraded : Option String := none
  deriving DecidableEq, Repr, Inhabited

/-- Something that makes text of resources; it may fail. -/
structure Extractor (σ : Type) where
  name : String
  tryExtract : Context σ → Resource → Op σ String

namespace Extractor

variable {σ : Type}

/-- Extracts the text of a resource; a failure becomes empty text with a reason. -/
def extract (x : Extractor σ) (ctx : Context σ) (r : Resource) : Op σ Extraction := do
  match ← (x.tryExtract ctx r).outcome with
  | .ok content => return { content }
  | .error e => return { content := "", degraded := some e.message }

/-- The text of an extractor that succeeds is kept. -/
theorem perform_extract_of_ok {x : Extractor σ} {ctx : Context σ} {r : Resource} {s t : σ}
    {text : String} (h : (x.tryExtract ctx r).perform s = (.ok text, t)) :
    (x.extract ctx r).perform s = (.ok { content := text }, t) := by
  rw [extract, Op.perform_bind_of_ok (Op.perform_outcome _ s), h]
  rfl

/-- The failure of an extractor is kept as a reason, with no text. -/
theorem perform_extract_of_error {x : Extractor σ} {ctx : Context σ} {r : Resource} {s t : σ}
    {e : Fault} (h : (x.tryExtract ctx r).perform s = (.error e, t)) :
    (x.extract ctx r).perform s = (.ok { content := "", degraded := some e.message }, t) := by
  rw [extract, Op.perform_bind_of_ok (Op.perform_outcome _ s), h]
  rfl

/-- The extractor that finds no text in anything and reads nothing. -/
def basic : Extractor σ := ⟨"basic", fun _ _ => pure ""⟩

end Extractor

end ScopedSearch
