import ScopedSearch.Text.Split

/-!
# Logical paths

A path inside a space is a text cut at slashes.  What it denotes is its list of segments: the
pieces that are neither empty nor a single dot.  Two spellings of one list are one path, and the
normal spelling is a slash followed by the segments with slashes between them.

## Main results

* `segments_render`: the normal spelling has the segments it was made of.
* `normalize_normalize`: normalizing twice is normalizing once.
-/

namespace ScopedSearch.Path

open ScopedSearch.Text

/-- A piece between slashes that names something: it is neither empty nor a single dot. -/
def isSegment (piece : List Char) : Bool := piece ≠ [] && piece ≠ ['.']

/-- The segments of a path, root first. -/
def segments (path : String) : List (List Char) :=
  (splitOn '/' path.toList).filter isSegment

/-- The normal spelling of a list of segments. -/
def render (segs : List (List Char)) : String := String.ofList ('/' :: join '/' segs)

/-- The rooted spelling without empty segments, dots and trailing slash. -/
def normalize (path : String) : String := render (segments path)

/-- The last piece after a slash; the whole text when it has no slash. -/
def lastName (path : String) : String :=
  String.ofList ((splitOn '/' path.toList).getLast (splitOn_ne_nil _ _))

/-- The initial parts of a list, the empty one first and the whole list last. -/
def initialParts {α : Type} : List α → List (List α)
  | [] => [[]]
  | x :: xs => [] :: (initialParts xs).map (x :: ·)

/-- The normal paths at or above a path, root first. -/
def ancestors (path : String) : List String := (initialParts (segments path)).map render

/--
The path that a relative path names below a base, in normal spelling.  Nothing when that is the
root: then no part of a space is left out.
-/
def scope (base relative : Option String) : Option String :=
  let joined := normalize (base.getD "/" ++ "/" ++ relative.getD "")
  if joined = "/" then none else some joined

theorem slash_not_mem_of_mem_segments {path : String} {seg : List Char}
    (h : seg ∈ segments path) : '/' ∉ seg :=
  not_mem_of_mem_splitOn (List.mem_filter.1 h).1

theorem isSegment_of_mem_segments {path : String} {seg : List Char} (h : seg ∈ segments path) :
    isSegment seg :=
  (List.mem_filter.1 h).2

/-- The pieces of a normal spelling are the segments, behind the empty piece before the first slash. -/
theorem splitOn_render {segs : List (List Char)} (hne : segs ≠ [])
    (hslash : ∀ s ∈ segs, '/' ∉ s) : splitOn '/' (render segs).toList = [] :: segs := by
  rw [render, String.toList_ofList, splitOn_sep, splitOn_join '/' segs hne hslash]

/-- The normal spelling has the segments it was made of. -/
theorem segments_render {segs : List (List Char)} (hslash : ∀ s ∈ segs, '/' ∉ s)
    (hseg : ∀ s ∈ segs, isSegment s) : segments (render segs) = segs := by
  cases segs with
  | nil => simp [segments, render, join, splitOn, isSegment]
  | cons s ss =>
    rw [segments, splitOn_render (List.cons_ne_nil s ss) hslash,
      List.filter_cons_of_neg (by simp [isSegment])]
    exact List.filter_eq_self.2 hseg

@[simp] theorem segments_normalize (path : String) : segments (normalize path) = segments path :=
  segments_render (fun _ h => slash_not_mem_of_mem_segments h)
    (fun _ h => isSegment_of_mem_segments h)

/-- Normalizing twice is normalizing once. -/
theorem normalize_normalize (path : String) : normalize (normalize path) = normalize path := by
  rw [normalize, segments_normalize]
  rfl

end ScopedSearch.Path
