import Mathlib.Data.List.Infix
import Mathlib.Data.List.Nodup
import ScopedSearch.Index.Embedded
import ScopedSearch.Proofs.Path.Prefix

/-!
# Scopes are initial segments

Paths are compared by their segments, while the index compares whole spellings: it keeps a row of
spellings for every document and looks for the spelling of the scope in it.  The row can be made by
going down the normal spelling piece by piece, and it has one spelling for each initial part of the
segments.  So a spelling is in the row exactly when it is normal and its segments begin the path,
and a folder never covers another one whose name merely starts like its own.

## Main results

* `normalize_eq_iff`: two paths have one normal spelling exactly when they have the same segments.
* `ancestors_eq_descend`: the row, made piece by piece.
* `map_segments_ancestors`, `nodup_ancestors`: the row has one spelling for each initial part.
* `mem_ancestors_iff_segments`: which spellings are in the row.
* `scopes_by_segments`: a scope is the spelling of the segments of base and relative path, and
  covers what they begin.
-/

namespace ScopedSearch.Path

open ScopedSearch.Text

/-! ## Normal spellings -/

/-- Two paths have one normal spelling exactly when they have the same segments. -/
theorem normalize_eq_iff {path other : String} :
    normalize path = normalize other ↔ segments path = segments other := by
  constructor
  · intro h
    rw [← segments_normalize path, h, segments_normalize]
  · intro h
    rw [normalize, h, normalize]

/-- The spelling of segments that a path has is a normal one. -/
theorem normalize_render_initial {path : String} {part : List (List Char)}
    (h : part <+: segments path) : normalize (render part) = render part := by
  rw [normalize, segments_render_of_prefix h]

/-! ## The row of spellings above a path -/

theorem initialParts_eq_inits {α : Type} (xs : List α) : initialParts xs = xs.inits := by
  induction xs with
  | nil => rfl
  | cons x xs ih => rw [initialParts, ih, List.inits_cons]

/-- The spellings above a path have the initial parts of its segments, the shortest one first. -/
theorem map_segments_ancestors (path : String) :
    (ancestors path).map segments = (segments path).inits := by
  have hsegments : ∀ part ∈ (segments path).inits, segments (render part) = part :=
    fun part hpart => segments_render_of_prefix ((List.mem_inits part _).1 hpart)
  rw [ancestors, initialParts_eq_inits, List.map_map]
  exact (List.map_congr_left hsegments).trans (List.map_id _)

/-- A spelling is above a path exactly when it is normal and its segments begin the path. -/
theorem mem_ancestors_iff_segments {top path : String} :
    top ∈ ancestors path ↔ normalize top = top ∧ segments top <+: segments path := by
  constructor
  · intro h
    obtain ⟨part, hpart, rfl⟩ := List.mem_map.1 h
    have hprefix : part <+: segments path := mem_initialParts.1 hpart
    have hsegments : segments (render part) = part := segments_render_of_prefix hprefix
    rw [hsegments]
    exact ⟨normalize_render_initial hprefix, hprefix⟩
  · rintro ⟨hnormal, hprefix⟩
    rw [← hnormal]
    exact mem_ancestors_iff.2 hprefix

/-- The initial parts of a list are told apart by their lengths. -/
theorem map_length_inits {α : Type} (xs : List α) :
    xs.inits.map List.length = List.range (xs.length + 1) := by
  refine List.ext_getElem (by simp) fun k hk _ => ?_
  have hlength : k ≤ xs.length := by simpa [Nat.lt_succ_iff] using hk
  simp [hlength]

/-- No spelling stands twice above a path: each one has more segments than those before it. -/
theorem nodup_ancestors (path : String) : (ancestors path).Nodup := by
  have hlengths : ((ancestors path).map fun top => (segments top).length).Nodup := by
    rw [← Function.comp_def, ← List.map_map, map_segments_ancestors, map_length_inits]
    exact List.nodup_range
  exact List.Nodup.of_map _ hlengths

theorem getLast?_initialParts {α : Type} (xs : List α) :
    (initialParts xs).getLast? = some xs := by
  induction xs with
  | nil => rfl
  | cons x xs ih => simp [initialParts, List.getLast?_cons, ih]

theorem getLast?_ancestors (path : String) :
    (ancestors path).getLast? = some (normalize path) := by
  rw [ancestors, List.getLast?_map, getLast?_initialParts]
  rfl

/-! ## Going down piece by piece -/

/-- The spellings on the way down: each one is the one before it, a slash and the next piece. -/
def descend (above : List Char) : List (List Char) → List String
  | [] => []
  | piece :: pieces =>
    String.ofList (above ++ '/' :: piece) :: descend (above ++ '/' :: piece) pieces

/-- The pieces of a normal spelling that are not empty are its segments. -/
theorem filter_splitOn_normalize (path : String) :
    (splitOn '/' (normalize path).toList).filter (· ≠ []) = segments path := by
  by_cases hroot : segments path = []
  · rw [normalize, hroot]
    rfl
  · have hnonempty : ∀ seg ∈ segments path, decide (seg ≠ []) = true := by
      intro seg hseg
      have hsegment := isSegment_of_mem_segments hseg
      rw [isSegment, Bool.and_eq_true] at hsegment
      exact hsegment.1
    rw [normalize, splitOn_render hroot fun _ h => slash_not_mem_of_mem_segments h,
      List.filter_cons_of_neg (by simp)]
    exact List.filter_eq_self.2 hnonempty

theorem join_cons (seg : List Char) (segs : List (List Char)) :
    join '/' (seg :: segs) = seg ++ segs.flatMap ('/' :: ·) := by
  induction segs generalizing seg with
  | nil => simp [join]
  | cons next segs ih => rw [join, ih, List.flatMap_cons, List.cons_append]; simp

/-- On the way down, what is above stands before each initial part of what is below. -/
theorem cons_descend (above : List Char) (segs : List (List Char)) :
    String.ofList above :: descend above segs =
      (initialParts segs).map fun part => String.ofList (above ++ part.flatMap ('/' :: ·)) := by
  induction segs generalizing above with
  | nil => simp [descend, initialParts]
  | cons seg segs ih =>
    rw [descend, ih]
    simp [initialParts, Function.comp_def]

/-- The spellings above a path are the root and what is met on the way down its normal spelling. -/
theorem ancestors_eq_descend (path : String) :
    ancestors path = "/" :: descend [] ((splitOn '/' (normalize path).toList).filter (· ≠ [])) := by
  rw [filter_splitOn_normalize, ancestors]
  cases segments path with
  | nil => rfl
  | cons seg segs =>
    have hrender : ∀ part, render (seg :: part) =
        String.ofList (('/' :: seg) ++ part.flatMap ('/' :: ·)) := by
      intro part
      rw [render, join_cons, List.cons_append]
    rw [initialParts, descend, List.nil_append, cons_descend, List.map_cons, List.map_map]
    simp only [Function.comp_def, hrender]
    rfl

/-! ## Scopes -/

/-- A scope is the normal spelling of the segments of base and relative path, unless there are none. -/
theorem scope_eq (base relative : Option String) :
    scope base relative =
      if scopeSegments base relative = [] then none
      else some (normalize (base.getD "/" ++ "/" ++ relative.getD "")) := by
  have hsegs : segments (base.getD "/" ++ "/" ++ relative.getD "") =
      scopeSegments base relative := segments_append _ _
  simp only [scope, normalize_eq_root_iff, hsegs]

theorem scope_eq_none_iff {base relative : Option String} :
    scope base relative = none ↔ scopeSegments base relative = [] := by
  rw [scope_eq]
  split <;> simp_all

/-- A scope is a normal spelling, and its segments are those of base and relative path. -/
theorem of_scope_eq_some {base relative : Option String} {top : String}
    (h : scope base relative = some top) :
    normalize top = top ∧ segments top = scopeSegments base relative := by
  rw [scope_eq] at h
  split at h
  · cases h
  · cases h
    rw [normalize_normalize, segments_normalize, segments_append]
    exact ⟨rfl, rfl⟩

/--
There is no scope exactly when base and relative path have no segments together, and otherwise it is
the normal path of just these segments.  The spellings kept above a path are the normal ones whose
segments begin the path, so that the index finds a document below a scope exactly when the segments
of base and relative path begin the path of the document.  Normalizing twice is normalizing once,
and it tells paths apart by their segments alone.  The spellings above a path are those met on the
way down from the root to its normal spelling, one for each initial part of its segments, and none
of them twice.
-/
theorem scopes_by_segments (base relative : Option String) (path : String) :
    ((scope base relative = none ↔ scopeSegments base relative = []) ∧
      ∀ top ∈ scope base relative,
        normalize top = top ∧ segments top = scopeSegments base relative) ∧
    (∀ top, top ∈ ancestors path ↔ normalize top = top ∧ segments top <+: segments path) ∧
    (∀ top ∈ scope base relative, ∀ d : Document,
      (Criterion.term .ancestors (.text top)).holds (.ofDocument d) = true ↔
        scopeSegments base relative <+: segments d.path) ∧
    (normalize (normalize path) = normalize path ∧
      ∀ other, normalize path = normalize other ↔ segments path = segments other) ∧
    (ancestors path =
        "/" :: descend [] ((splitOn '/' (normalize path).toList).filter (· ≠ [])) ∧
      (ancestors path).getLast? = some (normalize path) ∧ (ancestors path).Nodup ∧
      (ancestors path).map segments = (segments path).inits) := by
  refine ⟨⟨scope_eq_none_iff, fun top htop => of_scope_eq_some htop⟩,
    fun top => mem_ancestors_iff_segments, fun top htop d => ?_,
    ⟨normalize_normalize path, fun other => normalize_eq_iff⟩, ancestors_eq_descend path,
    getLast?_ancestors path, nodup_ancestors path, map_segments_ancestors path⟩
  obtain ⟨hnormal, hsegments⟩ := of_scope_eq_some htop
  rw [holds_term_ancestors, decide_eq_true_iff, Document.ancestors, mem_ancestors_iff_segments,
    hsegments]
  exact and_iff_right hnormal

/-- The folder of a team, by a base and a relative path that are not spelled normally. -/
theorem scopes_by_segments_team :
    scope (some "/team/") (some "./doc//") = some "/team/doc" ∧
      (Criterion.term .ancestors (.text "/team/doc")).holds
        (.ofDocument { (default : Document) with path := "team//doc/a.txt" }) = true ∧
      (Criterion.term .ancestors (.text "/team/doc")).holds
        (.ofDocument { (default : Document) with path := "/team/docs/a.txt" }) = false := by
  have hscope : scope (some "/team/") (some "./doc//") = some "/team/doc" := by decide +kernel
  have hcovers := (scopes_by_segments (some "/team/") (some "./doc//") "/").2.2.1 _ hscope
  refine ⟨hscope, (hcovers _).2 (by decide +kernel), ?_⟩
  rw [Bool.eq_false_iff, ne_eq, hcovers]
  decide +kernel

end ScopedSearch.Path
