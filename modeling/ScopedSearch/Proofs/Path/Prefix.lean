import ScopedSearch.Path

/-!
# Paths at or below a path

A path lies at or below another one when the segments of the other one begin its own.  The index
decides this by texts: it keeps the spelling of every path at or above a document, and a scope is
one more normal spelling.  Here the two views are shown to agree, so that later statements speak of
segments only.

## Main results

* `mem_ancestors_iff`: a normal spelling is among the ancestors of a path exactly when its segments
  begin those of the path.
* `scope_covers_iff`: what a scope covers, by segments.
-/

namespace ScopedSearch.Path

open ScopedSearch.Text

/-- Cutting at one occurrence of the separator cuts both sides on their own. -/
theorem splitOn_append_sep (sep : Char) (cs ds : List Char) :
    splitOn sep (cs ++ sep :: ds) = splitOn sep cs ++ splitOn sep ds := by
  induction cs with
  | nil => simp [splitOn]
  | cons c cs ih =>
    by_cases hc : c = sep
    · simp [splitOn, hc, ih]
    · have hne := splitOn_ne_nil sep cs
      simp only [List.cons_append, splitOn, hc, if_false, ih]
      cases hs : splitOn sep cs with
      | nil => exact absurd hs hne
      | cons piece pieces => rfl

/-- The segments of two paths joined by a slash are those of the first, then those of the second. -/
theorem segments_append (first second : String) :
    segments (first ++ "/" ++ second) = segments first ++ segments second := by
  have htext : (first ++ "/" ++ second).toList = first.toList ++ '/' :: second.toList := by simp
  rw [segments, htext, splitOn_append_sep, List.filter_append]
  rfl

@[simp] theorem segments_root : segments "/" = [] := by decide

theorem normalize_eq_root_iff {path : String} : normalize path = "/" ↔ segments path = [] := by
  constructor
  · intro h
    rw [← segments_normalize path, h, segments_root]
  · intro h
    rw [normalize, h]
    rfl

/-! ## Ancestors -/

theorem mem_initialParts {α : Type} {part whole : List α} :
    part ∈ initialParts whole ↔ part <+: whole := by
  induction whole generalizing part with
  | nil => simp [initialParts]
  | cons x whole ih =>
    cases part with
    | nil => simp [initialParts]
    | cons y part =>
      simp only [initialParts, List.mem_cons, reduceCtorEq, List.mem_map, false_or,
        List.cons.injEq, List.cons_prefix_cons, ← ih]
      constructor
      · rintro ⟨rest, hrest, rfl, rfl⟩
        exact ⟨rfl, hrest⟩
      · rintro ⟨rfl, hpart⟩
        exact ⟨part, hpart, rfl, rfl⟩

/-- The initial part of the segments of a path is the list of segments of a path of its own. -/
theorem segments_render_of_prefix {path : String} {part : List (List Char)}
    (h : part <+: segments path) : segments (render part) = part :=
  segments_render (fun _ hs => slash_not_mem_of_mem_segments (h.subset hs))
    (fun _ hs => isSegment_of_mem_segments (h.subset hs))

/-- A normal spelling is among the ancestors of a path exactly when its segments begin the path. -/
theorem mem_ancestors_iff {scope path : String} :
    normalize scope ∈ ancestors path ↔ segments scope <+: segments path := by
  simp only [ancestors, List.mem_map, mem_initialParts]
  constructor
  · rintro ⟨part, hpart, hrender⟩
    have hsegs : segments scope = part := by
      rw [← segments_normalize scope, ← hrender, segments_render_of_prefix hpart]
    rw [hsegs]
    exact hpart
  · intro h
    exact ⟨segments scope, h, rfl⟩

/-! ## Scopes -/

/-- The segments that a base and a relative path name together. -/
def scopeSegments (base relative : Option String) : List (List Char) :=
  segments (base.getD "/") ++ segments (relative.getD "")

/-- Without a base, the scope is the relative path alone. -/
@[simp] theorem scopeSegments_none (relative : Option String) :
    scopeSegments none relative = segments (relative.getD "") := by
  simp [scopeSegments]

/--
A scope covers a path when it is no scope at all or stands among the ancestors of the path; that
is the case exactly when the segments of base and relative path begin those of the path.
-/
theorem scope_covers_iff {base relative : Option String} {path : String} :
    (∀ top, scope base relative = some top → top ∈ ancestors path) ↔
      scopeSegments base relative <+: segments path := by
  have hsegs : segments (base.getD "/" ++ "/" ++ relative.getD "") =
      scopeSegments base relative := segments_append _ _
  rw [← hsegs]
  by_cases hroot : normalize (base.getD "/" ++ "/" ++ relative.getD "") = "/"
  · -- the root begins every path, and no scope is set
    have hscope : scope base relative = none := by simp [scope, hroot]
    simp [hscope, normalize_eq_root_iff.1 hroot]
  · have hscope : scope base relative =
        some (normalize (base.getD "/" ++ "/" ++ relative.getD "")) := by simp [scope, hroot]
    rw [hscope, ← mem_ancestors_iff]
    simp

end ScopedSearch.Path
