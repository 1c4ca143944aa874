import ScopedSearch.Index.Field

/-!
# Phrases

How often words stand in a given arrangement.  The places of each word are shifted by its distance
from the last word, so that an exact occurrence puts one and the same number into every list.  With
a slop the numbers may lie apart; every word then starts from the place of the word before it, and
the distances add up.

## Main results

* `exactPlaces_subset`: an exact occurrence ends at a place of every word.
-/

namespace ScopedSearch.Phrase

/-- The places of a term among postings. -/
def placesOf (postings : List Posting) (t : Term) : List Nat :=
  postings.filterMap fun p => if p.term = t then some p.place else none

/-- The greatest distance from the start among the words. -/
def span (ws : List (Nat × String)) : Nat := (ws.map (·.1)).foldl max 0

/-- The places of each word, shifted by its distance from the last one. -/
def shifted (postings : List Posting) (ws : List (Nat × String)) : List (List Nat) :=
  ws.map fun (place, w) => (placesOf postings (.text w)).map (· + (span ws - place))

/-- The numbers that stand in every list. -/
def exactPlaces : List (List Nat) → List Nat
  | [] => []
  | [ps] => ps
  | ps :: rest => (exactPlaces rest).filter ps.contains

theorem exactPlaces_subset {lists : List (List Nat)} {n : Nat} (h : n ∈ exactPlaces lists) :
    ∀ ps ∈ lists, n ∈ ps := by
  induction lists with
  | nil => simp [exactPlaces] at h
  | cons ps rest ih =>
    cases rest with
    | nil => simpa [exactPlaces] using h
    | cons qs rest =>
      simp only [exactPlaces, List.mem_filter, List.contains_iff_mem] at h
      intro rs hrs
      rcases List.mem_cons.1 hrs with rfl | hrs
      · exact h.2
      · exact ih h.1 rs hrs

/-- A place with the distance used up so far. -/
structure Reach where
  place : Nat
  spent : Nat := 0
  deriving DecidableEq, Repr

/-- The distance of two places. -/
def distance (m n : Nat) : Nat := if m ≤ n then n - m else m - n

/-- The last of the places from `r` on that does not lie behind `n`; at least `r` itself. -/
def closest (n : Nat) (r : Reach) : List Reach → Reach × List Reach
  | [] => (r, [])
  | r' :: rs => if n < r'.place then (r, r' :: rs) else closest n r' rs

theorem length_closest_le (n : Nat) (r : Reach) (rs : List Reach) :
    (closest n r rs).2.length ≤ rs.length := by
  induction rs generalizing r with
  | nil => simp [closest]
  | cons r' rs ih =>
    rw [closest]
    split
    · simp
    · exact Nat.le_succ_of_le (ih r')

/--
Pairs the places reached so far with the places of the next word, each used at most once, where
they lie within what is left of the slop.
-/
def advance (slop : Nat) : List Reach → List Nat → List Reach
  | [], _ => []
  | _, [] => []
  | r :: rs, n :: ns =>
    if distance r.place n + r.spent ≤ slop then
      let best := (closest n r rs).1
      ⟨n, best.spent + distance best.place n⟩ :: advance slop (closest n r rs).2 ns
    else if r.place < n then advance slop rs (n :: ns)
    else advance slop (r :: rs) ns
termination_by rs ns => rs.length + ns.length
decreasing_by
  · have := length_closest_le n r rs
    simp only [List.length_cons]
    omega
  · simp
  · simp

/-- The places reached by a phrase with a slop. -/
def loosePlaces (slop : Nat) : List (List Nat) → List Reach
  | [] => []
  | ps :: rest => rest.foldl (advance slop) (ps.map fun n => ⟨n, 0⟩)

/-- How often a phrase stands among postings. -/
def count (postings : List Posting) (ws : List (Nat × String)) (slop : Nat) : Nat :=
  if slop = 0 then (exactPlaces (shifted postings ws)).length
  else (loosePlaces slop (shifted postings ws)).length

/--
A word that begins with `start` follows the phrase `ws`.  After a single word it stands where the
query has it; after several it stands right behind the last one.
-/
def startsAfter (postings : List Posting) (ws : List (Nat × String)) (place : Nat)
    (start : String) : Bool :=
  let step := match ws with
    | [(first, _)] => place - first
    | _ => 1
  (exactPlaces (shifted postings ws)).any fun n =>
    postings.any fun p => p.place == n + step &&
      match p.term with
      | .text w => w.startsWith start
      | _ => false

end ScopedSearch.Phrase
