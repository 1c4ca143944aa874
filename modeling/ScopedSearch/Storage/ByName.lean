/-!
# Lists by name

Pairs of a name and a value, ascending by name, as directories and spaces are listed.

## Main results

* `lookup_placeByName`: a placed value is found, and what stands under other names stays.
-/

namespace ScopedSearch

/-- Places a value into a list of pairs ascending by name, in place of one with the same name. -/
def placeByName {α : Type} (name : String) (a : α) : List (String × α) → List (String × α)
  | [] => [(name, a)]
  | (n, b) :: rest =>
    if name < n then (name, a) :: (n, b) :: rest
    else if name = n then (name, a) :: rest
    else (n, b) :: placeByName name a rest

/-- Takes the value of a name away. -/
def removeName {α : Type} (name : String) (entries : List (String × α)) : List (String × α) :=
  entries.filter (·.1 ≠ name)

/-- A placed value is found, and what stands under other names stays. -/
theorem lookup_placeByName {α : Type} (name x : String) (a : α) (entries : List (String × α)) :
    (placeByName name a entries).lookup x = if x = name then some a else entries.lookup x := by
  induction entries with
  | nil =>
    by_cases h : x = name
    · simp [placeByName, h]
    · have hb : (x == name) = false := by simp [h]
      simp [placeByName, List.lookup_cons, h, hb]
  | cons e rest ih =>
    obtain ⟨n, b⟩ := e
    unfold placeByName
    by_cases hx : x = name
    · subst hx
      split
      · simp
      · split
        · simp
        · rename_i _ hn
          simp [List.lookup_cons, beq_eq_false_iff_ne.2 hn, ih]
    · have hb : (x == name) = false := by simp [hx]
      split
      · simp [List.lookup_cons, hb]
      · split
        · rename_i _ hn
          subst hn
          simp [List.lookup_cons, hb]
        · simp [List.lookup_cons, ih, hx]

end ScopedSearch
