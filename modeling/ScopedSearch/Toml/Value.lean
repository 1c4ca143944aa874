/-!
# TOML values

A table keeps how it came to be, since that decides what may still be written into it: a table
that only stands around others may be opened by its own header once, one made by dotted keys may
grow by dotted keys, and one written in line is closed.

## Main results

* `lookup_assign_self`: an assigned value is found under its key.
-/

namespace ScopedSearch

/-- How a table came to be. -/
inductive TableForm
  /-- It stands around a table with a longer header. -/
  | implied
  /-- It has a header. -/
  | opened
  /-- It was made by a dotted key. -/
  | dotted
  /-- It was written in line. -/
  | inline
  deriving DecidableEq, Repr

/-- A TOML value. -/
inductive Toml
  | text (s : String)
  | int (n : Int)
  /-- A number with a fraction or an exponent, as written. -/
  | float (numeral : String)
  | bool (b : Bool)
  /-- A date, a time, or both, as written. -/
  | moment (written : String)
  | array (items : List Toml)
  | table (form : TableForm) (fields : List (String × Toml))
  /-- Tables under one header that stands once for each of them. -/
  | tables (items : List (List (String × Toml)))
  deriving Repr, Inhabited

namespace Toml

/-- The fields of a table. -/
abbrev Fields := List (String × Toml)

/-- Puts a value in the place of the one under a name. -/
def replace (name : String) (v : Toml) (fields : Fields) : Fields :=
  fields.map fun f => if f.1 = name then (name, v) else f

/-- Assigns a value to a dotted key; nothing when there is no room for it. -/
def assign (v : Toml) : List String → Fields → Option Fields
  | [], _ => none
  | [name], fields =>
    match fields.lookup name with
    | none => some (fields ++ [(name, v)])
    | some _ => none
  | name :: rest, fields =>
    match fields.lookup name with
    | none => do return fields ++ [(name, .table .dotted (← assign v rest []))]
    | some (.table form inner) =>
      if form = .implied ∨ form = .dotted then do
        return replace name (.table form (← assign v rest inner)) fields
      else none
    | some _ => none

theorem lookup_assign_self {v : Toml} {name : String} {fields after : Fields}
    (h : assign v [name] fields = some after) : after.lookup name = some v := by
  unfold assign at h
  split at h
  · rename_i hnone
    simp only [Option.some.injEq] at h
    subst h
    rw [List.lookup_append, hnone]
    simp
  · simp at h

/-- Changes the table under a header; tables around it that are not there yet are implied. -/
def within (f : Fields → Option Fields) : List String → Fields → Option Fields
  | [], fields => f fields
  | name :: rest, fields =>
    match fields.lookup name with
    | none => do return fields ++ [(name, .table .implied (← within f rest []))]
    | some (.table form inner) =>
      if form = .inline then none
      else do return replace name (.table form (← within f rest inner)) fields
    | some (.tables items) =>
      match items.getLast? with
      | none => none
      | some last => do
        return replace name (.tables (items.dropLast ++ [← within f rest last])) fields
    | some _ => none

/-- Opens a table. -/
def openTable (name : String) (fields : Fields) : Option Fields :=
  match fields.lookup name with
  | none => some (fields ++ [(name, .table .opened [])])
  | some (.table .implied inner) => some (replace name (.table .opened inner) fields)
  | some _ => none

/-- Opens the next table of those under one header. -/
def openElement (name : String) (fields : Fields) : Option Fields :=
  match fields.lookup name with
  | none => some (fields ++ [(name, .tables [[]])])
  | some (.tables items) => some (replace name (.tables (items ++ [[]])) fields)
  | some _ => none

end Toml

end ScopedSearch
