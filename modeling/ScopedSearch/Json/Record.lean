import ScopedSearch.Json.Value
import ScopedSearch.Text.Numeral
import ScopedSearch.TagSet

/-!
# Reading records

A record type has named fields in a fixed order.  Its value may be written in two ways: as a JSON
record, where a name may stand anywhere but only once and unknown names are skipped, or as a JSON
list of the field values in order, where trailing fields may be left out.  Either way a field
without a value falls back on its default, and reading fails where it has none.

`Cells` is what both ways are brought to: for each field of the type, the value given for it.
-/

namespace ScopedSearch.Json

/-- The values given for the fields of a record type, in the order of the type. -/
abbrev Cells := List (Option Json)

/-- The value given for a name: nothing when the name stands twice. -/
def cell (fields : List (String × Json)) (name : String) : Option (Option Json) :=
  match fields.filter (·.1 == name) with
  | [] => some none
  | [(_, v)] => some (some v)
  | _ => none

/-- The cells of a record, when no name of the type stands twice in it. -/
def recordCells? (names : List String) (fields : List (String × Json)) : Option Cells :=
  names.mapM (cell fields)

/-- The cells of a value read as a record with the given names. -/
def cells? (names : List String) : Json → Option Cells
  | .record fields => recordCells? names fields
  | .list items =>
    if items.length ≤ names.length then
      some (items.map some ++ List.replicate (names.length - items.length) none)
    else none
  | _ => none

/-! ## Values of fields -/

/-- A whole number of a range. -/
def intIn? (lo hi : Int) : Json → Option Int
  | .int n => if lo ≤ n ∧ n ≤ hi then some n else none
  | _ => none

/-- An unsigned 64-bit number. -/
def word? (v : Json) : Option Nat := (intIn? 0 Text.maxWord v).map Int.toNat

/-- A signed 64-bit number. -/
def signed? (v : Json) : Option Int := intIn? Text.minSigned Text.maxSigned v

/-- A signed 32-bit number. -/
def signed32? (v : Json) : Option Int :=
  intIn? Text.minHalfSigned Text.maxHalfSigned v

/-- A text, or nothing for null. -/
def optionText? : Json → Option (Option String)
  | .null => some none
  | .text s => some (some s)
  | _ => none

/-- A list of texts. -/
def textList? : Json → Option (List String)
  | .list items => items.mapM text?
  | _ => none

/-- A set of texts, written as a list. -/
def tagSet? (v : Json) : Option TagSet := (textList? v).map TagSet.ofList

/-- A number as a single-precision float. -/
def float32? : Json → Option Float32
  | .int n =>
    some (if n < 0 then -(n.natAbs.toUInt64.toFloat32) else n.toNat.toUInt64.toFloat32)
  | .decimal d => some d.toDouble.toFloat32
  | _ => none

/-! ## Cells -/

/-- A field that must be given. -/
def required {α : Type} (read : Json → Option α) (c : Option Json) : Option α := c.bind read

/-- A field that falls back on a default when it is not given. -/
def withDefault {α : Type} (read : Json → Option α) (default : α) : Option Json → Option α
  | none => some default
  | some v => read v

end ScopedSearch.Json
