import ScopedSearch.Json.Value

/-!
# Shapes of JSON values

Changes of a value that leave its shape alone: its texts one by one, and the order of the fields of
its records.
-/

namespace ScopedSearch.Json

mutual

/-- The value with every text in it changed; the names of fields stay. -/
def mapTexts (f : String → String) : Json → Json
  | .text s => .text (f s)
  | .list items => .list (mapTextsList f items)
  | .record fields => .record (mapTextsFields f fields)
  | v => v

def mapTextsList (f : String → String) : List Json → List Json
  | [] => []
  | v :: vs => v.mapTexts f :: mapTextsList f vs

def mapTextsFields (f : String → String) : List (String × Json) → List (String × Json)
  | [] => []
  | (name, v) :: fs => (name, v.mapTexts f) :: mapTextsFields f fs

end

mutual

/-- The value with the fields of every record in the order of their names. -/
def sortFields : Json → Json
  | .list items => .list (sortFieldsList items)
  | .record fields => .record ((sortFieldsEach fields).mergeSort fun a b => decide (a.1 ≤ b.1))
  | v => v

def sortFieldsList : List Json → List Json
  | [] => []
  | v :: vs => v.sortFields :: sortFieldsList vs

def sortFieldsEach : List (String × Json) → List (String × Json)
  | [] => []
  | (name, v) :: fs => (name, v.sortFields) :: sortFieldsEach fs

end

end ScopedSearch.Json
