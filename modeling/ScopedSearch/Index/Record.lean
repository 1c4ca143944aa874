import ScopedSearch.Index.Field

/-!
# Records

What an index is given of a document: values under fields, each of the type of its field.  The index
keeps the values of the stored fields and gives the document back from these alone.  Of most fields
the first value counts, of the tags all of them, and where there is no value of the right type, one
that stands for nothing.

## Main results

* `document_stored_record`: a document is given back as it was added.
-/

namespace ScopedSearch

/-- A value under a field. -/
inductive FieldValue
  | text (s : String)
  | unsigned (n : UInt64)
  | signed (n : Int64)
  | flag (b : Bool)
  deriving DecidableEq, Repr

namespace FieldValue

def text? : FieldValue → Option String
  | text s => some s
  | _ => none

def unsigned? : FieldValue → Option UInt64
  | unsigned n => some n
  | _ => none

def signed? : FieldValue → Option Int64
  | signed n => some n
  | _ => none

def flag? : FieldValue → Option Bool
  | flag b => some b
  | _ => none

end FieldValue

/-- Values under fields, in the order in which they were added. -/
abbrev IndexRecord := List (Field × FieldValue)

/-- The values of a document under a field. -/
def Document.values (d : Document) : Field → List FieldValue
  | .key => [.text d.key]
  | .space => [.text d.space]
  | .item => [.text d.item]
  | .path => [.text d.path]
  | .ancestors => d.ancestors.map .text
  | .name => [.text d.name]
  | .content => [.text d.content]
  | .tags => d.tags.toList.map .text
  | .mimeType => [.text d.mimeType]
  | .size => [.unsigned d.size]
  | .mtime => [.signed d.mtime]
  | .trashed => [.flag d.trashed]
  | .degraded => [.flag d.degraded]

/-- What an index is given of a document. -/
def Document.record (d : Document) : IndexRecord :=
  Field.all.flatMap fun f => (d.values f).map fun v => (f, v)

namespace IndexRecord

/-- The values that are kept. -/
def stored (r : IndexRecord) : IndexRecord := r.filter (·.1.isStored)

/-- The values under a field, the first one first. -/
def values (r : IndexRecord) (f : Field) : List FieldValue := (r.filter (·.1 = f)).map (·.2)

/-- The first value under a field, read as what the field holds. -/
def first {α : Type} (r : IndexRecord) (f : Field) (read : FieldValue → Option α)
    (nothing : α) : α := ((r.values f).head?.bind read).getD nothing

/-- The document that a record gives back. -/
def document (r : IndexRecord) : Document where
  space := r.first .space FieldValue.text? ""
  item := r.first .item FieldValue.text? ""
  path := r.first .path FieldValue.text? ""
  name := r.first .name FieldValue.text? ""
  mimeType := r.first .mimeType FieldValue.text? ""
  size := r.first .size FieldValue.unsigned? 0
  mtime := r.first .mtime FieldValue.signed? 0
  tags := TagSet.ofList ((r.values .tags).filterMap FieldValue.text?)
  content := r.first .content FieldValue.text? ""
  trashed := r.first .trashed FieldValue.flag? false
  degraded := r.first .degraded FieldValue.flag? false

/-- Values under stored fields are kept. -/
theorem values_stored (r : IndexRecord) {f : Field} (h : f.isStored = true) :
    r.stored.values f = r.values f := by
  rw [values, values, stored, List.filter_filter]
  congr 1
  refine List.filter_congr fun x _ => ?_
  by_cases hx : x.1 = f <;> simp [hx, h]

theorem values_append (r r' : IndexRecord) (f : Field) :
    values (r ++ r') f = r.values f ++ r'.values f := by
  rw [values, List.filter_append, List.map_append]
  rfl

/-- Values that were added under one field are found there and nowhere else. -/
theorem values_under (vs : List FieldValue) (f g : Field) :
    values (vs.map fun v => (g, v)) f = if g = f then vs else [] := by
  by_cases h : g = f <;> simp [values, List.filter_map, h, Function.comp_def]

end IndexRecord

/-- A record has the values of its document. -/
theorem Document.values_record (d : Document) (f : Field) : d.record.values f = d.values f := by
  simp only [record, Field.all, List.flatMap_cons, List.flatMap_nil, IndexRecord.values_append,
    IndexRecord.values_under]
  cases f <;> simp [IndexRecord.values]

/-- The texts of a tag set make the tag set again. -/
theorem TagSet.ofList_toList (s : TagSet) : ofList s.toList = s := by
  ext x
  rw [mem_ofList, mem_def]

/-- A document is given back as it was added. -/
theorem Document.document_stored_record (d : Document) : d.record.stored.document = d := by
  have hvalues : ∀ f : Field, f.isStored = true → d.record.stored.values f = d.values f :=
    fun f hf => (IndexRecord.values_stored d.record hf).trans (d.values_record f)
  have htags : (d.values .tags).filterMap FieldValue.text? = d.tags.toList := by
    simp [values, List.filterMap_map, Function.comp_def, FieldValue.text?]
  simp (disch := decide) only [IndexRecord.document, IndexRecord.first, hvalues, htags,
    TagSet.ofList_toList]
  rfl

end ScopedSearch
