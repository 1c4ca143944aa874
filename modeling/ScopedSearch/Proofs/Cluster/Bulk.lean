import ScopedSearch.Proofs.Cluster.Documents
import ScopedSearch.Proofs.Json.OneLine

/-!
# Documents sent in bulk

Documents are sent to a cluster in one text of lines, two for each of them: where it goes, and what
is to be kept.  The cluster cuts the text at line feeds before it looks at anything else, so it is
the lines that decide what is written where.  No text of a document reaches over its own two lines,
because a line feed in it is escaped; and what such a line holds is read as it was written.

The reader of the format is written down here from the format alone, without regard to how the text
is made.

## Main results

* `splitOn_bulkBody`: the lines of the text are those that were written.
* `readBulk?_bulkBody`: a reader of the format finds the documents, each under its own key.
* `bulkBody_is_read`: what stands on which line, and that no document has a part in the lines of
  another one.
-/

namespace ScopedSearch

open ScopedSearch.Text

/-! ## Lines -/

/-- A line feed does not stand in the compact form of a value. -/
theorem Json.lineFeed_not_mem_chars (v : Json) : '\n' ∉ v.chars := by
  intro h
  have hprintable : IsPrintable '\n' := printable_chars v _ h
  exact absurd hprintable (by decide)

theorem Json.parseChars?_chars {v : Json} (h : v.isExact = true) : parseChars? v.chars = some v := by
  have hparse := parse?_compact h
  rwa [parse?, compact, String.toList_ofList] at hparse

theorem isExact_bulkAction (index : String) (d : Document) :
    (bulkAction index d).isExact = true := rfl

/-- The lines of the text are those that were written, and nothing stands behind the last one. -/
theorem splitOn_bulkBody (index : String) (ds : List Document) :
    splitOn '\n' (bulkBody index ds).toList = (bulkLines index ds).map Json.chars ++ [[]] := by
  have htext : (bulkBody index ds).toList =
      ((bulkLines index ds).map Json.chars).flatMap (· ++ ['\n']) := by
    simp only [bulkBody, Json.compact, String.toList_join, List.flatMap_map, String.toList_append,
      String.toList_ofList]
    rfl
  rw [htext, splitOn_flatMap]
  intro line hline
  obtain ⟨v, -, rfl⟩ := List.mem_map.1 hline
  exact v.lineFeed_not_mem_chars

/-! ## The two lines of a document -/

/-- Where so many things come from each item, the place of a thing tells its item and its number. -/
theorem getElem?_flatMap_of_length {α β : Type} {f : α → List β} {n : Nat}
    (h : ∀ x, (f x).length = n) (hn : 0 < n) (xs : List α) (k : Nat) :
    (xs.flatMap f)[k]? = xs[k / n]?.bind fun x => (f x)[k % n]? := by
  induction xs generalizing k with
  | nil => simp
  | cons x xs ih =>
    rw [List.flatMap_cons]
    rcases Nat.lt_or_ge k n with hk | hk
    · rw [List.getElem?_append_left (by rwa [h]), Nat.div_eq_of_lt hk, Nat.mod_eq_of_lt hk]
      rfl
    · obtain ⟨m, rfl⟩ := Nat.exists_eq_add_of_le hk
      rw [List.getElem?_append_right (by rwa [h]), h, Nat.add_sub_cancel_left, ih,
        Nat.add_div_left m hn, Nat.add_mod_left]
      rfl

/-- The lines of documents, in pairs. -/
theorem map_chars_bulkLines (index : String) (ds : List Document) :
    (bulkLines index ds).map Json.chars =
      ds.flatMap fun d => [(bulkAction index d).chars, d.source.chars] := by
  rw [bulkLines, List.map_flatMap]
  rfl

/-- Each line is one of the two lines of the document that it belongs to. -/
theorem getElem?_bulkLines (index : String) (ds : List Document) (k : Nat) :
    ((bulkLines index ds).map Json.chars)[k]? =
      ds[k / 2]?.bind fun d => [(bulkAction index d).chars, d.source.chars][k % 2]? := by
  rw [map_chars_bulkLines]
  exact getElem?_flatMap_of_length (n := 2) (fun _ => rfl) Nat.two_pos ds k

/-! ## Reading -/

/-- What a cluster is told to keep, and where. -/
structure BulkEntry where
  index : String
  key : String
  document : Document
  deriving DecidableEq

/-- Reads two lines: the first one has to ask for an entry in an index, and for nothing else. -/
def BulkEntry.ofLines? (action source : List Char) : Option BulkEntry := do
  let .record [("index", place)] ← Json.parseChars? action | none
  let index ← (← place.field? "_index").text?
  let key ← (← place.field? "_id").text?
  let document ← Document.ofJson? (← Json.parseChars? source)
  return { index, key, document }

/-- Reads lines two by two up to the empty rest behind the last line feed. -/
def readEntries? : List (List Char) → Option (List BulkEntry)
  | [[]] => some []
  | action :: source :: lines => do
    let entry ← BulkEntry.ofLines? action source
    let entries ← readEntries? lines
    return entry :: entries
  | _ => none

/-- Reads a text of documents sent in bulk. -/
def readBulk? (body : String) : Option (List BulkEntry) :=
  readEntries? (splitOn '\n' body.toList)

theorem ofLines?_chars (index : String) (d : Document) :
    BulkEntry.ofLines? (bulkAction index d).chars d.source.chars = some ⟨index, d.key, d⟩ := by
  unfold BulkEntry.ofLines?
  rw [Json.parseChars?_chars (isExact_bulkAction index d), Json.parseChars?_chars d.isExact_source]
  simp only [Option.bind_eq_bind, Option.bind_some, bulkAction, Document.ofJson?_source]
  rfl

/-- A reader of the format finds the documents, each under its own key, and nothing else. -/
theorem readBulk?_bulkBody (index : String) (ds : List Document) :
    readBulk? (bulkBody index ds) = some (ds.map fun d => ⟨index, d.key, d⟩) := by
  rw [readBulk?, splitOn_bulkBody, map_chars_bulkLines]
  induction ds with
  | nil => rfl
  | cons d ds ih =>
    rw [List.flatMap_cons, List.append_assoc, List.cons_append, List.cons_append, List.nil_append,
      readEntries?, ofLines?_chars, ih]
    rfl

/-! ## The text -/

/--
The text for `n` documents is `2 * n` lines and an empty rest.  On the lines of a document stand the
index and its own key, and what is read as the document, whatever its texts hold.  So a reader finds
one entry for each document and no other, and another document in its place changes nothing on the
lines of the others.
-/
theorem bulkBody_is_read (index : String) (ds : List Document) :
    (∃ lines, splitOn '\n' (bulkBody index ds).toList = lines ++ [[]] ∧
      lines.length = 2 * ds.length ∧
      ∀ i d, ds[i]? = some d →
        (∃ action, lines[2 * i]? = some action ∧
          Json.parseChars? action = some (.record [
            ("index", .record [("_index", .text index), ("_id", .text d.key)])])) ∧
        ∃ source v, lines[2 * i + 1]? = some source ∧ Json.parseChars? source = some v ∧
          Document.ofJson? v = some d) ∧
    readBulk? (bulkBody index ds) = some (ds.map fun d => ⟨index, d.key, d⟩) ∧
    ∀ i d k, k / 2 ≠ i →
      (splitOn '\n' (bulkBody index (ds.set i d)).toList)[k]? =
        (splitOn '\n' (bulkBody index ds).toList)[k]? := by
  refine ⟨⟨(bulkLines index ds).map Json.chars, splitOn_bulkBody index ds, ?_, ?_⟩,
    readBulk?_bulkBody index ds, ?_⟩
  · rw [List.length_map, length_bulkLines]
  · intro i d hd
    have hfirst : 2 * i / 2 = i ∧ 2 * i % 2 = 0 := by omega
    have hsecond : (2 * i + 1) / 2 = i ∧ (2 * i + 1) % 2 = 1 := by omega
    rw [getElem?_bulkLines, getElem?_bulkLines, hfirst.1, hfirst.2, hsecond.1, hsecond.2, hd]
    exact ⟨⟨_, rfl, Json.parseChars?_chars (isExact_bulkAction index d)⟩,
      _, d.source, rfl, Json.parseChars?_chars d.isExact_source, d.ofJson?_source⟩
  · intro i d k hk
    have hlength : ((bulkLines index (ds.set i d)).map Json.chars).length =
        ((bulkLines index ds).map Json.chars).length := by
      simp only [List.length_map, length_bulkLines, List.length_set]
    rw [splitOn_bulkBody, splitOn_bulkBody, List.getElem?_append, List.getElem?_append, hlength,
      getElem?_bulkLines, getElem?_bulkLines, List.getElem?_set_ne (Ne.symm hk)]

/-- A note of which the content reads like a line that deletes another document. -/
def forgingNote : Document where
  space := "team"
  item := "1"
  path := "/a.txt"
  name := "a.txt"
  mimeType := "text/plain"
  size := 35
  mtime := 100
  content := "\"\x7d\n\x7b\"delete\":\x7b\"_id\":\"team!2\"\x7d\x7d\n"

/-- Another note of the same team. -/
def besideNote : Document := { forgingNote with item := "2", content := "" }

/-- The note is written on two lines of four, and the other note as if there were nothing in it. -/
theorem bulkBody_is_read_forgingNote :
    ∃ lines, splitOn '\n' (bulkBody "idx" [forgingNote, besideNote]).toList = lines ++ [[]] ∧
      lines.length = 4 ∧
      (∃ source v, lines[1]? = some source ∧ Json.parseChars? source = some v ∧
        Document.ofJson? v = some forgingNote) ∧
      (splitOn '\n' (bulkBody "idx" [{ forgingNote with content := "" }, besideNote]).toList)[2]? =
        (splitOn '\n' (bulkBody "idx" [forgingNote, besideNote]).toList)[2]? := by
  obtain ⟨⟨lines, hsplit, hlength, hlines⟩, -, hset⟩ :=
    bulkBody_is_read "idx" [forgingNote, besideNote]
  exact ⟨lines, hsplit, hlength, (hlines 0 forgingNote rfl).2,
    hset 0 { forgingNote with content := "" } 2 (by decide)⟩

end ScopedSearch
