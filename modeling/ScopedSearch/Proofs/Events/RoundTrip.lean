import Mathlib.Data.List.TakeWhile
import ScopedSearch.Proofs.Events.Lines
import ScopedSearch.Proofs.Json.Fields
import ScopedSearch.Proofs.Json.OneLine

/-!
# Events written and read back

An event is written as a record on one line.  Reading the record gives the event back, of whatever
type it is and whatever its texts hold, and since the line has no line feed in it, a row of lines is
cut where it was joined.  So a feed of written events delivers the events.

## Main results

* `ofJson?_toJson`: the record of an event is read as the event.
* `consume_written`: lines of events, joined by line feeds, deliver the events in their order.
-/

namespace ScopedSearch

/-! ## Events -/

namespace Change

theorem soundFields_fields (c : Change) : Json.soundFields c.fields = true := by
  cases c <;> simp [fields, Json.soundFields, Json.isSound, Json.texts, Json.soundList_texts]

theorem depthFields_fields (c : Change) : Json.depthFields c.fields ≤ 1 := by
  cases c <;> simp [fields, Json.depthFields, Json.depth, Json.texts, Json.depthList_texts]

theorem exactFields_fields (c : Change) : Json.exactFields c.fields = true := by
  cases c <;> simp [fields, Json.exactFields, Json.isExact, Json.texts, Json.exactList_texts]

/-- Tags are read from the one field of their name. -/
theorem readTags_of_cell {make : TagSet → Change} {fields : List (String × Json)} {tags : TagSet}
    (h : Json.cell fields "tags" = some (some (Json.texts tags.toList))) :
    readTags make fields = some (make tags) := by
  have htags : Json.required Json.tagSet? (some (Json.texts tags.toList)) = some tags :=
    Json.tagSet?_texts tags
  rw [readTags, h]
  simp only [Option.bind_eq_bind, Option.bind_some, htags, Option.pure_def]

end Change

namespace Event

theorem isExact_toJson (e : Event) : e.toJson.isExact = true := by
  have hfields := e.change.exactFields_fields
  cases he : e.executant <;> simp [toJson, he, Json.isExact, Json.exactFields, hfields]

theorem isReadable_toJson (e : Event) : e.toJson.isReadable = true := by
  have hsound := e.change.soundFields_fields
  have hdepth := e.change.depthFields_fields
  cases he : e.executant <;>
    simp [toJson, he, Json.isReadable, Json.isSound, Json.depth, Json.soundFields,
      Json.depthFields, Json.maxDepth, hsound] <;> omega

/-- The record of an event is read as the event. -/
theorem ofJson?_toJson (e : Event) : ofJson? e.toJson = some e := by
  have hreadable := e.isReadable_toJson
  obtain ⟨space, item, executant, change⟩ := e
  unfold ofJson?
  rw [hreadable, Bool.not_true, if_neg Bool.false_ne_true]
  cases executant <;> cases change
  case none.tagsAdded | some.tagsAdded | none.tagsRemoved | some.tagsRemoved =>
    show (Change.readTags _ _).bind _ = _
    rw [Change.readTags_of_cell rfl]
    rfl
  all_goals rfl

/-- The text of an event is read as the event. -/
theorem parse?_toJson (e : Event) : parse? e.toJson.compact = some e := by
  rw [parse?, Json.parse?_compact e.isExact_toJson, Option.bind_some, ofJson?_toJson]

end Event

/-! ## Lines -/

namespace EventLines

open Text

/-- Texts joined by line feeds have the bytes of the texts, joined by the byte. -/
theorem toList_toUTF8_intercalate (texts : List String) :
    ("\n".intercalate texts).toUTF8.toList =
      [lineFeed].intercalate (texts.map fun s => s.toUTF8.toList) := by
  induction texts with
  | nil => decide +kernel
  | cons s texts ih =>
    cases texts with
    | nil => simp
    | cons t texts =>
      have hfeed : "\n".toUTF8.toList = [lineFeed] := by decide +kernel
      rw [String.intercalate_cons_cons, toList_toUTF8_append, toList_toUTF8_append, hfeed, ih]
      simp only [List.map_cons, List.intercalate_cons_cons]

/-- Bytes without a line feed are one line, unless there are none. -/
theorem linesOf_eq_singleton {line : List UInt8} (hne : line ≠ []) (h : lineFeed ∉ line) :
    linesOf line = [line] := by
  induction line with
  | nil => exact absurd rfl hne
  | cons b line ih =>
    obtain ⟨hb, hline⟩ := List.ne_and_not_mem_of_not_mem_cons h
    have hb' : b ≠ 10 := hb.symm
    rw [linesOf, if_neg hb']
    cases line with
    | nil => rfl
    | cons c line => rw [ih (List.cons_ne_nil c line) hline]

/-- Lines joined by line feeds are found again, where the last one is not empty. -/
theorem linesOf_intercalate {lines : List (List UInt8)} (hne : ∀ line ∈ lines, line ≠ [])
    (h : ∀ line ∈ lines, lineFeed ∉ line) : linesOf ([lineFeed].intercalate lines) = lines := by
  induction lines with
  | nil => rfl
  | cons line lines ih =>
    obtain ⟨hline, hlines⟩ := List.forall_mem_cons.1 h
    obtain ⟨hfirst, hrest⟩ := List.forall_mem_cons.1 hne
    cases lines with
    | nil => rw [List.intercalate_singleton, linesOf_eq_singleton hfirst hline]
    | cons next lines =>
      rw [List.intercalate_cons_cons, List.append_assoc]
      exact (linesOf_append hline _).trans (congrArg (line :: ·) (ih hrest hlines))

/-- Only a line with a carriage return in it is cut short. -/
theorem withoutReturn_eq_self {line : List Char} (h : '\r' ∉ line) : withoutReturn line = line :=
  if_neg fun hlast => h (List.mem_of_getLast? hlast)

theorem lineFeed_not_mem_lineOf (e : Event) : lineFeed ∉ lineOf e :=
  Json.not_mem_toUTF8_compact e.toJson (by decide)

theorem lineOf_ne_nil (e : Event) : lineOf e ≠ [] := by
  rw [lineOf, toList_toUTF8, Json.compact, String.toList_ofList]
  exact List.cons_ne_nil _ _

/-- The characters of a record break no line. -/
theorem lineBreak_not_mem (e : Event) :
    '\n' ∉ e.toJson.compact.toList ∧ '\r' ∉ e.toJson.compact.toList :=
  ⟨fun h => absurd (Json.isPrintable_of_mem_compact h) (by decide),
    fun h => absurd (Json.isPrintable_of_mem_compact h) (by decide)⟩

/-- The line of an event holds the event. -/
theorem event?_lineOf (e : Event) : event? (lineOf e) = some e := by
  rw [event?, lineOf, toArray_toList, fromUTF8?_toUTF8, Option.bind_some,
    withoutReturn_eq_self (lineBreak_not_mem e).2, String.ofList_toList, e.parse?_toJson]

/-- Lines of events hold the events, and every line is text. -/
theorem due_map_lineOf (events : List Event) :
    due [] ((events.map lineOf).takeWhile isText) = events := by
  have htext : ∀ line ∈ events.map lineOf, isText line = true := by
    intro line hline
    obtain ⟨e, _, rfl⟩ := List.mem_map.1 hline
    exact isText_of_event? (event?_lineOf e)
  have hall : (events.map lineOf).takeWhile isText = events.map lineOf :=
    List.takeWhile_eq_self_iff.2 htext
  have hread : event? ∘ lineOf = some := funext event?_lineOf
  rw [hall, due, List.filterMap_map, hread]
  simp

/--
Whatever events there are, and whatever their texts hold: each of them is written on one line, and
the lines, joined by line feeds, deliver all the events in their order to a consumer that names no
subjects.
-/
theorem consume_written (events : List Event) :
    (∀ e ∈ events, '\n' ∉ e.toJson.compact.toList ∧ '\r' ∉ e.toJson.compact.toList) ∧
      (consume ⟨some ("\n".intercalate (events.map (·.toJson.compact))).toUTF8.toList⟩ []).1 =
        .ok events := by
  refine ⟨fun e _ => lineBreak_not_mem e, ?_⟩
  have hlines : linesOf ([lineFeed].intercalate (events.map lineOf)) = events.map lineOf :=
    linesOf_intercalate (by simp [lineOf_ne_nil]) (by simp [lineFeed_not_mem_lineOf])
  have hbytes : ("\n".intercalate (events.map (·.toJson.compact))).toUTF8.toList =
      [lineFeed].intercalate (events.map lineOf) := by
    rw [toList_toUTF8_intercalate, List.map_map]
    rfl
  rw [hbytes, consume_eq, hlines, due_map_lineOf]

end EventLines

end ScopedSearch
