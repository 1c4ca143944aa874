import ScopedSearch.Events.Feed

/-!
# What a feed of lines delivers

A feed is cut at line feeds, and each line is taken on its own: it is text or not, and its text is a
record of an event or not.  A line of text without an event is passed over, as if it were not there.
A line that is not text is different.  Nothing behind it is read any more, so events that stand
there are lost, however well formed their lines are.

## Main results

* `linesOf_unlines`, `unlines_linesOf`: lines are what stands between line feeds.
* `consume_lines`: what a feed delivers, when that is all that its lines hold, and what a malformed
  line between the others does to it.
* `not_consume_due`: a line that is not text, with an event behind it that is lost.
-/

namespace ScopedSearch.EventLines

/-! ## Lines -/

/-- The line feed. -/
def lineFeed : UInt8 := 10

/-- Lines in a row, each with a line feed at its end. -/
def unlines (lines : List (List UInt8)) : List UInt8 := lines.flatMap (· ++ [lineFeed])

@[simp] theorem linesOf_lineFeed (rest : List UInt8) :
    linesOf (lineFeed :: rest) = [] :: linesOf rest := rfl

/-- What stands before the first line feed is the first line. -/
theorem linesOf_append {line : List UInt8} (h : lineFeed ∉ line) (rest : List UInt8) :
    linesOf (line ++ lineFeed :: rest) = line :: linesOf rest := by
  induction line with
  | nil => exact linesOf_lineFeed rest
  | cons b line ih =>
    obtain ⟨hb, hline⟩ := List.ne_and_not_mem_of_not_mem_cons h
    have hne : b ≠ 10 := hb.symm
    rw [List.cons_append, linesOf, if_neg hne, ih hline]

/-- Lines in a row are found again. -/
theorem linesOf_unlines {lines : List (List UInt8)} (h : ∀ line ∈ lines, lineFeed ∉ line) :
    linesOf (unlines lines) = lines := by
  induction lines with
  | nil => rfl
  | cons line lines ih =>
    have hsplit : unlines (line :: lines) = line ++ lineFeed :: unlines lines := by
      simp [unlines]
    rw [hsplit, linesOf_append (h line List.mem_cons_self),
      ih fun l hl => h l (List.mem_cons_of_mem line hl)]

/-- No line has a line feed in it. -/
theorem lineFeed_not_mem {bytes line : List UInt8} (h : line ∈ linesOf bytes) :
    lineFeed ∉ line := by
  induction bytes generalizing line with
  | nil => cases h
  | cons b bytes ih =>
    rw [linesOf] at h
    split at h
    · rcases List.mem_cons.1 h with rfl | h
      · exact List.not_mem_nil
      · exact ih h
    · next hb =>
      have hne : lineFeed ≠ b := Ne.symm hb
      split at h
      · rw [List.mem_singleton.1 h]
        simpa using hne
      · next first rest hlines =>
        rcases List.mem_cons.1 h with rfl | h
        · have hfirst : lineFeed ∉ first := ih (hlines ▸ List.mem_cons_self)
          simpa [hne] using hfirst
        · exact ih (hlines ▸ List.mem_cons_of_mem first h)

/-- The lines in a row are the bytes again, but for a line feed that the last line may lack. -/
theorem unlines_linesOf (bytes : List UInt8) :
    unlines (linesOf bytes) = bytes ∨ unlines (linesOf bytes) = bytes ++ [lineFeed] := by
  induction bytes with
  | nil => exact .inl rfl
  | cons b bytes ih =>
    rw [linesOf]
    split
    · next hb =>
      have hcons : unlines ([] :: linesOf bytes) = b :: unlines (linesOf bytes) := by
        simp [unlines, lineFeed, hb]
      rw [hcons]
      exact ih.imp (congrArg (b :: ·)) (congrArg (b :: ·))
    · split
      · next hlines =>
        have hnil : bytes = [] := by
          rcases ih with ih | ih <;> rw [hlines] at ih
          · exact ih.symm
          · exact absurd ih (by simp [unlines])
        exact .inr (by simp [hnil, unlines])
      · next first rest hlines =>
        rw [hlines] at ih
        have hcons : unlines ((b :: first) :: rest) = b :: unlines (first :: rest) := rfl
        rw [hcons]
        exact ih.imp (congrArg (b :: ·)) (congrArg (b :: ·))

/-! ## Events -/

/-- The line is text. -/
def isText (line : List UInt8) : Bool := (String.fromUTF8? ⟨line.toArray⟩).isSome

/-- The event of a line: the line is text, and the text is a record of the event. -/
def event? (line : List UInt8) : Option Event :=
  (String.fromUTF8? ⟨line.toArray⟩).bind fun s =>
    Event.parse? (String.ofList (withoutReturn s.toList))

/-- The events of the subjects that lines hold, whatever lines stand between them. -/
def due (subjects : List String) (lines : List (List UInt8)) : List Event :=
  (lines.filterMap event?).filter (·.isWanted subjects)

/-- A line that holds an event is text. -/
theorem isText_of_event? {line : List UInt8} {e : Event} (h : event? line = some e) :
    isText line = true := by
  obtain ⟨s, hs, _⟩ := Option.bind_eq_some_iff.1 h
  rw [isText, hs]
  rfl

theorem due_append (subjects : List String) (lines more : List (List UInt8)) :
    due subjects (lines ++ more) = due subjects lines ++ due subjects more := by
  simp [due]

/-- A line without an event adds nothing. -/
theorem due_cons_of_none {subjects : List String} {line : List UInt8} (h : event? line = none)
    (lines : List (List UInt8)) : due subjects (line :: lines) = due subjects lines := by
  rw [due, List.filterMap_cons_none h]
  rfl

/-- Lines are read as text up to the first one that is not. -/
theorem filterMap_textLines (lines : List (List UInt8)) :
    (textLines lines).filterMap Event.parse? = (lines.takeWhile isText).filterMap event? := by
  induction lines with
  | nil => rfl
  | cons line lines ih =>
    rw [textLines]
    cases hs : String.fromUTF8? ⟨line.toArray⟩ with
    | none =>
      have htext : isText line = false := by rw [isText, hs]; rfl
      rw [List.takeWhile_cons_of_neg (by simp [htext])]
      rfl
    | some s =>
      have htext : isText line = true := by rw [isText, hs]; rfl
      have hevent : event? line = Event.parse? (String.ofList (withoutReturn s.toList)) := by
        rw [event?, hs]
        rfl
      rw [List.takeWhile_cons_of_pos htext, List.filterMap_cons, List.filterMap_cons, hevent, ih]

/-- A feed delivers the events of its lines up to the first line that is not text. -/
theorem consume_eq (bytes : List UInt8) (subjects : List String) :
    (consume ⟨some bytes⟩ subjects).1 =
      .ok (due subjects ((linesOf bytes).takeWhile isText)) := by
  rw [due, ← filterMap_textLines]
  rfl

/-- Where nothing is due behind the first line that is not text, all that is due comes before it. -/
theorem due_takeWhile_iff (subjects : List String) (lines : List (List UInt8)) :
    due subjects (lines.takeWhile isText) = due subjects lines ↔
      due subjects (lines.dropWhile isText) = [] := by
  have hsplit := due_append subjects (lines.takeWhile isText) (lines.dropWhile isText)
  rw [List.takeWhile_append_dropWhile] at hsplit
  rw [hsplit, eq_comm, List.append_right_eq_self]

/-- A line of text without an event makes no difference where it stands. -/
theorem due_takeWhile_insert {subjects : List String} {line : List UInt8}
    (hevent : event? line = none) (htext : isText line = true)
    (before after : List (List UInt8)) :
    due subjects ((before ++ line :: after).takeWhile isText) =
      due subjects ((before ++ after).takeWhile isText) := by
  rw [List.takeWhile_append, List.takeWhile_append, List.takeWhile_cons_of_pos htext]
  split
  · rw [due_append, due_append, due_cons_of_none hevent]
  · rfl

/-- Behind a line that is not text, nothing is delivered. -/
theorem due_takeWhile_cut (subjects : List String) {line : List UInt8}
    (htext : isText line = false) (before after : List (List UInt8)) :
    due subjects ((before ++ line :: after).takeWhile isText) =
      due subjects (before.takeWhile isText) := by
  have hcut : (line :: after).takeWhile isText = [] :=
    List.takeWhile_cons_of_neg (by simp [htext])
  rw [List.takeWhile_append, hcut, List.append_nil]
  split
  · next hall => rw [(List.takeWhile_prefix isText).eq_of_length hall]
  · rfl

/--
A feed is cut into lines at its line feeds.  It delivers, in their order, the events of the lines up
to the first one that is not text; these are the events of all its lines exactly when no event of
the subjects stands behind such a line.  A further line that holds no event makes no difference,
wherever it stands, as long as it is text; one that is not text cuts the feed off.
-/
theorem consume_lines (bytes : List UInt8) (subjects : List String) :
    ((∀ line ∈ linesOf bytes, lineFeed ∉ line) ∧
      (unlines (linesOf bytes) = bytes ∨ unlines (linesOf bytes) = bytes ++ [lineFeed])) ∧
    (consume ⟨some bytes⟩ subjects).1 =
      .ok (due subjects ((linesOf bytes).takeWhile isText)) ∧
    ((consume ⟨some bytes⟩ subjects).1 = .ok (due subjects (linesOf bytes)) ↔
      due subjects ((linesOf bytes).dropWhile isText) = []) ∧
    ∀ more before line after, linesOf bytes = before ++ after →
      linesOf more = before ++ line :: after → event? line = none →
      (consume ⟨some more⟩ subjects).1 =
        if isText line then (consume ⟨some bytes⟩ subjects).1
        else .ok (due subjects (before.takeWhile isText)) := by
  refine ⟨⟨fun _ hline => lineFeed_not_mem hline, unlines_linesOf bytes⟩,
    consume_eq bytes subjects, ?_, ?_⟩
  · rw [consume_eq, Except.ok.injEq]
    exact due_takeWhile_iff subjects (linesOf bytes)
  · intro more before line after hbytes hmore hevent
    rw [consume_eq, consume_eq, hbytes, hmore]
    split
    · next htext => rw [due_takeWhile_insert hevent htext]
    · next htext => rw [due_takeWhile_cut subjects (Bool.eq_false_iff.2 htext)]

/-! ## Lines between events -/

/-- An item of a space has been touched. -/
def touched (item : String) : Event := { space := "alice", item, change := .fileTouched }

/-- The line of an event. -/
def lineOf (e : Event) : List UInt8 := e.toJson.compact.toUTF8.toList

/-- The line of one event, some more lines, and the line of another event. -/
def around (lines : List (List UInt8)) : List (List UInt8) :=
  lineOf (touched "1") :: lines ++ [lineOf (touched "2")]

theorem event?_first : event? (lineOf (touched "1")) = some (touched "1") := by decide +kernel

theorem event?_second : event? (lineOf (touched "2")) = some (touched "2") := by decide +kernel

theorem linesOf_around {lines : List (List UInt8)} (h : ∀ line ∈ lines, lineFeed ∉ line) :
    linesOf (unlines (around lines)) = around lines := by
  have hfirst : lineFeed ∉ lineOf (touched "1") := by decide +kernel
  have hsecond : lineFeed ∉ lineOf (touched "2") := by decide +kernel
  refine linesOf_unlines fun line hline => ?_
  rcases List.mem_append.1 hline with hline | hline
  · rcases List.mem_cons.1 hline with rfl | hline
    · exact hfirst
    · exact h line hline
  · rw [List.mem_singleton.1 hline]
    exact hsecond

/-- Between the two lines stands nothing that is due. -/
theorem due_around {lines : List (List UInt8)} (h : ∀ line ∈ lines, event? line = none) :
    due [] (around lines) = [touched "1", touched "2"] := by
  have hlines : lines.filterMap event? = [] := List.filterMap_eq_nil_iff.2 h
  simp [due, around, hlines, event?_first, event?_second]

/-- Where only the two lines are fed, both events are delivered. -/
theorem consume_around :
    (consume ⟨some (unlines (around []))⟩ []).1 = .ok [touched "1", touched "2"] := by
  have hall : (around []).takeWhile isText = around [] := by
    simp [around, isText_of_event? event?_first, isText_of_event? event?_second]
  rw [consume_eq, linesOf_around (by simp), hall, due_around (by simp)]

/-- A line that is text and no event. -/
def noise : List UInt8 := "not json".toUTF8.toList

/-- Text that is no event, between two events, does not keep either of them from being delivered. -/
theorem consume_around_noise :
    event? noise = none ∧ isText noise = true ∧
      (consume ⟨some (unlines (around [noise]))⟩ []).1 = .ok [touched "1", touched "2"] := by
  have hevent : event? noise = none := by decide +kernel
  have htext : isText noise = true := by decide +kernel
  have hquiet : linesOf (unlines (around [])) = around [] := linesOf_around (by simp)
  have hnoisy : linesOf (unlines (around [noise])) = around [noise] :=
    linesOf_around (by decide +kernel)
  obtain ⟨-, -, -, hinsert⟩ := consume_lines (unlines (around [])) []
  refine ⟨hevent, htext, ?_⟩
  rw [hinsert _ [lineOf (touched "1")] noise [lineOf (touched "2")] hquiet hnoisy hevent,
    if_pos htext, consume_around]

/-- A byte that is in no text. -/
def stray : List UInt8 := [255]

/--
A line that is not text, between two events: the line of the second event is as it was, but the
event is not delivered any more.
-/
theorem not_consume_due :
    due [] (linesOf (unlines (around [stray]))) = [touched "1", touched "2"] ∧
      (consume ⟨some (unlines (around []))⟩ []).1 = .ok [touched "1", touched "2"] ∧
      (consume ⟨some (unlines (around [stray]))⟩ []).1 = .ok [touched "1"] := by
  have hevent : event? stray = none := by decide +kernel
  have htext : isText stray = false := by decide +kernel
  have hlines : linesOf (unlines (around [stray])) = around [stray] :=
    linesOf_around (by decide +kernel)
  have hfirst : (around [stray]).takeWhile isText = [lineOf (touched "1")] := by
    simp [around, htext, isText_of_event? event?_first]
  refine ⟨?_, consume_around, ?_⟩
  · rw [hlines, due_around (by simpa using hevent)]
  · rw [consume_eq, hlines, hfirst]
    simp [due, event?_first]

end ScopedSearch.EventLines
