import ScopedSearch.Events.Event
import ScopedSearch.Fault
import ScopedSearch.Text.Blank

/-!
# Feeds of events

Where events come from: lines of text with one record each, or a channel inside the program.  A
consumer names the subjects it wants; none named stands for all.  What it did not ask for is
acknowledged on the spot, and what it gets is acknowledged when it is done with it.

## Main results

* `isWanted_nil`: without subjects everything is wanted.
-/

namespace ScopedSearch

/-- The event is of one of the subjects; without subjects every event is. -/
def Event.isWanted (subjects : List String) (e : Event) : Bool :=
  subjects.isEmpty || subjects.contains e.change.name

@[simp] theorem isWanted_nil (e : Event) : e.isWanted [] = true := rfl

/-! ## Lines of text -/

namespace EventLines

/-- The lines of a text: each ends with a line feed, which the last one may lack. -/
def linesOf : List UInt8 → List (List UInt8)
  | [] => []
  | b :: bs =>
    if b = 10 then [] :: linesOf bs
    else match linesOf bs with
      | [] => [[b]]
      | line :: rest => (b :: line) :: rest

/-- A line without the carriage return at its end. -/
def withoutReturn (line : List Char) : List Char :=
  if line.getLast? = some '\r' then line.dropLast else line

/-- The lines of bytes as text, up to the first one that is not UTF-8. -/
def textLines : List (List UInt8) → List String
  | [] => []
  | line :: rest =>
    match String.fromUTF8? ⟨line.toArray⟩ with
    | none => []
    | some s => String.ofList (withoutReturn s.toList) :: textLines rest

/-- The events of bytes; lines that hold no event are skipped. -/
def events (bytes : List UInt8) : List Event := (textLines (linesOf bytes)).filterMap Event.parse?

end EventLines

/-- A text with an event a line, which one consumer reads once. -/
structure EventLines where
  /-- The bytes; nothing after they were consumed. -/
  bytes : Option (List UInt8)
  deriving Inhabited

/-- Reads the events of the subjects. -/
def EventLines.consume (lines : EventLines) (subjects : List String) :
    Except Fault (List Event) × EventLines :=
  match lines.bytes with
  | none => (.error (.internal "json-lines stream already consumed"), lines)
  | some bytes => (.ok ((EventLines.events bytes).filter (·.isWanted subjects)), ⟨none⟩)

/-! ## Channels -/

/-- A channel inside the program. -/
structure EventChannel where
  /-- What the consumer asked for; nothing while there is no consumer. -/
  subjects : Option (List String) := none
  /-- Events that the consumer has not taken yet. -/
  waiting : List Event := []
  /-- Events that were acknowledged, in order. -/
  acked : List Event := []
  isClosed : Bool := false
  deriving Repr, Inhabited

namespace EventChannel

/-- Sorts an event in front of the consumer: it waits, or it is acknowledged on the spot. -/
def sortIn (c : EventChannel) (e : Event) : EventChannel :=
  match c.subjects with
  | none => { c with waiting := c.waiting ++ [e] }
  | some subjects =>
    if e.isWanted subjects then { c with waiting := c.waiting ++ [e] }
    else { c with acked := c.acked ++ [e] }

/-- A consumer arrives: what waits already is sorted by its subjects. -/
def consume (c : EventChannel) (subjects : List String) : EventChannel :=
  c.waiting.foldl sortIn { c with subjects := some subjects, waiting := [] }

/-- Publishes an event. -/
def publish (c : EventChannel) (e : Event) : Except Fault EventChannel :=
  if c.isClosed then .error (.internal "event stream closed") else .ok (c.sortIn e)

/-- No event can be published any more. -/
def close (c : EventChannel) : EventChannel := { c with isClosed := true }

/-- The consumer takes what waits, and acknowledges it if it is done with it. -/
def drain (c : EventChannel) (acknowledge : Bool) : List Event × EventChannel :=
  (c.waiting, { c with
    waiting := []
    acked := if acknowledge then c.acked ++ c.waiting else c.acked })

/-- The consumer is done with the event that waited longest. -/
def finish (c : EventChannel) : EventChannel :=
  match c.waiting with
  | [] => c
  | e :: rest => { c with waiting := rest, acked := c.acked ++ [e] }

end EventChannel

end ScopedSearch
