import ScopedSearch.Http.Exchange
import ScopedSearch.Json.Reader
import ScopedSearch.Json.Record
import ScopedSearch.Records
import ScopedSearch.Search.Backend
import ScopedSearch.Text.Lossy

/-!
# What a cluster answers

The replies of a cluster as values, and the fault that a refusal stands for.
-/

namespace ScopedSearch.Cluster

open ScopedSearch.Json ScopedSearch.Http

/-- A value that was read whole. -/
def whole? (v : Json) : Option Json := if v.isReadable then some v else none

/-- The reason that a refusal gives. -/
def reason? (v : Json) : Option String :=
  ((v.follow? ["error", "root_cause", "0", "reason"]).or (v.follow? ["error", "reason"])).bind text?

/-- The fault that a refusal stands for. -/
def refusal (status : Nat) (body : ByteArray) : Fault :=
  let value := (parse? (Text.ofBytesLossy body)).filter (·.isReadable)
  let reason := (value.bind reason?).getD (statusText status)
  if status = 400 then .badQuery (.reported reason)
  else if status = 404 then .itemNotFound reason
  else if isServerError status ∨ [401, 403, 429].contains status then .engineUnavailable reason
  else .internal reason

/-- What one reads off a reply. -/
def readReply {α : Type} (read : Json → Option α) (body : ByteArray) : Except Fault α :=
  match (parseBytes? body).bind read with
  | some a => .ok a
  | none => .error (.engineUnavailable "unreadable cluster reply: not what was asked for")

/-- A value that may be null. -/
def option? {α : Type} (read : Json → Option α) : Json → Option (Option α)
  | .null => some none
  | v => (read v).map some

/-- The document of a reply to a look-up; a reply in a list has to reach up to it. -/
def found? (v : Json) : Option (Option Document) := do
  match ← cells? ["found", "_source"] v with
  | [found, source] =>
    let isFound ← withDefault bool? false found
    let source ← match v, source with
      | .list _, none => none
      | _, source => withDefault (option? Document.ofJson?) none source
    return if isFound then source else none
  | _ => none

/-- A document with its score. -/
def hit? (v : Json) : Option (Document × Score) := do
  match ← cells? ["_score", "_source"] v with
  | [score, source] =>
    let score ← withDefault (option? float32?) none score
    return (← required Document.ofJson? source, score.getD 0)
  | _ => none

/-- The hits of a reply to a search. -/
def hits? (v : Json) : Option Hits := do
  match ← cells? ["hits"] v with
  | [outer] =>
    match ← cells? ["total", "hits"] (← outer) with
    | [total, hits] =>
      match ← cells? ["value"] (← total) with
      | [value] =>
        let hits ← withDefault (fun v => match v with
          | .list items => items.mapM hit?
          | _ => none) [] hits
        return { hits, total := UInt64.ofNat (← required word? value) }
      | _ => none
    | _ => none
  | _ => none

/-- The count of a reply. -/
def count? (v : Json) : Option Nat := do
  match ← cells? ["count"] v with
  | [count] => required word? count
  | _ => none

/-- What went wrong although documents sent in bulk were taken. -/
def bulkFault? (v : Json) : Option Fault :=
  if ((v.field? "errors").bind bool?).getD false then
    some <| .engineUnavailable <|
      ((v.follow? ["items", "0", "index", "error", "reason"]).bind text?).getD
        "bulk request reported errors"
  else none

end ScopedSearch.Cluster
