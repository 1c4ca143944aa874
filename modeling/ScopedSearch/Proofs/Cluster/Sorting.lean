import ScopedSearch.Cluster.Body
import ScopedSearch.Index.Ranking
import ScopedSearch.Proofs.Text.Order

/-!
# How a query is sorted in a cluster

The embedded index puts its answers in order itself.  A cluster is told the order with the query, as
a row of clauses.  What a clause means is written down here as the cluster documents it: it names
the score or a field, with a direction; texts are compared byte by byte; and a clause decides where
all clauses before it see no difference.

## Main results

* `sortOrder?_body`: a query asks for falling scores, and for rising keys among equals.
* `sortOrder?_body_eq_lt_iff_precedes`: this is the order in which the embedded index ranks.
-/

namespace ScopedSearch

open Text (ComesFirst)

namespace Json

/-! Two answers are compared, each of them a record that is kept and its score. -/

variable (a b : Json × Score)

/-- How two answers stand in the score or in a field of texts. -/
def orderIn? (name : String) : Option Ordering :=
  if name = "_score" then some (compare a.2.toBits b.2.toBits)
  else
    match a.1.field? name, b.1.field? name with
    | some (.text s), some (.text t) => some (Text.byteOrder s t)
    | _, _ => none

/-- How two answers stand by one clause. -/
def clauseOrder? : Json → Option Ordering
  | .record [(name, .text direction)] =>
    if direction = "asc" then orderIn? a b name
    else if direction = "desc" then orderIn? b a name
    else none
  | _ => none

/-- How two answers stand by a row of clauses. -/
def rowOrder? : List Json → Option Ordering
  | [] => some .eq
  | clause :: rest => do
    let first ← clauseOrder? a b clause
    let others ← rowOrder? rest
    return first.then others

/-- How two answers stand in the order that the record of a query asks for. -/
def sortOrder? (body : Json) : Option Ordering :=
  match body.field? "sort" with
  | some (.list clauses) => rowOrder? a b clauses
  | _ => none

end Json

namespace Scored

/-- What is kept of a document, with the score. -/
def kept (a : Scored) : Json × Score := (a.1.source, a.2)

/-- Answers with keys of their own stand by falling score, and by rising key among equals. -/
theorem precedes_iff {a b : Scored} (hkey : a.1.key ≠ b.1.key) :
    a.precedes b ↔
      b.2.toBits < a.2.toBits ∨ a.2.toBits = b.2.toBits ∧ ComesFirst a.1.key b.1.key := by
  have hle : a.1.key ≤ b.1.key ↔ ComesFirst a.1.key b.1.key :=
    (Std.lt_iff_le_and_ne.trans (and_iff_left hkey)).symm.trans Text.comesFirst_iff.symm
  rw [precedes, Bool.or_eq_true, decide_eq_true_iff, Bool.and_eq_true, beq_iff_eq,
    decide_eq_true_iff, hle]

end Scored

namespace BackendQuery

variable (q : BackendQuery) (a b : Scored)

/-- A query asks for falling scores, and for rising keys among equals. -/
theorem sortOrder?_body :
    q.body.sortOrder? a.kept b.kept =
      some ((compare b.2.toBits a.2.toBits).then (Text.byteOrder a.1.key b.1.key)) := by
  have hscore : Json.clauseOrder? a.kept b.kept (.record [("_score", .text "desc")]) =
      some (compare b.2.toBits a.2.toBits) := rfl
  have hkey : Json.clauseOrder? a.kept b.kept (.record [("id", .text "asc")]) =
      some (Text.byteOrder a.1.key b.1.key) := rfl
  have hsort : q.body.field? "sort" =
      some (.list [.record [("_score", .text "desc")], .record [("id", .text "asc")]]) := rfl
  rw [Json.sortOrder?, hsort]
  simp [Json.rowOrder?, hscore, hkey]

variable {q a b}

theorem sortOrder?_body_eq_lt_iff :
    q.body.sortOrder? a.kept b.kept = some .lt ↔
      b.2.toBits < a.2.toBits ∨ a.2.toBits = b.2.toBits ∧ ComesFirst a.1.key b.1.key := by
  rw [sortOrder?_body, Option.some.injEq, Ordering.then_eq_lt, Std.compare_eq_lt,
    Std.compare_eq_iff_eq, Text.byteOrder_eq_lt_iff, eq_comm (a := b.2.toBits)]

/-- A cluster is asked for the order in which the embedded index ranks. -/
theorem sortOrder?_body_eq_lt_iff_precedes (hkey : a.1.key ≠ b.1.key) :
    q.body.sortOrder? a.kept b.kept = some .lt ↔ a.precedes b :=
  sortOrder?_body_eq_lt_iff.trans (Scored.precedes_iff hkey).symm

end BackendQuery

end ScopedSearch
