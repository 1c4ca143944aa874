import ScopedSearch.Index.Criterion

/-!
# Expressions of the query language

What a query says, before the fields of the index are looked at.  A field may be named in front of
a leaf or of a group; in a group it goes to the leaves that do not name one themselves.
-/

namespace ScopedSearch

/-- A word or a phrase. -/
structure Literal where
  /-- The field as written; none for the default fields. -/
  field : Option String := none
  text : String
  /-- How far the words of a phrase may stand apart. -/
  slop : Nat := 0
  /-- The last word is only the beginning of a word. -/
  opensEnd : Bool := false
  deriving DecidableEq, Repr, Inhabited

/-- An expression of the query language. -/
inductive QueryExpr
  | literal (l : Literal)
  /-- Every document. -/
  | all
  | range (field : Option String) (lower upper : Bound String)
  | oneOf (field : Option String) (elements : List String)
  /-- Every document that has the field. -/
  | present (field : String)
  /-- Clauses; where no occurrence is given, the clause has to hold. -/
  | clause (clauses : List (Option Occurrence × QueryExpr))
  | weighted (factor : Decimal) (e : QueryExpr)
  deriving Repr, Inhabited

namespace QueryExpr

/-- The leaf with a field written in front of it. -/
def underField (field : Option String) : QueryExpr → QueryExpr
  | literal l => literal { l with field }
  | range _ lower upper => range field lower upper
  | oneOf _ elements => oneOf field elements
  | present _ => present (field.getD "")
  | e => e

mutual

/-- Names the field for the leaves that do not name one. -/
def underDefault (field : String) : QueryExpr → QueryExpr
  | literal l => literal { l with field := some (l.field.getD field) }
  | all => present field
  | range f lower upper => range (some (f.getD field)) lower upper
  | oneOf f elements => oneOf (some (f.getD field)) elements
  | present f => present f
  | clause clauses => clause (clausesUnderDefault field clauses)
  | weighted factor e => weighted factor (underDefault field e)

/-- Names the field in every clause. -/
def clausesUnderDefault (field : String) :
    List (Option Occurrence × QueryExpr) → List (Option Occurrence × QueryExpr)
  | [] => []
  | (occurrence, e) :: rest => (occurrence, underDefault field e) :: clausesUnderDefault field rest

end

/-- The expression must not hold. -/
def negated (e : QueryExpr) : QueryExpr := clause [(some .mustNot, e)]

end QueryExpr

/-! ## Joined operands -/

/-- A word between two operands. -/
inductive Joint
  | and
  | or
  deriving DecidableEq, Repr

/-- An operand with what stands in front of it. -/
structure Operand where
  joint : Option Joint := none
  occurrence : Option Occurrence := none
  body : QueryExpr
  deriving Repr, Inhabited

namespace Operand

/-- How an operand that starts a group occurs when it carries no sign of its own. -/
def startOccurrence (joint next : Option Joint) : Option Occurrence :=
  match joint, next with
  | _, some .and => some .must
  | some _, _ => some .should
  | none, some .or => some .should
  | none, none => none

/-- Whether an operand starts a group: all do but those behind `AND`. -/
def startsGroup (o : Operand) : Bool := o.joint ≠ some .and

/-- Adds a clause to the last group. -/
def addToLast (c : Option Occurrence × QueryExpr) :
    List (List (Option Occurrence × QueryExpr)) → List (List (Option Occurrence × QueryExpr))
  | [] => [[c]]
  | [group] => [group ++ [c]]
  | group :: rest => group :: addToLast c rest

/-- The operands in groups; what is joined by `AND` shares one. -/
def groups : List (List (Option Occurrence × QueryExpr)) → List Operand →
    List (List (Option Occurrence × QueryExpr))
  | done, [] => done
  | done, o :: rest =>
    let next := rest.head?.bind (·.joint)
    if o.startsGroup then
      groups (done ++ [[(o.occurrence <|> startOccurrence o.joint next, o.body)]]) rest
    else groups (addToLast (o.occurrence <|> some .must, o.body) done) rest

/-- One clause for each group: a single operand stays as it is, several should hold together. -/
def clauseOfGroup : List (Option Occurrence × QueryExpr) → Option Occurrence × QueryExpr
  | [c] => c
  | group => (some .should, .clause group)

/-- The expression that operands make together. -/
def combine (operands : List Operand) : QueryExpr :=
  match groups [] operands with
  | [[(occurrence, e)]] => if occurrence = some .mustNot then e.negated else e
  | [group] => .clause group
  | several => .clause (several.map clauseOfGroup)

end Operand

end ScopedSearch
