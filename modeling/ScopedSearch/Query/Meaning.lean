import ScopedSearch.Query.Reader

/-!
# What a query means for the index

An expression becomes a criterion once its fields are known to the index and its words are cut like
the texts of documents.  Words of a query are cut by the rule of each field they are looked for in,
and a leaf without a field looks in every default field.

What holds of no document is left out along the way: a leaf without words, and a combination all of
whose clauses were left out.  A query all of whose clauses exclude is refused.
-/

namespace ScopedSearch

/-- What documents are selected by, before clauses that say nothing are taken out. -/
inductive Draft
  | leaf (c : Criterion)
  | combine (clauses : List (Occurrence × Draft))
  | weighted (factor : Decimal) (d : Draft)
  deriving Repr, Inhabited

namespace Draft

/-- A leaf that says nothing. -/
def nothing : Draft := combine []

/-- The factor is no different from one as a score: less than one step of scores above one. -/
def isUnit (d : Decimal) : Bool := (d.toDouble.toFloat32 - 1).abs < 1 / 8388608

/-- Weighs a draft; a factor of one changes nothing. -/
def weigh (factor : Decimal) (d : Draft) : Draft :=
  if isUnit factor then d else weighted factor d

mutual

/-- All that the draft says excludes. -/
def onlyExcludes : Draft → Bool
  | leaf _ => false
  | weighted _ d => onlyExcludes d
  | combine clauses => allExclude clauses

/-- Every clause excludes. -/
def allExclude : List (Occurrence × Draft) → Bool
  | [] => true
  | (occurrence, d) :: rest => (occurrence = .mustNot || onlyExcludes d) && allExclude rest

end

mutual

/-- The criterion of a draft; none when nothing is left of it. -/
def criterion? : Draft → Option Criterion
  | leaf c => some c
  | combine clauses =>
    match clauseCriteria clauses with
    | [] => none
    | cs => some (.combine cs)
  | weighted factor d => some (.weighted factor ((criterion? d).getD (.combine [])))

/-- The criteria of the clauses of which something is left. -/
def clauseCriteria : List (Occurrence × Draft) → List (Occurrence × Criterion)
  | [] => []
  | (occurrence, d) :: rest =>
    match criterion? d with
    | some c => (occurrence, c) :: clauseCriteria rest
    | none => clauseCriteria rest

end

end Draft

namespace QueryText

/-! ## Fields -/

/-- The places of the dots of a name that no backslash takes away, last one first. -/
def openDots : Nat → List Nat → List Char → List Nat
  | _, found, [] => found
  | at_, found, '\\' :: _ :: cs => openDots (at_ + 2) found cs
  | at_, found, c :: cs => openDots (at_ + 1) (if c = '.' then at_ :: found else found) cs

/-- The field that a name begins with, up to the last dot that makes one, and the name's rest. -/
def splitField? (name : String) : Option (Field × String) :=
  match Field.ofName? name with
  | some f => some (f, "")
  | none =>
    (openDots 0 [] name.toList).findSome? fun dot =>
      (Field.ofName? (String.ofList (name.toList.take dot))).map fun f =>
        (f, String.ofList (name.toList.drop (dot + 1)))

/-- The field that a name denotes and the name's rest. -/
def resolveField (name : String) : Except QueryTextFault (Field × String) :=
  match splitField? name with
  | some r => .ok r
  | none => .error (.unknownField name)

/-! ## Terms -/

/-- The words that a field makes of a text. -/
def cut (f : Field) (text : String) : List (Nat × String) :=
  if f.kind = .words then words text else [(0, text)]

/-- The name of the rule by which a field cuts texts. -/
def cutterName (f : Field) : String := if f.kind = .words then "default" else "raw"

/-- The single term of a field that holds numbers or flags. -/
def scalar? (f : Field) (text : String) : Option (Except QueryTextFault Term) :=
  match f.kind with
  | .signed => some ((Text.readSigned text.toList).mapError .expectedInt |>.map .number)
  | .unsigned => some ((Text.readWord text.toList).mapError .expectedInt |>.map (.number ·))
  | .flag =>
    some (if text = "true" then .ok (.flag true)
      else if text = "false" then .ok (.flag false)
      else .error .expectedBool)
  | .whole | .words => none

/-- The draft of a word or phrase in one field. -/
def inField (l : Literal) (f : Field) (rest : String) : Except QueryTextFault (Option Draft) := do
  if !f.isIndexed then throw (.notIndexed f.label)
  if rest ≠ "" then throw (.unknownField (f.label ++ "." ++ rest))
  match scalar? f l.text with
  | some r => return some (.leaf (.term f (← r)))
  | none =>
    match cut f l.text with
    | [] | [_] =>
      if l.opensEnd then throw (.shortPhrase l.text (cutterName f))
      return (cut f l.text).head?.map fun (_, w) => .leaf (.term f (.text w))
    | ws =>
      if l.opensEnd then
        match ws.getLast? with
        | some (place, start) => return some (.leaf (.phraseStart f ws.dropLast place start))
        | none => return none
      else return some (.leaf (.phrase f ws l.slop))

/-- The draft of a word or phrase in the default fields: it should stand in one of them. -/
def inDefaults (l : Literal) : Except QueryTextFault Draft := do
  match (← Field.defaults.mapM (inField l · "")).filterMap id with
  | [d] => return d
  | ds => return .combine (ds.map fun d => (.should, d))

/-- The term of a bound or of an element of a set. -/
def boundary (f : Field) (rest : String) (text : String) : Except QueryTextFault Term := do
  if !f.isIndexed then throw (.notIndexed f.label)
  if rest ≠ "" then
    throw (.unsupported ("Json path is not supported for field " ++ Text.quoted f.label))
  match scalar? f text with
  | some r => r
  | none =>
    match cut f text with
    | [(_, w)] => return .text w
    | _ => throw (.unsupported
        ("Range query boundary cannot have multiple tokens: " ++ Text.quoted text ++ "."))

/-- The term at an end of a range. -/
def boundTerm (f : Field) (rest : String) : Bound String → Except QueryTextFault (Bound Term)
  | .including text => return .including (← boundary f rest text)
  | .excluding text => return .excluding (← boundary f rest text)
  | .unbounded => return .unbounded

/-- A range, a set and a star need the name of a field. -/
def fieldNeeded : QueryTextFault :=
  .unsupported "Range query need to target a specific field."

/-- The draft of a range: one without any end says nothing. -/
def ofRange (field : Option String) (lower upper : Bound String) :
    Except QueryTextFault Draft := do
  let some name := field | throw fieldNeeded
  let (f, rest) ← resolveField name
  match ← boundTerm f rest lower, ← boundTerm f rest upper with
  | .unbounded, .unbounded => return .nothing
  | lower, upper => return .leaf (.range f lower upper)

/-- The draft of a set. -/
def ofSet (field : Option String) (elements : List String) : Except QueryTextFault Draft := do
  let some name := field | throw fieldNeeded
  let (f, rest) ← resolveField name
  return .leaf (.oneOf f (← elements.mapM (boundary f rest)))

mutual

/-- The draft of an expression; the first fault in reading order is the one reported. -/
def draft : QueryExpr → Except QueryTextFault Draft
  | .literal l =>
    match l.field with
    | none => inDefaults l
    | some name => do
      let (f, rest) ← resolveField name
      return (← inField l f rest).getD .nothing
  | .all => .ok (.leaf .everything)
  | .range field lower upper => ofRange field lower upper
  | .oneOf field elements => ofSet field elements
  | .present _ => .error fieldNeeded
  | .clause clauses => return .combine (← draftClauses clauses)
  | .weighted factor e => return .weigh factor (← draft e)

/-- The drafts of clauses; a clause without a sign must hold. -/
def draftClauses : List (Option Occurrence × QueryExpr) →
    Except QueryTextFault (List (Occurrence × Draft))
  | [] => .ok []
  | (occurrence, e) :: rest => do
    let d ← draft e
    return (occurrence.getD .must, d) :: (← draftClauses rest)

end

end QueryText

/-- The criterion that the text of a query stands for. -/
def Criterion.ofText (text : String) : Except QueryTextFault Criterion := do
  match QueryExpr.read? text with
  | none => throw (.unreadable text)
  | some e =>
    let d ← QueryText.draft e
    match d with
    | .combine [] => return .combine []
    | d =>
      if d.onlyExcludes then throw .onlyExcluding
      return d.criterion?.getD (.combine [])

end ScopedSearch
