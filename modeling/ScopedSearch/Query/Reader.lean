import ScopedSearch.Query.Expr
import ScopedSearch.Text.Blank
import ScopedSearch.Text.Numeral

/-!
# Reading the query language

A query is a row of operands, joined by `AND` and `OR` or just by blanks.  An operand is a word, a
quoted phrase, a range, a set or a group in parentheses, with an optional field in front, a sign
before and a factor behind it.  Every reader takes the characters in front of it and gives back
what they say and the rest; there is no reading for the rest of a query that is not of the language.
-/

namespace ScopedSearch.QueryText

/-- Reads a part of a query and gives back the rest. -/
abbrev Reader (α : Type) := List Char → Option (α × List Char)

/-! ## Characters -/

/-- The blanks that separate the parts of a query. -/
def isSeparator (c : Char) : Bool := c = ' ' || c = '\t' || c = '\r' || c = '\n'

/-- The characters that have a meaning in or before a field name. -/
def special : List Char :=
  ['+', '^', '\x60', ':', '\x7b', '\x7d', '\x22', '\x27', '[', ']', '(', ')', '!', '\\', '*', ' ']

/-- The characters that end a word. -/
def wordEnd : List Char :=
  ['^', '\x60', ':', '\x7b', '\x7d', '\x22', '\x27', '[', ']', '(', ')', '\\']

/-- The characters that end the bound of a range. -/
def boundEnd : List Char := ['\x7b', '\x7d', '\x22', '[', ']', '(', ')']

/-! ## Small parts -/

/-- Drops separators. -/
def skip (cs : List Char) : List Char := cs.dropWhile isSeparator

/-- Drops separators, of which there is at least one. -/
def skipSome : List Char → Option (List Char)
  | c :: cs => if isSeparator c then some (skip cs) else none
  | [] => none

/-- What stands behind a given text. -/
def after : List Char → List Char → Option (List Char)
  | [], cs => some cs
  | _ :: _, [] => none
  | x :: xs, c :: cs => if x = c then after xs cs else none

/-- What stands behind one of the given texts, the first one that fits. -/
def afterAny {α : Type} : List (String × α) → Reader α
  | [], _ => none
  | (s, a) :: rest, cs =>
    match after s.toList cs with
    | some cs => some (a, cs)
    | none => afterAny rest cs

/-- The longest run of characters of a class, at least one. -/
def run (p : Char → Bool) : Reader (List Char) := fun cs =>
  match cs.takeWhile p with
  | [] => none
  | taken => some (taken, cs.dropWhile p)

/-- Digits, and behind a point more digits. -/
def number : Reader (List Char × List Char) := fun cs => do
  let (whole, rest) ← run Char.isDigit cs
  match rest with
  | '.' :: rest' =>
    match run Char.isDigit rest' with
    | some (fraction, rest) => return ((whole, fraction), rest)
    | none => return ((whole, []), rest)
  | _ => return ((whole, []), rest)

/-- A number with a minus sign, as written. -/
def negativeNumber : Reader (List Char)
  | '-' :: cs => do
    let ((whole, fraction), rest) ← number cs
    return ('-' :: whole ++ (if fraction.isEmpty then [] else '.' :: fraction), rest)
  | _ => none

/-! ## Words and phrases -/

/-- The name of a field, after its first character. -/
def fieldRest : List Char → List Char × List Char
  | '\\' :: c :: cs =>
    if special.contains c then
      let (name, rest) := fieldRest cs
      (c :: name, rest)
    else
      let (name, rest) := fieldRest (c :: cs)
      ('\\' :: name, rest)
  | c :: cs =>
    if c ≠ '\\' && special.contains c then ([], c :: cs)
    else
      let (name, rest) := fieldRest cs
      (c :: name, rest)
  | [] => ([], [])
termination_by cs => cs.length

/-- The name of a field and the colon behind it. -/
def fieldName : Reader String := fun cs => do
  let (first, rest) ← match cs with
    | '\\' :: c :: cs => if special.contains c then some (c, cs) else none
    | c :: cs => if special.contains c || c = '-' then none else some (c, cs)
    | [] => none
  let (name, rest) := fieldRest rest
  match skip rest with
  | ':' :: rest => return (String.ofList (first :: name), skip rest)
  | _ => none

/-- The characters of a word as written, with the escapes left in. -/
def rawWordRest : List Char → List Char × List Char
  | '\\' :: c :: cs =>
    let (w, rest) := rawWordRest cs
    ('\\' :: c :: w, rest)
  | c :: cs =>
    if Text.isBlank c || wordEnd.contains c then ([], c :: cs)
    else
      let (w, rest) := rawWordRest cs
      (c :: w, rest)
  | [] => ([], [])

/-- Takes the escapes out of a word; a backslash stays before what needs no escape. -/
def unescape : List Char → List Char
  | '\\' :: c :: cs =>
    if Text.isBlank c || wordEnd.contains c || c = '-' then c :: unescape cs
    else '\\' :: c :: unescape cs
  | c :: cs => c :: unescape cs
  | [] => []

/-- The words that join operands or start a part, and are no terms. -/
def reserved : List String := ["OR", "AND", "NOT", "IN"]

/-- A word without quotes. -/
def word : Reader String := fun cs =>
  let opening := match cs with
    | '\\' :: _ :: _ => true
    | c :: _ => !(Text.isBlank c || wordEnd.contains c || c = '-')
    | [] => false
  if opening then
    let (raw, rest) := rawWordRest cs
    if reserved.contains (String.ofList raw) then none
    else some (String.ofList (unescape raw), rest)
  else none

/-- What stands up to a closing quote; a backslash takes the next character as it is. -/
def quotedRest (quote : Char) : Reader (List Char)
  | [] => none
  | '\\' :: c :: cs => do
    let (s, rest) ← quotedRest quote cs
    return (c :: s, rest)
  | c :: cs =>
    if c = quote then some ([], cs)
    else do
      let (s, rest) ← quotedRest quote cs
      return (c :: s, rest)

/-- Text in single or double quotes. -/
def quoted : Reader String
  | c :: cs =>
    if c = '\x22' || c = '\x27' then do
      let (s, rest) ← quotedRest c cs
      return (String.ofList s, rest)
    else none
  | [] => none

/-- A negative number, quoted text or a word. -/
def simpleTerm : Reader String := fun cs =>
  (negativeNumber cs).map (fun (s, rest) => (String.ofList s, rest)) <|> quoted cs <|> word cs

/-- The greatest slop that a phrase can ask for. -/
def maxSlop : Nat := 4294967295

/-- A slop behind a phrase. -/
def slop : Reader Nat
  | '~' :: cs => do
    let (digits, rest) ← run Char.isDigit cs
    let n := Text.digitsValue digits
    if n ≤ maxSlop then return (n, rest) else none
  | _ => none

/-- A word or phrase, with a star or a slop behind it. -/
def literal : Reader QueryExpr := fun cs => do
  let (text, rest) ← simpleTerm cs
  match rest with
  | '*' :: rest => return (.literal { text, opensEnd := true }, rest)
  | _ =>
    match slop rest with
    | some (n, rest) => return (.literal { text, slop := n }, rest)
    | none => return (.literal { text }, rest)

/-! ## Ranges and sets -/

/-- The text of a bound. -/
def boundText : Reader String := fun cs =>
  match negativeNumber cs with
  | some (s, rest) => some (String.ofList s, rest)
  | none => do
    match cs with
    | c :: _ => if c = '\x60' then none
    | [] => none
    let (s, rest) ← run (fun c => !(Text.isBlank c || boundEnd.contains c)) cs
    return (String.ofList s, rest)

/-- A bound of its kind, where a star leaves the range open. -/
def boundOf (kind : String → Bound String) (text : String) : Bound String :=
  if text = "*" then .unbounded else kind text

/-- A comparison sign and a bound. -/
def comparison : Reader QueryExpr := fun cs => do
  let signs : List (String × (Bound String → Bound String × Bound String) ×
      (String → Bound String)) := [
    (">=", (·, .unbounded), .including), ("<=", (.unbounded, ·), .including),
    ("<", (.unbounded, ·), .excluding), (">", (·, .unbounded), .excluding)]
  let ((sides, kind), rest) ← afterAny signs (skip cs)
  let (text, rest) ← boundText (skip rest)
  let (lower, upper) := sides (boundOf kind text)
  return (.range none lower upper, rest)

/-- Two bounds in brackets, square where the bound belongs to the range. -/
def interval : Reader QueryExpr := fun cs => do
  let (lowerKind, rest) ← afterAny [("[", Bound.including), ("\x7b", .excluding)] (skip cs)
  let (lower, rest) ← boundText (skip rest)
  let rest ← skipSome rest
  let rest ← after "TO".toList rest
  let rest ← skipSome rest
  let (upper, rest) ← boundText rest
  let (upperKind, rest) ← afterAny [("]", Bound.including), ("\x7d", .excluding)] (skip rest)
  return (.range none (boundOf lowerKind lower) (boundOf upperKind upper), rest)

/-- The elements of a set behind the first one, separated by blanks; `fuel` bounds their number. -/
def moreElements : Nat → List Char → List String × List Char
  | 0, cs => ([], cs)
  | fuel + 1, cs =>
    match (skipSome cs).bind simpleTerm with
    | none => ([], cs)
    | some (s, rest) =>
      let (more, rest) := moreElements fuel rest
      (s :: more, rest)

/-- A set of terms in square brackets behind `IN`. -/
def oneOf : Reader QueryExpr := fun cs => do
  let rest ← after "IN".toList (skip cs)
  let rest ← skipSome rest
  let rest ← after ['['] rest
  let rest := skip rest
  let (elements, rest) := match simpleTerm rest with
    | none => ([], rest)
    | some (s, rest) =>
      let (more, rest) := moreElements rest.length rest
      (s :: more, rest)
  let rest ← after [']'] (skip rest)
  return (.oneOf none elements, rest)

/-- A star: the field has a value. -/
def present : Reader QueryExpr := fun cs => do
  let rest ← after ['*'] (skip cs)
  return (.present "", rest)

/-- A range, a set, a star, a word or a phrase. -/
def plainLeaf : Reader QueryExpr := fun cs =>
  comparison cs <|> interval cs <|> oneOf cs <|> present cs <|> literal cs

/-- A plain leaf with an optional field in front. -/
def fieldLeaf : Reader QueryExpr := fun cs =>
  let (field, rest) := match fieldName cs with
    | some (name, rest) => (some name, rest)
    | none => (none, cs)
  (plainLeaf rest).map fun (e, rest) => (e.underField field, rest)

/-! ## Operands and expressions -/

/-- A factor behind a leaf. -/
def factor : Reader Decimal
  | '^' :: cs => do
    let ((whole, fraction), rest) ← number cs
    return (⟨false, Text.digitsValue (whole ++ fraction), -(fraction.length : Int)⟩, rest)
  | _ => none

/-- The factor is no different from one as a double: at most one step of doubles above one. -/
def isUnit (d : Decimal) : Bool := (d.toDouble - 1).abs ≤ 1 / 4503599627370496

/-- A leaf with an optional sign before and an optional factor behind it. -/
def operandBody (leaf : Reader QueryExpr) : Reader (Option Occurrence × QueryExpr) := fun cs => do
  let (occurrence, rest) := match cs with
    | '-' :: rest => (some Occurrence.mustNot, rest)
    | '+' :: rest => (some .must, rest)
    | _ => (none, cs)
  let (e, rest) ← leaf rest
  match factor rest with
  | some (d, rest) => return ((occurrence, if isUnit d then e else .weighted d e), rest)
  | none => return ((occurrence, e), rest)

/-- An operand behind the first one, and the blanks behind it. -/
def nextOperand (leaf : Reader QueryExpr) : Reader Operand := fun cs => do
  let (joint, rest) := match afterAny [("AND ", Joint.and), ("OR ", .or)] cs with
    | some (j, rest) => (some j, rest)
    | none => (none, cs)
  let ((occurrence, body), rest) ← operandBody leaf (skip rest)
  return (⟨joint, occurrence, body⟩, skip rest)

/-- The operands behind the first one, as many as there are; `fuel` bounds their number. -/
def moreOperands (leaf : Reader QueryExpr) : Nat → List Char → List Operand × List Char
  | 0, cs => ([], cs)
  | fuel + 1, cs =>
    match nextOperand leaf cs with
    | none => ([], cs)
    | some (o, rest) =>
      let (more, rest) := moreOperands leaf fuel rest
      (o :: more, rest)

/-- A row of operands with blanks around them, where leaves are read by `leaf`. -/
def row (leaf : Reader QueryExpr) : Reader QueryExpr := fun cs => do
  let ((occurrence, body), rest) ← operandBody leaf (skip cs)
  let more := match skipSome rest with
    | some rest => moreOperands leaf rest.length rest
    | none => ([], rest)
  match more with
  | ([], _) =>
    return (if occurrence = some .mustNot then body.negated else body, skip rest)
  | (operands, rest) => return (Operand.combine (⟨none, occurrence, body⟩ :: operands), skip rest)

/-- A leaf: a group, a star, something negated, or a plain leaf.  `depth` bounds the nesting. -/
def leaf : Nat → Reader QueryExpr
  | 0, _ => none
  | depth + 1, cs =>
    let group (cs : List Char) : Option (QueryExpr × List Char) := do
      let rest ← after ['('] cs
      let (e, rest) ← row (leaf depth) rest
      let rest ← after [')'] rest
      return (e, rest)
    let star (cs : List Char) : Option (QueryExpr × List Char) := do
      let rest ← after ['*'] cs
      return (.all, rest)
    let negation (cs : List Char) : Option (QueryExpr × List Char) := do
      let rest ← after "NOT".toList cs
      let rest ← skipSome rest
      let (e, rest) ← leaf depth rest
      return (e.negated, rest)
    let fieldGroup (cs : List Char) : Option (QueryExpr × List Char) := do
      let (field, rest) ← fieldName cs
      let (e, rest) ← group rest
      return (e.underDefault field, rest)
    group cs <|> star cs <|> negation cs <|> fieldLeaf cs <|> fieldGroup cs

/-- A clause that is nothing but one clause gives way to it, where it carries no sign. -/
def unwrap : Option Occurrence × QueryExpr → Option Occurrence × QueryExpr
  | (none, .clause [c]) => c
  | c => c

end QueryText

/-- Reads a query. -/
def QueryExpr.read? (text : String) : Option QueryExpr :=
  let cs := QueryText.skip text.toList
  match QueryText.row (QueryText.leaf (cs.length + 1)) cs with
  | some (e, []) =>
    match e with
    | .clause clauses => some (.clause (clauses.map QueryText.unwrap))
    | e => some e
  | some _ => none
  | none => if cs.isEmpty then some (.clause []) else none

end ScopedSearch
