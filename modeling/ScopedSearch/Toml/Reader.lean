import ScopedSearch.Toml.Scalar

/-!
# Reading TOML

A document is a row of lines: blank ones, comments, headers and assignments.  An assignment goes to
the table whose header stands before it.  Whatever is written twice is refused.
-/

namespace ScopedSearch.Toml

/-- What follows blanks within a line. -/
def skipSpace (cs : List Char) : List Char := cs.dropWhile fun c => c = ' ' || c = '\t'

/-- What follows a comment, if there is one; nothing when it holds what it may not. -/
def skipComment? : List Char → Option (List Char)
  | '#' :: cs =>
    let comment := cs.takeWhile fun c => c ≠ '\n' && c ≠ '\r'
    if comment.any isControl then none else some (cs.drop comment.length)
  | cs => some cs

/-- What follows the end of a line, with the blanks and the comment before it. -/
def lineEnd? (cs : List Char) : Option (List Char) := do
  match ← skipComment? (skipSpace cs) with
  | [] => some []
  | '\n' :: rest => some rest
  | '\r' :: '\n' :: rest => some rest
  | _ => none

/-- What follows blanks, comments and line ends. -/
def skipLines : Nat → List Char → List Char
  | 0, cs => cs
  | fuel + 1, cs =>
    match skipSpace cs with
    | [] => []
    | c :: rest =>
      if c = '#' ∨ c = '\n' ∨ c = '\r' then
        match lineEnd? (c :: rest) with
        | some after => skipLines fuel after
        | none => c :: rest
      else c :: rest

/-! ## Keys -/

/-- A character of a key without quotes. -/
def isBareKeyChar (c : Char) : Bool := c.isAlphanum || c = '-' || c = '_'

/-- Reads one name of a key. -/
def name? (cs : List Char) : Option (String × List Char) :=
  match cs with
  | '\x22' :: rest => (basic? (rest.length + 1) rest).map fun (s, rest) => (String.ofList s, rest)
  | '\x27' :: rest => (literal? rest).map fun (s, rest) => (String.ofList s, rest)
  | _ =>
    let bare := cs.takeWhile isBareKeyChar
    if bare = [] then none else some (String.ofList bare, cs.drop bare.length)

/-- Reads a key: names with dots between them. -/
def key? : Nat → List Char → Option (List String × List Char)
  | 0, _ => none
  | fuel + 1, cs => do
    let (name, rest) ← name? (skipSpace cs)
    match skipSpace rest with
    | '.' :: rest =>
      let (names, rest) ← key? fuel rest
      return (name :: names, rest)
    | rest => return ([name], rest)

/-! ## Values -/

mutual

/-- Reads a value. -/
def value? : Nat → List Char → Option (Toml × List Char)
  | 0, _ => none
  | fuel + 1, cs =>
    match cs with
    | '[' :: rest => do
      let (items, rest) ← items? fuel rest
      return (.array items, rest)
    | '\x7b' :: rest => do
      let (fields, rest) ← inlineFields? fuel [] rest
      return (.table .inline fields, rest)
    | '\x22' :: _ => do
      let (s, rest) ← string? cs
      return (.text s, rest)
    | '\x27' :: _ => do
      let (s, rest) ← string? cs
      return (.text s, rest)
    | _ => word? cs

/-- Reads the items of an array up to its closing bracket. -/
def items? : Nat → List Char → Option (List Toml × List Char)
  | 0, _ => none
  | fuel + 1, cs =>
    match skipLines cs.length cs with
    | ']' :: rest => some ([], rest)
    | cs => do
      let (v, rest) ← value? fuel cs
      match skipLines rest.length rest with
      | ',' :: rest =>
        let (vs, rest) ← items? fuel rest
        return (v :: vs, rest)
      | ']' :: rest => return ([v], rest)
      | _ => none

/-- Reads the assignments of a table in line up to its closing brace. -/
def inlineFields? : Nat → Fields → List Char → Option (Fields × List Char)
  | 0, _, _ => none
  | fuel + 1, fields, cs =>
    match skipLines cs.length cs with
    | '\x7d' :: rest => some (fields, rest)
    | cs => do
      let (key, rest) ← key? (cs.length + 1) cs
      match rest with
      | '=' :: rest =>
        let (v, rest) ← value? fuel (skipSpace rest)
        let fields ← assign v key fields
        match skipLines rest.length rest with
        | ',' :: rest => inlineFields? fuel fields rest
        | '\x7d' :: rest => return (fields, rest)
        | _ => none
      | _ => none

end

/-! ## Documents -/

/-- What has been read so far: the outermost table, and the header that assignments go under. -/
structure Draft where
  fields : Fields := []
  header : List String := []
  deriving Repr, Inhabited

/-- Opens the table of a header. -/
def Draft.openHeader (d : Draft) (names : List String) (element : Bool) : Option Draft := do
  let last ← names.getLast?
  let fields ← within (if element then openElement last else openTable last) names.dropLast d.fields
  return { fields, header := names }

/-- Reads a header. -/
def header? (d : Draft) (cs : List Char) : Option (Draft × List Char) := do
  let (element, cs) ← match cs with
    | '[' :: '[' :: rest => some (true, rest)
    | '[' :: rest => some (false, rest)
    | _ => none
  let (names, rest) ← key? (cs.length + 1) cs
  let rest ← match element, rest with
    | true, ']' :: ']' :: rest => some rest
    | false, ']' :: rest => some rest
    | _, _ => none
  return (← d.openHeader names element, rest)

/-- Reads an assignment. -/
def assignment? (d : Draft) (cs : List Char) : Option (Draft × List Char) := do
  let (key, rest) ← key? (cs.length + 1) cs
  match rest with
  | '=' :: rest =>
    let (v, rest) ← value? (2 * rest.length + 2) (skipSpace rest)
    return ({ d with fields := ← within (assign v key) d.header d.fields }, rest)
  | _ => none

/-- Reads lines up to the end. -/
def lines? : Nat → Draft → List Char → Option Fields
  | 0, _, _ => none
  | fuel + 1, d, cs =>
    match skipLines cs.length cs with
    | [] => some d.fields
    | c :: rest => do
      let (d, rest) ← if c = '[' then header? d (c :: rest) else assignment? d (c :: rest)
      lines? fuel d (← lineEnd? rest)

/-- The table that a text holds. -/
def parse? (s : String) : Option Fields :=
  let cs := match s.toList with
    | '\ufeff' :: rest => rest
    | cs => cs
  lines? (cs.length + 1) {} cs

end ScopedSearch.Toml
