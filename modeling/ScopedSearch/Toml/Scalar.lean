import ScopedSearch.Text.Numeral
import ScopedSearch.Text.Split
import ScopedSearch.Toml.Value

/-!
# TOML scalars

Strings in their four forms, and the words that are numbers, truth values, dates and times.  A
string ends where its quotes say; any other scalar is the row of characters up to a blank, a comma
or a bracket.
-/

namespace ScopedSearch.Toml

open ScopedSearch.Text

/-- A character that no string or comment may hold as it is. -/
def isControl (c : Char) : Bool := (c.toNat < 0x20 && c ≠ '\t') || c = '\x7f'

/-- The character of a code point. -/
def charOf? (n : Nat) : Option Char :=
  if n.isValidChar then some (Char.ofNat n) else none

/-- Reads hexadecimal digits, exactly so many. -/
def hexDigits? : Nat → List Char → Option (Nat × List Char)
  | 0, cs => some (0, cs)
  | n + 1, c :: cs => do
    let d ← hexValue? c
    let (v, rest) ← hexDigits? n cs
    return (d * Nat.pow 16 n + v, rest)
  | _, [] => none

/-- The character that a letter stands for after a backslash. -/
def escapeOf? : Char → Option Char
  | 'b' => some '\x08'
  | 't' => some '\t'
  | 'n' => some '\n'
  | 'f' => some '\x0c'
  | 'r' => some '\r'
  | 'e' => some '\x1b'
  | '\x22' => some '\x22'
  | '\\' => some '\\'
  | _ => none

/-- Reads what follows a backslash and stands for one character. -/
def escaped? : List Char → Option (Char × List Char)
  | 'x' :: cs => do
    let (n, rest) ← hexDigits? 2 cs
    return (← charOf? n, rest)
  | 'u' :: cs => do
    let (n, rest) ← hexDigits? 4 cs
    return (← charOf? n, rest)
  | 'U' :: cs => do
    let (n, rest) ← hexDigits? 8 cs
    return (← charOf? n, rest)
  | c :: cs => do return (← escapeOf? c, cs)
  | [] => none

/-- Reads the rest of a string of one line up to its quote. -/
def basic? : Nat → List Char → Option (List Char × List Char)
  | 0, _ => none
  | _, [] => none
  | _, '\x22' :: rest => some ([], rest)
  | fuel + 1, '\\' :: cs => do
    let (c, cs) ← escaped? cs
    let (s, rest) ← basic? fuel cs
    return (c :: s, rest)
  | fuel + 1, c :: cs =>
    if isControl c then none
    else do
      let (s, rest) ← basic? fuel cs
      return (c :: s, rest)

/-- Reads the rest of a string of one line that has no escapes. -/
def literal? : List Char → Option (List Char × List Char)
  | [] => none
  | '\x27' :: rest => some ([], rest)
  | c :: cs =>
    if isControl c then none
    else do
      let (s, rest) ← literal? cs
      return (c :: s, rest)

/-- The end of a string of many lines: its three quotes, with up to two more that belong to it. -/
def closing? (quote : Char) (cs : List Char) : Option (List Char × List Char) :=
  let quotes := (cs.takeWhile (· = quote)).length
  if quotes < 3 then none
  else
    let own := min (quotes - 3) 2
    some (List.replicate own quote, cs.drop (own + 3))

/-- A backslash at the end of a line takes the blanks and line ends that follow with it. -/
def continued? (cs : List Char) : Option (List Char) :=
  match cs.dropWhile fun c => c = ' ' || c = '\t' with
  | '\n' :: rest => some (rest.dropWhile fun c => c = ' ' || c = '\t' || c = '\n' || c = '\r')
  | '\r' :: '\n' :: rest =>
    some (rest.dropWhile fun c => c = ' ' || c = '\t' || c = '\n' || c = '\r')
  | _ => none

/-- Reads the rest of a string of many lines. -/
def manyLines? (quote : Char) (escapes : Bool) : Nat → List Char → Option (List Char × List Char)
  | 0, _ => none
  | fuel + 1, cs =>
    match closing? quote cs with
    | some found => some found
    | none =>
      let add (c : Char) (cs : List Char) : Option (List Char × List Char) := do
        let (s, rest) ← manyLines? quote escapes fuel cs
        return (c :: s, rest)
      match cs with
      | [] => none
      | '\r' :: '\n' :: rest => add '\n' rest
      | '\n' :: rest => add '\n' rest
      | c :: rest =>
        if c = '\\' ∧ escapes then
          match continued? rest with
          | some after => manyLines? quote escapes fuel after
          | none => do
            let (d, after) ← escaped? rest
            add d after
        else if isControl c then none
        else add c rest

/-- What follows the opening quotes of a string of many lines: a line end there does not count. -/
def afterOpening : List Char → List Char
  | '\n' :: rest => rest
  | '\r' :: '\n' :: rest => rest
  | cs => cs

/-- Reads a string in any of its forms. -/
def string? (cs : List Char) : Option (String × List Char) := do
  let (s, rest) ← match cs with
    | '\x22' :: '\x22' :: '\x22' :: rest =>
      manyLines? '\x22' true (rest.length + 1) (afterOpening rest)
    | '\x27' :: '\x27' :: '\x27' :: rest =>
      manyLines? '\x27' false (rest.length + 1) (afterOpening rest)
    | '\x22' :: rest => basic? (rest.length + 1) rest
    | '\x27' :: rest => literal? rest
    | _ => none
  return (String.ofList s, rest)

/-! ## Words -/

/-- The digits of a numeral, with each underscore between two of them left out. -/
def digits? (isDigit : Char → Bool) (cs : List Char) : Option (List Char) :=
  let groups := splitOn '_' cs
  if groups.all fun g => g ≠ [] && g.all isDigit then some groups.flatten else none

/-- Splits a sign off. -/
def unsigned : List Char → Bool × List Char
  | '-' :: cs => (true, cs)
  | '+' :: cs => (false, cs)
  | cs => (false, cs)

/-- The value of digits of a base. -/
def valueOf (base : Nat) (cs : List Char) : Nat :=
  cs.foldl (fun n c => base * n + (hexValue? c).getD 0) 0

/-- The digits of a decimal numeral, which has no leading zero. -/
def decimal? (cs : List Char) : Option (List Char) := do
  let ds ← digits? Char.isDigit cs
  if ds.length ≥ 2 ∧ ds.head? = some '0' then none else some ds

/-- The least number of more than 128 bits. -/
def intBound : Nat := Nat.pow 2 128

/-- A whole number of at most 128 bits. -/
def int? (cs : List Char) : Option Toml := do
  let v ← match cs with
  | '0' :: 'x' :: rest =>
    (digits? (fun c => (hexValue? c).isSome) rest).map fun ds => (valueOf 16 ds : Int)
  | '0' :: 'o' :: rest =>
    (digits? (fun c => '0' ≤ c && c ≤ '7') rest).map fun ds => (valueOf 8 ds : Int)
  | '0' :: 'b' :: rest =>
    (digits? (fun c => c = '0' || c = '1') rest).map fun ds => (valueOf 2 ds : Int)
  | _ =>
    let (negative, body) := unsigned cs
    (decimal? body).map fun ds => if negative then -(valueOf 10 ds : Int) else valueOf 10 ds
  if v < intBound ∧ -v < intBound / 2 + 1 then return .int v else none

/-- The word is a number with a fraction or an exponent, or one of the words for such numbers. -/
def isFloat (cs : List Char) : Bool :=
  let body := (unsigned cs).2
  if body = "inf".toList ∨ body = "nan".toList then true
  else
    let mantissa := body.takeWhile fun c => c ≠ 'e' && c ≠ 'E'
    let exponent := body.drop mantissa.length
    let whole := mantissa.takeWhile (· ≠ '.')
    let fraction := mantissa.drop whole.length
    (decimal? whole).isSome && (fraction ≠ [] || exponent ≠ []) &&
      (fraction = [] || (digits? Char.isDigit fraction.tail).isSome) &&
      (exponent = [] || (digits? Char.isDigit (unsigned exponent.tail).2).isSome)

/-- Reads exactly so many decimal digits as a number of a range. -/
def field? (width lo hi : Nat) (cs : List Char) : Option (List Char) :=
  let ds := cs.take width
  if ds.length = width ∧ ds.all Char.isDigit ∧ lo ≤ digitsValue ds ∧ digitsValue ds ≤ hi then
    some (cs.drop width)
  else none

/-- Reads one character. -/
def mark? (marks : List Char) : List Char → Option (List Char)
  | c :: cs => if marks.contains c then some cs else none
  | [] => none

/-- The days of a month. -/
def daysOf (year month : Nat) : Nat :=
  if [4, 6, 9, 11].contains month then 30
  else if month ≠ 2 then 31
  else if year % 4 = 0 ∧ (year % 100 ≠ 0 ∨ year % 400 = 0) then 29 else 28

/-- Reads a date. -/
def date? (cs : List Char) : Option (List Char) := do
  let rest ← field? 4 0 9999 cs
  let rest ← mark? ['-'] rest
  let year := digitsValue (cs.take 4)
  let month := digitsValue (rest.take 2)
  let rest ← field? 2 1 12 rest
  let rest ← mark? ['-'] rest
  field? 2 1 (daysOf year month) rest

/-- Reads the seconds of a time of day, and the part of a second behind them. -/
def seconds? (cs : List Char) : Option (List Char) := do
  let rest ← field? 2 0 60 cs
  match rest with
  | '.' :: after =>
    let ds := after.takeWhile Char.isDigit
    if ds = [] then none else some (after.drop ds.length)
  | _ => some rest

/-- Reads a time of day; its seconds may be left out. -/
def time? (cs : List Char) : Option (List Char) := do
  let rest ← field? 2 0 23 cs
  let rest ← mark? [':'] rest
  let rest ← field? 2 0 59 rest
  match rest with
  | ':' :: rest => seconds? rest
  | _ => some rest

/-- Reads what tells the time zone of a time. -/
def zone? : List Char → Option (List Char)
  | [] => some []
  | 'Z' :: rest => some rest
  | 'z' :: rest => some rest
  | cs => do
    let rest ← mark? ['+', '-'] cs
    let rest ← field? 2 0 23 rest
    let rest ← mark? [':'] rest
    field? 2 0 59 rest

/-- The word is a date, a time, or both. -/
def isMoment (cs : List Char) : Bool :=
  match date? cs with
  | some [] => true
  | some rest =>
    (((mark? ['T', 't', ' '] rest).bind time?).bind zone?) == some []
  | none => time? cs == some []

/-- The value of a word. -/
def wordValue? (cs : List Char) : Option Toml :=
  if cs = "true".toList then some (.bool true)
  else if cs = "false".toList then some (.bool false)
  else if isMoment cs then some (.moment (String.ofList cs))
  else if isFloat cs then some (.float (String.ofList cs))
  else int? cs

/-- A character of a word. -/
def isWordChar (c : Char) : Bool :=
  c.isAlphanum || c = '+' || c = '-' || c = '_' || c = '.' || c = ':'

/-- Reads a word; a date may have a blank before its time. -/
def word? (cs : List Char) : Option (Toml × List Char) :=
  let short := cs.takeWhile isWordChar
  let rest := cs.drop short.length
  let time := match rest with
    | ' ' :: after => if date? short = some [] then after.takeWhile isWordChar else []
    | _ => []
  if time ≠ [] ∧ (time.head?.map Char.isDigit).getD false then
    (wordValue? (short ++ ' ' :: time)).map fun v => (v, rest.drop (time.length + 1))
  else (wordValue? short).map fun v => (v, rest)

end ScopedSearch.Toml
