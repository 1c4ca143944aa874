import ScopedSearch.Json.Value
import ScopedSearch.Text.Numeral

/-!
# Reading JSON

`parse?` reads a text that holds one value and nothing around it but blanks.  Control characters
must be escaped inside quotes, numbers have no leading zero and no bare point, and a comma stands
only between items.  Reading goes from left to right over the characters; every step hands on the
rest of the text.  The recursion is bounded by the length of the text, which no value can exceed.
-/

namespace ScopedSearch.Json

open ScopedSearch.Text

/-- The text without the blanks of the format at its start. -/
def skipBlanks (cs : List Char) : List Char :=
  cs.dropWhile fun c => c == ' ' || c == '\n' || c == '\r' || c == '\t'

/-- The value of four hexadecimal digits, and the rest. -/
def hexQuad? : List Char → Option (Nat × List Char)
  | a :: b :: c :: d :: rest => do
    let a ← hexValue? a
    let b ← hexValue? b
    let c ← hexValue? c
    let d ← hexValue? d
    return (((a * 16 + b) * 16 + c) * 16 + d, rest)
  | _ => none

/-- The unit opens a surrogate pair. -/
def isHighSurrogate (n : Nat) : Bool := 0xD800 ≤ n && n < 0xDC00

/-- The unit closes a surrogate pair. -/
def isLowSurrogate (n : Nat) : Bool := 0xDC00 ≤ n && n < 0xE000

/-- The character of a short escape. -/
def shortEscape? (c : Char) : Option Char :=
  if c = '\x22' then some '\x22'
  else if c = '\\' then some '\\'
  else if c = '/' then some '/'
  else if c = 'b' then some '\x08'
  else if c = 'f' then some '\x0c'
  else if c = 'n' then some '\n'
  else if c = 'r' then some '\r'
  else if c = 't' then some '\t'
  else none

/--
The characters up to the closing quote, and the rest of the text after it.  A character is nothing
where an escape names half of a surrogate pair.
-/
def quoted? : Nat → List Char → Option (List (Option Char) × List Char)
  | 0, _ => none
  | fuel + 1, cs =>
    match cs with
    | [] => none
    | '\x22' :: rest => some ([], rest)
    | '\\' :: 'u' :: rest => do
      let (n, rest) ← hexQuad? rest
      if isHighSurrogate n then
        match rest with
        | '\\' :: 'u' :: rest' =>
          let (m, rest'') ← hexQuad? rest'
          if isLowSurrogate m then
            let c := Char.ofNat (0x10000 + (n - 0xD800) * 0x400 + (m - 0xDC00))
            let (tail, rest) ← quoted? fuel rest''
            return (some c :: tail, rest)
          else
            let (tail, rest) ← quoted? fuel rest
            return (none :: tail, rest)
        | _ =>
          let (tail, rest) ← quoted? fuel rest
          return (none :: tail, rest)
      else
        let (tail, rest) ← quoted? fuel rest
        return ((if isLowSurrogate n then none else some (Char.ofNat n)) :: tail, rest)
    | '\\' :: e :: rest => do
      let c ← shortEscape? e
      let (tail, rest) ← quoted? fuel rest
      return (some c :: tail, rest)
    | ['\\'] => none
    | c :: rest =>
      if c.toNat < 0x20 then none
      else do
        let (tail, rest) ← quoted? fuel rest
        return (some c :: tail, rest)

/-- The text of the characters between quotes, unless one of them is half of a pair. -/
def assemble? (cs : List (Option Char)) : Option String :=
  (cs.mapM id).map String.ofList

/-- The value of a numeral: an integer of a 64-bit word, a decimal, or void beyond the doubles. -/
def ofNumeral (negative : Bool) (whole frac : List Char) (exponent : Option Int) : Json :=
  let d : Decimal :=
    ⟨negative, digitsValue (whole ++ frac), exponent.getD 0 - frac.length⟩
  let value : Int := if negative then -(digitsValue whole : Int) else digitsValue whole
  if frac.isEmpty && exponent.isNone && minSigned ≤ value && value ≤ maxWord &&
      !(negative && value == 0) then .int value
  else if d.overflowsDouble then .void
  else .decimal d

/-- The exponent part of a numeral, when there is one, and the rest. -/
def exponentPart? (cs : List Char) : Option (Option Int × List Char) :=
  match cs with
  | [] => some (none, [])
  | c :: rest =>
    if c = 'e' || c = 'E' then
      let (negative, rest) := match rest with
        | '+' :: r => (false, r)
        | '-' :: r => (true, r)
        | r => (false, r)
      let digits := rest.takeWhile Char.isDigit
      if digits.isEmpty then none
      else
        let n : Int := digitsValue digits
        some (some (if negative then -n else n), rest.drop digits.length)
    else some (none, cs)

/-- A numeral without sign, and the rest. -/
def number? (negative : Bool) (cs : List Char) : Option (Json × List Char) :=
  let whole := cs.takeWhile Char.isDigit
  let rest := cs.drop whole.length
  if whole.isEmpty then none
  else if 1 < whole.length && whole.head? == some '0' then none
  else
    match rest with
    | '.' :: r =>
      let frac := r.takeWhile Char.isDigit
      if frac.isEmpty then none
      else do
        let (e, rest) ← exponentPart? (r.drop frac.length)
        return (ofNumeral negative whole frac e, rest)
    | _ => do
      let (e, rest) ← exponentPart? rest
      return (ofNumeral negative whole [] e, rest)

/-- The rest of a text after a word it starts with. -/
def afterWord? : List Char → List Char → Option (List Char)
  | [], cs => some cs
  | _ :: _, [] => none
  | w :: ws, c :: cs => if w = c then afterWord? ws cs else none

/-- The fields of a record, when every name is a text. -/
def namedFields? (fields : List (Option String × Json)) : Option (List (String × Json)) :=
  fields.mapM fun f => f.1.map fun name => (name, f.2)

mutual

/-- One value, blanks before it allowed, and the rest of the text. -/
def value? : Nat → List Char → Option (Json × List Char)
  | 0, _ => none
  | fuel + 1, cs =>
    match skipBlanks cs with
    | [] => none
    | c :: rest =>
      if c = '\x22' then do
        let (s, rest) ← quoted? (rest.length + 1) rest
        return ((assemble? s).elim .void .text, rest)
      else if c = '[' then
        match skipBlanks rest with
        | ']' :: rest => some (.list [], rest)
        | rest => do
          let (items, rest) ← items? fuel rest
          return (.list items, rest)
      else if c = '\x7b' then
        match skipBlanks rest with
        | '\x7d' :: rest => some (.record [], rest)
        | rest => do
          let (fields, rest) ← fields? fuel rest
          return ((namedFields? fields).elim .void .record, rest)
      else if c = '-' then number? true rest
      else if c.isDigit then number? false (c :: rest)
      else if c = 't' then (afterWord? "rue".toList rest).map (.bool true, ·)
      else if c = 'f' then (afterWord? "alse".toList rest).map (.bool false, ·)
      else if c = 'n' then (afterWord? "ull".toList rest).map (.null, ·)
      else none

/-- The items of a list up to its closing bracket, at least one, and the rest. -/
def items? : Nat → List Char → Option (List Json × List Char)
  | 0, _ => none
  | fuel + 1, cs => do
    let (v, rest) ← value? fuel cs
    match skipBlanks rest with
    | ',' :: rest =>
      let (vs, rest) ← items? fuel rest
      return (v :: vs, rest)
    | ']' :: rest => return ([v], rest)
    | _ => none

/--
The fields of a record up to its closing brace, at least one, and the rest.  A name is nothing
where it holds half of a surrogate pair.
-/
def fields? : Nat → List Char → Option (List (Option String × Json) × List Char)
  | 0, _ => none
  | fuel + 1, cs =>
    match skipBlanks cs with
    | '\x22' :: rest => do
      let (s, rest) ← quoted? (rest.length + 1) rest
      match skipBlanks rest with
      | ':' :: rest =>
        let (v, rest) ← value? fuel rest
        match skipBlanks rest with
        | ',' :: rest =>
          let (fs, rest) ← fields? fuel rest
          return ((assemble? s, v) :: fs, rest)
        | '\x7d' :: rest => return ([(assemble? s, v)], rest)
        | _ => none
      | _ => none
    | _ => none

end

/-- The value that a text holds, with nothing around it but blanks. -/
def parseChars? (cs : List Char) : Option Json := do
  let (v, rest) ← value? (2 * cs.length + 2) cs
  if (skipBlanks rest).isEmpty then some v else none

/-- The value that a text holds, with nothing around it but blanks. -/
def parse? (s : String) : Option Json := parseChars? s.toList

/-- The value that a row of bytes holds, when it is UTF-8. -/
def parseBytes? (bytes : ByteArray) : Option Json := (String.fromUTF8? bytes).bind parse?

end ScopedSearch.Json
