import ScopedSearch.Json.Value
import ScopedSearch.Text.Numeral

/-!
# Writing JSON

`compact` writes a value without any blank; `pretty` writes one field or item a line, indented by
two spaces a level.  In a text, the quote and the backslash are escaped, and so is every control
character below the space, with a short escape where there is one; all else stands for itself.

A decimal is written with its digits and exponent; values made by this library hold decimals only
as scores, whose digits `Decimal` already has in shortest form.
-/

namespace ScopedSearch.Json

open ScopedSearch.Text

/-- The characters that stand for one character inside quotes. -/
def escape (c : Char) : List Char :=
  if c = '\x22' then ['\\', '\x22']
  else if c = '\\' then ['\\', '\\']
  else if c = '\x08' then ['\\', 'b']
  else if c = '\x0c' then ['\\', 'f']
  else if c = '\n' then ['\\', 'n']
  else if c = '\r' then ['\\', 'r']
  else if c = '\t' then ['\\', 't']
  else if c.toNat < 0x20 then
    ['\\', 'u', '0', '0', hexDigit (c.toNat / 16), hexDigit (c.toNat % 16)]
  else [c]

/-- A text between quotes. -/
def quote (s : String) : List Char := '\x22' :: (s.toList.flatMap escape ++ ['\x22'])

/--
The numeral of a decimal.  With point position `p` (the digits read as `0.d₁d₂… × 10 ^ p`) it is
positional for `-5 < p ≤ 16` and scientific otherwise; a whole number keeps one zero after the
point.
-/
def decimalText (d : Decimal) : List Char :=
  let ds := natText d.digits
  let p : Int := d.exponent + ds.length
  let body : List Char :=
    if d.digits = 0 then ['0', '.', '0']
    else if 0 ≤ d.exponent && p ≤ 16 then
      ds ++ List.replicate d.exponent.toNat '0' ++ ['.', '0']
    else if 0 < p && p ≤ 16 then ds.take p.toNat ++ '.' :: ds.drop p.toNat
    else if -5 < p && p ≤ 0 then '0' :: '.' :: (List.replicate (-p).toNat '0' ++ ds)
    else
      let mantissa := match ds with
        | [] => []
        | [x] => [x]
        | x :: rest => x :: '.' :: rest
      mantissa ++ 'e' :: intText (p - 1)
  if d.negative then '-' :: body else body

mutual

/-- The value without any blank. -/
def chars : Json → List Char
  | .null => "null".toList
  | .bool true => "true".toList
  | .bool false => "false".toList
  | .int n => intText n
  | .decimal d => decimalText d
  | .text s => quote s
  | .list items => '[' :: (charsList items ++ [']'])
  | .record fields => '\x7b' :: (charsFields fields ++ ['\x7d'])
  | .void => "null".toList

/-- The items with commas between them. -/
def charsList : List Json → List Char
  | [] => []
  | [v] => chars v
  | v :: w :: vs => chars v ++ ',' :: charsList (w :: vs)

/-- The fields with commas between them. -/
def charsFields : List (String × Json) → List Char
  | [] => []
  | [(k, v)] => quote k ++ ':' :: chars v
  | (k, v) :: f :: fs => quote k ++ ':' :: (chars v ++ ',' :: charsFields (f :: fs))

end

/-- The value on one line, without any blank. -/
def compact (v : Json) : String := String.ofList v.chars

/-- A line break and the indentation of a level. -/
def newline (level : Nat) : List Char := '\n' :: List.replicate (2 * level) ' '

mutual

/-- The value with one field or item a line, its first line standing at the given level. -/
def prettyChars (level : Nat) : Json → List Char
  | .list [] => ['[', ']']
  | .list (v :: vs) =>
    '[' :: (prettyList (level + 1) (v :: vs) ++ newline level ++ [']'])
  | .record [] => ['\x7b', '\x7d']
  | .record (f :: fs) =>
    '\x7b' :: (prettyFields (level + 1) (f :: fs) ++ newline level ++ ['\x7d'])
  | v => chars v

def prettyList (level : Nat) : List Json → List Char
  | [] => []
  | [v] => newline level ++ prettyChars level v
  | v :: w :: vs => newline level ++ prettyChars level v ++ ',' :: prettyList level (w :: vs)

def prettyFields (level : Nat) : List (String × Json) → List Char
  | [] => []
  | [(k, v)] => newline level ++ quote k ++ ':' :: ' ' :: prettyChars level v
  | (k, v) :: f :: fs =>
    newline level ++ quote k ++ ':' :: ' ' :: (prettyChars level v ++ ',' ::
      prettyFields level (f :: fs))

end

/-- The value with one field or item a line. -/
def pretty (v : Json) : String := String.ofList (prettyChars 0 v)

end ScopedSearch.Json
