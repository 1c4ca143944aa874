/-!
# JSON values

The values of the JSON text format.  Whole numbers that fit a signed or unsigned 64-bit word are
integers; every other number is kept as the decimal it was written as.  A record keeps its fields
in the order of the text, repeated names included, because readers of records care about both.

A text can be well formed and still denote nothing: an escape may name half of a surrogate pair,
and a number may lie beyond the double range.  Such a value is `void`.  It does no harm where
it is skipped and makes reading fail where it is looked at.
-/

namespace ScopedSearch

/-- A decimal number as written: a sign, digits, and the power of ten they are multiplied by. -/
structure Decimal where
  negative : Bool
  digits : Nat
  exponent : Int
  deriving DecidableEq, Repr, Inhabited

namespace Decimal

/-- The number of decimal digits of a positive number; none for zero. -/
def digitCount (n : Nat) : Nat := if n = 0 then 0 else (Nat.toDigits 10 n).length

/-- The least magnitude that rounds beyond the greatest double. -/
def doubleBound : Nat := Nat.pow 2 1024 - Nat.pow 2 970

/-- The number lies beyond the double range. -/
def overflowsDouble (d : Decimal) : Bool :=
  if d.digits = 0 then false
  else if 400 < d.exponent + digitCount d.digits then true
  else if d.exponent + digitCount d.digits < 0 then false
  else if 0 ≤ d.exponent then doubleBound ≤ d.digits * Nat.pow 10 d.exponent.toNat
  else doubleBound * Nat.pow 10 (-d.exponent).toNat ≤ d.digits

/-- The nearest double. -/
def toDouble (d : Decimal) : Float :=
  let magnitude : Float :=
    if d.digits = 0 || d.exponent + digitCount d.digits < -400 then 0
    else Float.ofScientific d.digits (d.exponent < 0) d.exponent.natAbs
  if d.negative then -magnitude else magnitude

end Decimal

/-- A JSON value. -/
inductive Json
  | null
  | bool (b : Bool)
  /-- A whole number of a 64-bit word. -/
  | int (n : Int)
  /-- Any other number of the double range. -/
  | decimal (d : Decimal)
  | text (s : String)
  | list (items : List Json)
  | record (fields : List (String × Json))
  /-- A well-formed text that denotes no value. -/
  | void
  deriving Repr, Inhabited

namespace Json

/-- The deepest nesting that a reader of arbitrary values follows. -/
def maxDepth : Nat := 127

mutual

/-- How many lists and records lie around the innermost value, this one included. -/
def depth : Json → Nat
  | .list items => depthList items + 1
  | .record fields => depthFields fields + 1
  | _ => 0

def depthList : List Json → Nat
  | [] => 0
  | v :: vs => max v.depth (depthList vs)

def depthFields : List (String × Json) → Nat
  | [] => 0
  | (_, v) :: fs => max v.depth (depthFields fs)

end

mutual

/-- No part of the value is void. -/
def isSound : Json → Bool
  | .void => false
  | .list items => soundList items
  | .record fields => soundFields fields
  | _ => true

def soundList : List Json → Bool
  | [] => true
  | v :: vs => v.isSound && soundList vs

def soundFields : List (String × Json) → Bool
  | [] => true
  | (_, v) :: fs => v.isSound && soundFields fs

end

/-- The value can be read whole: no part of it is void and the nesting is within the limit. -/
def isReadable (v : Json) : Bool := v.isSound && v.depth ≤ maxDepth

/-- The last value stored under a name. -/
def field? (name : String) : Json → Option Json
  | .record fields => (fields.reverse.find? (·.1 == name)).map (·.2)
  | _ => none

/-- The value reached from another one by a row of names and list positions. -/
def follow? : List String → Json → Option Json
  | [], v => some v
  | step :: steps, .record fields => do
    let v ← (Json.record fields).field? step
    follow? steps v
  | step :: steps, .list items => do
    let i ← step.toNat?
    let v ← items[i]?
    follow? steps v
  | _ :: _, _ => none

/-- The text of a text value. -/
def text? : Json → Option String
  | .text s => some s
  | _ => none

/-- The truth value of a truth value. -/
def bool? : Json → Option Bool
  | .bool b => some b
  | _ => none

/-- A natural number as a value. -/
def nat (n : Nat) : Json := .int n

/-- A list of texts as a value. -/
def texts (items : List String) : Json := .list (items.map .text)

end Json

end ScopedSearch
