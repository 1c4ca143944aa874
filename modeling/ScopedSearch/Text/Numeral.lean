/-!
# Numerals

Decimal numerals of whole numbers: written without sign for naturals and with a leading minus for
negative integers, and read back.  `readInt` accepts an optional sign before at least one ASCII
digit and says which of four things is wrong with any other text.  Hexadecimal digits serve the
escapes of the text formats.
-/

namespace ScopedSearch.Text

/-- The value of a decimal digit. -/
def digitValue? (c : Char) : Option Nat :=
  if c.isDigit then some (c.toNat - '0'.toNat) else none

/-- The value of a hexadecimal digit of either case. -/
def hexValue? (c : Char) : Option Nat :=
  if c.isDigit then some (c.toNat - '0'.toNat)
  else if 'a' ≤ c ∧ c ≤ 'f' then some (c.toNat - 'a'.toNat + 10)
  else if 'A' ≤ c ∧ c ≤ 'F' then some (c.toNat - 'A'.toNat + 10)
  else none

/-- The hexadecimal digit of a value below sixteen, in lower case. -/
def hexDigit (n : Nat) : Char :=
  if n < 10 then Char.ofNat ('0'.toNat + n) else Char.ofNat ('a'.toNat + (n - 10))

/-- The hexadecimal digit of a value below sixteen, in upper case. -/
def hexDigitUpper (n : Nat) : Char :=
  if n < 10 then Char.ofNat ('0'.toNat + n) else Char.ofNat ('A'.toNat + (n - 10))

/-- The decimal numeral of a natural number. -/
def natText (n : Nat) : List Char := Nat.toDigits 10 n

/-- The decimal numeral of an integer. -/
def intText : Int → List Char
  | .ofNat n => natText n
  | .negSucc n => '-' :: natText (n + 1)

/-- The number that a row of decimal digits denotes. -/
def digitsValue (cs : List Char) : Nat :=
  cs.foldl (fun n c => 10 * n + (c.toNat - '0'.toNat)) 0

/-- What is wrong with a text that is not the numeral of a number in a range. -/
inductive NumeralFault
  | empty
  | invalidDigit
  | aboveRange
  | belowRange
  deriving DecidableEq, Repr

/--
Reads an integer of the range from `lo` to `hi`: at least one decimal digit, and before them at
most one sign.  A minus sign is refused where the range has no negative numbers.  Digits that leave
the range are reported before a character that is no digit and stands behind them.
-/
def readInt (lo hi : Int) (cs : List Char) : Except NumeralFault Int :=
  let body (negative : Bool) (text : List Char) : Except NumeralFault Int :=
    let digits := text.takeWhile Char.isDigit
    let value : Int := if negative then -(digitsValue digits : Int) else digitsValue digits
    if value < lo then .error .belowRange
    else if hi < value then .error .aboveRange
    else if digits.isEmpty || digits.length < text.length then .error .invalidDigit
    else .ok value
  match cs with
  | [] => .error .empty
  | '+' :: rest => body false rest
  | '-' :: rest => if lo < 0 then body true rest else .error .invalidDigit
  | _ => body false cs

/-- The greatest number of a 64-bit unsigned word. -/
def maxWord : Nat := 18446744073709551615

/-- The least number of a 64-bit signed word. -/
def minSigned : Int := -9223372036854775808

/-- The greatest number of a 64-bit signed word. -/
def maxSigned : Int := 9223372036854775807

/-- The least number of a 32-bit signed word. -/
def minHalfSigned : Int := -2147483648

/-- The greatest number of a 32-bit signed word. -/
def maxHalfSigned : Int := 2147483647

/-- Reads an unsigned 64-bit number. -/
def readWord (cs : List Char) : Except NumeralFault Nat :=
  (readInt 0 maxWord cs).map Int.toNat

/-- Reads a signed 64-bit number. -/
def readSigned (cs : List Char) : Except NumeralFault Int := readInt minSigned maxSigned cs

/-- Reads a signed 32-bit number. -/
def readHalfSigned (cs : List Char) : Except NumeralFault Int :=
  readInt minHalfSigned maxHalfSigned cs

end ScopedSearch.Text
