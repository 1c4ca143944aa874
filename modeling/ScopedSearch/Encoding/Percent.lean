import ScopedSearch.Text.Numeral

/-!
# Percent encoding

A text as one segment of a URL.  Letters, digits, hyphen, dot, underscore and tilde stand for
themselves; every other byte of the UTF-8 form is a percent sign and two hexadecimal digits.
-/

namespace ScopedSearch.Percent

open ScopedSearch.Text

/-- The byte is that of a character that stands for itself. -/
def isUnreserved (b : UInt8) : Bool :=
  let c := Char.ofNat b.toNat
  c.isAlphanum || c == '-' || c == '.' || c == '_' || c == '~'

/-- The characters that stand for one byte. -/
def encodeByte (b : UInt8) : List Char :=
  if isUnreserved b then [Char.ofNat b.toNat]
  else ['%', hexDigitUpper (b.toNat / 16), hexDigitUpper (b.toNat % 16)]

/-- The segment that stands for a row of bytes. -/
def encodeBytes (bytes : List UInt8) : List Char := bytes.flatMap encodeByte

/-- The segment that stands for a text. -/
def encode (s : String) : String := String.ofList (encodeBytes s.toUTF8.toList)

/-- The bytes that a segment stands for; an escape that is not complete is refused. -/
def decodeBytes? : List Char → Option (List UInt8)
  | [] => some []
  | '%' :: h :: l :: rest => do
    let high ← hexValue? h
    let low ← hexValue? l
    let bytes ← decodeBytes? rest
    return UInt8.ofNat (16 * high + low) :: bytes
  | c :: rest => do
    if c = '%' then none
    let bytes ← decodeBytes? rest
    return UInt8.ofNat c.toNat :: bytes

end ScopedSearch.Percent
