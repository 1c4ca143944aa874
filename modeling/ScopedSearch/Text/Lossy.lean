/-!
# Text of any bytes

Reads bytes as UTF-8 and puts the replacement character where they are not: one for each byte that
begins nothing, and one for the beginning of a character that does not go on.
-/

namespace ScopedSearch.Text

/-- The replacement character. -/
def replacement : Char := '\ufffd'

/-- A byte of a range, as a number. -/
def byteIn (lo hi : Nat) (b : UInt8) : Bool := lo ≤ b.toNat && b.toNat ≤ hi

/--
How a character that begins with a byte goes on: the payload of the byte, the range of the byte
after it, and how many more bytes follow after that.
-/
def leadByte? (b : UInt8) : Option (Nat × Nat × Nat × Nat) :=
  let n := b.toNat
  if 0xC2 ≤ n ∧ n ≤ 0xDF then some (n - 0xC0, 0x80, 0xBF, 0)
  else if n = 0xE0 then some (0, 0xA0, 0xBF, 1)
  else if n = 0xED then some (0xD, 0x80, 0x9F, 1)
  else if 0xE1 ≤ n ∧ n ≤ 0xEF then some (n - 0xE0, 0x80, 0xBF, 1)
  else if n = 0xF0 then some (0, 0x90, 0xBF, 2)
  else if 0xF1 ≤ n ∧ n ≤ 0xF3 then some (n - 0xF0, 0x80, 0xBF, 2)
  else if n = 0xF4 then some (4, 0x80, 0x8F, 2)
  else none

/-- Reads so many continuation bytes onto a payload. -/
def continuation : Nat → Nat → List UInt8 → Option Nat × List UInt8
  | 0, value, bytes => (some value, bytes)
  | n + 1, value, b :: bytes =>
    if byteIn 0x80 0xBF b then continuation n (value * 64 + (b.toNat - 0x80)) bytes
    else (none, b :: bytes)
  | _ + 1, _, [] => (none, [])

/-- One character of bytes that are not empty, and the bytes behind it. -/
def lossyChar (b : UInt8) (bytes : List UInt8) : Char × List UInt8 :=
  if b.toNat < 0x80 then (Char.ofNat b.toNat, bytes)
  else
    match leadByte? b, bytes with
    | some (payload, lo, hi, more), c :: rest =>
      if byteIn lo hi c then
        match continuation more (payload * 64 + (c.toNat - 0x80)) rest with
        | (some n, after) => (Char.ofNat n, after)
        | (none, after) => (replacement, after)
      else (replacement, c :: rest)
    | _, _ => (replacement, bytes)

/-- The characters of bytes, at most so many. -/
def lossyChars : Nat → List UInt8 → List Char
  | 0, _ => []
  | _, [] => []
  | fuel + 1, b :: bytes =>
    let (c, rest) := lossyChar b bytes
    c :: lossyChars fuel rest

/-- The text of bytes. -/
def ofBytesLossy (bytes : ByteArray) : String :=
  match String.fromUTF8? bytes with
  | some s => s
  | none => String.ofList (lossyChars bytes.size bytes.toList)

end ScopedSearch.Text
