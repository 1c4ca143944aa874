import ScopedSearch.Text.Numeral

/-!
# Hexadecimal bytes

Two digits for each byte, in lower case; digits of either case are read.

## Main results

* `length_encode`: there are two digits for each byte.
-/

namespace ScopedSearch.Hex

open ScopedSearch.Text

/-- The digits of bytes. -/
def encode (bytes : List UInt8) : List Char :=
  bytes.flatMap fun b => [hexDigit (b.toNat / 16), hexDigit (b.toNat % 16)]

/-- The bytes of digits, up to the first pair that is none. -/
def decode : List Char → List UInt8
  | h :: l :: rest =>
    match hexValue? h, hexValue? l with
    | some high, some low => UInt8.ofNat (16 * high + low) :: decode rest
    | _, _ => []
  | _ => []

theorem length_encode (bytes : List UInt8) : (encode bytes).length = 2 * bytes.length := by
  induction bytes with
  | nil => rfl
  | cons b bs ih => simp [encode, List.flatMap_cons, Nat.mul_add] at ih ⊢; omega

end ScopedSearch.Hex
