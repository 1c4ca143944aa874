/-!
# Single-precision numbers as decimals

Two decimal texts of a single-precision number: the one of fixed places that is nearest, and the
one of fewest digits that reads back.  Both are computed on the exact value, which is a natural
number times a power of two.

## Main results

* `two_mul_roundDiv`: a rounded quotient is within half a unit.
-/

namespace ScopedSearch.Decimal

/-- A finite number: a sign and a natural number times a power of two. -/
structure Binary where
  negative : Bool
  mantissa : Nat
  exponent : Int
  /-- The number below is only half as far away as the one above. -/
  closerBelow : Bool
  deriving DecidableEq, Repr

/-- What the bits of a number say; nothing for an infinity and for what is not a number. -/
def Binary.ofBits? (bits : UInt32) : Option Binary :=
  let n := bits.toNat
  let negative := decide (2147483648 ≤ n)
  let field : Nat := n / 8388608 % 256
  let fraction : Nat := n % 8388608
  if field = 255 then none
  else if field = 0 then some ⟨negative, fraction, -149, false⟩
  else some ⟨negative, 8388608 + fraction, (field : Int) - 150, fraction = 0 && field ≠ 1⟩

/-- A power of two or of ten that stands above the line, or 1. -/
def above (base : Nat) (e : Int) : Nat := Nat.pow base e.toNat

/-- A power that stands below the line, or 1. -/
def below (base : Nat) (e : Int) : Nat := Nat.pow base (-e).toNat

/-! ## Fixed places -/

/-- The nearest natural number to a quotient; in the middle between two, the even one. -/
def roundDiv (num den : Nat) : Nat :=
  let q := num / den
  let r := num % den
  if 2 * r < den then q else if den < 2 * r then q + 1 else q + q % 2

/-- A rounded quotient is within half a unit. -/
theorem two_mul_roundDiv (num den : Nat) (h : 0 < den) :
    2 * num ≤ 2 * (den * roundDiv num den) + den ∧
      2 * (den * roundDiv num den) ≤ 2 * num + den := by
  have hdiv := Nat.div_add_mod num den
  have hlt := Nat.mod_lt num h
  unfold roundDiv
  simp only
  split
  · omega
  · split
    · rw [Nat.mul_add]
      omega
    · rcases Nat.mod_two_eq_zero_or_one (num / den) with he | he <;> rw [he, Nat.mul_add] <;> omega

/-- Digits with zeros before them up to a width. -/
def padded (width n : Nat) : List Char :=
  let ds := Nat.toDigits 10 n
  List.replicate (width - ds.length) '0' ++ ds

/-- The text of a number with so many digits behind the point. -/
def fixed (places : Nat) (x : Float32) : String :=
  match Binary.ofBits? x.toBits with
  | none => if x.isNaN then "NaN" else if x < 0 then "-inf" else "inf"
  | some b =>
    let scaled :=
      roundDiv (b.mantissa * above 2 b.exponent * Nat.pow 10 places) (below 2 b.exponent)
    let whole := Nat.toDigits 10 (scaled / Nat.pow 10 places)
    let fraction := if places = 0 then [] else '.' :: padded places (scaled % Nat.pow 10 places)
    String.ofList ((if b.negative then ['-'] else []) ++ whole ++ fraction)

/-! ## Fewest digits -/

/-- The numbers that read back as a number: those between two bounds, in quarters of its unit. -/
structure Interval where
  low : Nat
  value : Nat
  high : Nat
  /-- The bounds belong to it. -/
  closed : Bool
  deriving DecidableEq, Repr

/-- The numbers that read back as a number. -/
def Binary.interval (b : Binary) : Interval where
  low := 4 * b.mantissa - (if b.closerBelow then 1 else 2)
  value := 4 * b.mantissa
  high := 4 * b.mantissa + 2
  closed := b.mantissa % 2 = 0

/-- A number of quarters reads back. -/
def Interval.holds (i : Interval) (num den : Nat) : Bool :=
  if i.closed then i.low * den ≤ num && num ≤ i.high * den
  else i.low * den < num && num < i.high * den

/--
The multiple of a power of ten that reads back, one of the two that the number lies between: the
nearer one, and the even one of two that are equally near.
-/
def onGrid? (b : Binary) (k : Int) : Option Nat :=
  let i := b.interval
  let unit := b.exponent - 2
  -- a multiple `d` of `10 ^ k` is `d * num / den` quarters
  let num := above 10 k * below 2 unit
  let den := below 10 k * above 2 unit
  let d := i.value * den / num
  let gap := i.value * den - d * num
  match i.holds (d * num) den, i.holds ((d + 1) * num) den with
  | true, true =>
    if 2 * gap < num then some d else if num < 2 * gap then some (d + 1) else some (d + d % 2)
  | true, false => some d
  | false, true => some (d + 1)
  | false, false => none

/-- The powers of ten that digits of a number can stand for, greatest first. -/
def gridPowers : List Int := (List.range 100).map fun (n : Nat) => 40 - Int.ofNat n

/-- The fewest digits that read back, and the power of ten of the last one. -/
def Binary.shortest (b : Binary) : Nat × Int :=
  if b.mantissa = 0 then (0, 0)
  else (gridPowers.findSome? fun k => (onGrid? b k).map fun d => (d, k)).getD (0, 0)

end ScopedSearch.Decimal
