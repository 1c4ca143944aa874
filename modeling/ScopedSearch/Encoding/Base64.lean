import ScopedSearch.Text.Numeral

/-!
# Base 64

Bytes written with sixty-four characters, six bits each.  Two spellings are used: the URL-safe
alphabet without padding, which is also read back, and the standard alphabet padded with equals
signs, which is only written.  Reading is strict: a character outside the alphabet, a length that
no row of bytes produces, and bits left over that are not zero are all refused, so every accepted
text is the spelling of the bytes it yields.
-/

namespace ScopedSearch.Base64

/-- The URL-safe alphabet. -/
def urlAlphabet : List Char :=
  "ABCDEFGHIJKLMNOPQRSTUVWXYZabcdefghijklmnopqrstuvwxyz0123456789-_".toList

/-- The standard alphabet. -/
def standardAlphabet : List Char :=
  "ABCDEFGHIJKLMNOPQRSTUVWXYZabcdefghijklmnopqrstuvwxyz0123456789+/".toList

/-- The character of a six-bit value. -/
def symbol (alphabet : List Char) (n : Nat) : Char := alphabet.getD (n % 64) 'A'

/-- The six-bit values of a row of bytes, the last one filled up with zero bits. -/
def sextets : List UInt8 → List Nat
  | [] => []
  | [a] => [a.toNat / 4, a.toNat % 4 * 16]
  | [a, b] => [a.toNat / 4, a.toNat % 4 * 16 + b.toNat / 16, b.toNat % 16 * 4]
  | a :: b :: c :: rest =>
    a.toNat / 4 :: (a.toNat % 4 * 16 + b.toNat / 16) :: (b.toNat % 16 * 4 + c.toNat / 64) ::
      c.toNat % 64 :: sextets rest

/-- The bytes of a row of six-bit values, when it is the row of some bytes. -/
def ofSextets : List Nat → Option (List UInt8)
  | [] => some []
  | [_] => none
  | [p, q] => if q % 16 = 0 then some [UInt8.ofNat (p * 4 + q / 16)] else none
  | [p, q, r] =>
    if r % 4 = 0 then
      some [UInt8.ofNat (p * 4 + q / 16), UInt8.ofNat (q % 16 * 16 + r / 4)]
    else none
  | p :: q :: r :: s :: rest =>
    (ofSextets rest).map fun bytes =>
      UInt8.ofNat (p * 4 + q / 16) :: UInt8.ofNat (q % 16 * 16 + r / 4) ::
        UInt8.ofNat (r % 4 * 64 + s) :: bytes

/-- The six-bit value of a character of the URL-safe alphabet. -/
def value? (c : Char) : Option Nat :=
  if 'A' ≤ c ∧ c ≤ 'Z' then some (c.toNat - 'A'.toNat)
  else if 'a' ≤ c ∧ c ≤ 'z' then some (c.toNat - 'a'.toNat + 26)
  else if '0' ≤ c ∧ c ≤ '9' then some (c.toNat - '0'.toNat + 52)
  else if c = '-' then some 62
  else if c = '_' then some 63
  else none

/-- The URL-safe spelling without padding. -/
def encodeUrl (bytes : List UInt8) : List Char := (sextets bytes).map (symbol urlAlphabet)

/-- The bytes of which a text is the URL-safe spelling. -/
def decodeUrl? (text : List Char) : Option (List UInt8) :=
  (text.mapM value?).bind ofSextets

/-- The standard spelling, padded to a multiple of four characters. -/
def encode (bytes : List UInt8) : List Char :=
  let body := (sextets bytes).map (symbol standardAlphabet)
  body ++ List.replicate ((4 - body.length % 4) % 4) '='

theorem ofSextets_sextets (bytes : List UInt8) : ofSextets (sextets bytes) = some bytes := by
  fun_induction sextets bytes with
  | case1 => rfl
  | case2 a =>
    have ha := a.toNat_lt
    have e : a.toNat / 4 * 4 + a.toNat % 4 * 16 / 16 = a.toNat := by omega
    have z : a.toNat % 4 * 16 % 16 = 0 := by omega
    simp only [ofSextets, e, z, if_true, UInt8.ofNat_toNat]
  | case3 a b =>
    have ha := a.toNat_lt
    have hb := b.toNat_lt
    have e : a.toNat / 4 * 4 + (a.toNat % 4 * 16 + b.toNat / 16) / 16 = a.toNat := by omega
    have f : (a.toNat % 4 * 16 + b.toNat / 16) % 16 * 16 + b.toNat % 16 * 4 / 4 = b.toNat := by
      omega
    have z : b.toNat % 16 * 4 % 4 = 0 := by omega
    simp only [ofSextets, e, f, z, if_true, UInt8.ofNat_toNat]
  | case4 a b c rest ih =>
    have ha := a.toNat_lt
    have hb := b.toNat_lt
    have hc := c.toNat_lt
    have e : a.toNat / 4 * 4 + (a.toNat % 4 * 16 + b.toNat / 16) / 16 = a.toNat := by omega
    have f : (a.toNat % 4 * 16 + b.toNat / 16) % 16 * 16 +
        (b.toNat % 16 * 4 + c.toNat / 64) / 4 = b.toNat := by omega
    have g : (b.toNat % 16 * 4 + c.toNat / 64) % 4 * 64 + c.toNat % 64 = c.toNat := by omega
    simp only [ofSextets, ih, e, f, g, Option.map_some, UInt8.ofNat_toNat]

theorem sextets_lt (bytes : List UInt8) : ∀ n ∈ sextets bytes, n < 64 := by
  fun_induction sextets bytes with
  | case1 => simp
  | case2 a =>
    have ha := a.toNat_lt
    simp only [List.mem_cons, List.not_mem_nil, or_false]
    omega
  | case3 a b =>
    have ha := a.toNat_lt
    have hb := b.toNat_lt
    simp only [List.mem_cons, List.not_mem_nil, or_false]
    omega
  | case4 a b c rest ih =>
    have ha := a.toNat_lt
    have hb := b.toNat_lt
    have hc := c.toNat_lt
    intro n hn
    simp only [List.mem_cons] at hn
    rcases hn with h | h | h | h | h
    · omega
    · omega
    · omega
    · omega
    · exact ih n h

theorem value?_symbol : ∀ n < 64, value? (symbol urlAlphabet n) = some n := by decide +kernel

/-- The spelling reads back. -/
theorem decodeUrl?_encodeUrl (bytes : List UInt8) :
    decodeUrl? (encodeUrl bytes) = some bytes := by
  have h : ∀ ns : List Nat, (∀ n ∈ ns, n < 64) →
      (ns.map (symbol urlAlphabet)).mapM value? = some ns := by
    intro ns
    induction ns with
    | nil => intro _; rfl
    | cons n ns ih =>
      intro hn
      rw [List.map_cons, List.mapM_cons, value?_symbol n (hn n (by simp)),
        ih fun m hm => hn m (by simp [hm])]
      rfl
  rw [decodeUrl?, encodeUrl, h _ (sextets_lt bytes)]
  exact ofSextets_sextets bytes

end ScopedSearch.Base64
