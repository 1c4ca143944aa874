import Mathlib.Data.Nat.Bitwise
import Mathlib.Data.Nat.Digits.Lemmas
import ScopedSearch.Digest.Mixing
import ScopedSearch.Proofs.Text.Bytes

/-!
# What the mixing hash tells apart

The hash of a row of words is 64 bits wide, so it cannot tell all rows apart.  What it does tell
apart follows from its step: a step loses neither the state nor the word, as turning bits, combining
with a word and multiplying by an odd number can all be undone.  So rows that differ in one word
differ in their hashes, and no more than that holds of two words in a row.

The words of texts are another matter.  Each text ends with a byte that no text holds, so texts that
are fed one after the other are read off their words again; but only where they are free of the
character zero, since a word says nothing of the zeros it ends with.

## Main results

* `step_inj_word`, `step_inj_state`: a step loses nothing.
* `hash_ne_of_oneApart`: rows that differ in one word have different hashes.
* `hash_flag_limit_inj`: a flag and a short number at the end of a row are told apart.
* `textWords_append_inj`, `optionWords_append_inj`: texts are read off their words.
* `hash_zero_cons`: a zero at the start of a row leaves no trace.
-/

namespace ScopedSearch.Mixing

open ScopedSearch.Text

/-! ## One step -/

/-- The state with its bits turned left by five places. -/
def rotate (h : UInt64) : UInt64 := (h <<< 5) ||| (h >>> 59)

theorem step_eq (h w : UInt64) : step h w = (rotate h ^^^ w) * multiplier := rfl

/-- The five bits at the top come to stand below the others. -/
theorem toNat_rotate (h : UInt64) :
    (rotate h).toNat = h.toNat % 2 ^ 59 * 32 + h.toNat / 2 ^ 59 := by
  have hword := h.toNat_lt
  have hlow : h.toNat / 2 ^ 59 < 2 ^ 5 := by omega
  have hhigh : h.toNat <<< 5 % 2 ^ 64 = (h.toNat % 2 ^ 59) <<< 5 := by
    rw [Nat.shiftLeft_eq, Nat.shiftLeft_eq]
    omega
  have hsum := Nat.shiftLeft_add_eq_or_of_lt hlow (h.toNat % 2 ^ 59)
  have hrotate : (rotate h).toNat = h.toNat <<< 5 % 2 ^ 64 ||| h.toNat >>> 59 := by
    rw [rotate, UInt64.toNat_or, UInt64.toNat_shiftLeft, UInt64.toNat_shiftRight]
    rfl
  rw [hrotate, hhigh, Nat.shiftRight_eq_div_pow, ← hsum, Nat.shiftLeft_eq]

theorem toNat_rotate_div (h : UInt64) : (rotate h).toNat / 32 = h.toNat % 2 ^ 59 := by
  have htop : h.toNat / 2 ^ 59 < 32 := Nat.div_lt_of_lt_mul h.toNat_lt
  rw [toNat_rotate, Nat.mul_comm, Nat.mul_add_div (by decide), Nat.div_eq_of_lt htop, Nat.add_zero]

theorem toNat_rotate_mod (h : UInt64) : (rotate h).toNat % 32 = h.toNat / 2 ^ 59 := by
  have htop : h.toNat / 2 ^ 59 < 32 := Nat.div_lt_of_lt_mul h.toNat_lt
  rw [toNat_rotate, Nat.mul_comm, Nat.mul_add_mod, Nat.mod_eq_of_lt htop]

/-- Turning the bits loses none of them. -/
theorem rotate_inj {h h' : UInt64} : rotate h = rotate h' ↔ h = h' := by
  constructor
  · intro heq
    have hlow : h.toNat % 2 ^ 59 = h'.toNat % 2 ^ 59 := by
      rw [← toNat_rotate_div, ← toNat_rotate_div, heq]
    have hhigh : h.toNat / 2 ^ 59 = h'.toNat / 2 ^ 59 := by
      rw [← toNat_rotate_mod, ← toNat_rotate_mod, heq]
    apply UInt64.toNat_inj.1
    rw [← Nat.div_add_mod h.toNat (2 ^ 59), hlow, hhigh, Nat.div_add_mod]
  · exact congrArg rotate

/-- The multiplier is odd, so multiplying by it can be undone. -/
theorem mul_multiplier_inj {x y : UInt64} : x * multiplier = y * multiplier ↔ x = y := by
  have hinverse : multiplier * 0x2040003d780970bd = 1 := by decide
  constructor
  · intro h
    have h := congrArg (· * (0x2040003d780970bd : UInt64)) h
    simpa only [UInt64.mul_assoc, hinverse, UInt64.mul_one] using h
  · exact congrArg (· * multiplier)

/-- A step does not lose the word. -/
theorem step_inj_word {h w w' : UInt64} : step h w = step h w' ↔ w = w' := by
  rw [step_eq, step_eq, mul_multiplier_inj, UInt64.xor_right_inj]

/-- A step does not lose the state. -/
theorem step_inj_state {h h' w : UInt64} : step h w = step h' w ↔ h = h' := by
  rw [step_eq, step_eq, mul_multiplier_inj, UInt64.xor_left_inj, rotate_inj]

/-- Words that are fed to two states keep them apart. -/
theorem foldl_step_inj {h h' : UInt64} (ws : List UInt64) :
    ws.foldl step h = ws.foldl step h' ↔ h = h' := by
  induction ws generalizing h h' with
  | nil => rfl
  | cons w ws ih => rw [List.foldl_cons, List.foldl_cons, ih, step_inj_state]

/-- The rows differ in one word and in nothing else. -/
def OneApart (ws ws' : List UInt64) : Prop :=
  ∃ before w w' after, ws = before ++ w :: after ∧ ws' = before ++ w' :: after ∧ w ≠ w'

/-- Rows that differ in one word have different hashes. -/
theorem hash_ne_of_oneApart {ws ws' : List UInt64} (h : OneApart ws ws') : hash ws ≠ hash ws' := by
  obtain ⟨before, w, w', after, rfl, rfl, hne⟩ := h
  intro heq
  simp only [hash, List.foldl_append, List.foldl_cons] at heq
  exact hne (step_inj_word.1 ((foldl_step_inj after).1 heq))

/-- A zero at the start of a row leaves no trace. -/
theorem hash_zero_cons (ws : List UInt64) : hash (0 :: ws) = hash ws := rfl

/-! ## A flag and a short number at the end -/

/-- Turning the lowest bit over adds one or takes one away. -/
theorem xor_one_cases (x : UInt64) : x ^^^ 1 = x + 1 ∨ x = (x ^^^ 1) + 1 := by
  have hword : x.toNat < 2 ^ 64 := x.toNat_lt
  rcases Nat.even_or_odd x.toNat with heven | hodd
  · left
    have hxor : x.toNat ^^^ 1 = x.toNat + 1 := Nat.xor_one_of_even heven
    have hlt : x.toNat + 1 < 2 ^ 64 := by
      obtain ⟨k, hk⟩ := heven
      omega
    apply UInt64.toNat_inj.1
    rw [UInt64.toNat_xor, UInt64.toNat_add]
    exact hxor.trans (Nat.mod_eq_of_lt hlt).symm
  · right
    have hxor : x.toNat ^^^ 1 = x.toNat - 1 := Nat.xor_one_of_odd hodd
    have hback : x.toNat - 1 + 1 = x.toNat := Nat.succ_pred_eq_of_pos hodd.pos
    have hone : (1 : UInt64).toNat = 1 := rfl
    apply UInt64.toNat_inj.1
    rw [UInt64.toNat_add, UInt64.toNat_xor, hone, hxor, hback, Nat.mod_eq_of_lt hword]

/-- One multiplier more changes a state in the bits that stand away from its two ends. -/
theorem middle_add_multiplier_ne (a : UInt64) :
    (a + multiplier).toNat % 2 ^ 59 / 32 ≠ a.toNat % 2 ^ 59 / 32 := by
  have hsum : (a + multiplier).toNat % 2 ^ 59 =
      (a.toNat % 2 ^ 59 + 107173483529767573) % 2 ^ 59 := by
    rw [UInt64.toNat_add, Nat.mod_mod_of_dvd _ (by decide : 2 ^ 59 ∣ 2 ^ 64), Nat.add_mod]
    rfl
  have hlt : a.toNat % 2 ^ 59 < 2 ^ 59 := Nat.mod_lt _ (by decide)
  rw [hsum]
  generalize a.toNat % 2 ^ 59 = m at hlt ⊢
  omega

/-- Short words reach the two ends of a state only, so one step leaves its middle to be seen. -/
theorem middle_eq_of_step {a b l l' : UInt64} (hl : l.toNat < 1024) (hl' : l'.toNat < 1024)
    (h : step a l = step b l') : a.toNat % 2 ^ 59 / 32 = b.toNat % 2 ^ 59 / 32 := by
  have htop : ∀ x w : UInt64, w.toNat < 1024 →
      (rotate x ^^^ w).toNat >>> 10 = x.toNat % 2 ^ 59 / 32 := by
    intro x w hw
    have hshort : w.toNat >>> 10 = 0 := by
      rw [Nat.shiftRight_eq_div_pow]
      exact Nat.div_eq_of_lt hw
    have hrotate : (rotate x).toNat >>> 10 = x.toNat % 2 ^ 59 / 32 := by
      rw [Nat.shiftRight_eq_div_pow, ← toNat_rotate_div, Nat.div_div_eq_div_mul]
    rw [UInt64.toNat_xor, Nat.shiftRight_xor_distrib, hshort, hrotate, Nat.xor_zero]
  rw [step_eq, step_eq, mul_multiplier_inj] at h
  rw [← htop a l hl, ← htop b l' hl', h]

/-- A flag before a short word is told apart, whatever the two words are. -/
theorem step_zero_ne_step_one {h l l' : UInt64} (hl : l.toNat < 1024) (hl' : l'.toNat < 1024) :
    step (step h 0) l ≠ step (step h 1) l' := by
  intro heq
  have hmiddle := middle_eq_of_step hl hl' heq
  have hzero : step h 0 = rotate h * multiplier := by rw [step_eq, UInt64.xor_zero]
  have hone : step h 1 = (rotate h ^^^ 1) * multiplier := step_eq h 1
  rcases xor_one_cases (rotate h) with hup | hdown
  · have hnext : step h 1 = step h 0 + multiplier := by
      rw [hone, hup, UInt64.add_mul, UInt64.one_mul, hzero]
    rw [hnext] at hmiddle
    exact middle_add_multiplier_ne _ hmiddle.symm
  · have hnext : step h 0 = step h 1 + multiplier := by
      rw [hzero, hdown, UInt64.add_mul, UInt64.one_mul, hone]
    rw [hnext] at hmiddle
    exact middle_add_multiplier_ne _ hmiddle

/-- A flag and a short number at the end of a row are told apart. -/
theorem hash_flag_limit_inj (ws : List UInt64) {b b' : Bool} {l l' : UInt64}
    (hl : l.toNat < 1024) (hl' : l'.toNat < 1024) :
    hash (ws ++ [if b then 1 else 0, l]) = hash (ws ++ [if b' then 1 else 0, l']) ↔
      b = b' ∧ l = l' := by
  simp only [hash, List.foldl_append, List.foldl_cons, List.foldl_nil]
  constructor
  · intro h
    cases b <;> cases b'
    · exact ⟨rfl, step_inj_word.1 h⟩
    · exact absurd h (step_zero_ne_step_one hl hl')
    · exact absurd h.symm (step_zero_ne_step_one hl' hl)
    · exact ⟨rfl, step_inj_word.1 h⟩
  · rintro ⟨rfl, rfl⟩
    rfl

/-! ## Texts -/

/-- The bytes that a word was made of, up to the last one that is not zero. -/
def wordBytes (w : UInt64) : List Nat := Nat.digits 256 w.toNat

theorem lt_of_mem_bytes {bytes : List UInt8} : ∀ d ∈ bytes.map UInt8.toNat, d < 256 := by
  intro d hd
  obtain ⟨b, -, rfl⟩ := List.mem_map.1 hd
  exact b.toNat_lt

/-- The bytes of a word are its digits. -/
theorem toNat_littleEndian {bytes : List UInt8} (h : bytes.length ≤ 8) :
    (littleEndian bytes).toNat = Nat.ofDigits 256 (bytes.map UInt8.toNat) := by
  induction bytes with
  | nil => rfl
  | cons b bytes ih =>
    have hshort : bytes.length ≤ 7 := Nat.le_of_succ_le_succ h
    have hrest := ih (Nat.le_succ_of_le hshort)
    have hbound : Nat.ofDigits 256 (bytes.map UInt8.toNat) < 256 ^ 7 := by
      refine Nat.lt_of_lt_of_le (Nat.ofDigits_lt_base_pow_length (by decide) lt_of_mem_bytes) ?_
      rw [List.length_map]
      exact Nat.pow_le_pow_right (by decide) hshort
    have hbyte := b.toNat_lt
    have hcons : littleEndian (b :: bytes) = b.toUInt64 + 256 * littleEndian bytes := rfl
    have hbase : (256 : UInt64).toNat = 256 := rfl
    rw [hcons, UInt64.toNat_add, UInt64.toNat_mul, hrest, hbase, UInt8.toNat_toUInt64,
      List.map_cons, Nat.ofDigits_cons]
    generalize Nat.ofDigits 256 (bytes.map UInt8.toNat) = n at hbound ⊢
    have hpow : 256 ^ 7 = 72057594037927936 := by decide
    omega

theorem wordBytes_littleEndian {bytes : List UInt8} (h : bytes.length ≤ 8)
    (hzero : ∀ b ∈ bytes, b ≠ 0) : wordBytes (littleEndian bytes) = bytes.map UInt8.toNat := by
  rw [wordBytes, toNat_littleEndian h]
  refine Nat.digits_ofDigits 256 (by decide) _ lt_of_mem_bytes ?_
  intro hne hlast
  have hmem := List.getLast_mem hne
  rw [hlast] at hmem
  obtain ⟨b, hb, hvalue⟩ := List.mem_map.1 hmem
  exact hzero b hb (UInt8.toNat_inj.1 hvalue)

theorem flatMap_wordBytes_map {bytes : List UInt8} (hzero : ∀ b ∈ bytes, b ≠ 0) :
    (bytes.map UInt8.toUInt64).flatMap wordBytes = bytes.map UInt8.toNat := by
  induction bytes with
  | nil => rfl
  | cons b bytes ih =>
    obtain ⟨hb, hrest⟩ := List.forall_mem_cons.1 hzero
    have hpos : b.toNat ≠ 0 := fun hvalue => hb (UInt8.toNat_inj.1 hvalue)
    have hbyte : wordBytes b.toUInt64 = [b.toNat] := by
      rw [wordBytes, UInt8.toNat_toUInt64, Nat.digits_of_lt 256 _ hpos b.toNat_lt]
    rw [List.map_cons, List.flatMap_cons, hbyte, ih hrest]
    rfl

/-- Bytes that are not zero are read off the words that they are fed as. -/
theorem flatMap_wordBytes_chunks {bytes : List UInt8} (hzero : ∀ b ∈ bytes, b ≠ 0) :
    (chunks bytes).flatMap wordBytes = bytes.map UInt8.toNat := by
  fun_induction chunks bytes with
  | case1 b0 b1 b2 b3 b4 b5 b6 b7 rest ih =>
    have hsplit : b0 :: b1 :: b2 :: b3 :: b4 :: b5 :: b6 :: b7 :: rest =
        [b0, b1, b2, b3, b4, b5, b6, b7] ++ rest := rfl
    rw [hsplit, List.forall_mem_append] at hzero
    rw [List.flatMap_cons, wordBytes_littleEndian (by simp) hzero.1, ih hzero.2, hsplit,
      List.map_append]
  | case2 b0 b1 b2 b3 rest hshort =>
    have hsplit : b0 :: b1 :: b2 :: b3 :: rest = [b0, b1, b2, b3] ++ rest := rfl
    rw [hsplit, List.forall_mem_append] at hzero
    rw [List.flatMap_cons, wordBytes_littleEndian (by simp) hzero.1,
      flatMap_wordBytes_map hzero.2, hsplit, List.map_append]
  | case3 bytes _ _ => exact flatMap_wordBytes_map hzero

/-- The character zero does not stand in the text. -/
def ZeroFree (s : String) : Prop := '\x00' ∉ s.toList

instance (s : String) : Decidable (ZeroFree s) := inferInstanceAs (Decidable ('\x00' ∉ s.toList))

/-- Of the bytes of a text none closes a text, and none is zero unless a character is. -/
theorem byte_ne_of_zeroFree {s : String} (h : ZeroFree s) {b : UInt8} (hb : b ∈ s.toUTF8.toList) :
    b ≠ 0 ∧ b ≠ 0xff := by
  constructor
  · rintro rfl
    obtain ⟨c, hc, hvalue⟩ := exists_char_of_mem_toUTF8 hb (by decide)
    have hchar : c = '\x00' := Char.toNat_inj.1 hvalue
    exact h (hchar ▸ hc)
  · rintro rfl
    exact absurd (toNat_lt_of_mem_toUTF8 hb) (by decide)

/-- The word that closes a text is not among the words of its bytes. -/
theorem close_notMem_chunks {s : String} (h : ZeroFree s) :
    (0xff : UInt64) ∉ chunks s.toUTF8.toList := by
  intro hmem
  have hclose : 255 ∈ (chunks s.toUTF8.toList).flatMap wordBytes :=
    List.mem_flatMap.2 ⟨0xff, hmem, by decide⟩
  rw [flatMap_wordBytes_chunks fun b hb => (byte_ne_of_zeroFree h hb).1] at hclose
  obtain ⟨b, hb, hvalue⟩ := List.mem_map.1 hclose
  exact (byte_ne_of_zeroFree h hb).2 (UInt8.toNat_inj.1 hvalue)

/-- Lists are equal up to the first place of a value, and behind it, when they are equal. -/
theorem append_cons_inj_of_notMem {α : Type} {a : α} {xs ys rest rest' : List α} (hxs : a ∉ xs)
    (hys : a ∉ ys) : xs ++ a :: rest = ys ++ a :: rest' ↔ xs = ys ∧ rest = rest' := by
  constructor
  · intro h
    induction xs generalizing ys with
    | nil =>
      cases ys with
      | nil => exact ⟨rfl, (List.cons.inj h).2⟩
      | cons y ys =>
        have hy : a = y := (List.cons.inj h).1
        exact absurd List.mem_cons_self (hy ▸ hys)
    | cons x xs ih =>
      cases ys with
      | nil =>
        have hx : x = a := (List.cons.inj h).1
        exact absurd List.mem_cons_self (hx ▸ hxs)
      | cons y ys =>
        obtain ⟨rfl, htail⟩ := List.cons.inj h
        obtain ⟨rfl, hrest⟩ := ih (fun hm => hxs (List.mem_cons_of_mem _ hm))
          (fun hm => hys (List.mem_cons_of_mem _ hm)) htail
        exact ⟨rfl, hrest⟩
  · rintro ⟨rfl, rfl⟩
    rfl

/-- A text is known from the words of its bytes. -/
theorem eq_of_chunks_eq {s s' : String} (h : ZeroFree s) (h' : ZeroFree s')
    (hchunks : chunks s.toUTF8.toList = chunks s'.toUTF8.toList) : s = s' := by
  have hmap : s.toUTF8.toList.map UInt8.toNat = s'.toUTF8.toList.map UInt8.toNat := by
    rw [← flatMap_wordBytes_chunks fun b hb => (byte_ne_of_zeroFree h hb).1, hchunks,
      flatMap_wordBytes_chunks fun b hb => (byte_ne_of_zeroFree h' hb).1]
  have hbytes : s.toUTF8.toList = s'.toUTF8.toList :=
    (List.map_inj_right fun _ _ => UInt8.toNat_inj.1).1 hmap
  have hutf8 : s.toUTF8 = s'.toUTF8 := by rw [← toArray_toList s.toUTF8, hbytes, toArray_toList]
  have hsome : some s = some s' := by rw [← fromUTF8?_toUTF8, hutf8, fromUTF8?_toUTF8]
  exact Option.some.inj hsome

/-- A text is read off the words that it begins. -/
theorem textWords_append_inj {s s' : String} (h : ZeroFree s) (h' : ZeroFree s')
    {rest rest' : List UInt64} :
    textWords s ++ rest = textWords s' ++ rest' ↔ s = s' ∧ rest = rest' := by
  have hsplit : ∀ (t : String) (ws : List UInt64),
      textWords t ++ ws = chunks t.toUTF8.toList ++ 0xff :: ws := by
    intro t ws
    rw [textWords, List.append_assoc]
    rfl
  rw [hsplit, hsplit, append_cons_inj_of_notMem (close_notMem_chunks h) (close_notMem_chunks h')]
  refine and_congr_left fun _ => ⟨eq_of_chunks_eq h h', ?_⟩
  rintro rfl
  rfl

/-- A text that may be missing is read off the words that it begins. -/
theorem optionWords_append_inj {o o' : Option String} (h : ∀ s ∈ o, ZeroFree s)
    (h' : ∀ s ∈ o', ZeroFree s) {rest rest' : List UInt64} :
    optionWords o ++ rest = optionWords o' ++ rest' ↔ o = o' ∧ rest = rest' := by
  cases o with
  | none => cases o' <;> simp [optionWords]
  | some s =>
    cases o' with
    | none => simp [optionWords]
    | some s' =>
      simp only [optionWords, List.cons_append, List.cons.injEq, true_and, Option.some.injEq]
      exact textWords_append_inj (h s rfl) (h' s' rfl)

/-- Eight times the character zero. -/
def eightZeros : String := String.ofList (List.replicate 8 '\x00')

/-- Eight zeros before a text are one more word, which is zero. -/
theorem textWords_eightZeros (s : String) : textWords (eightZeros ++ s) = 0 :: textWords s := by
  have hzeros : eightZeros.toUTF8.toList = [0, 0, 0, 0, 0, 0, 0, 0] := by
    rw [toList_toUTF8, eightZeros, String.toList_ofList]
    rfl
  rw [textWords, toList_toUTF8_append, hzeros]
  rfl

end ScopedSearch.Mixing
