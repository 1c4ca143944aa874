import ScopedSearch.Json.Printer
import ScopedSearch.Json.Reader
import ScopedSearch.Json.Record
import ScopedSearch.Proofs.Text.Bytes
import ScopedSearch.Proofs.Text.Numerals

/-!
# Reading back what was written

A value written in compact form reads back as itself.  That holds of every value whose numbers are
whole and fit a word: decimals may be written with fewer digits than they were read from, and a void
value is written as null.

The reader works from left to right and hands on the rest of the text, so the statement for the
parts of a value is about a text that goes on behind them.  All that it asks of the rest is that it
does not carry on a number.

## Main results

* `value?_chars`: a value is read off the start of a text.
* `parse?_compact`, `parseBytes?_compact`: the compact form of a value reads back as the value.
-/

namespace ScopedSearch.Json

open ScopedSearch.Text

mutual

/-- The value is written without loss: no part is void and all numbers are whole words. -/
def isExact : Json → Bool
  | .null | .bool _ | .text _ => true
  | .int n => minSigned ≤ n && n ≤ maxWord
  | .list items => exactList items
  | .record fields => exactFields fields
  | .decimal _ | .void => false

def exactList : List Json → Bool
  | [] => true
  | v :: vs => v.isExact && exactList vs

def exactFields : List (String × Json) → Bool
  | [] => true
  | (_, v) :: fs => v.isExact && exactFields fs

end

/-- What may stand behind a value: nothing, a comma or a closing bracket. -/
def Closes (rest : List Char) : Prop :=
  ∀ c ∈ rest.head?, c = ',' ∨ c = ']' ∨ c = '\x7d'

theorem closes_nil : Closes [] := by
  intro c hc
  cases hc

theorem closes_comma (cs : List Char) : Closes (',' :: cs) := by
  intro c hc
  exact .inl (Option.some.inj hc).symm

theorem closes_bracket (cs : List Char) : Closes (']' :: cs) := by
  intro c hc
  exact .inr (.inl (Option.some.inj hc).symm)

theorem closes_brace (cs : List Char) : Closes ('\x7d' :: cs) := by
  intro c hc
  exact .inr (.inr (Option.some.inj hc).symm)

/-! ## Texts -/

/-- The four digits of a control character read back as its number. -/
theorem hexQuad?_control {n : Nat} (hn : n < 0x20) (cs : List Char) :
    hexQuad? ('0' :: '0' :: hexDigit (n / 16) :: hexDigit (n % 16) :: cs) = some (n, cs) := by
  have hzero : hexValue? '0' = some 0 := by decide
  have hvalue : ((0 * 16 + 0) * 16 + n / 16) * 16 + n % 16 = n := by omega
  simp only [hexQuad?, hzero, hexValue?_hexDigit (n / 16) (by omega),
    hexValue?_hexDigit (n % 16) (by omega), Option.bind_eq_bind, Option.bind_some, Option.pure_def,
    hvalue]

/-- One character has been read between quotes, and the others follow. -/
def readOn (c : Char) (others : Option (List (Option Char) × List Char)) :
    Option (List (Option Char) × List Char) :=
  others.bind fun (tail, rest) => some (some c :: tail, rest)

theorem quoted?_short {e c : Char} (h : shortEscape? e = some c) (fuel : Nat) (cs : List Char) :
    quoted? (fuel + 1) ('\\' :: e :: cs) = readOn c (quoted? fuel cs) := by
  have hu : e ≠ 'u' := by
    rintro rfl
    cases h
  simp [quoted?, h, readOn]

theorem quoted?_control {c : Char} (h : c.toNat < 0x20) (fuel : Nat) (cs : List Char) :
    quoted? (fuel + 1) ('\\' :: 'u' :: '0' :: '0' :: hexDigit (c.toNat / 16) ::
      hexDigit (c.toNat % 16) :: cs) = readOn c (quoted? fuel cs) := by
  have hhigh : isHighSurrogate c.toNat = false := by
    simp only [isHighSurrogate, Bool.and_eq_false_iff, decide_eq_false_iff_not]
    omega
  have hlow : isLowSurrogate c.toNat = false := by
    simp only [isLowSurrogate, Bool.and_eq_false_iff, decide_eq_false_iff_not]
    omega
  simp [quoted?, hexQuad?_control h, hhigh, hlow, readOn]

theorem quoted?_plain {c : Char} (hquote : c ≠ '\x22') (hslash : c ≠ '\\') (h : ¬ c.toNat < 0x20)
    (fuel : Nat) (cs : List Char) :
    quoted? (fuel + 1) (c :: cs) = readOn c (quoted? fuel cs) := by
  simp [quoted?, hslash, h, readOn]

/-- The escape of a character reads back as the character. -/
theorem quoted?_escape (c : Char) (fuel : Nat) (cs : List Char) :
    quoted? (fuel + 1) (escape c ++ cs) = readOn c (quoted? fuel cs) := by
  by_cases hquote : c = '\x22'
  · subst hquote
    exact quoted?_short rfl fuel cs
  by_cases hslash : c = '\\'
  · subst hslash
    exact quoted?_short rfl fuel cs
  by_cases hb : c = '\x08'
  · subst hb
    exact quoted?_short rfl fuel cs
  by_cases hf : c = '\x0c'
  · subst hf
    exact quoted?_short rfl fuel cs
  by_cases hn : c = '\n'
  · subst hn
    exact quoted?_short rfl fuel cs
  by_cases hr : c = '\r'
  · subst hr
    exact quoted?_short rfl fuel cs
  by_cases ht : c = '\t'
  · subst ht
    exact quoted?_short rfl fuel cs
  rw [escape, if_neg hquote, if_neg hslash, if_neg hb, if_neg hf, if_neg hn, if_neg hr, if_neg ht]
  by_cases hcontrol : c.toNat < 0x20
  · rw [if_pos hcontrol]
    exact quoted?_control hcontrol fuel cs
  · rw [if_neg hcontrol]
    exact quoted?_plain hquote hslash hcontrol fuel cs

/-- A text reads back up to its closing quote. -/
theorem quoted?_flatMap_escape (cs rest : List Char) {fuel : Nat} (hfuel : cs.length < fuel) :
    quoted? fuel (cs.flatMap escape ++ '\x22' :: rest) = some (cs.map some, rest) := by
  induction cs generalizing fuel with
  | nil =>
    obtain ⟨fuel, rfl⟩ := Nat.exists_eq_succ_of_ne_zero (Nat.ne_of_gt hfuel)
    rfl
  | cons c cs ih =>
    obtain ⟨fuel, rfl⟩ := Nat.exists_eq_succ_of_ne_zero (Nat.ne_of_gt (Nat.zero_lt_of_lt hfuel))
    have hrest : cs.length < fuel := Nat.lt_of_succ_lt_succ hfuel
    rw [List.flatMap_cons, List.append_assoc, quoted?_escape, ih hrest]
    rfl

theorem assemble?_map_some (cs : List Char) :
    assemble? (cs.map some) = some (String.ofList cs) := by
  have h : (cs.map some).mapM id = some cs := by
    induction cs with
    | nil => rfl
    | cons c cs ih =>
      rw [List.map_cons, List.mapM_cons, ih]
      rfl
  rw [assemble?, h]
  rfl

/-! ## Numbers -/

theorem Closes.not_isDigit {rest : List Char} (h : Closes rest) :
    ∀ c ∈ rest.head?, c.isDigit = false := by
  intro c hc
  rcases h c hc with rfl | rfl | rfl <;> rfl

theorem Closes.exponentPart? {rest : List Char} (h : Closes rest) :
    exponentPart? rest = some (none, rest) := by
  cases rest with
  | nil => rfl
  | cons c cs => rcases h c rfl with rfl | rfl | rfl <;> rfl

/-- The numeral of a natural number reads back, as an integer of the sign before it. -/
theorem number?_natText {negative : Bool} (n : Nat) {rest : List Char} (hrest : Closes rest) :
    number? negative (natText n ++ rest) = some (ofNumeral negative (natText n) [] none, rest) := by
  have hwhole := takeWhile_natText_append n hrest.not_isDigit
  have hempty : (natText n).isEmpty = false := List.isEmpty_eq_false_iff.2 (natText_ne_nil n)
  have hzero : (decide (1 < (natText n).length) && (natText n).head? == some '0') = false := by
    by_cases hlen : 1 < (natText n).length
    · simp [head?_natText_of_one_lt hlen]
    · simp [hlen]
  unfold number?
  simp only [hwhole, hempty, hzero, List.drop_left, Bool.false_eq_true, if_false]
  cases rest with
  | nil => rfl
  | cons c cs => rcases hrest c rfl with rfl | rfl | rfl <;> rfl

/-- A numeral without a fraction is an integer when its value fits in a word. -/
theorem ofNumeral_eq_int {negative : Bool} {whole : List Char} {value : Int}
    (hvalue : (if negative then -(digitsValue whole : Int) else digitsValue whole) = value)
    (hmin : minSigned ≤ value) (hmax : value ≤ maxWord)
    (hsign : (negative && value == 0) = false) :
    ofNumeral negative whole [] none = .int value := by
  unfold ofNumeral
  dsimp only
  rw [hvalue, if_pos]
  simp [hmin, hmax, hsign]

theorem ofNumeral_natural {n : Nat} (h : (n : Int) ≤ maxWord) :
    ofNumeral false (natText n) [] none = .int n := by
  have hmin : minSigned ≤ (n : Int) := by
    unfold minSigned
    omega
  exact ofNumeral_eq_int (by rw [digitsValue_natText]; rfl) hmin h rfl

theorem ofNumeral_negative {n : Nat} (h : minSigned ≤ Int.negSucc n) :
    ofNumeral true (natText (n + 1)) [] none = .int (Int.negSucc n) := by
  have hmax : Int.negSucc n ≤ maxWord := by
    unfold maxWord
    omega
  exact ofNumeral_eq_int (by rw [digitsValue_natText]; rfl) h hmax rfl

/-! ## Words -/

theorem le_maxWord {n : Nat} (h : n < UInt64.size) : (n : Int) ≤ maxWord := by
  unfold UInt64.size at h
  unfold maxWord
  omega

theorem isExact_nat {n : Nat} (h : n < UInt64.size) : (nat n).isExact = true := by
  have hmin : minSigned ≤ (n : Int) := by
    unfold minSigned
    omega
  simp [nat, isExact, hmin, le_maxWord h]

/-- A word is read as the number it is. -/
theorem word?_nat {n : Nat} (h : n < UInt64.size) : word? (nat n) = some n := by
  simp [word?, nat, intIn?, le_maxWord h]

/-! ## Values -/

/-- The character is none of the blanks of the format. -/
def IsInk (c : Char) : Prop := c ≠ ' ' ∧ c ≠ '\n' ∧ c ≠ '\r' ∧ c ≠ '\t'

instance (c : Char) : Decidable (IsInk c) :=
  inferInstanceAs (Decidable (c ≠ ' ' ∧ c ≠ '\n' ∧ c ≠ '\r' ∧ c ≠ '\t'))

theorem skipBlanks_cons {c : Char} (h : IsInk c) (cs : List Char) :
    skipBlanks (c :: cs) = c :: cs := by
  obtain ⟨hspace, hline, hreturn, htab⟩ := h
  simp [skipBlanks, hspace, hline, hreturn, htab]

theorem ne_of_isDigit {c d : Char} (hc : c.isDigit = true) (hd : d.isDigit = false) : c ≠ d := by
  rintro rfl
  rw [hc] at hd
  cases hd

theorem isInk_of_isDigit {c : Char} (h : c.isDigit = true) : IsInk c :=
  ⟨ne_of_isDigit h rfl, ne_of_isDigit h rfl, ne_of_isDigit h rfl, ne_of_isDigit h rfl⟩

theorem exists_natText_eq_cons (n : Nat) : ∃ c cs, natText n = c :: cs ∧ c.isDigit = true := by
  cases h : natText n with
  | nil => exact absurd h (natText_ne_nil n)
  | cons c cs => exact ⟨c, cs, rfl, isDigit_of_mem_natText (n := n) (h ▸ List.mem_cons_self)⟩

/-- A value starts with a character that is no blank and closes no list. -/
theorem exists_chars_eq_cons {v : Json} (h : v.isExact = true) :
    ∃ c cs, v.chars = c :: cs ∧ IsInk c ∧ c ≠ ']' := by
  cases v with
  | null => exact ⟨_, _, rfl, by decide⟩
  | bool b => cases b <;> exact ⟨_, _, rfl, by decide⟩
  | int n =>
    cases n with
    | ofNat n =>
      obtain ⟨c, cs, hcs, hc⟩ := exists_natText_eq_cons n
      exact ⟨c, cs, hcs, isInk_of_isDigit hc, ne_of_isDigit hc rfl⟩
    | negSucc n => exact ⟨'-', natText (n + 1), rfl, by decide⟩
  | decimal d => cases h
  | text s => exact ⟨_, _, rfl, by decide⟩
  | list items => exact ⟨_, _, rfl, by decide⟩
  | record fields => exact ⟨_, _, rfl, by decide⟩
  | void => cases h

theorem namedFields?_some (fields : List (String × Json)) :
    namedFields? (fields.map fun (k, v) => (some k, v)) = some fields := by
  unfold namedFields?
  induction fields with
  | nil => rfl
  | cons f fs ih =>
    rw [List.map_cons, List.mapM_cons, ih]
    rfl

theorem value?_digit {c : Char} (h : c.isDigit = true) (cs : List Char) (fuel : Nat) :
    value? (fuel + 1) (c :: cs) = number? false (c :: cs) := by
  have hquote : c ≠ '\x22' := ne_of_isDigit h rfl
  have hbracket : c ≠ '[' := ne_of_isDigit h rfl
  have hbrace : c ≠ '\x7b' := ne_of_isDigit h rfl
  have hminus : c ≠ '-' := ne_of_isDigit h rfl
  rw [value?, skipBlanks_cons (isInk_of_isDigit h)]
  simp only [hquote, hbracket, hbrace, hminus, h, if_false, if_true]

/-- A whole number is read off the start of a text. -/
theorem value?_int {n : Int} (h : (Json.int n).isExact = true) {rest : List Char}
    (hrest : Closes rest) (fuel : Nat) :
    value? (fuel + 1) (intText n ++ rest) = some (.int n, rest) := by
  simp only [isExact, Bool.and_eq_true, decide_eq_true_eq] at h
  cases n with
  | ofNat n =>
    obtain ⟨c, cs, hcs, hc⟩ := exists_natText_eq_cons n
    have hvalue : value? (fuel + 1) (natText n ++ rest) = number? false (natText n ++ rest) := by
      rw [hcs]
      exact value?_digit hc (cs ++ rest) fuel
    rw [intText, hvalue, number?_natText n hrest, ofNumeral_natural h.2]
    rfl
  | negSucc n =>
    show number? true (natText (n + 1) ++ rest) = _
    rw [number?_natText (n + 1) hrest, ofNumeral_negative h.1]

/-- Every character has an escape. -/
theorem length_le_flatMap_escape (cs : List Char) : cs.length ≤ (cs.flatMap escape).length := by
  induction cs with
  | nil => exact Nat.le_refl 0
  | cons c cs ih =>
    have hc : 1 ≤ (escape c).length := by
      unfold escape
      repeat' split
      all_goals exact Nat.succ_le_succ (Nat.zero_le _)
    rw [List.flatMap_cons, List.length_append, List.length_cons]
    omega

/-- A quoted text is read up to its closing quote. -/
theorem quoted?_quote (s : String) (rest : List Char) :
    quoted? ((s.toList.flatMap escape ++ '\x22' :: rest).length + 1)
      (s.toList.flatMap escape ++ '\x22' :: rest) = some (s.toList.map some, rest) := by
  apply quoted?_flatMap_escape
  have hlen := length_le_flatMap_escape s.toList
  rw [List.length_append, List.length_cons]
  omega

/-- A text is read off the start of a text. -/
theorem value?_quote (s : String) (rest : List Char) (fuel : Nat) :
    value? (fuel + 1) (quote s ++ rest) = some (.text s, rest) := by
  have hquote : quote s ++ rest = '\x22' :: (s.toList.flatMap escape ++ '\x22' :: rest) := by
    simp [quote]
  rw [hquote, value?, skipBlanks_cons (by decide)]
  simp only [if_true, quoted?_quote, Option.bind_eq_bind, Option.bind_some, assemble?_map_some,
    String.ofList_toList, Option.elim_some, Option.pure_def]

/-- The items of a list start with a character that is no blank and closes no list. -/
theorem exists_charsList_eq_cons {v : Json} (h : v.isExact = true) (vs : List Json) :
    ∃ c cs, charsList (v :: vs) = c :: cs ∧ IsInk c ∧ c ≠ ']' := by
  obtain ⟨c, cs, hcs, hink, hne⟩ := exists_chars_eq_cons h
  cases vs with
  | nil => exact ⟨c, cs, hcs, hink, hne⟩
  | cons w ws => exact ⟨c, cs ++ ',' :: charsList (w :: ws), by rw [charsList, hcs]; rfl, hink, hne⟩

/-- The fields of a record start with the quote of a name. -/
theorem exists_charsFields_eq_cons (f : String × Json) (fs : List (String × Json)) :
    ∃ cs, charsFields (f :: fs) = '\x22' :: cs := by
  cases fs with
  | nil => exact ⟨_, rfl⟩
  | cons g gs => exact ⟨_, rfl⟩

theorem value?_list {c : Char} (hink : IsInk c) (hne : c ≠ ']') {cs rest : List Char}
    {items : List Json} {fuel : Nat} (h : items? fuel (c :: cs) = some (items, rest)) :
    value? (fuel + 1) ('[' :: c :: cs) = some (.list items, rest) := by
  rw [value?, skipBlanks_cons (by decide)]
  simp [skipBlanks_cons hink, hne, h]

theorem value?_record {cs rest : List Char} {fields : List (String × Json)} {fuel : Nat}
    (h : fields? fuel ('\x22' :: cs) = some (fields.map fun (k, v) => (some k, v), rest)) :
    value? (fuel + 1) ('\x7b' :: '\x22' :: cs) = some (.record fields, rest) := by
  have hname : skipBlanks ('\x22' :: cs) = '\x22' :: cs := skipBlanks_cons (by decide) cs
  rw [value?, skipBlanks_cons (by decide)]
  simp [hname, h, namedFields?_some]

theorem items?_last {cs rest : List Char} {v : Json} {fuel : Nat}
    (h : value? fuel cs = some (v, ']' :: rest)) : items? (fuel + 1) cs = some ([v], rest) := by
  have hclose : skipBlanks (']' :: rest) = ']' :: rest := skipBlanks_cons (by decide) rest
  simp [items?, h, hclose]

theorem items?_more {cs cs' rest : List Char} {v : Json} {vs : List Json} {fuel : Nat}
    (h : value? fuel cs = some (v, ',' :: cs')) (h' : items? fuel cs' = some (vs, rest)) :
    items? (fuel + 1) cs = some (v :: vs, rest) := by
  have hcomma : skipBlanks (',' :: cs') = ',' :: cs' := skipBlanks_cons (by decide) cs'
  simp [items?, h, hcomma, h']

/-- The name of a field and the colon behind it are read. -/
theorem fields?_quote (k : String) (cs : List Char) (fuel : Nat) :
    fields? (fuel + 1) (quote k ++ ':' :: cs) =
      (value? fuel cs).bind fun (v, rest) =>
        match skipBlanks rest with
        | ',' :: rest => (fields? fuel rest).bind fun (fs, rest) => some ((some k, v) :: fs, rest)
        | '\x7d' :: rest => some ([(some k, v)], rest)
        | _ => none := by
  have hquote : quote k ++ ':' :: cs =
      '\x22' :: (k.toList.flatMap escape ++ '\x22' :: ':' :: cs) := by
    simp [quote]
  have hcolon : skipBlanks (':' :: cs) = ':' :: cs := skipBlanks_cons (by decide) cs
  rw [hquote, fields?, skipBlanks_cons (by decide)]
  simp only [quoted?_quote, Option.bind_eq_bind, Option.bind_some, hcolon, assemble?_map_some,
    String.ofList_toList]
  rfl

mutual

/-- A value is read off the start of a text. -/
theorem value?_chars (v : Json) (h : v.isExact = true) {rest : List Char} (hrest : Closes rest)
    {fuel : Nat} (hfuel : v.chars.length ≤ fuel) :
    value? fuel (v.chars ++ rest) = some (v, rest) := by
  match fuel, v with
  | 0, v =>
    -- a value has a character
    obtain ⟨c, cs, hcs, _⟩ := exists_chars_eq_cons h
    rw [hcs] at hfuel
    exact absurd hfuel (Nat.not_succ_le_zero _)
  | fuel + 1, .null => rfl
  | fuel + 1, .bool true => rfl
  | fuel + 1, .bool false => rfl
  | fuel + 1, .int n => exact value?_int h hrest fuel
  | fuel + 1, .decimal d => cases h
  | fuel + 1, .text s => exact value?_quote s rest fuel
  | fuel + 1, .list [] => rfl
  | fuel + 1, .list (v :: vs) =>
    have hlen : (charsList (v :: vs)).length < fuel := by
      simp only [chars, List.length_cons, List.length_append, List.length_nil] at hfuel
      omega
    have hitems := items?_charsList v vs h rest hlen
    obtain ⟨c, cs, hcs, hink, hne⟩ := exists_charsList_eq_cons (Bool.and_eq_true_iff.1 h).1 vs
    have htext : (Json.list (v :: vs)).chars ++ rest =
        '[' :: (charsList (v :: vs) ++ ']' :: rest) := by
      simp [chars]
    rw [htext]
    rw [hcs] at hitems ⊢
    exact value?_list hink hne hitems
  | fuel + 1, .record [] => rfl
  | fuel + 1, .record (f :: fs) =>
    have hlen : (charsFields (f :: fs)).length < fuel := by
      simp only [chars, List.length_cons, List.length_append, List.length_nil] at hfuel
      omega
    have hfields := fields?_charsFields f fs h rest hlen
    have htext : (Json.record (f :: fs)).chars ++ rest =
        '\x7b' :: (charsFields (f :: fs) ++ '\x7d' :: rest) := by
      simp [chars]
    obtain ⟨cs, hcs⟩ := exists_charsFields_eq_cons f fs
    rw [htext]
    rw [hcs] at hfields ⊢
    exact value?_record hfields
  | fuel + 1, .void => cases h

/-- The items of a list are read up to its closing bracket. -/
theorem items?_charsList (v : Json) (vs : List Json) (h : exactList (v :: vs) = true)
    (rest : List Char) {fuel : Nat} (hfuel : (charsList (v :: vs)).length < fuel) :
    items? fuel (charsList (v :: vs) ++ ']' :: rest) = some (v :: vs, rest) := by
  obtain ⟨hv, hvs⟩ := Bool.and_eq_true_iff.1 h
  match fuel, vs with
  | 0, vs => exact absurd hfuel (Nat.not_lt_zero _)
  | fuel + 1, [] =>
    exact items?_last (value?_chars v hv (closes_bracket rest) (Nat.le_of_lt_succ hfuel))
  | fuel + 1, w :: ws =>
    have hlen : v.chars.length + 1 + (charsList (w :: ws)).length < fuel + 1 := by
      simp only [charsList, List.length_append, List.length_cons] at hfuel ⊢
      omega
    have htext : charsList (v :: w :: ws) ++ ']' :: rest =
        v.chars ++ ',' :: (charsList (w :: ws) ++ ']' :: rest) := by
      simp [charsList]
    rw [htext]
    exact items?_more (value?_chars v hv (closes_comma _) (by omega))
      (items?_charsList w ws hvs rest (by omega))

/-- The fields of a record are read up to its closing brace. -/
theorem fields?_charsFields (f : String × Json) (fs : List (String × Json))
    (h : exactFields (f :: fs) = true) (rest : List Char) {fuel : Nat}
    (hfuel : (charsFields (f :: fs)).length < fuel) :
    fields? fuel (charsFields (f :: fs) ++ '\x7d' :: rest) =
      some ((f :: fs).map fun (k, v) => (some k, v), rest) := by
  obtain ⟨k, v⟩ := f
  obtain ⟨hv, hfs⟩ := Bool.and_eq_true_iff.1 h
  match fuel, fs with
  | 0, fs => exact absurd hfuel (Nat.not_lt_zero _)
  | fuel + 1, [] =>
    have hlen : v.chars.length ≤ fuel := by
      simp only [charsFields, List.length_append, List.length_cons] at hfuel
      omega
    have htext : charsFields [(k, v)] ++ '\x7d' :: rest =
        quote k ++ ':' :: (v.chars ++ '\x7d' :: rest) := by
      simp [charsFields]
    rw [htext, fields?_quote, value?_chars v hv (closes_brace rest) hlen, Option.bind_some]
    rfl
  | fuel + 1, g :: gs =>
    have hlen : v.chars.length + 1 + (charsFields (g :: gs)).length < fuel := by
      simp only [charsFields, List.length_append, List.length_cons] at hfuel ⊢
      omega
    have htext : charsFields ((k, v) :: g :: gs) ++ '\x7d' :: rest =
        quote k ++ ':' :: (v.chars ++ ',' :: (charsFields (g :: gs) ++ '\x7d' :: rest)) := by
      simp [charsFields]
    have hcomma : ∀ cs, skipBlanks (',' :: cs) = ',' :: cs := skipBlanks_cons (by decide)
    rw [htext, fields?_quote, value?_chars v hv (closes_comma _) (by omega), Option.bind_some]
    have hfuel' : (charsFields (g :: gs)).length < fuel := by omega
    have hfields := fields?_charsFields g gs hfs rest hfuel'
    simp only [hcomma, hfields, Option.bind_some, List.map_cons]

end

/-- The compact form of a value reads back as the value. -/
theorem parse?_compact {v : Json} (h : v.isExact = true) : parse? v.compact = some v := by
  have hfuel : v.chars.length ≤ 2 * v.chars.length + 2 := by omega
  have hvalue := value?_chars v h closes_nil hfuel
  rw [List.append_nil] at hvalue
  rw [parse?, compact, String.toList_ofList, parseChars?, hvalue]
  rfl

/-- The bytes of the compact form of a value read back as the value. -/
theorem parseBytes?_compact {v : Json} (h : v.isExact = true) :
    parseBytes? ⟨v.compact.toUTF8.toList.toArray⟩ = some v := by
  rw [toArray_toList, parseBytes?, fromUTF8?_toUTF8, Option.bind_some, parse?_compact h]

end ScopedSearch.Json
