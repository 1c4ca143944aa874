import Mathlib.Tactic.SplitIfs
import ScopedSearch.Proofs.Text.Bytes

/-!
# The order of texts

Texts are ordered character by character in this library, and byte by byte in an index.  The two
orders are one.  The first bytes of two characters already tell which of them has the longer form,
and characters with forms of one length differ in a digit of base 64 before anything that follows
them is looked at.

## Main results

* `utf8EncodeChar_append_lt`: the lesser of two characters comes first, whatever follows.
* `comesFirst_iff`: the order of bytes is the order of characters.
* `lt_cases`: a text comes before another one because that one goes on, or whatever follows.
-/

namespace ScopedSearch.Text

/-- The lesser of two characters comes first in bytes, whatever follows. -/
theorem utf8EncodeChar_append_lt {c d : Char} (h : c < d) (cs ds : List UInt8) :
    String.utf8EncodeChar c ++ cs < String.utf8EncodeChar d ++ ds := by
  have hlt : c.val.toNat < d.val.toNat := h
  have hd : d.val.toNat < 0x110000 := by
    rcases d.valid with hlow | hhigh
    · exact Nat.lt_trans hlow (by decide)
    · exact hhigh.2
  have hdigits : ∀ v : Nat, v / 4096 = v / 64 / 64 ∧ v / 262144 = v / 64 / 64 / 64 := by omega
  simp only [String.utf8EncodeChar, hdigits]
  -- of the sixteen pairs of forms, those with the longer form first have no such characters
  split_ifs <;> try omega
  all_goals
    simp only [List.cons_append, List.nil_append, List.cons_lt_cons_iff, UInt8.lt_iff_toNat_lt,
      ← UInt8.toNat_inj, UInt8.toNat_ofNat']
    omega

theorem flatMap_utf8EncodeChar_lt {cs ds : List Char} (h : cs < ds) :
    cs.flatMap String.utf8EncodeChar < ds.flatMap String.utf8EncodeChar := by
  induction cs generalizing ds with
  | nil =>
    cases ds with
    | nil => exact absurd h (List.not_lt_nil [])
    | cons d ds =>
      rw [List.flatMap_nil, List.flatMap_cons]
      cases hd : String.utf8EncodeChar d with
      | nil => exact absurd hd String.utf8EncodeChar_ne_nil
      | cons b bs => exact List.nil_lt_cons b _
  | cons c cs ih =>
    cases ds with
    | nil => exact absurd h (List.not_lt_nil _)
    | cons d ds =>
      rw [List.flatMap_cons, List.flatMap_cons]
      rcases List.cons_lt_cons_iff.1 h with hcd | ⟨rfl, hcs⟩
      · exact utf8EncodeChar_append_lt hcd _ _
      · exact List.append_left_lt (ih hcs)

/-- The text comes before the other one, byte by byte. -/
def ComesFirst (s t : String) : Prop := s.toUTF8.toList < t.toUTF8.toList

instance (s t : String) : Decidable (ComesFirst s t) :=
  inferInstanceAs (Decidable (s.toUTF8.toList < t.toUTF8.toList))

theorem ComesFirst.asymm {s t : String} (h : ComesFirst s t) : ¬ ComesFirst t s :=
  List.lt_asymm h

theorem ComesFirst.ne {s t : String} (h : ComesFirst s t) : s ≠ t := by
  rintro rfl
  exact List.lt_irrefl _ h

theorem comesFirst_of_lt {s t : String} (h : s < t) : ComesFirst s t := by
  rw [ComesFirst, toList_toUTF8, toList_toUTF8]
  exact flatMap_utf8EncodeChar_lt (String.lt_iff.1 h)

/-- The order of bytes is the order of characters. -/
theorem comesFirst_iff {s t : String} : ComesFirst s t ↔ s < t := by
  refine ⟨fun h => ?_, comesFirst_of_lt⟩
  rcases Std.lt_trichotomy s t with hlt | rfl | hgt
  · exact hlt
  · exact absurd rfl h.ne
  · exact absurd h (comesFirst_of_lt hgt).asymm

/-- How two texts stand, byte by byte. -/
def byteOrder (s t : String) : Ordering := compareOfLessAndEq s.toUTF8.toList t.toUTF8.toList

theorem byteOrder_eq_lt_iff {s t : String} : byteOrder s t = .lt ↔ ComesFirst s t :=
  compareOfLessAndEq_eq_lt

/-- What two texts begin with alike does not tell which of them is the lesser. -/
theorem append_lt_append_iff {cs ds es : List Char} : cs ++ ds < cs ++ es ↔ ds < es := by
  induction cs with
  | nil => rfl
  | cons c cs ih => simpa using ih

/--
A text comes before another one because the other one goes on where it ends, or it does so whatever
follows the two.
-/
theorem lt_cases {cs ds : List Char} (h : cs < ds) :
    (∃ c rest, ds = cs ++ c :: rest) ∨ ∀ more more' : List Char, cs ++ more < ds ++ more' := by
  induction cs generalizing ds with
  | nil =>
    cases ds with
    | nil => exact absurd h (List.not_lt_nil [])
    | cons d ds => exact .inl ⟨d, ds, rfl⟩
  | cons c cs ih =>
    cases ds with
    | nil => exact absurd h (List.not_lt_nil _)
    | cons d ds =>
      rcases List.cons_lt_cons_iff.1 h with hcd | ⟨rfl, hcs⟩
      · exact .inr fun _ _ => List.cons_lt_cons_iff.2 (.inl hcd)
      · rcases ih hcs with ⟨e, rest, rfl⟩ | hall
        · exact .inl ⟨e, rest, rfl⟩
        · exact .inr fun more more' => List.cons_lt_cons_iff.2 (.inr ⟨rfl, hall more more'⟩)

end ScopedSearch.Text
