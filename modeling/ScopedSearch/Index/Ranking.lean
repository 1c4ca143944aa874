import ScopedSearch.Index.Criterion
import ScopedSearch.Request

/-!
# Ranking

How well a document answers, and the order of the answers.  A term counts the more, the fewer
documents of the index have it, the more often it stands in the field, and the shorter the field is.
The score of a combination is the sum of the scores of the clauses that hold.

Answers stand by falling score, and equal scores by rising key.  Scores are never negative, so the
order of their bit patterns is the order of the scores.

## Main results

* `rank_perm`: ranking keeps the answers.
* `pairwise_rank`: ranked answers stand in the order of `precedes`.
-/

namespace ScopedSearch

/-! ## Lengths -/

/--
The length that is kept of a field that has so many words.  Short lengths are kept exactly and
longer ones rounded down, in steps that double with every eight steps.
-/
def roundedLength (n : Nat) : Nat :=
  if n < 24 then n
  else
    let m := n - 24
    if m < 16 then n
    else
      let shift := Nat.log2 m - 3
      (m >>> shift) <<< shift + 24

/-! ## Statistics -/

/-- What the ranking knows of the whole index. -/
structure Statistics where
  /-- The number of documents. -/
  size : Nat
  /-- The mean length of a field. -/
  averages : List (Field × Score)
  /-- In how many documents a term stands. -/
  frequencies : List ((Field × Term) × Nat)

/-- The words that a criterion ranks by, with their fields. -/
def wordTerms (f : Field) (ws : List (Nat × String)) : List (Field × Term) :=
  ws.map fun (_, w) => (f, .text w)

mutual

/-- The terms that a criterion ranks by, with their fields. -/
def Criterion.terms : Criterion → List (Field × Term)
  | .term f t => [(f, t)]
  | .phrase f ws _ => wordTerms f ws
  | .phraseStart f ws _ _ => wordTerms f ws
  | .combine clauses => Criterion.clauseTerms clauses
  | .weighted _ c => c.terms
  | .everything | .range .. | .oneOf .. => []

/-- The terms that clauses rank by, with their fields. -/
def Criterion.clauseTerms : List (Occurrence × Criterion) → List (Field × Term)
  | [] => []
  | (_, c) :: rest => c.terms ++ Criterion.clauseTerms rest

end

/-- A field of flags or numbers counts as one word. -/
def Field.hasLength (f : Field) : Bool := f.kind == .whole || f.kind == .words

/-- The length of a field of a document. -/
def Indexed.length (x : Indexed) (f : Field) : Nat := (x.postings f).length

/-- The length of a field in all documents together. -/
def totalLength (f : Field) : List Indexed → Nat
  | [] => 0
  | x :: docs => x.length f + totalLength f docs

/-- The mean length of a field over all documents. -/
def averageLength (docs : List Indexed) (f : Field) : Score :=
  if f.hasLength then
    Float32.ofNat (totalLength f docs) / Float32.ofNat docs.length
  else 1

/-- What the ranking by some terms has to know of an index. -/
def Statistics.gather (docs : List Indexed) (terms : List (Field × Term)) : Statistics where
  size := docs.length
  averages := (terms.map (·.1)).eraseDups.map fun f => (f, averageLength docs f)
  frequencies := terms.eraseDups.map fun (f, t) =>
    ((f, t), (docs.filter fun x => 0 < x.occurrences f t).length)

namespace Statistics

/-- The mean length of a field. -/
def average (st : Statistics) (f : Field) : Score := (st.averages.lookup f).getD 1

/-- In how many documents a term stands. -/
def frequency (st : Statistics) (f : Field) (t : Term) : Nat :=
  (st.frequencies.lookup (f, t)).getD 0

/-- How rare a term is. -/
def rarity (st : Statistics) (f : Field) (t : Term) : Score :=
  let n := st.frequency f t
  Float32.log (1 + (Float32.ofNat (st.size - n) + 0.5) / (Float32.ofNat n + 0.5))

end Statistics

/-! ## Scores -/

/-- How fast repetitions of a term stop counting. -/
def saturation : Score := 1.2

/-- How far the length of a field counts. -/
def lengthShare : Score := 0.75

/-- How much of the weight of a term its repetitions earn in a field of a document. -/
def repetitionShare (st : Statistics) (x : Indexed) (f : Field) (times : Nat) : Score :=
  let length : Score := if f.hasLength then Float32.ofNat (roundedLength (x.length f)) else 1
  let norm := saturation * (1 - lengthShare + lengthShare * length / st.average f)
  let times : Score := Float32.ofNat times
  times / (times + norm)

/-- The score of terms of one field that stand together so many times. -/
def termScore (st : Statistics) (boost : Score) (x : Indexed) (f : Field) (ts : List Term)
    (times : Nat) : Score :=
  let weight := (ts.map (st.rarity f)).foldl (· + ·) 0 * (1 + saturation) * boost
  weight * repetitionShare st x f times

mutual

/-- The score of a document that a criterion selects. -/
def Criterion.score (st : Statistics) (boost : Score) (x : Indexed) : Criterion → Score
  | .everything => boost
  | .term f t => termScore st boost x f [t] (x.occurrences f t)
  | .phrase f ws slop =>
    termScore st boost x f (ws.map fun (_, w) => .text w) (Phrase.count (x.postings f) ws slop)
  | .phraseStart f ws _ _ =>
    match ws with
    | [_] => 1
    | ws => termScore st boost x f (ws.map fun (_, w) => .text w) (Phrase.count (x.postings f) ws 0)
  | .range .. => boost
  | .oneOf .. => boost
  | .combine clauses => Criterion.clauseScore st boost x clauses
  | .weighted factor c => c.score st (boost * factor.toDouble.toFloat32) x

/-- The sum of the scores of the clauses that hold. -/
def Criterion.clauseScore (st : Statistics) (boost : Score) (x : Indexed) :
    List (Occurrence × Criterion) → Score
  | [] => 0
  | (occurrence, c) :: rest =>
    let others := Criterion.clauseScore st boost x rest
    if occurrence ≠ .mustNot && c.holds x then c.score st boost x + others else others

end

/-! ## Order -/

/-- A document with its score. -/
abbrev Scored := Document × Score

/-- Stands before or beside in the order of answers. -/
def Scored.precedes (a b : Scored) : Bool :=
  b.2.toBits < a.2.toBits || (a.2.toBits == b.2.toBits && a.1.key ≤ b.1.key)

/-- The answers in order. -/
def rank (answers : List Scored) : List Scored := answers.mergeSort Scored.precedes

theorem rank_perm (answers : List Scored) : (rank answers).Perm answers :=
  List.mergeSort_perm answers _

theorem Scored.precedes_trans (a b c : Scored) (hab : precedes a b) (hbc : precedes b c) :
    precedes a c := by
  simp only [precedes, Bool.or_eq_true, decide_eq_true_eq, Bool.and_eq_true, beq_iff_eq] at *
  rcases hab with hab | ⟨hab, hk⟩ <;> rcases hbc with hbc | ⟨hbc, hk'⟩
  · exact .inl (UInt32.lt_trans hbc hab)
  · exact .inl (hbc ▸ hab)
  · exact .inl (hab ▸ hbc)
  · exact .inr ⟨hab.trans hbc, String.le_trans hk hk'⟩

theorem Scored.precedes_total (a b : Scored) : (precedes a b || precedes b a) = true := by
  simp only [precedes, Bool.or_eq_true, decide_eq_true_eq, Bool.and_eq_true, beq_iff_eq]
  rcases Nat.lt_trichotomy a.2.toBits.toNat b.2.toBits.toNat with h | h | h
  · exact .inr (.inl h)
  · have h : a.2.toBits = b.2.toBits := UInt32.toNat_inj.1 h
    rcases String.le_total a.1.key b.1.key with hk | hk
    · exact .inl (.inr ⟨h, hk⟩)
    · exact .inr (.inr ⟨h.symm, hk⟩)
  · exact .inl (.inl h)

theorem pairwise_rank (answers : List Scored) :
    (rank answers).Pairwise fun a b => Scored.precedes a b :=
  List.pairwise_mergeSort Scored.precedes_trans Scored.precedes_total answers

end ScopedSearch
