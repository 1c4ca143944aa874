import ScopedSearch.Proofs.Digest.Mixing
import ScopedSearch.Proofs.Search.Token

/-!
# Tokens of other requests

A page token is bound to a request by the fingerprint of the request, a hash of the words of its
shape.  Requests that are alike, which is to say that they differ at most in the page they ask for
and in how they spell what they ask for, have one shape and so can use one another's tokens.

A request that is not alike is refused, except where the hash fails.  The words of a shape say
everything about a request whose texts are free of the character zero, so it is the hash that has to
map two rows of words to one value.  It never does when the rows differ in one word only, nor when
the requests differ in their last two parts only; otherwise it may, and the token is accepted.

## Main results

* `shape_eq_iff`: which requests have one shape.
* `fingerprint_eq_iff_of_texts`: requests with the same texts are told apart.
* `offsetFor_token_of_request`: what becomes of the token of one request in the hands of another.
* `exists_other_query`: every request has the fingerprint of a request for another query.
-/

namespace ScopedSearch

open ScopedSearch.Mixing

theorem pageLimit_le (wished : Int32) : pageLimit wished ≤ maxPageSize := by
  unfold pageLimit
  split
  · decide
  · exact Nat.min_le_right _ _

namespace Request

/-- The requests ask for pages of one length of one list. -/
structure Alike (r r' : Request) : Prop where
  query : Text.trim r.query = Text.trim r'.query
  reference : r.reference = r'.reference
  trashed : r.includeTrashed = r'.includeTrashed
  limit : pageLimit r.pageSize = pageLimit r'.pageSize

/-- No text of the request holds the character zero. -/
structure Plain (r : Request) : Prop where
  query : ZeroFree (Text.trim r.query)
  space : ∀ s ∈ r.reference.space, ZeroFree s
  item : ∀ s ∈ r.reference.item, ZeroFree s
  path : ∀ s ∈ r.reference.path, ZeroFree s

/-- The words of the texts of a request. -/
def textShape (r : Request) : List UInt64 :=
  textWords (Text.trim r.query) ++ optionWords r.reference.space ++
    optionWords r.reference.item ++ optionWords r.reference.path

/-- The length of a page as a word. -/
def limitWord (r : Request) : UInt64 := UInt64.ofNat (pageLimit r.pageSize)

theorem shape_eq (r : Request) :
    r.shape = r.textShape ++ [if r.includeTrashed then 1 else 0, r.limitWord] := rfl

theorem toNat_limitWord (r : Request) : r.limitWord.toNat = pageLimit r.pageSize :=
  UInt64.toNat_ofNat_of_lt (Nat.lt_of_le_of_lt (pageLimit_le r.pageSize) (by decide))

theorem toNat_limitWord_lt (r : Request) : r.limitWord.toNat < 1024 := by
  rw [toNat_limitWord]
  exact Nat.lt_of_le_of_lt (pageLimit_le r.pageSize) (by decide)

variable {r r' : Request}

theorem limitWord_eq_iff :
    r.limitWord = r'.limitWord ↔ pageLimit r.pageSize = pageLimit r'.pageSize := by
  rw [← UInt64.toNat_inj, toNat_limitWord, toNat_limitWord]

/-- Requests that are alike have one shape. -/
theorem Alike.shape_eq (h : r.Alike r') : r.shape = r'.shape := by
  simp only [shape, h.query, h.reference, h.trashed, h.limit]

/-- Requests that are alike have one fingerprint. -/
theorem Alike.fingerprint_eq (h : r.Alike r') : r.fingerprint = r'.fingerprint :=
  congrArg hash h.shape_eq

/-- The words of its texts tell the texts of a request. -/
theorem textShape_append_inj (h : r.Plain) (h' : r'.Plain) {rest rest' : List UInt64} :
    r.textShape ++ rest = r'.textShape ++ rest' ↔
      Text.trim r.query = Text.trim r'.query ∧ r.reference = r'.reference ∧ rest = rest' := by
  have hreference : r.reference = r'.reference ↔ r.reference.space = r'.reference.space ∧
      r.reference.item = r'.reference.item ∧ r.reference.path = r'.reference.path := by
    cases r.reference
    cases r'.reference
    simp
  simp only [textShape, List.append_assoc]
  rw [textWords_append_inj h.query h'.query, optionWords_append_inj h.space h'.space,
    optionWords_append_inj h.item h'.item, optionWords_append_inj h.path h'.path, hreference,
    and_assoc, and_assoc]

/-- Requests without the character zero have one shape only when they are alike. -/
theorem shape_eq_iff (h : r.Plain) (h' : r'.Plain) : r.shape = r'.shape ↔ r.Alike r' := by
  constructor
  · intro heq
    rw [Request.shape_eq, Request.shape_eq, textShape_append_inj h h'] at heq
    obtain ⟨hquery, hreference, hlast⟩ := heq
    obtain ⟨hflag, hlimit⟩ := List.cons.inj hlast
    refine ⟨hquery, hreference, ?_, limitWord_eq_iff.1 (List.cons.inj hlimit).1⟩
    cases ht : r.includeTrashed <;> cases ht' : r'.includeTrashed <;> simp_all
  · exact Alike.shape_eq

/-- Requests with the same texts have one fingerprint only when they are alike. -/
theorem fingerprint_eq_iff_of_texts (hquery : Text.trim r.query = Text.trim r'.query)
    (hreference : r.reference = r'.reference) :
    r.fingerprint = r'.fingerprint ↔ r.Alike r' := by
  have htexts : r.textShape = r'.textShape := by simp only [textShape, hquery, hreference]
  rw [fingerprint, fingerprint, Request.shape_eq, Request.shape_eq, htexts,
    hash_flag_limit_inj _ r.toNat_limitWord_lt r'.toNat_limitWord_lt, limitWord_eq_iff]
  exact ⟨fun h => ⟨hquery, hreference, h.1, h.2⟩, fun h => ⟨h.trashed, h.limit⟩⟩

/-- Zeros before a trimmed text are no blanks: it stays trimmed. -/
theorem trim_eightZeros_append (s : String) :
    Text.trim (eightZeros ++ Text.trim s) = eightZeros ++ Text.trim s := by
  have hstart : Text.trimStart (eightZeros ++ Text.trim s).toList =
      eightZeros.toList ++ Text.trimEnd (Text.trimStart s.toList) := by
    rw [String.toList_append, Text.trim, String.toList_ofList]
    rfl
  have hlast : ∀ c ∈ eightZeros.toList.getLast?, ¬ Text.isBlank c := by
    have hzero : eightZeros.toList.getLast? = some '\x00' := by decide +kernel
    rw [hzero]
    rintro c ⟨⟩
    decide
  apply String.toList_injective
  rw [Text.trim, hstart, Text.trimEnd_append_trimEnd hlast]
  simp [Text.trim]

/-- Zeros before a query do not show in the fingerprint: some other query has the same one. -/
theorem exists_other_query (r : Request) : ∃ query, Text.trim query ≠ Text.trim r.query ∧
    ({ r with query := query } : Request).fingerprint = r.fingerprint := by
  refine ⟨eightZeros ++ Text.trim r.query, ?_, ?_⟩
  · rw [trim_eightZeros_append]
    intro heq
    have hlength := congrArg String.length heq
    rw [String.length_append] at hlength
    have hzeros : eightZeros.length = 8 := by decide
    omega
  · simp only [fingerprint, shape, trim_eightZeros_append, textWords_eightZeros, List.cons_append,
      hash_zero_cons]

end Request

namespace PageToken

/-- The offset that a token carries for a fingerprint. -/
theorem offsetFor_of_token (t : PageToken) (fingerprint : UInt64) :
    offsetFor fingerprint t.encode =
      if t.fingerprint ≠ fingerprint then .error .foreign
      else if t.offset.toNat ≤ resultWindow then .ok t.offset.toNat
      else .error (.beyondWindow t.offset.toNat) := by
  rw [offsetFor, if_neg (encode_ne_empty t), decode?_encode]
  by_cases hsame : t.fingerprint = fingerprint
  · by_cases hwindow : t.offset.toNat ≤ resultWindow
    · simp [hsame, hwindow, Nat.not_lt.2 hwindow]
    · simp [hsame, hwindow, Nat.lt_of_not_le hwindow]
  · simp [hsame]

/-- A token is foreign exactly to the other fingerprints. -/
theorem offsetFor_eq_foreign_iff {t : PageToken} {fingerprint : UInt64} :
    offsetFor fingerprint t.encode = .error .foreign ↔ t.fingerprint ≠ fingerprint := by
  rw [offsetFor_of_token]
  by_cases hsame : t.fingerprint = fingerprint
  · simp only [hsame, ne_eq, not_true_eq_false, if_false, iff_false]
    split <;> simp
  · simp [hsame]

/--
The token of a request is foreign to another one exactly when their fingerprints differ.  They agree
when the requests are alike, and then the token is accepted up to the window.  They differ when the
requests have the same texts and are not alike, and when their shapes differ in one word.  In all
other cases, if no text holds the character zero, the token is foreign or the hash makes one value
of two shapes.
-/
theorem offsetFor_token_of_request (r r' : Request) (offset : UInt64) :
    (offsetFor r'.fingerprint (encode ⟨offset, r.fingerprint⟩) = .error .foreign ↔
      r.fingerprint ≠ r'.fingerprint) ∧
    (r.Alike r' → r.fingerprint = r'.fingerprint ∧
      offsetFor r'.fingerprint (encode ⟨offset, r.fingerprint⟩) =
        if offset.toNat ≤ resultWindow then .ok offset.toNat
        else .error (.beyondWindow offset.toNat)) ∧
    (Text.trim r.query = Text.trim r'.query → r.reference = r'.reference → ¬ r.Alike r' →
      offsetFor r'.fingerprint (encode ⟨offset, r.fingerprint⟩) = .error .foreign) ∧
    (OneApart r.shape r'.shape →
      offsetFor r'.fingerprint (encode ⟨offset, r.fingerprint⟩) = .error .foreign) ∧
    (r.Plain → r'.Plain → ¬ r.Alike r' →
      offsetFor r'.fingerprint (encode ⟨offset, r.fingerprint⟩) = .error .foreign ∨
        (r.shape ≠ r'.shape ∧ Mixing.hash r.shape = Mixing.hash r'.shape)) := by
  have hforeign : offsetFor r'.fingerprint (encode ⟨offset, r.fingerprint⟩) = .error .foreign ↔
      r.fingerprint ≠ r'.fingerprint := offsetFor_eq_foreign_iff
  refine ⟨hforeign, fun halike => ⟨halike.fingerprint_eq, ?_⟩, ?_, ?_, ?_⟩
  · rw [offsetFor_of_token, if_neg (not_not_intro halike.fingerprint_eq)]
  · intro hquery hreference halike
    exact hforeign.2 fun heq =>
      halike ((Request.fingerprint_eq_iff_of_texts hquery hreference).1 heq)
  · intro hapart
    exact hforeign.2 (hash_ne_of_oneApart hapart)
  · intro hplain hplain' halike
    by_cases hsame : r.fingerprint = r'.fingerprint
    · have hshape : r.shape ≠ r'.shape := fun heq =>
        halike ((Request.shape_eq_iff hplain hplain').1 heq)
      exact .inr ⟨hshape, hsame⟩
    · exact .inl (hforeign.2 hsame)

/-- The token for the second page of one query is accepted with another query. -/
theorem token_accepted_with_other_query :
    Text.trim "passage lifeline" ≠ Text.trim "passive eifeldps" ∧
      offsetFor (Request.fingerprint { query := "passive eifeldps", pageSize := 10 })
        (encode ⟨10, Request.fingerprint { query := "passage lifeline", pageSize := 10 }⟩) =
          .ok 10 := by
  have hcollision : Request.fingerprint { query := "passage lifeline", pageSize := 10 } =
      Request.fingerprint { query := "passive eifeldps", pageSize := 10 } := by decide +kernel
  refine ⟨by decide +kernel, ?_⟩
  rw [hcollision]
  exact offsetFor_encode (by decide) _

end PageToken

end ScopedSearch
