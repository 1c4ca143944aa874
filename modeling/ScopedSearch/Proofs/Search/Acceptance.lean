import ScopedSearch.Proofs.Index.Installation
import ScopedSearch.Proofs.Search.Answering
import ScopedSearch.Proofs.Search.Fingerprint

/-!
# Which page tokens are accepted

A page token comes from outside and may be any text.  It is accepted when it spells, in base 64, a
JSON value that carries the fingerprint of the request and an offset within the result window; and
any other text makes the query a bad one.  So an accepted offset is small, whoever wrote the token,
and together with the length of a page no sum that a search forms comes near the end of a word.

## Main results

* `ofJson?_eq_some_iff`: the values that are read as a token.
* `offsetFor_eq_ok_iff`: the texts that are accepted.
* `search_of_refused`: what becomes of a search with another text.
* `search_congr_of_modest`: what a search asks of its backend.
* `tokens_are_exact`: tokens, from the text to the query that a backend is asked.
-/

namespace ScopedSearch

/-! ## Texts -/

namespace Base64

/-- The character needs no escape in an address, and is no padding. -/
def IsUrlSafe (c : Char) : Prop := c.isAlphanum = true ∨ c = '-' ∨ c = '_'

instance (c : Char) : Decidable (IsUrlSafe c) :=
  inferInstanceAs (Decidable (c.isAlphanum = true ∨ c = '-' ∨ c = '_'))

theorem isUrlSafe_symbol : ∀ n < 64, IsUrlSafe (symbol urlAlphabet n) := by decide +kernel

theorem isUrlSafe_of_mem_encodeUrl {bytes : List UInt8} {c : Char} (h : c ∈ encodeUrl bytes) :
    IsUrlSafe c := by
  obtain ⟨n, hn, rfl⟩ := List.mem_map.1 h
  exact isUrlSafe_symbol n (sextets_lt bytes n hn)

end Base64

/-! ## Values -/

namespace Json

/-- A cell has a value when the name stands once, and it is the value that stands there. -/
theorem cell_eq_some_some_iff {fields : List (String × Json)} {name : String} {v : Json} :
    cell fields name = some (some v) ↔ fields.filter (·.1 == name) = [(name, v)] := by
  have hname : ∀ f ∈ fields.filter (·.1 == name), f.1 = name := by
    intro f hf
    simpa using (List.mem_filter.1 hf).2
  rw [cell]
  rcases hfields : fields.filter (·.1 == name) with _ | ⟨f, _ | ⟨g, rest⟩⟩
  · simp [hfields]
  · have hf : f.1 = name := hname f (by simp [hfields])
    simp [hfields, Prod.ext_iff, hf]
  · simp [hfields]

/-- The words are the whole numbers of 64 bits. -/
theorem word?_eq_some_iff {v : Json} {n : Nat} :
    word? v = some n ↔ v = .nat n ∧ n < UInt64.size := by
  constructor
  · intro h
    obtain ⟨m, hm, rfl⟩ := Option.map_eq_some_iff.1 h
    cases v with
    | int k =>
      simp only [intIn?] at hm
      split at hm
      · next hrange =>
        cases hm
        have hsize : UInt64.size = Text.maxWord + 1 := by decide
        refine ⟨?_, by omega⟩
        rw [nat, Int.toNat_of_nonneg hrange.1]
      · cases hm
    | _ => cases hm
  · rintro ⟨rfl, hn⟩
    exact word?_nat hn

end Json

namespace PageToken

/--
The value carries an offset and a fingerprint: it is a record with one field for each of them, among
any others, or the list of the two.
-/
def Carries (v : Json) (offset fingerprint : Nat) : Prop :=
  (∃ fields, v = .record fields ∧ fields.filter (·.1 == "o") = [("o", .nat offset)] ∧
    fields.filter (·.1 == "f") = [("f", .nat fingerprint)]) ∨
  v = .list [.nat offset, .nat fingerprint]

/-- Both cells have a value. -/
theorem cells?_eq_some_iff {v o f : Json} :
    Json.cells? ["o", "f"] v = some [some o, some f] ↔
      (∃ fields, v = .record fields ∧ fields.filter (·.1 == "o") = [("o", o)] ∧
        fields.filter (·.1 == "f") = [("f", f)]) ∨ v = .list [o, f] := by
  cases v with
  | record fields =>
    have hcells : Json.cells? ["o", "f"] (.record fields) =
        (Json.cell fields "o").bind fun o => (Json.cell fields "f").bind fun f => some [o, f] := by
      simp [Json.cells?, Json.recordCells?, Option.bind_assoc]
    simp [hcells, Option.bind_eq_some_iff, Json.cell_eq_some_some_iff.symm]
  | list items =>
    rcases items with _ | ⟨a, _ | ⟨b, _ | ⟨c, rest⟩⟩⟩ <;> simp [Json.cells?]
  | _ => simp [Json.cells?]

/-- A value is read as a token exactly when it carries what the token holds. -/
theorem ofJson?_eq_some_iff {v : Json} {t : PageToken} :
    ofJson? v = some t ↔ Carries v t.offset.toNat t.fingerprint.toNat := by
  rw [Carries, ← cells?_eq_some_iff]
  constructor
  · intro h
    obtain ⟨cells, hcells, h⟩ := Option.bind_eq_some_iff.1 h
    rcases cells with _ | ⟨offset, _ | ⟨fingerprint, _ | ⟨_, _⟩⟩⟩
    case cons.cons.nil =>
      simp only [Option.bind_eq_bind, Option.bind_eq_some_iff, Json.required,
        Json.word?_eq_some_iff] at h
      obtain ⟨o, ⟨v, rfl, rfl, ho⟩, f, ⟨w, rfl, rfl, hf⟩, ht⟩ := h
      cases ht
      have hoffset : (UInt64.ofNat o).toNat = o := UInt64.toNat_ofNat_of_lt ho
      have hfingerprint : (UInt64.ofNat f).toNat = f := UInt64.toNat_ofNat_of_lt hf
      rw [hcells, hoffset, hfingerprint]
    all_goals cases h
  · intro h
    simp [ofJson?, h, Json.required, Json.word?_nat t.offset.toNat_lt,
      Json.word?_nat t.fingerprint.toNat_lt]

/-- The text spells a value that carries the offset and the fingerprint. -/
def Spells (text : String) (offset fingerprint : Nat) : Prop :=
  ∃ bytes v, Base64.decodeUrl? text.toList = some bytes ∧
    Json.parseBytes? ⟨bytes.toArray⟩ = some v ∧ Carries v offset fingerprint

theorem decode?_eq_some_iff {text : String} {t : PageToken} :
    decode? text = some t ↔ Spells text t.offset.toNat t.fingerprint.toNat := by
  simp only [decode?, Spells, Option.bind_eq_bind, Option.bind_eq_some_iff, ofJson?_eq_some_iff,
    exists_and_left]

/-- An offset within the window is a number of 64 bits. -/
theorem toNat_ofNat_of_le {offset : Nat} (h : offset ≤ resultWindow) :
    (UInt64.ofNat offset).toNat = offset :=
  UInt64.toNat_ofNat_of_lt (Nat.lt_of_le_of_lt h (by decide))

theorem spells_iff_of_le {text : String} {offset : Nat} {fingerprint : UInt64}
    (h : offset ≤ resultWindow) :
    Spells text offset fingerprint.toNat ↔
      decode? text = some ⟨UInt64.ofNat offset, fingerprint⟩ := by
  rw [decode?_eq_some_iff, toNat_ofNat_of_le h]

/--
A text is accepted when it is empty, for the first page, or spells the fingerprint and an offset
within the window.
-/
theorem offsetFor_eq_ok_iff {fingerprint : UInt64} {text : String} {offset : Nat} :
    offsetFor fingerprint text = .ok offset ↔
      text = "" ∧ offset = 0 ∨
        text ≠ "" ∧ offset ≤ resultWindow ∧ Spells text offset fingerprint.toNat := by
  by_cases hempty : text = ""
  · simp [hempty, eq_comm]
  constructor
  · intro h
    have hwindow := offsetFor_le_resultWindow h
    refine .inr ⟨hempty, hwindow, (spells_iff_of_le hwindow).2 ?_⟩
    rw [offsetFor, if_neg hempty] at h
    cases hdecode : decode? text with
    | none =>
      rw [hdecode] at h
      cases h
    | some t =>
      simp only [hdecode] at h
      split at h
      · cases h
      · next hsame =>
        split at h
        · cases h
        · cases h
          rw [UInt64.ofNat_toNat, ← not_not.1 hsame]
  · rintro (⟨h, _⟩ | ⟨_, hwindow, hspells⟩)
    · exact absurd h hempty
    · rw [offsetFor, if_neg hempty, (spells_iff_of_le hwindow).1 hspells]
      simp [toNat_ofNat_of_le hwindow, Nat.not_lt.2 hwindow]

end PageToken

/-! ## Searches -/

/--
The query asks for a page of a length within bounds that begins within the window, so that the
place behind the page is a number of 64 bits.
-/
structure BackendQuery.Modest (q : BackendQuery) : Prop where
  pos : 1 ≤ q.limit
  limit : q.limit ≤ maxPageSize
  offset : q.offset ≤ resultWindow

namespace IndexEngine

variable {σ : Type} {e : IndexEngine σ} {ctx : Context σ} {request : Request} {actor : Actor}

/-- A search whose token is refused is a bad query, and asks neither storage nor the backend. -/
theorem search_of_refused {fault : PageTokenFault} {s t : σ}
    (hcheck : ctx.check.perform s = (.ok (), t))
    (hrefused : PageToken.offsetFor request.fingerprint request.pageToken = .error fault) :
    (e.search ctx request actor).perform s = (.error (.badQuery (.pageToken fault)), t) := by
  rw [search, Op.perform_bind_of_ok hcheck]
  exact Op.perform_bind_of_error (by rw [hrefused]; rfl)

/-- A search asks its backend modest queries only: what else it would answer makes no difference. -/
theorem search_congr_of_modest {backend : Backend σ}
    (h : ∀ q : BackendQuery, q.Modest → e.backend.search ctx q = backend.search ctx q) (s : σ) :
    (e.search ctx request actor).perform s =
      ({ e with backend }.search ctx request actor).perform s := by
  unfold search
  refine Op.perform_bind_congr fun _ t _ => ?_
  refine Op.perform_bind_congr fun offset t htoken => ?_
  have hwindow : offset ≤ resultWindow := by
    rw [Op.perform_ofExcept, Prod.mk.injEq, mapError_eq_ok_iff] at htoken
    exact PageToken.offsetFor_le_resultWindow htoken.1
  refine Op.perform_bind_congr fun storage t _ => ?_
  refine Op.perform_bind_congr fun permitted t _ => ?_
  dsimp only
  split
  · rfl
  refine Op.perform_bind_congr fun base t _ => ?_
  rw [h]
  exact ⟨pageLimit_pos request.pageSize, pageLimit_le request.pageSize, hwindow⟩

end IndexEngine

/-- A place in the window and the length of any row that fits into memory add up to a word. -/
theorem toNat_add_of_modest {offset n : Nat} (hoffset : offset ≤ resultWindow)
    (hn : n < 2 ^ 63) : (UInt64.ofNat offset + UInt64.ofNat n).toNat = offset + n := by
  have hwindow : resultWindow = 10000 := rfl
  rw [UInt64.toNat_add, PageToken.toNat_ofNat_of_le hoffset]
  have hword : (UInt64.ofNat n).toNat = n := UInt64.toNat_ofNat_of_lt (by unfold UInt64.size; omega)
  rw [hword, Nat.mod_eq_of_lt (by omega)]

/-! ## Tokens from the text to the query -/

/--
The text of a token tells its offset and its fingerprint, and needs no escape in an address.  With
its own fingerprint it is read as its offset, which is refused beyond the window, and with any other
one it is foreign.  Of all texts, those are accepted that are empty or spell the fingerprint and an
offset within the window, and a search with another one is a bad query.  So no backend is asked for
more than the longest page, nor for an empty one, nor from a place beyond the window; and that place
and the length of whatever is found there add up within a word.
-/
theorem tokens_are_exact {σ : Type} (e : IndexEngine σ) (ctx : Context σ) (request : Request)
    (actor : Actor) :
    (∀ t u : PageToken, t.encode = u.encode ↔ t = u) ∧
    (∀ t : PageToken, ∀ c ∈ t.encode.toList, Base64.IsUrlSafe c) ∧
    (∀ (t : PageToken) (fingerprint : UInt64), PageToken.offsetFor fingerprint t.encode =
      if t.fingerprint ≠ fingerprint then .error .foreign
      else if t.offset.toNat ≤ resultWindow then .ok t.offset.toNat
      else .error (.beyondWindow t.offset.toNat)) ∧
    (∀ (fingerprint : UInt64) (text : String) (offset : Nat),
      PageToken.offsetFor fingerprint text = .ok offset ↔
        text = "" ∧ offset = 0 ∨ text ≠ "" ∧ offset ≤ resultWindow ∧
          PageToken.Spells text offset fingerprint.toNat) ∧
    (∀ fault s t, ctx.check.perform s = (.ok (), t) →
      PageToken.offsetFor request.fingerprint request.pageToken = .error fault →
      (e.search ctx request actor).perform s = (.error (.badQuery (.pageToken fault)), t)) ∧
    (∀ backend : Backend σ,
      (∀ q : BackendQuery, q.Modest → e.backend.search ctx q = backend.search ctx q) →
      ∀ s, (e.search ctx request actor).perform s =
        ({ e with backend }.search ctx request actor).perform s) ∧
    ∀ offset n, offset ≤ resultWindow → n < 2 ^ 63 →
      (UInt64.ofNat offset + UInt64.ofNat n).toNat = offset + n := by
  refine ⟨fun t u => ⟨fun h => ?_, congrArg PageToken.encode⟩, fun t c hc => ?_,
    PageToken.offsetFor_of_token, fun _ _ _ => PageToken.offsetFor_eq_ok_iff,
    fun _ _ _ hcheck hrefused => IndexEngine.search_of_refused hcheck hrefused,
    fun _ h s => IndexEngine.search_congr_of_modest h s, fun _ _ => toNat_add_of_modest⟩
  · have hread := PageToken.decode?_encode t
    rw [h, PageToken.decode?_encode] at hread
    exact (Option.some.inj hread).symm
  · rw [PageToken.encode, String.toList_ofList] at hc
    exact Base64.isUrlSafe_of_mem_encodeUrl hc

/-- The backend of an installation, but for pages of more than a thousand matches. -/
def Installation.shortPages {σ : Type} (I : Installation σ) : Backend σ :=
  { I.backend with
    search := fun ctx q =>
      if maxPageSize < q.limit then Op.fail (.internal "too long") else I.backend.search ctx q }

/-- A request for the page behind a text that is no token. -/
def brokenRequest : Request := { query := "hello", pageSize := 10, pageToken := "%%%" }

/--
A token that was put together by hand, with its fields in another order and one of its own, is
accepted.  A text that is no token makes the query a bad one, and a backend without long pages
answers all searches that one with them does.
-/
theorem tokens_are_exact_handmade :
    (PageToken.Spells "eyJ4IjpbXSwiZiI6NywibyI6MjB9" 20 7 ∧
      (UInt64.ofNat 20 + UInt64.ofNat 1000).toNat = 20 + 1000) ∧
    ∀ s : Shelf,
      ((Shelf.installation .basic 1).engine.search .background brokenRequest
          (default : Actor)).perform s =
        (.error (.badQuery (.pageToken .malformed)), s) ∧
      ((Shelf.installation .basic 1).engine.search .background brokenRequest
          (default : Actor)).perform s =
        (IndexEngine.search { (Shelf.installation .basic 1).engine with
            backend := (Shelf.installation .basic 1).shortPages } .background brokenRequest
          (default : Actor)).perform s := by
  obtain ⟨-, -, -, haccepted, hrefused, hmodest, hsum⟩ :=
    tokens_are_exact (Shelf.installation .basic 1).engine .background brokenRequest default
  refine ⟨⟨?_, hsum 20 1000 (by decide) (by decide)⟩, fun s =>
    ⟨hrefused .malformed s s rfl (by decide +kernel), hmodest _ (fun q hq => ?_) s⟩⟩
  · rcases (haccepted 7 "eyJ4IjpbXSwiZiI6NywibyI6MjB9" 20).1 (by decide +kernel) with
      ⟨hempty, -⟩ | ⟨-, -, hspells⟩
    · exact absurd hempty (by decide)
    · exact hspells
  · exact (if_neg (Nat.not_lt.2 hq.limit)).symm

end ScopedSearch
