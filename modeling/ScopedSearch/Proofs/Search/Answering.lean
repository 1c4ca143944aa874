import ScopedSearch.Search.Engine

/-!
# How a request is answered

A search that succeeds has passed five stages: the context still holds, the page token is accepted,
storage lists the spaces of the actor, the item that is referred to is found, and the backend
answers.  When no space is selected, the answer is empty and the last two stages are left out.
This is stated once, in both directions, and every later statement about searches starts from it.

## Main results

* `search_eq_ok_iff`: when a search succeeds, and with what.
* `mem_selectSpaces_iff`: the spaces that a search looks in.
* `search_within`: what a search may do to the state.
-/

namespace ScopedSearch

/-- What a request asks of the backend, once its spaces, its base and its offset are known. -/
def Request.toBackend (r : Request) (spaces : List String) (base : Option String) (offset : Nat) :
    BackendQuery where
  query := Text.trim r.query
  spaces := spaces
  pathScope := Path.scope base r.reference.path
  includeTrashed := r.includeTrashed
  offset := offset
  limit := pageLimit r.pageSize

/-- The answer that the hits of the backend at an offset become. -/
def Request.page (r : Request) (offset : Nat) (found : Hits) : Response where
  hits := found.hits.map fun (d, score) => Match.ofDocument d score
  total := found.total.toInt64
  nextToken := IndexEngine.nextToken r.fingerprint (offset + found.hits.length) found.hits.length
    found.total

/-- The same request for the page of a token. -/
def Request.atPage (r : Request) (token : String) : Request := { r with pageToken := token }

/-- The total of an answer is the number of all hits. -/
theorem Request.total_page (r : Request) (offset : Nat) (hits : List (Document × Score)) (n : Nat) :
    (r.page offset ⟨hits, UInt64.ofNat n⟩).total = Int64.ofNat n := rfl

/-- A total is exact as far as its width goes. -/
theorem toInt_total {n : Nat} (h : n ≤ Int64.maxValue.toInt) : (Int64.ofNat n).toInt = n := by
  have hmax : Int64.maxValue.toInt = 9223372036854775807 := by decide
  exact Int64.toInt_ofNat_of_lt (by omega)

theorem pageLimit_pos (wished : Int32) : 0 < pageLimit wished := by
  unfold pageLimit
  split
  · decide
  · rename_i hpos
    have hint : 0 < wished.toInt := by
      have hlt : (0 : Int32) < wished := Int32.not_le.1 hpos
      exact Int32.lt_iff_toInt_lt.1 hlt
    have hmax : 0 < maxPageSize := by decide
    omega

namespace IndexEngine

variable {σ : Type} {e : IndexEngine σ} {ctx : Context σ} {request : Request} {actor : Actor}

/-- A space is looked in when it is permitted and, if a space is named, is the one named. -/
theorem mem_selectSpaces_iff {permitted : List String} {r : Reference} {space : String} :
    space ∈ selectSpaces permitted r ↔
      space ∈ permitted ∧ ∀ named ∈ r.space, named ≠ "" → space = named := by
  unfold selectSpaces Reference.space?
  cases hspace : r.space with
  | none => simp
  | some named =>
    by_cases hempty : named = ""
    · subst hempty
      simp [Option.filter]
    · by_cases hperm : named ∈ permitted
      · simp only [Option.filter, ne_eq, hempty, not_false_eq_true, decide_true, if_true,
          List.contains_iff_mem, hperm, List.mem_singleton, Option.mem_def, Option.some.injEq]
        constructor
        · rintro rfl
          exact ⟨hperm, fun _ h _ => h⟩
        · rintro ⟨_, h⟩
          exact h named rfl hempty
      · simp only [Option.filter, ne_eq, hempty, not_false_eq_true, decide_true, if_true,
          List.contains_iff_mem, hperm, if_false, List.not_mem_nil, false_iff]
        rintro ⟨hmem, h⟩
        exact hperm (h named rfl hempty ▸ hmem)

/-- A reference without an item has no base. -/
theorem referencedPath_of_item_eq_none {storage : Storage} {spaces : List String} {r : Reference}
    (h : r.item = none) : referencedPath storage spaces r = .ok none := by
  unfold referencedPath
  rw [h]

/--
A search succeeds exactly when it passes all stages.  The answer is empty when no space is selected,
and otherwise the page that the hits of the backend make.
-/
theorem search_eq_ok_iff {s u : σ} {response : Response} :
    (e.search ctx request actor).perform s = (.ok response, u) ↔
      ∃ t offset permitted, ctx.check.perform s = (.ok (), t) ∧
        PageToken.offsetFor request.fingerprint request.pageToken = .ok offset ∧
        (e.storage t).listSpaces actor = .ok permitted ∧
        ((selectSpaces permitted request.reference = [] ∧ response = {} ∧ u = t) ∨
          (selectSpaces permitted request.reference ≠ [] ∧ ∃ base found,
            referencedPath (e.storage t) (selectSpaces permitted request.reference)
              request.reference = .ok base ∧
            (e.backend.search ctx (request.toBackend
              (selectSpaces permitted request.reference) base offset)).perform t =
              (.ok found, u) ∧
            response = request.page offset found)) := by
  unfold search
  simp only [Op.perform_bind_eq_ok, Op.perform_ofExcept, Op.perform_read, Prod.mk.injEq,
    Except.ok.injEq, mapError_eq_ok_iff]
  constructor
  · rintro ⟨_, t, hcheck, offset, _, ⟨hoffset, rfl⟩, _, _, ⟨rfl, rfl⟩, permitted, _,
      ⟨hpermitted, rfl⟩, hanswer⟩
    refine ⟨t, offset, permitted, hcheck, hoffset, hpermitted, ?_⟩
    by_cases hnone : selectSpaces permitted request.reference = []
    · refine .inl ⟨hnone, ?_⟩
      simp only [hnone, List.isEmpty_nil, if_true, Op.perform_pure, Prod.mk.injEq,
        Except.ok.injEq] at hanswer
      exact ⟨hanswer.1.symm, hanswer.2.symm⟩
    · refine .inr ⟨hnone, ?_⟩
      simp only [List.isEmpty_iff, hnone, if_false, Op.perform_bind_eq_ok, Op.perform_ofExcept,
        Op.perform_pure, Prod.mk.injEq, Except.ok.injEq] at hanswer
      obtain ⟨base, _, ⟨hbase, rfl⟩, found, _, hfound, rfl, rfl⟩ := hanswer
      refine ⟨base, found, hbase, hfound, ?_⟩
      rw [Request.page, List.length_map]
  · rintro ⟨t, offset, permitted, hcheck, hoffset, hpermitted, hanswer⟩
    refine ⟨(), t, hcheck, offset, t, ⟨hoffset, rfl⟩, e.storage t, t, ⟨rfl, rfl⟩,
      permitted, t, ⟨hpermitted, rfl⟩, ?_⟩
    rcases hanswer with ⟨hnone, rfl, rfl⟩ | ⟨hsome, base, found, hbase, hfound, rfl⟩
    · simp [hnone]
    · simp only [List.isEmpty_iff, hsome, if_false, Op.perform_bind_eq_ok, Op.perform_ofExcept,
        Op.perform_pure, Prod.mk.injEq, Except.ok.injEq]
      refine ⟨base, t, ⟨hbase, rfl⟩, found, u, hfound, ?_, rfl⟩
      rw [Request.page, List.length_map]

/-- A search does to the state what checking its context does, and what the backend does. -/
theorem search_within {R : σ → σ → Prop} (hrefl : ∀ s, R s s)
    (htrans : ∀ {s t u}, R s t → R t u → R s u) (hcheck : Op.Within R ctx.check)
    (hbackend : ∀ q, Op.Within R (e.backend.search ctx q)) :
    Op.Within R (e.search ctx request actor) := by
  have hexcept : ∀ {α : Type} (r : Except Fault α), Op.Within R (Op.ofExcept r) :=
    fun r => Op.within_ofExcept hrefl r
  refine Op.Within.bind (R := R) htrans hcheck fun _ => ?_
  refine Op.Within.bind (R := R) htrans (hexcept _) fun _ => ?_
  refine Op.Within.bind (R := R) htrans (Op.within_read hrefl _) fun _ => ?_
  refine Op.Within.bind (R := R) htrans (hexcept _) fun permitted => ?_
  by_cases hnone : (selectSpaces permitted request.reference).isEmpty = true
  · simp only [hnone, if_true]
    exact Op.within_pure hrefl _
  · simp only [hnone]
    refine Op.Within.bind (R := R) htrans (hexcept _) fun _ => ?_
    exact Op.Within.bind (R := R) htrans (hbackend _) fun _ => Op.within_pure hrefl _

end IndexEngine

end ScopedSearch
