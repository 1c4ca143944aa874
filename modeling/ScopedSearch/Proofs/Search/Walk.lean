import ScopedSearch.Proofs.Search.Token
import ScopedSearch.Proofs.Search.Visibility

/-!
# Walking through the pages

An actor who sends a request and then sends it again with the token of each answer walks through the
pages of one ranked list.  Each search hands out a token as long as the list goes on and the next
page starts within the result window, so the walk ends, and the pages it has seen are the start of
the list, cut into pieces of equal length.

The walk is over states in which nothing changes that the answers depend on.  Searches themselves may
move such a state, as one that counts them does; that the answers stay is what `Steady` says.

## Main results

* `search_steady`: the page that a search answers, and its token.
* `walk_steady`: the walk from a page on.
* `walk_pages`: a walk from the first page sees the ranked list.
-/

namespace ScopedSearch

/-! ## Pages of a list -/

/-- How many pages of a list of `n` start within the window, the first one in any case. -/
def pageCount (limit n : Nat) : Nat :=
  max 1 (min ((n + limit - 1) / limit) (resultWindow / limit + 1))

theorem pageCount_pos (limit n : Nat) : 0 < pageCount limit n := by
  unfold pageCount
  omega

/-- There is a next page exactly when the list goes on and the page starts within the window. -/
theorem succ_lt_pageCount_iff {limit n k : Nat} (hlimit : 0 < limit) :
    k + 1 < pageCount limit n ↔ (k + 1) * limit < n ∧ (k + 1) * limit ≤ resultWindow := by
  have hlist : k + 1 < (n + limit - 1) / limit ↔ (k + 1) * limit < n := by
    rw [Nat.lt_div_iff_mul_lt hlimit]
    omega
  have hwindow : k + 1 < resultWindow / limit + 1 ↔ (k + 1) * limit ≤ resultWindow := by
    rw [Nat.lt_succ_iff, Nat.le_div_iff_mul_le hlimit]
  rw [← hlist, ← hwindow]
  unfold pageCount
  omega

/-- The pages of a list, put one after the other, are the start of the list. -/
theorem flatMap_pages {α : Type} (xs : List α) (limit n : Nat) :
    (List.range n).flatMap (fun k => (xs.drop (k * limit)).take limit) = xs.take (n * limit) := by
  induction n with
  | zero => simp
  | succ n ih =>
    rw [List.range_succ, List.flatMap_append, ih, Nat.succ_mul, List.take_add]
    simp

/-- The pages that start within the window hold all of a list that the window lets through. -/
theorem take_pageCount {α : Type} (xs : List α) {limit : Nat} (hlimit : 0 < limit) :
    xs.take (pageCount limit xs.length * limit) =
      xs.take (min xs.length (limit * (resultWindow / limit + 1))) := by
  have hceil : xs.length ≤ (xs.length + limit - 1) / limit * limit := by
    have hmod := Nat.mod_lt (xs.length + limit - 1) hlimit
    have hdiv := Nat.div_add_mod' (xs.length + limit - 1) limit
    omega
  rw [List.take_eq_take_iff, Nat.mul_comm limit]
  by_cases hlong : (xs.length + limit - 1) / limit ≤ resultWindow / limit + 1
  · -- the list ends within the window, and both sides are the whole list
    have hcount : (xs.length + limit - 1) / limit * limit ≤ pageCount limit xs.length * limit := by
      refine Nat.mul_le_mul_right limit ?_
      rw [pageCount, Nat.min_eq_left hlong]
      exact Nat.le_max_right 1 _
    have hwindow := Nat.mul_le_mul_right limit hlong
    omega
  · have hcount : pageCount limit xs.length = resultWindow / limit + 1 := by
      rw [pageCount, Nat.min_eq_right (Nat.le_of_not_le hlong)]
      exact Nat.max_eq_right (Nat.succ_pos _)
    have hpages : (resultWindow / limit + 1) * limit < xs.length := by
      have hlt : resultWindow / limit + 1 < (xs.length + limit - 1) / limit :=
        Nat.lt_of_not_le hlong
      rw [Nat.lt_div_iff_mul_lt hlimit] at hlt
      omega
    rw [hcount]
    omega

/-! ## One page -/

/-- The page of a ranked list at an offset. -/
def Request.pageOf (r : Request) (ranked : List Scored) (offset : Nat) : Response :=
  r.page offset ⟨(ranked.drop offset).take (pageLimit r.pageSize), UInt64.ofNat ranked.length⟩

/-- A page hands out a token when the list goes on and the next page starts within the window. -/
theorem Request.nextToken_pageOf {r : Request} {ranked : List Scored}
    (hsize : ranked.length < UInt64.size) (offset : Nat) :
    (r.pageOf ranked offset).nextToken =
      if offset + pageLimit r.pageSize < ranked.length ∧
          offset + pageLimit r.pageSize ≤ resultWindow then
        PageToken.encode ⟨UInt64.ofNat (offset + pageLimit r.pageSize), r.fingerprint⟩
      else "" := by
  have hlimit := pageLimit_pos r.pageSize
  have htotal : (UInt64.ofNat ranked.length).toNat = ranked.length :=
    UInt64.toNat_ofNat_of_lt hsize
  have hcount : ((ranked.drop offset).take (pageLimit r.pageSize)).length =
      min (pageLimit r.pageSize) (ranked.length - offset) := by
    rw [List.length_take, List.length_drop]
  show IndexEngine.nextToken _ _ _ _ = _
  rw [IndexEngine.nextToken, htotal, hcount]
  by_cases hmore : offset + pageLimit r.pageSize < ranked.length
  · have hfull : min (pageLimit r.pageSize) (ranked.length - offset) = pageLimit r.pageSize := by
      omega
    have hne : pageLimit r.pageSize ≠ 0 := by omega
    rw [hfull]
    simp only [hne, hmore, ne_eq, not_false_eq_true, true_and]
  · rw [if_neg (by omega), if_neg (by omega)]

/-- The `k`-th page hands out a token, for the page after it, unless it is the last one. -/
theorem Request.nextToken_pageOf_mul {r : Request} {ranked : List Scored}
    (hsize : ranked.length < UInt64.size) (k : Nat) :
    (r.pageOf ranked (k * pageLimit r.pageSize)).nextToken =
      if k + 1 < pageCount (pageLimit r.pageSize) ranked.length then
        PageToken.encode ⟨UInt64.ofNat ((k + 1) * pageLimit r.pageSize), r.fingerprint⟩
      else "" := by
  rw [Request.nextToken_pageOf hsize, ← Nat.succ_mul]
  simp only [Nat.succ_eq_add_one, succ_lt_pageCount_iff (pageLimit_pos r.pageSize)]

/-- Where a page hands out a token, another page follows. -/
theorem Request.succ_lt_of_nextToken {r : Request} {ranked : List Scored}
    (hsize : ranked.length < UInt64.size) {k : Nat}
    (h : (r.pageOf ranked (k * pageLimit r.pageSize)).nextToken ≠ "") :
    k + 1 < pageCount (pageLimit r.pageSize) ranked.length := by
  refine Decidable.byContradiction fun hlast => h ?_
  rw [Request.nextToken_pageOf_mul hsize, if_neg hlast]

/-- The token of a page carries no offset beyond the window. -/
theorem Request.offset_nextToken_le {r : Request} {ranked : List Scored}
    (hsize : ranked.length < UInt64.size) {k : Nat} {t : PageToken}
    (h : PageToken.decode? (r.pageOf ranked (k * pageLimit r.pageSize)).nextToken = some t) :
    t.offset.toNat ≤ resultWindow := by
  rw [Request.nextToken_pageOf_mul hsize] at h
  split at h
  · next hmore =>
    have hwindow := ((succ_lt_pageCount_iff (pageLimit_pos r.pageSize)).1 hmore).2
    have hwidth : resultWindow < UInt64.size := by decide
    have hoffset : (UInt64.ofNat ((k + 1) * pageLimit r.pageSize)).toNat =
        (k + 1) * pageLimit r.pageSize :=
      UInt64.toNat_ofNat_of_lt (Nat.lt_of_le_of_lt hwindow hwidth)
    rw [PageToken.decode?_encode, Option.some.injEq] at h
    subst h
    show (UInt64.ofNat ((k + 1) * pageLimit r.pageSize)).toNat ≤ resultWindow
    rw [hoffset]
    exact hwindow
  · rw [PageToken.decode?_empty] at h
    cases h

/-! ## Walks -/

namespace IndexEngine

variable {σ : Type} {e : IndexEngine σ} {ctx : Context σ} {request : Request} {actor : Actor}

/--
In calm states nothing changes that the answers to a request depend on: the context holds, storage
lists the same spaces and finds the same base in them, and the backend answers every offset with the
slice of one ranked list and with the length of the list.  A search leads from a calm state to a
calm state.
-/
structure Steady (e : IndexEngine σ) (ctx : Context σ) (request : Request) (actor : Actor)
    (calm : σ → Prop) (permitted : List String) (base : Option String) (ranked : List Scored) :
    Prop where
  check : ∀ s, calm s → ∃ t, ctx.check.perform s = (.ok (), t) ∧ calm t
  lists : ∀ s, calm s → (e.storage s).listSpaces actor = .ok permitted
  /-- Where no space is selected, there is nothing to rank. -/
  nothing : selectSpaces permitted request.reference = [] → ranked = []
  finds : selectSpaces permitted request.reference ≠ [] → ∀ s, calm s →
    referencedPath (e.storage s) (selectSpaces permitted request.reference) request.reference =
      .ok base
  answers : selectSpaces permitted request.reference ≠ [] → ∀ s, calm s → ∀ offset,
    ∃ total t, total.toNat = ranked.length ∧
      (e.backend.search ctx (request.toBackend (selectSpaces permitted request.reference) base
        offset)).perform s =
          (.ok ⟨(ranked.drop offset).take (pageLimit request.pageSize), total⟩, t) ∧ calm t

/--
A walk through the pages: the request is sent with a token, and as long as the answer has a token,
sent again with that one.
-/
inductive Walk (e : IndexEngine σ) (ctx : Context σ) (request : Request) (actor : Actor) :
    σ → String → List Response → σ → Prop
  | last {s t : σ} {token : String} {response : Response}
      (h : (e.search ctx (request.atPage token) actor).perform s = (.ok response, t))
      (hend : response.nextToken = "") : Walk e ctx request actor s token [response] t
  | more {s t u : σ} {token : String} {response : Response} {pages : List Response}
      (h : (e.search ctx (request.atPage token) actor).perform s = (.ok response, t))
      (hmore : response.nextToken ≠ "")
      (hrest : Walk e ctx request actor t response.nextToken pages u) :
      Walk e ctx request actor s token (response :: pages) u

/-- There is one walk from a state and a token. -/
theorem Walk.unique {s u u' : σ} {token : String} {pages pages' : List Response}
    (h : e.Walk ctx request actor s token pages u)
    (h' : e.Walk ctx request actor s token pages' u') : pages' = pages ∧ u' = u := by
  induction h generalizing pages' u' with
  | last hsearch hend =>
    cases h' with
    | last hsearch' _ =>
      rw [hsearch] at hsearch'
      cases hsearch'
      exact ⟨rfl, rfl⟩
    | more hsearch' hmore _ =>
      rw [hsearch] at hsearch'
      cases hsearch'
      exact absurd hend hmore
  | more hsearch hmore _ ih =>
    cases h' with
    | last hsearch' hend =>
      rw [hsearch] at hsearch'
      cases hsearch'
      exact absurd hend hmore
    | more hsearch' _ hrest =>
      rw [hsearch] at hsearch'
      cases hsearch'
      obtain ⟨rfl, rfl⟩ := ih hrest
      exact ⟨rfl, rfl⟩

variable {calm : σ → Prop} {permitted : List String} {base : Option String} {ranked : List Scored}

theorem Steady.length_lt (h : e.Steady ctx request actor calm permitted base ranked) {s : σ}
    (hs : calm s) : ranked.length < UInt64.size := by
  by_cases hnone : selectSpaces permitted request.reference = []
  · rw [h.nothing hnone]
    decide
  · obtain ⟨total, _, htotal, _⟩ := h.answers hnone s hs 0
    rw [← htotal]
    exact total.toNat_lt

/-- A search in a calm state answers the page of the ranked list that its token names. -/
theorem search_steady (h : e.Steady ctx request actor calm permitted base ranked) {s : σ}
    (hs : calm s) {token : String} {offset : Nat}
    (htoken : PageToken.offsetFor request.fingerprint token = .ok offset) :
    ∃ t, calm t ∧ (e.search ctx (request.atPage token) actor).perform s =
      (.ok (request.pageOf ranked offset), t) := by
  obtain ⟨t, hcheck, ht⟩ := h.check s hs
  by_cases hnone : selectSpaces permitted request.reference = []
  · -- the answer is empty, as are all pages of an empty list
    have hpage : request.pageOf ranked offset = {} := by
      rw [h.nothing hnone]
      simp [Request.pageOf, Request.page, nextToken]
    exact ⟨t, ht, search_eq_ok_iff.2 ⟨t, offset, permitted, hcheck, htoken, h.lists t ht,
      .inl ⟨hnone, hpage, rfl⟩⟩⟩
  · obtain ⟨total, u, htotal, hanswer, hu⟩ := h.answers hnone t ht offset
    have hword : UInt64.ofNat ranked.length = total := by
      rw [← htotal, UInt64.ofNat_toNat]
    refine ⟨u, hu, search_eq_ok_iff.2 ⟨t, offset, permitted, hcheck, htoken, h.lists t ht,
      .inr ⟨hnone, base, _, h.finds hnone t ht, hanswer, ?_⟩⟩⟩
    rw [Request.pageOf, hword]
    rfl

/-- The token of a page is accepted and names the page after it. -/
theorem offsetFor_nextToken (h : e.Steady ctx request actor calm permitted base ranked) {s : σ}
    (hs : calm s) {k : Nat}
    (hmore : k + 1 < pageCount (pageLimit request.pageSize) ranked.length) :
    PageToken.offsetFor request.fingerprint
      (request.pageOf ranked (k * pageLimit request.pageSize)).nextToken =
        .ok ((k + 1) * pageLimit request.pageSize) := by
  rw [Request.nextToken_pageOf_mul (h.length_lt hs), if_pos hmore]
  exact PageToken.offsetFor_encode
    ((succ_lt_pageCount_iff (pageLimit_pos request.pageSize)).1 hmore).2 request.fingerprint

/-- The walk from a page on sees the pages from there to the last one. -/
theorem walk_steady (h : e.Steady ctx request actor calm permitted base ranked) (left : Nat)
    {s : σ} {token : String} {k : Nat} (hs : calm s)
    (hk : k + left + 1 = pageCount (pageLimit request.pageSize) ranked.length)
    (htoken : PageToken.offsetFor request.fingerprint token =
      .ok (k * pageLimit request.pageSize)) :
    ∃ u, e.Walk ctx request actor s token ((List.range' k (left + 1)).map fun i =>
      request.pageOf ranked (i * pageLimit request.pageSize)) u := by
  induction left generalizing s token k with
  | zero =>
    obtain ⟨t, _, hsearch⟩ := search_steady h hs htoken
    have hend : (request.pageOf ranked (k * pageLimit request.pageSize)).nextToken = "" := by
      rw [Request.nextToken_pageOf_mul (h.length_lt hs), if_neg (by omega)]
    exact ⟨t, Walk.last hsearch hend⟩
  | succ left ih =>
    obtain ⟨t, ht, hsearch⟩ := search_steady h hs htoken
    have hnext : k + 1 < pageCount (pageLimit request.pageSize) ranked.length := by omega
    have hmore : (request.pageOf ranked (k * pageLimit request.pageSize)).nextToken ≠ "" := by
      rw [Request.nextToken_pageOf_mul (h.length_lt hs), if_pos hnext]
      exact PageToken.encode_ne_empty _
    obtain ⟨u, hrest⟩ := ih ht (by omega) (offsetFor_nextToken h hs hnext)
    exact ⟨u, Walk.more hsearch hmore hrest⟩

/-- The walk from the first page sees the pages of the ranked list. -/
theorem exists_walk (h : e.Steady ctx request actor calm permitted base ranked) {s : σ}
    (hs : calm s) :
    ∃ u, e.Walk ctx request actor s ""
      ((List.range (pageCount (pageLimit request.pageSize) ranked.length)).map fun k =>
        request.pageOf ranked (k * pageLimit request.pageSize)) u := by
  have hpos := pageCount_pos (pageLimit request.pageSize) ranked.length
  have hfirst : PageToken.offsetFor request.fingerprint "" =
      .ok (0 * pageLimit request.pageSize) := by
    rw [Nat.zero_mul, PageToken.offsetFor_empty]
  have hwalk := walk_steady h (pageCount (pageLimit request.pageSize) ranked.length - 1)
    (k := 0) hs (by omega) hfirst
  rwa [Nat.sub_add_cancel hpos, ← List.range_eq_range'] at hwalk

/--
A walk from the first page ends.  Its pages are the slices of the ranked list, one after the other,
up to the end of the list or of the result window, and every page tells the length of the list.  A
token never leads beyond the window, and sent again it leads to the same page again.
-/
theorem walk_pages (h : e.Steady ctx request actor calm permitted base ranked) {s : σ}
    (hs : calm s) :
    ∃ pages u, e.Walk ctx request actor s "" pages u ∧
      (∀ pages' u', e.Walk ctx request actor s "" pages' u' → pages' = pages ∧ u' = u) ∧
      pages.length = pageCount (pageLimit request.pageSize) ranked.length ∧
      (∀ k (hk : k < pages.length),
        pages[k].hits = ((ranked.drop (k * pageLimit request.pageSize)).take
          (pageLimit request.pageSize)).map (fun (d, score) => Match.ofDocument d score) ∧
        pages[k].total = Int64.ofNat ranked.length ∧
        (ranked.length ≤ Int64.maxValue.toInt → pages[k].total.toInt = ranked.length)) ∧
      pages.flatMap (·.hits) = (ranked.take (min ranked.length (pageLimit request.pageSize *
        (resultWindow / pageLimit request.pageSize + 1)))).map
          (fun (d, score) => Match.ofDocument d score) ∧
      (∀ page ∈ pages, ∀ t, PageToken.decode? page.nextToken = some t →
        t.offset.toNat ≤ resultWindow) ∧
      ∀ k (hk : k < pages.length), pages[k].nextToken ≠ "" →
        ∃ next, pages[k + 1]? = some next ∧ ∀ s', calm s' →
          ∃ t, (e.search ctx (request.atPage pages[k].nextToken) actor).perform s' =
            (.ok next, t) := by
  obtain ⟨u, hwalk⟩ := exists_walk h hs
  refine ⟨_, u, hwalk, fun _ _ hwalk' => hwalk.unique hwalk', ?_, ?_, ?_, ?_, ?_⟩
  · rw [List.length_map, List.length_range]
  · intro k hk
    rw [List.getElem_map, List.getElem_range]
    exact ⟨rfl, rfl, toInt_total⟩
  · rw [← take_pageCount ranked (pageLimit_pos request.pageSize), ← flatMap_pages,
      List.flatMap_map, List.map_flatMap]
    rfl
  · intro page hpage t ht
    obtain ⟨k, -, rfl⟩ := List.mem_map.1 hpage
    exact Request.offset_nextToken_le (h.length_lt hs) ht
  · intro k hk hmore
    rw [List.getElem_map, List.getElem_range] at hmore ⊢
    have hnext := Request.succ_lt_of_nextToken (h.length_lt hs) hmore
    refine ⟨request.pageOf ranked ((k + 1) * pageLimit request.pageSize), ?_, fun s' hs' => ?_⟩
    · rw [List.getElem?_map, List.getElem?_range hnext]
      rfl
    · obtain ⟨t, _, hsearch⟩ := search_steady h hs' (offsetFor_nextToken h hs hnext)
      exact ⟨t, hsearch⟩

end IndexEngine

/-! ## Walks over an embedded index -/

namespace Installation

variable {σ : Type} {I : Installation σ} {ctx : Context σ} {request : Request} {actor : Actor}
  {permitted : List String} {base : Option String} {ranked : List Scored}

/--
As long as nobody writes to an embedded index, and storage stays as it is, the answers to a request
are steady.
-/
theorem steady (hctx : I.Quiet ctx) (hcheck : ∀ s, ∃ t, ctx.check.perform s = (.ok (), t)) {s : σ}
    (hpermitted : (I.storage s).listSpaces actor = .ok permitted)
    (hsome : IndexEngine.selectSpaces permitted request.reference ≠ [])
    (hbase : IndexEngine.referencedPath (I.storage s)
      (IndexEngine.selectSpaces permitted request.reference) request.reference = .ok base)
    (hranked : (I.documents s).ranked (request.toBackend
      (IndexEngine.selectSpaces permitted request.reference) base 0) = .ok ranked)
    (hsize : ranked.length < UInt64.size) :
    I.engine.Steady ctx request actor (I.Calm s) permitted base ranked where
  check t ht := by
    obtain ⟨u, hu⟩ := hcheck t
    exact ⟨u, hu, ht.trans (check_calm hctx hu)⟩
  lists t ht := by
    show (I.storage t).listSpaces actor = _
    rw [ht.storage, hpermitted]
  nothing hnone := absurd hnone hsome
  finds _ t ht := by
    show IndexEngine.referencedPath (I.storage t) _ _ = _
    rw [ht.storage, hbase]
  answers _ t ht offset := by
    obtain ⟨u, hu⟩ := hcheck t
    have hcalm := ht.trans (check_calm hctx hu)
    have hdocs : I.documents u = I.documents s := hcalm.view
    have hfound := (Collection.search_eq_ok_iff
      (q := request.toBackend (IndexEngine.selectSpaces permitted request.reference) base offset)
      hsome (Nat.ne_of_gt (pageLimit_pos request.pageSize))).2 ⟨ranked, hranked, rfl⟩
    refine ⟨UInt64.ofNat ranked.length, u, UInt64.toNat_ofNat_of_lt hsize, ?_, hcalm⟩
    show (I.backend.search ctx _).perform t = _
    rw [search_of_check hu, hdocs, hfound]
    rfl

/-- A state with three notes of one tenant. -/
def threeNotes : Shelf where
  view := (∅ : Collection).placeAll (["1", "2", "3"].map fun item =>
    { aliceReport with item := item })
  storage := { (default : Storage) with listSpaces := fun _ => .ok ["alice"] }

/-- A search for everything, two matches a page. -/
def twoByTwo : Request := { query := "", pageSize := 2 }

/-- Three notes are seen on two pages. -/
theorem walk_threeNotes :
    ∃ (ranked : List Scored) (pages : List Response) (t : Shelf),
      (Shelf.installation .basic 1).engine.Walk .background twoByTwo alice threeNotes "" pages t ∧
      ranked.length = 3 ∧ pages.length = 2 ∧
      pages.flatMap (·.hits) = ranked.map fun (d, score) => Match.ofDocument d score := by
  have hblank : textCriterion (Text.trim twoByTwo.query) = .ok .everything :=
    textCriterion_of_blank (by decide)
  obtain ⟨ranked, hranked⟩ := Collection.exists_ranked threeNotes.view
    (q := twoByTwo.toBackend ["alice"] none 0) hblank
  have hlength : ranked.length = 3 := by
    have hselected : (threeNotes.view.toList.filter fun d =>
      (twoByTwo.toBackend ["alice"] none 0).Selects d).length = 3 := by decide +kernel
    rw [← hselected, ← (Collection.ranked_perm hranked).length_eq, List.length_map]
  have hsteady : (Shelf.installation .basic 1).engine.Steady .background twoByTwo alice
      ((Shelf.installation .basic 1).Calm threeNotes) ["alice"] none ranked :=
    steady quiet_background (fun s => ⟨s, rfl⟩) rfl (List.cons_ne_nil _ _) rfl hranked
      (by rw [hlength]; decide)
  obtain ⟨pages, t, hwalk, _, hpages, _, hhits, _⟩ :=
    IndexEngine.walk_pages hsteady (Calm.refl threeNotes)
  have htake : ranked.take (min ranked.length (pageLimit twoByTwo.pageSize *
      (resultWindow / pageLimit twoByTwo.pageSize + 1))) = ranked := by
    refine List.take_of_length_le ?_
    rw [hlength]
    decide
  rw [htake] at hhits
  rw [hlength] at hpages
  exact ⟨ranked, pages, t, hwalk, hlength, hpages, hhits⟩

end Installation

end ScopedSearch
