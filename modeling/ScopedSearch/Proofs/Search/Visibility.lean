import ScopedSearch.Proofs.Index.Answers
import ScopedSearch.Proofs.Index.Installation
import ScopedSearch.Proofs.Path.Prefix
import ScopedSearch.Proofs.Search.Answering

/-!
# What a search shows

A search shows an actor the documents that the actor may see and that its request asks for, all of
them and no others.  Which documents these are is said here without the index: by the spaces that
storage lists for the actor, and by the space, the path, the trash flag and the text of the request.
So whatever else the index holds, in spaces that are hidden from the actor, changes neither the
documents that are found nor their number.

## Main results

* `findsExactly_shown`: a search finds exactly the documents that its request shows.
* `search_finds_exactly_shown`: the same of every search that succeeds, and of every other state in
  which the visible spaces hold the same documents.
-/

namespace ScopedSearch

/-- A request shows a document to an actor whom storage permits some spaces. -/
structure Request.Shows (r : Request) (permitted : List String) (d : Document) : Prop where
  permitted : d.space ∈ permitted
  /-- It stands in the space that is named, if one is. -/
  named : ∀ space ∈ r.reference.space, space ≠ "" → d.space = space
  /-- It stands at or below the path that is asked for. -/
  below : Path.segments (r.reference.path.getD "") <+: Path.segments d.path
  live : d.trashed = true → r.includeTrashed = true
  satisfies : d.satisfies (Text.trim r.query) = true

namespace Request

theorem shows_iff {r : Request} {permitted : List String} {d : Document} :
    r.Shows permitted d ↔ d.space ∈ permitted ∧
      (∀ space ∈ r.reference.space, space ≠ "" → d.space = space) ∧
      Path.segments (r.reference.path.getD "") <+: Path.segments d.path ∧
      (d.trashed = true → r.includeTrashed = true) ∧ d.satisfies (Text.trim r.query) = true :=
  ⟨fun h => ⟨h.permitted, h.named, h.below, h.live, h.satisfies⟩,
    fun ⟨h₁, h₂, h₃, h₄, h₅⟩ => ⟨h₁, h₂, h₃, h₄, h₅⟩⟩

instance (r : Request) (permitted : List String) (d : Document) :
    Decidable (r.Shows permitted d) :=
  decidable_of_iff _ shows_iff.symm

/-- The documents of an index that a request shows. -/
def shown (r : Request) (permitted : List String) (docs : Collection) : List Document :=
  docs.toList.filter fun d => r.Shows permitted d

/-- What a request asks of the backend covers by its path what lies below the base and its path. -/
theorem covers_toBackend_iff {r : Request} {spaces : List String} {base : Option String}
    {offset : Nat} {d : Document} :
    (∀ path ∈ (r.toBackend spaces base offset).pathScope, path ∈ d.ancestors) ↔
      Path.scopeSegments base r.reference.path <+: Path.segments d.path := by
  simp only [toBackend, Option.mem_def]
  exact Path.scope_covers_iff

/-- What a request asks of the backend selects the documents that the request shows. -/
theorem selects_toBackend_iff {r : Request} {permitted : List String} {offset : Nat}
    {d : Document} :
    (r.toBackend (IndexEngine.selectSpaces permitted r.reference) none offset).Selects d ↔
      r.Shows permitted d := by
  have hspace : d.space ∈ (r.toBackend (IndexEngine.selectSpaces permitted r.reference) none
      offset).spaces ↔ d.space ∈ permitted ∧
        ∀ space ∈ r.reference.space, space ≠ "" → d.space = space :=
    IndexEngine.mem_selectSpaces_iff
  rw [BackendQuery.selects_iff, hspace, shows_iff, covers_toBackend_iff, Path.scopeSegments_none]
  constructor
  · rintro ⟨hsatisfies, ⟨hpermitted, hnamed⟩, hpath, hlive⟩
    exact ⟨hpermitted, hnamed, hpath, hlive, hsatisfies⟩
  · rintro ⟨hpermitted, hnamed, hpath, hlive, hsatisfies⟩
    exact ⟨hsatisfies, ⟨hpermitted, hnamed⟩, hpath, hlive⟩

/-- A request that selects no space shows nothing. -/
theorem shown_eq_nil {r : Request} {permitted : List String} (docs : Collection)
    (h : IndexEngine.selectSpaces permitted r.reference = []) : r.shown permitted docs = [] := by
  rw [shown, List.filter_eq_nil_iff]
  intro d _ hshows
  have hshows : r.Shows permitted d := of_decide_eq_true hshows
  have hmem := IndexEngine.mem_selectSpaces_iff.2 ⟨hshows.permitted, hshows.named⟩
  rw [h] at hmem
  exact absurd hmem List.not_mem_nil

/-- The ranked list of the query of a request has the documents that the request shows. -/
theorem perm_shown_of_ranked {r : Request} {permitted : List String} {docs : Collection}
    {ranked : List Scored} (h : docs.ranked (r.toBackend
      (IndexEngine.selectSpaces permitted r.reference) none 0) = .ok ranked) :
    (ranked.map (·.1)).Perm (r.shown permitted docs) := by
  have hselects : (fun d : Document => decide ((r.toBackend
      (IndexEngine.selectSpaces permitted r.reference) none 0).Selects d)) =
      fun d => decide (r.Shows permitted d) :=
    funext fun d => decide_eq_decide.2 selects_toBackend_iff
  rw [shown, ← hselects]
  exact Collection.ranked_perm h

/-- Documents in spaces that are not permitted have no part in what a request shows. -/
theorem shown_congr {r : Request} {permitted : List String} {docs docs' : Collection}
    (h : ∀ d : Document, d.space ∈ permitted → (d ∈ docs'.toList ↔ d ∈ docs.toList)) :
    r.shown permitted docs' = r.shown permitted docs := by
  have hperm : (r.shown permitted docs').Perm (r.shown permitted docs) := by
    refine (List.perm_ext_iff_of_nodup (docs'.nodup_toList.filter _)
      (docs.nodup_toList.filter _)).2 fun d => ?_
    rw [List.mem_filter, List.mem_filter, decide_eq_true_iff]
    exact and_congr_left fun hshows => h d hshows.permitted
  refine hperm.eq_of_pairwise ?_ (docs'.sorted.filter _) (docs.sorted.filter _)
  intro d e _ _ hde hed
  exact absurd hed (String.lt_asymm hde)

end Request

namespace Installation

variable {σ : Type} (I : Installation σ) {ctx : Context σ} {request : Request} {actor : Actor}

/--
The documents are all that a request finds at a state: they make one ranked list, of which every
page that is answered is the slice at its offset, and every page tells how many they are.
-/
def FindsExactly (ctx : Context σ) (request : Request) (actor : Actor) (s : σ)
    (docs : List Document) : Prop :=
  ∃ ranked : List Scored, (ranked.map (·.1)).Perm docs ∧
    ∀ token response t,
      (I.engine.search ctx (request.atPage token) actor).perform s =
        (.ok response, t) →
      ∃ offset, PageToken.offsetFor request.fingerprint token = .ok offset ∧
        response.hits = ((ranked.drop offset).take (pageLimit request.pageSize)).map
          (fun (d, score) => Match.ofDocument d score) ∧
        response.total = Int64.ofNat docs.length ∧
        (docs.length ≤ Int64.maxValue.toInt → response.total.toInt = docs.length)

variable {I}

/-- A search of the engine does to the state what checking its context does. -/
theorem engine_search_within {R : σ → σ → Prop} (hrefl : ∀ s, R s s)
    (htrans : ∀ {s t u}, R s t → R t u → R s u) (hcheck : Op.Within R ctx.check)
    (request : Request) (actor : Actor) : Op.Within R (I.engine.search ctx request actor) :=
  IndexEngine.search_within hrefl htrans hcheck (search_within hrefl htrans hcheck)

/--
What a search over the index has done when it succeeds: no space is selected and the answer is
empty, or the documents of the index have been searched for the page, below the item that is
referred to.
-/
theorem search_engine_ok (hctx : I.Quiet ctx) {s t : σ} {permitted : List String}
    (hpermitted : (I.storage s).listSpaces actor = .ok permitted) {token : String}
    {response : Response}
    (h : (I.engine.search ctx (request.atPage token) actor).perform s = (.ok response, t)) :
    ∃ offset, PageToken.offsetFor request.fingerprint token = .ok offset ∧
      ((IndexEngine.selectSpaces permitted request.reference = [] ∧ response = {}) ∨
        (IndexEngine.selectSpaces permitted request.reference ≠ [] ∧ ∃ base found,
          IndexEngine.referencedPath (I.storage s)
            (IndexEngine.selectSpaces permitted request.reference) request.reference = .ok base ∧
          (I.documents s).search (request.toBackend
            (IndexEngine.selectSpaces permitted request.reference) base offset) = .ok found ∧
          response = request.page offset found)) := by
  obtain ⟨u, offset, permitted', hcheck, hoffset, hpermitted', hanswer⟩ :=
    IndexEngine.search_eq_ok_iff.1 h
  have hcalm : I.Calm s u := check_calm hctx hcheck
  have hstorage : I.engine.storage u = I.storage s := hcalm.storage
  rw [hstorage, hpermitted, Except.ok.injEq] at hpermitted'
  subst hpermitted'
  refine ⟨offset, hoffset, ?_⟩
  rcases hanswer with ⟨hnone, hresponse, _⟩ | ⟨hsome, base, found, hbase, hfound, hresponse⟩
  · exact .inl ⟨hnone, hresponse⟩
  · rw [hstorage] at hbase
    have hdocs := (search_ok hctx hfound).2
    rw [Installation.documents, hcalm.view] at hdocs
    exact .inr ⟨hsome, base, found, hbase, hdocs, hresponse⟩

/-- A search that succeeds has been listed the spaces, and has answered from the selected ones. -/
theorem search_listed (hctx : I.Quiet ctx) {s t : σ} {response : Response}
    (h : (I.engine.search ctx request actor).perform s = (.ok response, t)) :
    ∃ permitted, (I.storage s).listSpaces actor = .ok permitted ∧
      ((IndexEngine.selectSpaces permitted request.reference = [] ∧ response = {}) ∨
        (IndexEngine.selectSpaces permitted request.reference ≠ [] ∧ ∃ offset base found,
          IndexEngine.referencedPath (I.storage s)
            (IndexEngine.selectSpaces permitted request.reference) request.reference = .ok base ∧
          (I.documents s).search (request.toBackend
            (IndexEngine.selectSpaces permitted request.reference) base offset) = .ok found ∧
          response = request.page offset found)) := by
  obtain ⟨u, -, permitted, hcheck, -, hpermitted, -⟩ := IndexEngine.search_eq_ok_iff.1 h
  have hstorage : I.engine.storage u = I.storage s := (check_calm hctx hcheck).storage
  rw [hstorage] at hpermitted
  -- the request is for the page of its own token
  have h : (I.engine.search ctx (request.atPage request.pageToken) actor).perform s =
      (.ok response, t) := h
  obtain ⟨offset, -, hnone | ⟨hsome, base, found, hbase, hfound, hresponse⟩⟩ :=
    search_engine_ok hctx hpermitted h
  · exact ⟨permitted, hpermitted, .inl hnone⟩
  · exact ⟨permitted, hpermitted, .inr ⟨hsome, offset, base, found, hbase, hfound, hresponse⟩⟩

/-- A search succeeds when the documents of the index answer it. -/
theorem search_background {s : σ} {permitted : List String} {offset : Nat} {base : Option String}
    {found : Hits} (hpermitted : (I.storage s).listSpaces actor = .ok permitted)
    (hoffset : PageToken.offsetFor request.fingerprint request.pageToken = .ok offset)
    (hsome : IndexEngine.selectSpaces permitted request.reference ≠ [])
    (hbase : IndexEngine.referencedPath (I.storage s)
      (IndexEngine.selectSpaces permitted request.reference) request.reference = .ok base)
    (hfound : (I.documents s).search (request.toBackend
      (IndexEngine.selectSpaces permitted request.reference) base offset) = .ok found) :
    (I.engine.search .background request actor).perform s =
      (.ok (request.page offset found), s) := by
  refine IndexEngine.search_eq_ok_iff.2 ⟨s, offset, permitted, rfl, hoffset, hpermitted,
    .inr ⟨hsome, base, found, hbase, ?_, rfl⟩⟩
  exact (search_of_check rfl _).trans (Prod.ext (mapError_eq_ok_iff.2 hfound) rfl)

/-- An answer from the spaces that are selected is a slice of the ranked list of the query. -/
theorem search_slice (hctx : I.Quiet ctx) {s t : σ} {permitted : List String}
    (hpermitted : (I.storage s).listSpaces actor = .ok permitted)
    (hsome : IndexEngine.selectSpaces permitted request.reference ≠ [])
    (hbase : IndexEngine.referencedPath (I.storage s)
      (IndexEngine.selectSpaces permitted request.reference) request.reference = .ok none)
    {token : String} {response : Response}
    (h : (I.engine.search ctx (request.atPage token) actor).perform s = (.ok response, t)) :
    ∃ offset ranked, PageToken.offsetFor request.fingerprint token = .ok offset ∧
      (I.documents s).ranked (request.toBackend
        (IndexEngine.selectSpaces permitted request.reference) none 0) = .ok ranked ∧
      response = request.page offset ⟨(ranked.drop offset).take (pageLimit request.pageSize),
        UInt64.ofNat ranked.length⟩ := by
  obtain ⟨offset, hoffset, ⟨hnone, _⟩ | ⟨_, base, found, hbase', hfound, rfl⟩⟩ :=
    search_engine_ok hctx hpermitted h
  · exact absurd hnone hsome
  · rw [hbase, Except.ok.injEq] at hbase'
    subst hbase'
    obtain ⟨ranked, hranked, rfl⟩ := (Collection.search_eq_ok_iff hsome
      (Nat.ne_of_gt (pageLimit_pos request.pageSize))).1 hfound
    exact ⟨offset, ranked, hoffset, hranked, rfl⟩

/-- A search below no item finds exactly the documents that its request shows. -/
theorem findsExactly_of_base (hctx : I.Quiet ctx) {s : σ} {permitted : List String}
    (hpermitted : (I.storage s).listSpaces actor = .ok permitted)
    (hbase : IndexEngine.referencedPath (I.storage s)
      (IndexEngine.selectSpaces permitted request.reference) request.reference = .ok none) :
    I.FindsExactly ctx request actor s (request.shown permitted (I.documents s)) := by
  by_cases hnone : IndexEngine.selectSpaces permitted request.reference = []
  · -- no space is looked in, and nothing is shown
    rw [Request.shown_eq_nil (I.documents s) hnone]
    refine ⟨[], List.Perm.nil, fun token response t h => ?_⟩
    obtain ⟨offset, hoffset, ⟨_, rfl⟩ | ⟨hsome, _⟩⟩ := search_engine_ok hctx hpermitted h
    · exact ⟨offset, hoffset, by simp, rfl, toInt_total⟩
    · exact absurd hnone hsome
  · cases hranked : (I.documents s).ranked (request.toBackend
        (IndexEngine.selectSpaces permitted request.reference) none 0) with
    | error fault =>
      -- the query cannot be read, and no search succeeds
      refine ⟨(request.shown permitted (I.documents s)).map fun d => (d, 0), ?_, ?_⟩
      · rw [List.map_map]
        exact List.Perm.of_eq (List.map_id _)
      · intro token response t h
        obtain ⟨_, ranked, _, hok, _⟩ := search_slice hctx hpermitted hnone hbase h
        rw [hranked] at hok
        cases hok
    | ok ranked =>
      have hperm := Request.perm_shown_of_ranked hranked
      have hlength : ranked.length = (request.shown permitted (I.documents s)).length := by
        rw [← List.length_map (·.1)]
        exact hperm.length_eq
      refine ⟨ranked, hperm, fun token response t h => ?_⟩
      obtain ⟨offset, ranked', hoffset, hok, rfl⟩ := search_slice hctx hpermitted hnone hbase h
      rw [hranked, Except.ok.injEq] at hok
      subst hok
      rw [← hlength, Request.total_page]
      exact ⟨offset, hoffset, rfl, rfl, toInt_total⟩

/-- A search finds exactly the documents that its request shows. -/
theorem findsExactly_shown (hctx : I.Quiet ctx) (hitem : request.reference.item = none) {s : σ}
    {permitted : List String} (hpermitted : (I.storage s).listSpaces actor = .ok permitted) :
    I.FindsExactly ctx request actor s (request.shown permitted (I.documents s)) :=
  findsExactly_of_base hctx hpermitted (IndexEngine.referencedPath_of_item_eq_none hitem)

/--
A search that succeeds finds exactly the documents that its request shows, in the spaces that
storage lists for the actor.  Any other state in which storage lists the same spaces, and in which
these spaces hold the same documents, finds the same documents.
-/
theorem search_finds_exactly_shown (hctx : I.Quiet ctx) (hitem : request.reference.item = none)
    {s t : σ} {response : Response}
    (h : (I.engine.search ctx request actor).perform s = (.ok response, t)) :
    ∃ permitted, (I.storage s).listSpaces actor = .ok permitted ∧
      I.FindsExactly ctx request actor s (request.shown permitted (I.documents s)) ∧
      ∀ s', (I.storage s').listSpaces actor = .ok permitted →
        (∀ d : Document, d.space ∈ permitted →
          (d ∈ (I.documents s').toList ↔ d ∈ (I.documents s).toList)) →
        I.FindsExactly ctx request actor s' (request.shown permitted (I.documents s)) := by
  obtain ⟨u, offset, permitted, hcheck, _, hpermitted, _⟩ := IndexEngine.search_eq_ok_iff.1 h
  have hstorage : I.engine.storage u = I.storage s := (check_calm hctx hcheck).storage
  rw [hstorage] at hpermitted
  refine ⟨permitted, hpermitted, findsExactly_shown hctx hitem hpermitted, ?_⟩
  intro s' hpermitted' hsame
  rw [← Request.shown_congr hsame]
  exact findsExactly_shown hctx hitem hpermitted'

/-- A tenant. -/
def alice : Actor := ⟨"1", "alice", none, false⟩

/-- A report of the tenant. -/
def aliceReport : Document where
  space := "alice"
  item := "1"
  path := "/reports/q1.txt"
  name := "q1.txt"
  mimeType := "text/plain"
  size := 5
  mtime := 100
  content := "hello"

/-- A search for a word of the report. -/
def helloRequest : Request := { query := "hello", pageSize := 10 }

/-- A state with the report of the tenant and a copy of it that another tenant has. -/
def twoTenants : Shelf where
  view := (∅ : Collection).placeAll [aliceReport, { aliceReport with space := "bob" }]
  storage := { (default : Storage) with listSpaces := fun _ => .ok ["alice"] }

/-- Of two reports that answer, the actor finds the one that it may see. -/
theorem search_twoTenants :
    ∃ response t, ((Shelf.installation .basic 1).engine.search .background helloRequest
        alice).perform twoTenants = (.ok response, t) ∧
      (Shelf.installation .basic 1).FindsExactly .background helloRequest alice twoTenants
        [aliceReport] := by
  have hshown : helloRequest.shown ["alice"] twoTenants.view = [aliceReport] := by decide +kernel
  have hsatisfies : aliceReport.satisfies (Text.trim helloRequest.query) = true := by
    decide +kernel
  obtain ⟨c, hc⟩ := Document.exists_textCriterion hsatisfies
  obtain ⟨ranked, hranked⟩ := Collection.exists_ranked twoTenants.view
    (q := helloRequest.toBackend ["alice"] none 0) hc
  have hfound := (Collection.search_eq_ok_iff (q := helloRequest.toBackend ["alice"] none 0)
    (List.cons_ne_nil _ _) (by decide)).2 ⟨ranked, hranked, rfl⟩
  have h : ((Shelf.installation .basic 1).engine.search .background helloRequest alice).perform
      twoTenants = (.ok _, twoTenants) :=
    search_background rfl rfl (List.cons_ne_nil _ _) rfl hfound
  obtain ⟨permitted, hpermitted, hfinds, _⟩ :=
    search_finds_exactly_shown quiet_background rfl h
  have hlisted : ["alice"] = permitted := Except.ok.inj hpermitted
  subst hlisted
  exact ⟨_, _, h, hshown ▸ hfinds⟩

end Installation

end ScopedSearch
