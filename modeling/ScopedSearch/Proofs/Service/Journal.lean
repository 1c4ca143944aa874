import ScopedSearch.Proofs.Identity.Token
import ScopedSearch.Proofs.Search.Memo
import ScopedSearch.Proofs.Search.Visibility
import ScopedSearch.Service
import ScopedSearch.Storage.Memory

/-!
# Where the answers of a service come from

A search through the service ends in one of three ways: the token is rejected, the answer is found
in the cache, or the engine is asked.  To tell them apart from outside, the engine keeps a journal:
every call of its search is noted with what was asked, for whom, what came of it, and when.

Whatever else happens to the index, to storage and to the clock between the searches, each entry of
the cache is then the outcome of one call in the journal, stored when the call had been answered.
So what the service answers is what the engine answers now or answered less than one time to live
ago.

## Main results

* `Service.search_of_rejected`, `Service.search_of_found`, `Service.search_of_answered`,
  `Service.search_of_failed`: the ways in which a search ends.
* `Observed.sound_of_reached`: the entries of the cache are outcomes of calls.
* `Observed.search_authenticated_and_fresh`: what a search through the service does, in every run.
-/

namespace ScopedSearch

variable {σ : Type} {ctx : Context σ} {request : Request} {token : String} {actor : Actor}

/-! ## The ways in which a search ends -/

namespace Service

variable {S : Service σ} {s t u : σ} {response : Response} {fault : Fault}

/-- A token that is rejected ends the search. -/
theorem search_of_rejected (h : (S.identify token).perform s = (.error fault, t)) :
    (S.search ctx request token).perform s =
      (.ok (.error ⟨.unauthenticated, fault.message⟩), t) := by
  simp only [search, Op.perform_bind, Op.perform_outcome, h]
  rfl

/-- The cache after it has been asked, where the token names an actor. -/
def askCache (S : Service σ) (request : Request) (actor : Actor) (t : σ) : σ :=
  S.cache.put ((S.cache.get t).get? (S.now t) (CacheKey.of request actor)).2 t

/-- What the cache has for an actor. -/
def cached? (S : Service σ) (request : Request) (actor : Actor) (t : σ) : Option Response :=
  ((S.cache.get t).get? (S.now t) (CacheKey.of request actor)).1

/-- What is found in the cache is the answer. -/
theorem search_of_found (h : (S.identify token).perform s = (.ok actor, t))
    (hfound : S.cached? request actor t = some response) :
    (S.search ctx request token).perform s =
      (.ok (.ok response), S.askCache request actor t) := by
  simp only [cached?] at hfound
  simp only [search, Op.perform_bind, Op.perform_outcome, h, Op.perform_read, Part.modify,
    Op.perform_change, hfound]
  rfl

/-- What the engine answers is the answer, and it is stored. -/
theorem search_of_answered (h : (S.identify token).perform s = (.ok actor, t))
    (hmissing : S.cached? request actor t = none)
    (hasked : (S.engine.search ctx request actor).perform (S.askCache request actor t) =
      (.ok response, u)) :
    (S.search ctx request token).perform s =
      (.ok (.ok response), S.cache.put
        ((S.cache.get u).put (S.now u) (CacheKey.of request actor) response) u) := by
  simp only [cached?] at hmissing
  simp only [askCache] at hasked
  simp only [search, Op.perform_bind, Op.perform_outcome, h, Op.perform_read, Part.modify,
    Op.perform_change, hmissing, hasked]
  rfl

/-- A fault of the engine is the answer, and nothing is stored. -/
theorem search_of_failed (h : (S.identify token).perform s = (.ok actor, t))
    (hmissing : S.cached? request actor t = none)
    (hasked : (S.engine.search ctx request actor).perform (S.askCache request actor t) =
      (.error fault, u)) :
    (S.search ctx request token).perform s = (.ok (.error (searchFault fault)), u) := by
  simp only [cached?] at hmissing
  simp only [askCache] at hasked
  simp only [search, Op.perform_bind, Op.perform_outcome, h, Op.perform_read, Part.modify,
    Op.perform_change, hmissing, hasked]
  rfl

end Service

/-! ## The journal -/

/-- One search that the engine was asked for. -/
structure Call where
  request : Request
  actor : Actor
  outcome : Except Fault Response
  /-- Milliseconds on the clock when the engine had answered. -/
  answeredAt : Nat
  /-- Storage as it was then. -/
  storage : Storage

/-- The engine with its searches noted in a piece of the state. -/
def Engine.journaled (e : Engine σ) (journal : Part σ (List Call)) (now : σ → Nat)
    (storage : σ → Storage) : Engine σ :=
  { e with
    search := fun ctx request actor => do
      let outcome ← (e.search ctx request actor).outcome
      let call ← Op.read fun s => ⟨request, actor, outcome, now s, storage s⟩
      journal.modify (· ++ [call])
      Op.ofExcept outcome }

/-- From one state to another one the cache and the journal stay, and the clock does not go back. -/
structure Service.Aside (S : Service σ) (journal : Part σ (List Call)) (s t : σ) : Prop where
  cache : S.cache.get t = S.cache.get s
  journal : journal.get t = journal.get s
  now : S.now s ≤ S.now t

namespace Service.Aside

variable {S : Service σ} {journal : Part σ (List Call)} {s t u : σ}

theorem refl (s : σ) : S.Aside journal s s := ⟨rfl, rfl, Nat.le_refl _⟩

theorem trans (h : S.Aside journal s t) (h' : S.Aside journal t u) : S.Aside journal s u :=
  ⟨h'.cache.trans h.cache, h'.journal.trans h.journal, Nat.le_trans h.now h'.now⟩

end Service.Aside

/-- A service with a place for the journal, and the pieces of the state apart from each other. -/
structure Observed (σ : Type) where
  /-- The service, its engine not yet journaled. -/
  service : Service σ
  journal : Part σ (List Call)
  cache_put_journal : ∀ j s, service.cache.get (journal.put j s) = service.cache.get s
  journal_put_cache : ∀ c s, journal.get (service.cache.put c s) = journal.get s
  now_put_cache : ∀ c s, service.now (service.cache.put c s) = service.now s
  now_put_journal : ∀ j s, service.now (journal.put j s) = service.now s
  /-- The contexts in which searches are made. -/
  admits : Context σ → Prop
  /-- To find out who is behind a token moves neither cache nor journal. -/
  identify_aside : ∀ token s, service.Aside journal s ((service.identify token).perform s).2
  /-- Nor does a search of the engine, before its call is noted. -/
  search_aside : ∀ ctx, admits ctx → ∀ request actor s,
    service.Aside journal s ((service.engine.search ctx request actor).perform s).2

attribute [simp] Observed.cache_put_journal Observed.journal_put_cache Observed.now_put_cache
  Observed.now_put_journal

namespace Observed

variable (O : Observed σ)

/-- The cache of the service. -/
def cache : Part σ ResultCache := O.service.cache

/-- The clock of the service. -/
def now : σ → Nat := O.service.now

/-- From one state to another one the cache and the journal stay, and the clock does not go back. -/
def Aside (s t : σ) : Prop := O.service.Aside O.journal s t

/-- The service over the engine that keeps the journal. -/
def journaled : Service σ :=
  { O.service with
    engine := O.service.engine.journaled O.journal O.service.now O.service.storage }

/-- A search through the service, with the call of the engine noted if there is one. -/
def search (ctx : Context σ) (request : Request) (token : String) :
    Op σ (Except ServiceFault Response) := O.journaled.search ctx request token

/--
The states of the runs that start with an empty cache of some capacity: by searches for anyone, and
by steps that do anything else, which lets time pass.
-/
inductive Reached (lifetime : Nat) : σ → Prop
  | start {s : σ} {capacity : Nat} (hcache : O.cache.get s = .empty lifetime capacity)
      (hjournal : O.journal.get s = []) : Reached lifetime s
  | search {s : σ} {ctx : Context σ} (h : Reached lifetime s) (hctx : O.admits ctx)
      (request : Request) (token : String) :
      Reached lifetime ((O.search ctx request token).perform s).2
  | aside {s t : σ} (h : Reached lifetime s) (haside : O.Aside s t) : Reached lifetime t

/-- The engine, asked in a context that is admitted, gave the outcome of the call at its time. -/
def Answers (O : Observed σ) (call : Call) : Prop :=
  ∃ ctx s t, O.admits ctx ∧
    (O.service.engine.search ctx call.request call.actor).perform s = (call.outcome, t) ∧
    call.answeredAt = O.now t ∧ call.storage = O.service.storage t

/-- Every entry of the cache is the outcome of a call, stored when the call had been answered. -/
structure Sound (lifetime : Nat) (s : σ) : Prop where
  lifetime : (O.cache.get s).lifetime = lifetime
  stored : ∀ e ∈ (O.cache.get s).entries, ∃ call ∈ O.journal.get s,
    CacheKey.of call.request call.actor = e.key ∧ call.outcome = .ok e.value ∧
      call.answeredAt = e.storedAt
  answered : ∀ call ∈ O.journal.get s, O.Answers call
  past : ∀ call ∈ O.journal.get s, call.answeredAt ≤ O.now s

/-- A response that the cache had, in the step from `s` to `u`. -/
structure FromCache (lifetime : Nat) (request : Request) (actor : Actor) (response : Response)
    (s u : σ) : Prop where
  /-- The engine is not called. -/
  journal : O.journal.get u = O.journal.get s
  /-- An earlier call for the same identity had the same outcome, less than a lifetime ago. -/
  origin : ∃ call ∈ O.journal.get s, O.Answers call ∧ call.request = request ∧
    call.actor.id = actor.id ∧ call.outcome = .ok response ∧ call.answeredAt ≤ O.now u ∧
    O.now u < call.answeredAt + lifetime
  /-- No entry is put in or stored anew. -/
  entries : ∀ e ∈ (O.cache.get u).entries, e ∈ (O.cache.get s).entries

/-- A reply that comes from one call of the engine, in the step from `s` to `u`. -/
structure FromEngine (request : Request) (actor : Actor) (reply : Except ServiceFault Response)
    (s u : σ) : Prop where
  call : ∃ call, O.journal.get u = O.journal.get s ++ [call] ∧ O.Answers call ∧
    call.request = request ∧ call.actor = actor ∧ call.answeredAt = O.now u ∧
    reply = call.outcome.mapError Service.searchFault
  /-- Only a response is stored. -/
  entries : ∀ e ∈ (O.cache.get u).entries, e ∈ (O.cache.get s).entries ∨
    ∃ response, reply = .ok response ∧ e = ⟨CacheKey.of request actor, O.now u, response⟩

variable {O} {s t u : σ} {lifetime : Nat} {response : Response}

theorem identify_aside_of {r : Except Fault Actor}
    (h : (O.service.identify token).perform s = (r, t)) : O.Aside s t := by
  have haside := O.identify_aside token s
  rw [h] at haside
  exact haside

theorem Sound.aside (h : O.Sound lifetime s) (haside : O.Aside s t) : O.Sound lifetime t where
  lifetime := by
    rw [Observed.cache, haside.cache]
    exact h.lifetime
  stored := by
    rw [Observed.cache, haside.cache, haside.journal]
    exact h.stored
  answered := by
    rw [haside.journal]
    exact h.answered
  past call hcall := by
    rw [haside.journal] at hcall
    exact Nat.le_trans (h.past call hcall) haside.now

/-- To ask the cache keeps it sound. -/
theorem Sound.askCache (h : O.Sound lifetime s) (request : Request) (actor : Actor) :
    O.Sound lifetime (O.service.askCache request actor s) where
  lifetime := by
    rw [Observed.cache, Service.askCache, Part.get_put, Memo.lifetime_get?]
    exact h.lifetime
  stored e he := by
    rw [Observed.cache, Service.askCache, Part.get_put] at he
    rw [Service.askCache, journal_put_cache]
    exact h.stored e (Memo.mem_entries_of_get? he)
  answered := by
    rw [Service.askCache, journal_put_cache]
    exact h.answered
  past := by
    rw [Service.askCache, journal_put_cache, Observed.now, now_put_cache]
    exact h.past

theorem mem_entries_of_askCache {e : CacheEntry CacheKey Response}
    (h : e ∈ (O.cache.get (O.service.askCache request actor s)).entries) :
    e ∈ (O.cache.get s).entries := by
  rw [Observed.cache, Service.askCache, Part.get_put] at h
  exact Memo.mem_entries_of_get? h

/-- To store the outcome of a call that has just been answered keeps the cache sound. -/
theorem Sound.store (h : O.Sound lifetime s) {call : Call} (hcall : call ∈ O.journal.get s)
    (hnow : call.answeredAt = O.now s) (houtcome : call.outcome = .ok response) :
    O.Sound lifetime (O.cache.put ((O.cache.get s).put (O.now s)
      (CacheKey.of call.request call.actor) response) s) where
  lifetime := by
    rw [Part.get_put, Memo.lifetime_put]
    exact h.lifetime
  stored e he := by
    rw [Part.get_put] at he
    rw [Observed.cache, journal_put_cache]
    rcases Memo.mem_entries_of_put he with rfl | hbefore
    · exact ⟨call, hcall, rfl, houtcome, hnow⟩
    · exact h.stored e hbefore
  answered := by
    rw [Observed.cache, journal_put_cache]
    exact h.answered
  past := by
    rw [Observed.cache, journal_put_cache, Observed.now, now_put_cache]
    exact h.past

/-- Storing puts in one entry, which says when it was stored; the clock stands still meanwhile. -/
theorem mem_entries_of_store {k : CacheKey} {e : CacheEntry CacheKey Response}
    (h : e ∈ (O.cache.get (O.cache.put
      ((O.cache.get s).put (O.now s) k response) s)).entries) :
    e = ⟨k, O.now (O.cache.put ((O.cache.get s).put (O.now s) k response) s), response⟩ ∨
      e ∈ (O.cache.get s).entries := by
  rw [Part.get_put] at h
  have hnow : O.now (O.cache.put ((O.cache.get s).put (O.now s) k response) s) = O.now s :=
    O.now_put_cache _ s
  rw [hnow]
  exact Memo.mem_entries_of_put h

/-- What is found in a sound cache is the outcome of a call less than a lifetime ago. -/
theorem Sound.origin (h : O.Sound lifetime s)
    (hfound : O.service.cached? request actor s = some response) :
    ∃ call ∈ O.journal.get s, O.Answers call ∧ call.request = request ∧
      call.actor.id = actor.id ∧ call.outcome = .ok response ∧ call.answeredAt ≤ O.now s ∧
      O.now s < call.answeredAt + lifetime := by
  obtain ⟨e, he, hkey, rfl, hfresh⟩ := Memo.exists_entry_of_get? hfound
  obtain ⟨call, hcall, hcallKey, houtcome, hat⟩ := h.stored e he
  obtain ⟨hrequest, hactor⟩ := CacheKey.of_eq_iff.1 (hcallKey.trans hkey)
  refine ⟨call, hcall, h.answered call hcall, hrequest, hactor, houtcome, h.past call hcall, ?_⟩
  have hlifetime : (O.service.cache.get s).lifetime = lifetime := h.lifetime
  rw [hlifetime] at hfresh
  rwa [hat]

/-! ## A call of the engine -/

/-- From `s` to `u` the engine has been called once. -/
structure Calls (O : Observed σ) (call : Call) (s u : σ) : Prop where
  answers : O.Answers call
  journal : O.journal.get u = O.journal.get s ++ [call]
  cache : O.cache.get u = O.cache.get s
  later : O.now s ≤ O.now u
  answeredAt : call.answeredAt = O.now u

theorem Calls.mem {call : Call} (h : O.Calls call s u) : call ∈ O.journal.get u := by
  rw [h.journal]
  exact List.mem_append_right _ (List.mem_singleton.2 rfl)

theorem Calls.sound {call : Call} (hcall : O.Calls call s u) (h : O.Sound lifetime s) :
    O.Sound lifetime u where
  lifetime := by
    rw [hcall.cache]
    exact h.lifetime
  stored e he := by
    rw [hcall.cache] at he
    obtain ⟨before, hbefore, hsame⟩ := h.stored e he
    refine ⟨before, ?_, hsame⟩
    rw [hcall.journal]
    exact List.mem_append_left _ hbefore
  answered before hbefore := by
    rw [hcall.journal, List.mem_append, List.mem_singleton] at hbefore
    rcases hbefore with hbefore | rfl
    · exact h.answered before hbefore
    · exact hcall.answers
  past before hbefore := by
    rw [hcall.journal, List.mem_append, List.mem_singleton] at hbefore
    rcases hbefore with hbefore | rfl
    · exact Nat.le_trans (h.past before hbefore) hcall.later
    · exact Nat.le_of_eq hcall.answeredAt

/-- The journaled engine answers as the engine does, and notes the call. -/
theorem search_journaled {outcome : Except Fault Response}
    (h : (O.service.engine.search ctx request actor).perform s = (outcome, t)) :
    (O.journaled.engine.search ctx request actor).perform s =
      (outcome, O.journal.put (O.journal.get t ++
        [⟨request, actor, outcome, O.now t, O.service.storage t⟩]) t) := by
  simp only [journaled, Engine.journaled, Op.perform_bind, Op.perform_outcome, h,
    Op.perform_read, Part.modify, Op.perform_change, Op.perform_ofExcept]
  rfl

/-- A search of the journaled engine is one call. -/
theorem exists_call (hctx : O.admits ctx) (request : Request) (actor : Actor) (s : σ) :
    ∃ call u, (O.journaled.engine.search ctx request actor).perform s = (call.outcome, u) ∧
      call.request = request ∧ call.actor = actor ∧ O.Calls call s u := by
  have haside := O.search_aside ctx hctx request actor s
  rcases hasked : (O.service.engine.search ctx request actor).perform s with ⟨outcome, t⟩
  rw [hasked] at haside
  refine ⟨⟨request, actor, outcome, O.now t, O.service.storage t⟩, _, search_journaled hasked,
    rfl, rfl, ⟨ctx, s, t, hctx, hasked, rfl, rfl⟩, ?_, ?_, ?_, ?_⟩
  · rw [Part.get_put, haside.journal]
  · rw [Observed.cache, cache_put_journal, haside.cache]
  · rw [Observed.now, now_put_journal]
    exact haside.now
  · rw [Observed.now, now_put_journal]

/-! ## A search through the service -/

/-- Where the cache has a response for the actor, this is the reply. -/
theorem search_of_cached (h : O.Sound lifetime s) (ctx : Context σ)
    (hidentify : (O.service.identify token).perform s = (.ok actor, t))
    (hfound : O.service.cached? request actor t = some response) :
    ∃ u, (O.search ctx request token).perform s = (.ok (.ok response), u) ∧
      O.Sound lifetime u ∧ O.FromCache lifetime request actor response s u := by
  have haside : O.Aside s t := identify_aside_of hidentify
  have ht : O.Sound lifetime t := h.aside haside
  refine ⟨_, Service.search_of_found hidentify hfound, ht.askCache request actor, ?_, ?_, ?_⟩
  · exact (O.journal_put_cache _ t).trans haside.journal
  · have horigin := ht.origin hfound
    rw [haside.journal] at horigin
    have hnow : O.now (O.journaled.askCache request actor t) = O.now t := O.now_put_cache _ t
    rwa [hnow]
  · intro e he
    have hmem : e ∈ (O.cache.get t).entries := mem_entries_of_askCache he
    rw [Observed.cache, haside.cache] at hmem
    exact hmem

/-- Where the cache has nothing for the actor, the reply comes from one call. -/
theorem search_of_missing (h : O.Sound lifetime s) (hctx : O.admits ctx)
    (hidentify : (O.service.identify token).perform s = (.ok actor, t))
    (hmissing : O.service.cached? request actor t = none) :
    ∃ reply u, (O.search ctx request token).perform s = (.ok reply, u) ∧ O.Sound lifetime u ∧
      O.FromEngine request actor reply s u := by
  have haside : O.Aside s t := identify_aside_of hidentify
  obtain ⟨call, u, hcalled, hrequest, hactor, hcall⟩ :=
    exists_call hctx request actor (O.service.askCache request actor t)
  have hu := hcall.sound ((h.aside haside).askCache request actor)
  have hjournal : O.journal.get u = O.journal.get s ++ [call] := by
    rw [hcall.journal, Service.askCache, journal_put_cache, haside.journal]
  have hold : ∀ e ∈ (O.cache.get u).entries, e ∈ (O.cache.get s).entries := by
    intro e he
    rw [hcall.cache] at he
    have hmem := mem_entries_of_askCache he
    rw [Observed.cache, haside.cache] at hmem
    exact hmem
  cases houtcome : call.outcome with
  | error fault =>
    rw [houtcome] at hcalled
    refine ⟨_, u, Service.search_of_failed hidentify hmissing hcalled, hu, ?_, ?_⟩
    · exact ⟨call, hjournal, hcall.answers, hrequest, hactor, hcall.answeredAt,
        by rw [houtcome]; rfl⟩
    · exact fun e he => .inl (hold e he)
  | ok response =>
    rw [houtcome] at hcalled
    have hstore := hu.store hcall.mem hcall.answeredAt houtcome
    rw [hrequest, hactor] at hstore
    refine ⟨_, _, Service.search_of_answered hidentify hmissing hcalled, hstore, ?_, ?_⟩
    · exact ⟨call, (O.journal_put_cache _ u).trans hjournal, hcall.answers, hrequest, hactor,
        hcall.answeredAt.trans (O.now_put_cache _ u).symm, by rw [houtcome]; rfl⟩
    · intro e he
      rcases mem_entries_of_store he with rfl | hbefore
      · exact .inr ⟨response, rfl, rfl⟩
      · exact .inl (hold e hbefore)

/-- A search for a known actor is answered from the cache or by one call, and the cache is sound. -/
theorem search_of_identified (h : O.Sound lifetime s) (hctx : O.admits ctx)
    (hidentify : (O.service.identify token).perform s = (.ok actor, t)) :
    ∃ reply u, (O.search ctx request token).perform s = (.ok reply, u) ∧ O.Sound lifetime u ∧
      ((∃ response, reply = .ok response ∧ O.FromCache lifetime request actor response s u) ∨
        O.FromEngine request actor reply s u) := by
  cases hfound : O.service.cached? request actor t with
  | some response =>
    obtain ⟨u, hrun, hsound, hfrom⟩ := search_of_cached h ctx hidentify hfound
    exact ⟨.ok response, u, hrun, hsound, .inl ⟨response, rfl, hfrom⟩⟩
  | none =>
    obtain ⟨reply, u, hrun, hsound, hfrom⟩ := search_of_missing h hctx hidentify hfound
    exact ⟨reply, u, hrun, hsound, .inr hfrom⟩

/-- In every run the entries of the cache are outcomes of calls. -/
theorem sound_of_reached (h : O.Reached lifetime s) : O.Sound lifetime s := by
  induction h with
  | start hcache hjournal =>
    refine ⟨?_, ?_, ?_, ?_⟩
    · rw [hcache]
      rfl
    · rw [hcache]
      exact fun e he => nomatch he
    · rw [hjournal]
      exact fun call hcall => nomatch hcall
    · rw [hjournal]
      exact fun call hcall => nomatch hcall
  | search h hctx request token ih =>
    rename_i s ctx
    rcases hidentify : (O.service.identify token).perform s with ⟨fault | actor, t⟩
    · have hrun : (O.search ctx request token).perform s = _ :=
        Service.search_of_rejected hidentify
      rw [hrun]
      exact ih.aside (identify_aside_of hidentify)
    · obtain ⟨reply, u, hrun, hsound, -⟩ := search_of_identified ih hctx hidentify
      rw [hrun]
      exact hsound
  | aside h haside ih => exact ih.aside haside

end Observed

/-! ## A service with nothing else beside it -/

/-- A state made of an index, storage, a cache, a clock and a journal, and of nothing else. -/
structure Desk where
  files : IndexFiles := {}
  view : Collection := ∅
  storage : MemoryStorage := {}
  cache : ResultCache
  clock : Nat := 0
  journal : List Call := []

namespace Desk

/-- The installation on a desk. -/
def installation : Installation Desk where
  handle := 1
  heap := Embedded.defaultHeap
  files := { get := files, put := fun f s => { s with files := f } }
  view := { get := view, put := fun c s => { s with view := c } }
  storage s := s.storage.toStorage
  extractor := .basic
  files_put_view _ _ := rfl
  view_put_files _ _ := rfl
  storage_put_files _ _ := rfl
  storage_put_view _ _ := rfl

/-- The service on a desk; the clock of the tokens counts whole seconds. -/
def service (m : TokenManager) : Service Desk where
  engine := installation.engine.toEngine
  identify token := do Op.ofExcept (m.actorOf ((← Op.read clock) / 1000) token)
  serviceActor := m.serviceActor
  storage s := s.storage.toStorage
  cache := { get := cache, put := fun c s => { s with cache := c } }
  now := clock

/-- Checking the context leaves the desk as it is. -/
def Still (ctx : Context Desk) : Prop := Op.Within Eq ctx.check

/-- In a still context a search of the engine leaves the desk as it is. -/
theorem search_still {ctx : Context Desk} (hctx : Still ctx) (request : Request) (actor : Actor)
    (s : Desk) : ((installation.engine.search ctx request actor).perform s).2 = s :=
  (Installation.engine_search_within (@rfl Desk) Eq.trans hctx request actor s).symm

/-- The service on a desk with its journal. -/
def observed (m : TokenManager) : Observed Desk where
  service := service m
  journal := { get := journal, put := fun j s => { s with journal := j } }
  cache_put_journal _ _ := rfl
  journal_put_cache _ _ := rfl
  now_put_cache _ _ := rfl
  now_put_journal _ _ := rfl
  admits := Still
  identify_aside _ s := Service.Aside.refl s
  search_aside ctx hctx request actor s := by
    rw [show (service m).engine.search = installation.engine.search from rfl,
      search_still hctx request actor s]
    exact Service.Aside.refl s

variable {m : TokenManager} {c : Claims} {s : Desk}

theorem still_background : Still Context.background := fun _ => rfl

/-- A token with the signature of the manager names the actor of its claims. -/
theorem identify_encode (hnow : (s.clock / 1000 : Nat) ≤ c.expiry)
    (hhigh : c.expiry ≤ Text.maxSigned) :
    ((service m).identify (Token.encode m.secret c)).perform s = (.ok c.actor, s) := by
  show (m.actorOf (s.clock / 1000) (Token.encode m.secret c), s) = _
  rw [TokenManager.actorOf_encode hnow hhigh]

end Desk

namespace Observed

variable {O : Observed σ} {s : σ} {lifetime : Nat}

/--
In every run, a search with a token that is rejected answers so and moves neither cache nor
journal.  With any other token, its reply is a response that an earlier call had less than a
lifetime ago, and the engine is not called, or its reply comes from one call made now.
-/
theorem search_authenticated_and_fresh (h : O.Reached lifetime s) (hctx : O.admits ctx)
    (request : Request) (token : String) :
    (∃ fault t, (O.service.identify token).perform s = (.error fault, t) ∧
      (O.search ctx request token).perform s =
        (.ok (.error ⟨.unauthenticated, fault.message⟩), t) ∧
      O.cache.get t = O.cache.get s ∧ O.journal.get t = O.journal.get s) ∨
    (∃ actor t reply u, (O.service.identify token).perform s = (.ok actor, t) ∧
      (O.search ctx request token).perform s = (.ok reply, u) ∧
      ((∃ response, reply = .ok response ∧ O.FromCache lifetime request actor response s u) ∨
        O.FromEngine request actor reply s u)) := by
  rcases hidentify : (O.service.identify token).perform s with ⟨fault | actor, t⟩
  · have haside : O.Aside s t := identify_aside_of hidentify
    exact .inl ⟨fault, t, rfl, Service.search_of_rejected hidentify, haside.cache,
      haside.journal⟩
  · obtain ⟨reply, u, hrun, -, hreply⟩ :=
      search_of_identified (sound_of_reached h) hctx hidentify
    exact .inr ⟨actor, t, reply, u, rfl, hrun, hreply⟩

/-- Claims of alice. -/
def aliceClaims : Claims := { subject := "alice", expiry := 4102444800 }

/-- The token of alice, with the secret of the manager. -/
def aliceToken : String := Token.encode "secret" aliceClaims

/-- The service on a desk with a manager of tokens. -/
def deskService : Observed Desk := Desk.observed { secret := "secret" }

/-- A search for a word. -/
def wordRequest : Request := { query := "hello", pageSize := 10 }

/-- A desk with an empty cache whose entries are good for a second. -/
def freshDesk : Desk := { cache := .empty 1000 16 }

/-- What the engine answers alice on the fresh desk, where there are no spaces. -/
def wordCall : Call := ⟨wordRequest, aliceClaims.actor, .ok {}, 0, freshDesk.storage.toStorage⟩

/-- The desk after that, at a time. -/
def answeredDesk (clock : Nat) : Desk where
  cache := (Memo.empty 1000 16).put 0 (CacheKey.of wordRequest aliceClaims.actor) {}
  journal := [wordCall]
  clock := clock

theorem identify_aliceToken {s : Desk} (hs : s.clock ≤ 999) :
    (deskService.service.identify aliceToken).perform s = (.ok aliceClaims.actor, s) := by
  have hexpiry : aliceClaims.expiry = 4102444800 := rfl
  exact Desk.identify_encode (by omega) (by decide)

/-- The first search on the fresh desk is answered by the engine. -/
theorem search_freshDesk :
    (deskService.search .background wordRequest aliceToken).perform freshDesk =
      (.ok (.ok {}), answeredDesk 0) := by
  have hmissing : deskService.journaled.cached? wordRequest aliceClaims.actor freshDesk = none :=
    rfl
  have hasked : (deskService.journaled.engine.search .background wordRequest
      aliceClaims.actor).perform
        (deskService.journaled.askCache wordRequest aliceClaims.actor freshDesk) =
      (.ok {}, { freshDesk with journal := [wordCall] }) := rfl
  have hrun : (deskService.search .background wordRequest aliceToken).perform freshDesk = _ :=
    Service.search_of_answered (identify_aliceToken (Nat.zero_le _)) hmissing hasked
  exact hrun

/-- After 999 milliseconds a search has the response of the call before, and makes none. -/
theorem search_again_on_desk : ∃ v,
    (deskService.search .background wordRequest aliceToken).perform (answeredDesk 999) =
        (.ok (.ok {}), v) ∧
      deskService.FromCache 1000 wordRequest aliceClaims.actor {} (answeredDesk 999) v := by
  have hreached : deskService.Reached 1000 (answeredDesk 999) := by
    have hstart : deskService.Reached 1000 freshDesk := .start rfl rfl
    have hanswered := hstart.search Desk.still_background wordRequest aliceToken
    rw [search_freshDesk] at hanswered
    exact hanswered.aside ⟨rfl, rfl, Nat.zero_le _⟩
  have hidentify : (deskService.service.identify aliceToken).perform (answeredDesk 999) =
      (.ok aliceClaims.actor, answeredDesk 999) := identify_aliceToken (Nat.le_refl _)
  have hcached : deskService.journaled.cached? wordRequest aliceClaims.actor (answeredDesk 999) =
      some {} := rfl
  have hfound : (deskService.search .background wordRequest aliceToken).perform
      (answeredDesk 999) = _ := Service.search_of_found hidentify hcached
  rcases search_authenticated_and_fresh hreached Desk.still_background wordRequest
    aliceToken with ⟨fault, t, hrejected, -⟩ | ⟨actor, t, reply, v, hactor, hrun, hreply⟩
  · rw [hidentify] at hrejected
    cases hrejected
  · rw [hidentify] at hactor
    cases hactor
    rw [hfound] at hrun
    cases hrun
    refine ⟨_, hfound, ?_⟩
    rcases hreply with ⟨response, hresponse, hcache⟩ | hengine
    · cases hresponse
      exact hcache
    · -- a call would stand in the journal
      obtain ⟨call, hjournal, -⟩ := hengine.call
      have hlength := congrArg List.length hjournal
      cases hlength

end Observed

end ScopedSearch
