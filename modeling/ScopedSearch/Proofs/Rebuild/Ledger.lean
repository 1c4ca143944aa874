import ScopedSearch.Proofs.Rebuild.Frame
import ScopedSearch.Proofs.Rebuild.Phases

/-!
# A ledger of writes

What an index holds after a rebuild does not tell how the rebuild has written it: all at once or in
batches, once or over and over.  So a ledger is kept here.  The backend notes every write that it is
asked for in a piece of the state of its own, and then does it.

Each operation of a rebuild has one lemma here, on the index and the ledger together.  What is said
of a document is how it is made of its resource, with an extractor that may answer otherwise every
time.

## Main results

* `get_spec`, `upsert_spec`, `flush_spec`: the operations of the backend.
* `prepare_spec`: what is prepared of a resource.
-/

namespace ScopedSearch

/-- The backend, with every write that it is asked for noted in a piece of the state. -/
def Backend.noting {σ : Type} (b : Backend σ) (journal : Part σ (List (List Document))) :
    Backend σ :=
  { b with
    upsert := fun ctx docs => do
      journal.modify (· ++ [docs])
      b.upsert ctx docs }

/-- The index has a document of the resource that is up to date. -/
def Contents.isCurrent (m : Contents) (r : Resource) : Bool := (m r.key).any (·.isCurrentFor r)

namespace Resource

variable {r : Resource} {old : Option Document}

/-- A resource is skipped exactly when its document is up to date. -/
theorem decided?_eq_skip_iff : r.decided? old = some .skip ↔ old.any (·.isCurrentFor r) = true := by
  cases old with
  | none => by_cases hdir : r.isDir = true <;> simp [decided?, hdir]
  | some d =>
    rw [Option.any_some]
    by_cases hcurrent : d.isCurrentFor r = true
    · simp [decided?, hcurrent]
    · by_cases hreusable : d.isReusableFor r = true
      · simp [decided?, hcurrent, hreusable]
      · by_cases hdir : r.isDir = true <;> simp [decided?, hcurrent, hreusable, hdir]

/-- A text that can be reused decides what a rebuild does. -/
theorem not_isReusableFor_of_undecided {d : Document} (h : r.decided? (some d) = none) :
    d.isReusableFor r = false := by
  unfold decided? at h
  grind

end Resource

/--
An installation that keeps a ledger: the writes that the backend is asked for, in a piece of the
state apart from the others.
-/
structure Ledger (σ : Type) extends Installation σ where
  /-- The writes so far, the first one first. -/
  journal : Part σ (List (List Document))
  files_put_journal : ∀ w s, files.get (journal.put w s) = files.get s
  view_put_journal : ∀ w s, view.get (journal.put w s) = view.get s
  storage_put_journal : ∀ w s, storage (journal.put w s) = storage s
  journal_put_files : ∀ f s, journal.get (files.put f s) = journal.get s
  journal_put_view : ∀ c s, journal.get (view.put c s) = journal.get s

namespace Ledger

variable {σ : Type} (L : Ledger σ)

/-- The engine whose backend keeps the ledger. -/
def noting : IndexEngine σ := ⟨L.backend.noting L.journal, L.storage, L.extractor⟩

/-- From `s` to `t` the index, storage and the ledger stay as they are. -/
structure Still (s t : σ) : Prop where
  calm : L.Calm s t
  journal : L.journal.get t = L.journal.get s

/-- From `s` to `t` the index comes to hold `c`, the ledger gets the writes, and storage stays. -/
structure Notes (s t : σ) (c : Collection) (writes : List (List Document)) : Prop where
  becomes : L.Becomes s t c
  journal : L.journal.get t = L.journal.get s ++ writes

/-- From `s` to `t` nothing is noted. -/
def Silent (s t : σ) : Prop := L.journal.get t = L.journal.get s

/-- Neither a check nor the extractor touches the index, storage or the ledger. -/
structure Unobtrusive (ctx : Context σ) : Prop where
  check : Op.Within L.Still ctx.check
  extract : ∀ r, Op.Within L.Still (L.extractor.tryExtract ctx r)

/--
The document is made of a resource, by the document that the index has of it: its text is taken over
where it still belongs to the file, a directory has an empty one, and any other is what the
extractor makes while storage is `S`.
-/
inductive Makes (ctx : Context σ) (S : Storage) (r : Resource) : Option Document → Document → Prop
  | reused {d : Document} (hreusable : d.isReusableFor r = true) :
    Makes ctx S r (some d) (r.toDocument d.content)
  | directory {old : Option Document} (hdir : r.isDir = true) : Makes ctx S r old (r.toDocument "")
  | extracted {old : Option Document} {s t : σ} {x : Extraction} (hdir : r.isDir = false)
    (hold : ∀ d ∈ old, d.isReusableFor r = false) (hs : L.storage s = S)
    (hrun : (L.extractor.extract ctx r).perform s = (.ok x, t)) :
    Makes ctx S r old (r.toDocument x.content x.degraded.isSome)

/-- A resource is skipped when its document is up to date; else a document is made of it. -/
def IsPrepared (ctx : Context σ) (S : Storage) (r : Resource) (old : Option Document) :
    IndexEngine.Prepared → Prop
  | .skip => old.any (·.isCurrentFor r) = true
  | .write d => old.any (·.isCurrentFor r) = false ∧ L.Makes ctx S r old d

variable {L} {s t u : σ} {c d : Collection} {writes more : List (List Document)}
  {docs : List Document} {ctx : Context σ} {space item : String}

theorem Still.refl (s : σ) : L.Still s s := ⟨Installation.Calm.refl s, rfl⟩

theorem Still.trans (h : L.Still s t) (h' : L.Still t u) : L.Still s u :=
  ⟨h.calm.trans h'.calm, h'.journal.trans h.journal⟩

theorem Silent.refl (s : σ) : L.Silent s s := rfl

theorem Silent.trans (h : L.Silent s t) (h' : L.Silent t u) : L.Silent s u := Eq.trans h' h

theorem Still.notes (h : L.Still s t) (hs : L.Settled s) : L.Notes s t (L.documents s) [] where
  becomes := h.calm.becomes hs
  journal := by rw [h.journal, List.append_nil]

theorem Notes.refl (hs : L.Settled s) : L.Notes s s (L.documents s) [] := (Still.refl s).notes hs

theorem Notes.trans (h : L.Notes s t c writes) (h' : L.Notes t u d more) :
    L.Notes s u d (writes ++ more) where
  becomes := h.becomes.trans h'.becomes
  journal := by rw [h'.journal, h.journal, List.append_assoc]

/-- A step that leaves everything as it is adds nothing to what has come before. -/
theorem Notes.still (h : L.Notes s t c writes) (h' : L.Still t u) : L.Notes s u c writes := by
  have hnothing := h.trans (h'.notes h.becomes.settled)
  rwa [h.becomes.documents, List.append_nil] at hnothing

theorem Unobtrusive.quiet (hctx : L.Unobtrusive ctx) : L.Quiet ctx := fun s => (hctx.check s).calm

/-! ## The backend -/

/-- Looking a document up finds what the index holds under its key, and leaves everything. -/
theorem get_spec (hctx : L.Unobtrusive ctx) {x : Except Fault (Option Document)}
    (h : (L.backend.get ctx space item).perform s = (x, t)) :
    L.Still s t ∧
      ∀ found, x = .ok found → found = (L.documents s).contents (documentKey space item) := by
  have hwithin : Op.Within L.Still (L.backend.get ctx space item) :=
    Embedded.get_within Still.refl Still.trans hctx.check space item
  have hstill := hwithin s
  rw [h] at hstill
  refine ⟨hstill, ?_⟩
  rintro found rfl
  obtain ⟨u, -, hget | ⟨e, hget⟩⟩ := Installation.get_spec hctx.quiet space item s
  · cases h.symm.trans hget
    rfl
  · cases h.symm.trans hget

/-- A write leaves the ledger to the one who notes it. -/
theorem upsert_within (hctx : L.Unobtrusive ctx) (docs : List Document) :
    Op.Within L.Silent (L.backend.upsert ctx docs) :=
  Embedded.upsert_within Silent.refl Silent.trans (fun s => (hctx.check s).journal)
    L.journal_put_files L.journal_put_view docs

/-- A write is noted; it is done in full, or fails and leaves the index. -/
theorem upsert_spec (hctx : L.Unobtrusive ctx) (hs : L.Settled s) (docs : List Document) :
    (∃ t, (L.noting.backend.upsert ctx docs).perform s = (.ok (), t) ∧
        L.Notes s t ((L.documents s).placeAll docs) [docs]) ∨
      ∃ e t, (L.noting.backend.upsert ctx docs).perform s = (.error e, t) ∧
        L.Notes s t (L.documents s) [docs] := by
  generalize hnoted : L.journal.put (L.journal.get s ++ [docs]) s = v
  have hcalm : L.Calm s v := by
    rw [← hnoted]
    exact ⟨L.files_put_journal _ s, L.view_put_journal _ s, L.storage_put_journal _ s⟩
  have hv : L.Becomes s v (L.documents s) := hcalm.becomes hs
  have hrun : (L.noting.backend.upsert ctx docs).perform s =
      (L.backend.upsert ctx docs).perform v := by
    rw [← hnoted]
    exact Op.perform_bind_of_ok (Op.perform_change _ s)
  have hjournal : L.journal.get ((L.backend.upsert ctx docs).perform v).2 =
      L.journal.get s ++ [docs] := by
    rw [upsert_within hctx docs v, ← hnoted, L.journal.get_put]
  rw [hrun]
  rcases Installation.upsert_spec hctx.quiet hv.settled docs with ⟨t, hok, h⟩ | ⟨e, t, herror, h⟩
  · rw [hok] at hjournal
    rw [hv.documents] at h
    exact .inl ⟨t, hok, hv.trans h, hjournal⟩
  · rw [herror] at hjournal
    exact .inr ⟨e, t, herror, hv.keep h, hjournal⟩

/-- The batch is written and counted, or the index stays. -/
theorem flush_spec (hctx : L.Unobtrusive ctx) (hs : L.Settled s) (p : IndexEngine.Progress) :
    (∃ t, (L.noting.flush ctx p).perform s =
        (.ok ⟨{ p.stats with indexed := p.stats.indexed + p.batch.length }, []⟩, t) ∧
        L.Notes s t ((L.documents s).placeAll p.batch) [p.batch]) ∨
      ∃ e t, (L.noting.flush ctx p).perform s = (.error e, t) ∧
        L.Notes s t (L.documents s) [p.batch] := by
  rcases upsert_spec hctx hs p.batch with ⟨t, hupsert, h⟩ | ⟨e, t, hupsert, h⟩
  · exact .inl ⟨t, Op.perform_bind_of_ok hupsert, h⟩
  · exact .inr ⟨e, t, Op.perform_bind_of_error hupsert, h⟩

/-! ## One resource -/

/-- What is made of a resource has its key. -/
theorem Makes.key_eq {S : Storage} {r : Resource} {old : Option Document} {d : Document}
    (h : L.Makes ctx S r old d) : d.key = r.key := by
  cases h <;> rfl

/-- What is made of a resource has its identity. -/
theorem Makes.identity_eq {S : Storage} {r : Resource} {old : Option Document} {d : Document}
    (h : L.Makes ctx S r old d) : d.identity = r.identity := by
  cases h <;> rfl

/-- Extraction never fails, and leaves everything. -/
theorem extract_spec (hctx : L.Unobtrusive ctx) (r : Resource) (s : σ) :
    ∃ x t, L.Still s t ∧ (L.extractor.extract ctx r).perform s = (.ok x, t) := by
  have hstill := hctx.extract r s
  rcases htry : (L.extractor.tryExtract ctx r).perform s with ⟨e | text, t⟩
  · rw [htry] at hstill
    exact ⟨_, t, hstill, Extractor.perform_extract_of_error htry⟩
  · rw [htry] at hstill
    exact ⟨_, t, hstill, Extractor.perform_extract_of_ok htry⟩

/-- A resource is prepared by the document that the index has of it, and everything stays. -/
theorem prepare_spec (hctx : L.Unobtrusive ctx) {r : Resource}
    {x : Except Fault IndexEngine.Prepared} (h : (L.noting.prepare ctx r).perform s = (x, t)) :
    L.Still s t ∧ ∀ prepared, x = .ok prepared →
      L.IsPrepared ctx (L.storage s) r ((L.documents s).contents r.key) prepared := by
  rw [IndexEngine.prepare_eq] at h
  rcases hget : (L.backend.get ctx r.space r.item).perform s with ⟨e | old, u⟩
  · obtain ⟨hstill, -⟩ := get_spec hctx hget
    cases (Op.perform_bind_of_error hget).symm.trans h
    exact ⟨hstill, nofun⟩
  · obtain ⟨hstill, hfound⟩ := get_spec hctx hget
    have hold : old = (L.documents s).contents r.key := hfound old rfl
    rw [← hold]
    replace h := (Op.perform_bind_of_ok hget).symm.trans h
    cases hdecided : r.decided? old with
    | some prepared =>
      rw [hdecided] at h
      cases h
      refine ⟨hstill, ?_⟩
      rintro _ ⟨⟩
      cases prepared with
      | skip => exact Resource.decided?_eq_skip_iff.1 hdecided
      | write d =>
        refine ⟨?_, ?_⟩
        · rw [← Bool.not_eq_true, ← Resource.decided?_eq_skip_iff, hdecided]
          exact nofun
        · obtain ⟨hdir, rfl⟩ | ⟨e, rfl, hreusable, rfl⟩ := Resource.of_decided_write hdecided
          · exact .directory hdir
          · exact .reused hreusable
    | none =>
      obtain ⟨extraction, v, hstill', hextract⟩ := extract_spec hctx r u
      rw [hdecided] at h
      cases (Op.perform_bind_of_ok hextract).symm.trans h
      refine ⟨hstill.trans hstill', ?_⟩
      rintro _ ⟨⟩
      refine ⟨?_, .extracted (Resource.isDir_of_undecided hdecided) ?_ hstill.calm.storage
        hextract⟩
      · rw [← Bool.not_eq_true, ← Resource.decided?_eq_skip_iff, hdecided]
        exact nofun
      · rintro d rfl
        exact Resource.not_isReusableFor_of_undecided hdecided

end Ledger

/-! ## A shelf with a ledger -/

/-- A shelf with a ledger, and with a count of the checks of a context. -/
structure LedgerShelf extends Shelf where
  journal : List (List Document) := []
  checks : Nat := 0

namespace LedgerShelf

/-- The ledger on a shelf. -/
def ledger (extractor : Extractor LedgerShelf) : Ledger LedgerShelf where
  handle := 1
  heap := Embedded.defaultHeap
  files := { get := (·.files), put := fun f s => { s with files := f } }
  view := { get := (·.view), put := fun c s => { s with view := c } }
  storage := (·.storage)
  extractor := extractor
  journal := { get := journal, put := fun w s => { s with journal := w } }
  files_put_view _ _ := rfl
  view_put_files _ _ := rfl
  storage_put_files _ _ := rfl
  storage_put_view _ _ := rfl
  files_put_journal _ _ := rfl
  view_put_journal _ _ := rfl
  storage_put_journal _ _ := rfl
  journal_put_files _ _ := rfl
  journal_put_view _ _ := rfl

/-- The context that ends with the `n`-th check. -/
def untilCheck (n : Nat) : Context LedgerShelf :=
  .untilCheck { get := checks, put := fun k s => { s with checks := k } } n .deadline

/-- A shelf whose index holds the documents, with storage that lists the resources. -/
def holding (docs : List Document) (rs : List Resource) : LedgerShelf where
  files := { documents := (∅ : Collection).placeAll docs }
  view := (∅ : Collection).placeAll docs
  storage := { (default : Storage) with walkSpace := fun _ => .ok rs }

theorem settled_holding (extractor : Extractor LedgerShelf) (docs : List Document)
    (rs : List Resource) : (ledger extractor).Settled (holding docs rs) := rfl

theorem unobtrusive_basic : (ledger .basic).Unobtrusive .background where
  check s := Ledger.Still.refl s
  extract _ s := Ledger.Still.refl s

/-- Counting checks moves nothing else. -/
theorem still_untilCheck (extractor : Extractor LedgerShelf) (n : Nat) :
    Op.Within (ledger extractor).Still (untilCheck n).check := by
  intro s
  simp only [untilCheck, Context.untilCheck, Part.modify, Op.perform_bind, Op.perform_read,
    Op.perform_change]
  split <;> exact ⟨⟨rfl, rfl, rfl⟩, rfl⟩

end LedgerShelf

end ScopedSearch
