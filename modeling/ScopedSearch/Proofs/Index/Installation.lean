import ScopedSearch.Proofs.Index.Contents
import ScopedSearch.Search.Engine
import ScopedSearch.Index.Embedded

/-!
# An engine over an embedded index

An installation is an engine over one handle of an embedded index, together with the pieces of the
program's state that it works on: the index files, the handle's view of them, and storage.  The
pieces are apart from each other, which the structure carries.

Every operation of the backend has one lemma here.  It says what the index holds afterwards, on
success and on failure, and that nothing else that later statements look at has moved.  Proofs about
the engine cite these lemmas and do not open the operations.

## Main results

* `upsert_spec`, `get_spec`, `patch_spec`, `search_spec`: the operations of the backend on what the
  index holds.
* `upsert_ready`, `patch_ready`: where writing succeeds.
-/

namespace ScopedSearch

/-- An engine over an embedded index, with the pieces of the state that it works on. -/
structure Installation (σ : Type) where
  handle : Nat
  /-- Bytes of memory for writing. -/
  heap : Nat
  files : Part σ IndexFiles
  view : Part σ Collection
  storage : σ → Storage
  extractor : Extractor σ
  /-- The view is no part of the files. -/
  files_put_view : ∀ c s, files.get (view.put c s) = files.get s
  /-- The files are no part of the view. -/
  view_put_files : ∀ f s, view.get (files.put f s) = view.get s
  /-- Storage does not see the files. -/
  storage_put_files : ∀ f s, storage (files.put f s) = storage s
  /-- Storage does not see the view. -/
  storage_put_view : ∀ c s, storage (view.put c s) = storage s

attribute [simp] Installation.files_put_view Installation.view_put_files
  Installation.storage_put_files Installation.storage_put_view

/-- The document under a key after a patch; an unknown key changes nothing. -/
def Collection.patch (c : Collection) (key : String) (p : Patch) : Collection :=
  match c.find? key with
  | none => c
  | some d => c.place (p.apply d)

namespace Installation

variable {σ : Type} (I : Installation σ)

/-- The backend of the installation. -/
def backend : Backend σ := Embedded.backend I.handle I.files I.view I.heap

/-- The engine of the installation. -/
def engine : IndexEngine σ := ⟨I.backend, I.storage, I.extractor⟩

@[simp] theorem engine_backend : I.engine.backend = I.backend := rfl

@[simp] theorem engine_storage : I.engine.storage = I.storage := rfl

@[simp] theorem engine_extractor : I.engine.extractor = I.extractor := rfl

/-- The documents that a search looks at. -/
def documents (s : σ) : Collection := I.view.get s

/-- The view shows what the files hold.  So it does whenever no other handle writes. -/
def Settled (s : σ) : Prop := (I.files.get s).documents = I.view.get s

/-- From `s` to `t` the index and storage stay as they are. -/
structure Calm (s t : σ) : Prop where
  files : I.files.get t = I.files.get s
  view : I.view.get t = I.view.get s
  storage : I.storage t = I.storage s

/-- From `s` to `t` the index comes to hold `c`, and storage stays as it is. -/
structure Becomes (s t : σ) (c : Collection) : Prop where
  settled : I.Settled t
  documents : I.documents t = c
  storage : I.storage t = I.storage s

/-- Checking the context leaves the index and storage as they are. -/
def Quiet (ctx : Context σ) : Prop := ∀ s, I.Calm s (ctx.check.perform s).2

/--
The handle can write: it sees what the files hold, no other handle holds the writer, and there is
memory for writing.
-/
structure Ready (s : σ) : Prop where
  settled : I.Settled s
  writer : ∀ holder ∈ (I.files.get s).writer, holder = I.handle
  memory : Embedded.smallestHeap ≤ I.heap

/-- There is nothing in the index, and no handle holds the writer. -/
structure IsEmpty (s : σ) : Prop where
  files : I.files.get s = {}
  view : I.view.get s = ∅

variable {I} {s t u : σ} {c d : Collection} {ctx : Context σ}

theorem Calm.refl (s : σ) : I.Calm s s := ⟨rfl, rfl, rfl⟩

theorem Calm.trans (h : I.Calm s t) (h' : I.Calm t u) : I.Calm s u :=
  ⟨h'.files.trans h.files, h'.view.trans h.view, h'.storage.trans h.storage⟩

theorem Calm.becomes (h : I.Calm s t) (hs : I.Settled s) : I.Becomes s t (I.documents s) where
  settled := by
    rw [Settled, h.files, h.view]
    exact hs
  documents := h.view
  storage := h.storage

theorem Becomes.refl (hs : I.Settled s) : I.Becomes s s (I.documents s) := ⟨hs, rfl, rfl⟩

theorem Becomes.trans (h : I.Becomes s t c) (h' : I.Becomes t u d) : I.Becomes s u d :=
  ⟨h'.settled, h'.documents, h'.storage.trans h.storage⟩

/-- A step that leaves the index as it is changes nothing about what it has become. -/
theorem Becomes.keep (h : I.Becomes s t c) (h' : I.Becomes t u (I.documents t)) :
    I.Becomes s u c :=
  h.documents ▸ h.trans h'

theorem IsEmpty.settled (h : I.IsEmpty s) : I.Settled s := by
  rw [Settled, h.files, h.view]

theorem IsEmpty.ready (h : I.IsEmpty s) (hheap : Embedded.smallestHeap ≤ I.heap) :
    I.Ready s where
  settled := h.settled
  writer holder hholder := by
    rw [h.files] at hholder
    cases hholder
  memory := hheap

theorem Ready.calm (hs : I.Ready s) (h : I.Calm s t) : I.Ready t where
  settled := (h.becomes hs.settled).settled
  writer := by
    rw [h.files]
    exact hs.writer
  memory := hs.memory

/-! ## Contexts -/

theorem quiet_background : I.Quiet Context.background := fun s => Calm.refl s

theorem quiet_cancel (ctx : Context σ) : I.Quiet ctx.cancel := fun s => Calm.refl s

/-- Reading a clock moves nothing. -/
theorem quiet_before (now : σ → Nat) (deadline : Nat) : I.Quiet (Context.before now deadline) := by
  intro s
  simp only [Context.before, Op.perform_bind, Op.perform_read]
  split <;> exact Calm.refl s

/-- Counting moves nothing when the counter stands apart from the index and storage. -/
theorem quiet_untilCheck {counter : Part σ Nat} {n : Nat} {cause : CancelCause}
    (hcounter : ∀ k s, I.Calm s (counter.put k s)) :
    I.Quiet (Context.untilCheck counter n cause) := by
  intro s
  simp only [Context.untilCheck, Part.modify, Op.perform_bind, Op.perform_read,
    Op.perform_change]
  split <;> exact hcounter _ s

/-! ## The steps of an operation -/

theorem check_calm (hctx : I.Quiet ctx) {r : Except Fault Unit}
    (h : ctx.check.perform s = (r, t)) : I.Calm s t := by
  have hcalm := hctx s
  rw [h] at hcalm
  exact hcalm

theorem check_becomes (hctx : I.Quiet ctx) (hs : I.Settled s) {r : Except Fault Unit}
    (h : ctx.check.perform s = (r, t)) : I.Becomes s t (I.documents s) :=
  (check_calm hctx h).becomes hs

/-- Whatever comes of taking the writer, the documents stay. -/
theorem takeWriter_becomes (hs : I.Settled s) {r : Except Fault Unit}
    (h : (Embedded.takeWriter I.handle I.heap I.files).perform s = (r, t)) :
    I.Becomes s t (I.documents s) := by
  simp only [Embedded.takeWriter, Op.perform_bind, Op.perform_read] at h
  cases hw : (I.files.get s).writer with
  | none =>
    simp only [hw] at h
    split at h
    · cases h
      exact Becomes.refl hs
    · cases h
      refine ⟨?_, ?_, ?_⟩
      · simpa [Settled] using hs
      · simp [Installation.documents]
      · simp
  | some holder =>
    simp only [hw] at h
    split at h <;> cases h <;> exact Becomes.refl hs

/-- Writing never fails once the writer is held. -/
theorem write_spec (hs : I.Settled s) (docs : List Document) :
    ∃ t, (Embedded.write I.files I.view docs).perform s = (.ok (), t) ∧
      I.Becomes s t ((I.documents s).placeAll docs) := by
  refine ⟨_, rfl, ?_, ?_, ?_⟩
  · simp [Settled]
  · simp only [Installation.documents, Part.get_put, Collection.commit_replacing]
    rw [hs]
  · simp

/-- A handle that can write takes the writer. -/
theorem takeWriter_ready (hs : I.Ready s) :
    ∃ t, (Embedded.takeWriter I.handle I.heap I.files).perform s = (.ok (), t) ∧ I.Ready t := by
  simp only [Embedded.takeWriter, Op.perform_bind, Op.perform_read]
  cases hw : (I.files.get s).writer with
  | none =>
    refine ⟨_, by simp only [Nat.not_lt.2 hs.memory, if_false]; rfl, ?_, ?_, hs.memory⟩
    · simpa [Settled] using hs.settled
    · simp
  | some holder =>
    have hholder : holder = I.handle := hs.writer holder hw
    exact ⟨s, by simp [hholder], hs⟩

/-- After a write the handle still can write. -/
theorem write_ready (hs : I.Ready s) (docs : List Document) :
    ∃ t, (Embedded.write I.files I.view docs).perform s = (.ok (), t) ∧ I.Ready t ∧
      I.Becomes s t ((I.documents s).placeAll docs) := by
  obtain ⟨t, hwrite, h⟩ := write_spec hs.settled docs
  have hwriter : (I.files.get t).writer = (I.files.get s).writer := by
    cases hwrite
    simp
  exact ⟨t, hwrite, ⟨h.settled, hwriter ▸ hs.writer, hs.memory⟩, h⟩

/-! ## The operations -/

/-- Storing documents puts all of them into the index, or fails and leaves it. -/
theorem upsert_spec (hctx : I.Quiet ctx) (hs : I.Settled s) (docs : List Document) :
    (∃ t, (I.backend.upsert ctx docs).perform s = (.ok (), t) ∧
        I.Becomes s t ((I.documents s).placeAll docs)) ∨
      ∃ e t, (I.backend.upsert ctx docs).perform s = (.error e, t) ∧
        I.Becomes s t (I.documents s) := by
  simp only [backend, Embedded.backend]
  by_cases hnil : docs.isEmpty
  · rw [List.isEmpty_iff] at hnil
    subst hnil
    exact .inl ⟨s, rfl, Becomes.refl hs⟩
  · simp only [hnil, Bool.false_eq_true, if_false, Op.perform_bind]
    rcases hcheck : ctx.check.perform s with ⟨e | ⟨⟩, t₁⟩ <;> dsimp only
    · exact .inr ⟨e, t₁, rfl, check_becomes hctx hs hcheck⟩
    · have h₁ := check_becomes hctx hs hcheck
      rcases htake : (Embedded.takeWriter I.handle I.heap I.files).perform t₁ with ⟨e | ⟨⟩, t₂⟩
      · exact .inr ⟨e, t₂, rfl, h₁.keep (takeWriter_becomes h₁.settled htake)⟩
      · have h₂ := h₁.keep (takeWriter_becomes h₁.settled htake)
        obtain ⟨t₃, hwrite, h₃⟩ := write_spec h₂.settled docs
        rw [h₂.documents] at h₃
        exact .inl ⟨t₃, hwrite, h₂.trans h₃⟩

/-- Storing documents succeeds where the context holds and the handle can write. -/
theorem upsert_ready (hctx : I.Quiet ctx) (hcheck : ctx.check.perform s = (.ok (), t))
    (hs : I.Ready s) (docs : List Document) :
    ∃ u, (I.backend.upsert ctx docs).perform s = (.ok (), u) ∧ I.Ready u ∧
      I.Becomes s u ((I.documents s).placeAll docs) := by
  simp only [backend, Embedded.backend]
  by_cases hnil : docs.isEmpty
  · rw [List.isEmpty_iff] at hnil
    subst hnil
    exact ⟨s, rfl, hs, Becomes.refl hs.settled⟩
  · have h₁ := check_becomes hctx hs.settled hcheck
    obtain ⟨t₂, htake, hready⟩ := takeWriter_ready (hs.calm (check_calm hctx hcheck))
    have h₂ := h₁.keep (takeWriter_becomes h₁.settled htake)
    obtain ⟨t₃, hwrite, hready', h₃⟩ := write_ready hready docs
    rw [h₂.documents] at h₃
    refine ⟨t₃, ?_, hready', h₂.trans h₃⟩
    simp only [hnil, Bool.false_eq_true, if_false, Op.perform_bind, hcheck, htake, hwrite]

/-- Storing documents succeeds in an empty index, when there is memory for it. -/
theorem upsert_of_isEmpty (hs : I.IsEmpty s) (hheap : Embedded.smallestHeap ≤ I.heap)
    (docs : List Document) :
    ∃ t, (I.backend.upsert .background docs).perform s = (.ok (), t) ∧
      I.Becomes s t ((∅ : Collection).placeAll docs) := by
  have hdocs : I.documents s = ∅ := hs.view
  obtain ⟨t, hrun, _, h⟩ := upsert_ready quiet_background rfl (hs.ready hheap) docs
  exact ⟨t, hrun, hdocs ▸ h⟩

/-- Looking a document up, where the context holds, finds what the index holds under its key. -/
theorem get_of_check (hcheck : ctx.check.perform s = (.ok (), t)) (space item : String) :
    (I.backend.get ctx space item).perform s =
      (.ok ((I.documents t).find? (documentKey space item)), t) := by
  simp only [backend, Embedded.backend, Op.perform_bind, hcheck]
  rfl

/-- Looking a document up finds what the index holds under its key, or fails. -/
theorem get_spec (hctx : I.Quiet ctx) (space item : String) (s : σ) :
    ∃ t, I.Calm s t ∧
      ((I.backend.get ctx space item).perform s =
          (.ok ((I.documents s).find? (documentKey space item)), t) ∨
        ∃ e, (I.backend.get ctx space item).perform s = (.error e, t)) := by
  rcases hcheck : ctx.check.perform s with ⟨e | ⟨⟩, t⟩
  · refine ⟨t, check_calm hctx hcheck, .inr ⟨e, ?_⟩⟩
    simp only [backend, Embedded.backend, Op.perform_bind, hcheck]
  · have h := check_calm hctx hcheck
    refine ⟨t, h, .inl ?_⟩
    rw [get_of_check hcheck, Installation.documents, h.view]
    rfl

/-- A patch changes the document under the key, or fails and leaves the index. -/
theorem patch_spec (hctx : I.Quiet ctx) (hs : I.Settled s) (space item : String) (p : Patch) :
    (∃ t, (I.backend.patch ctx space item p).perform s =
        (.ok ((I.documents s).find? (documentKey space item)).isSome, t) ∧
        I.Becomes s t ((I.documents s).patch (documentKey space item) p)) ∨
      ∃ e t, (I.backend.patch ctx space item p).perform s = (.error e, t) ∧
        I.Becomes s t (I.documents s) := by
  simp only [backend, Embedded.backend, Op.perform_bind, Op.perform_read]
  rcases hcheck : ctx.check.perform s with ⟨e | ⟨⟩, t₁⟩ <;> dsimp only
  · exact .inr ⟨e, t₁, rfl, check_becomes hctx hs hcheck⟩
  · have h₁ := check_becomes hctx hs hcheck
    rcases htake : (Embedded.takeWriter I.handle I.heap I.files).perform t₁ with ⟨e | ⟨⟩, t₂⟩
    · exact .inr ⟨e, t₂, rfl, h₁.keep (takeWriter_becomes h₁.settled htake)⟩
    · have h₂ := h₁.keep (takeWriter_becomes h₁.settled htake)
      have hview : I.view.get t₂ = I.documents s := h₂.documents
      left
      cases hfind : (I.documents s).find? (documentKey space item) with
      | none =>
        refine ⟨t₂, by simp [hview, hfind], ?_⟩
        rw [Collection.patch, hfind]
        exact h₂
      | some d =>
        obtain ⟨t₃, hwrite, h₃⟩ := write_spec h₂.settled [p.apply d]
        refine ⟨t₃, by simp only [hview, hfind, Op.perform_bind, hwrite]; rfl, ?_⟩
        rw [Collection.patch, hfind]
        rw [h₂.documents] at h₃
        exact h₂.trans h₃

/-- A patch succeeds where the context holds and the handle can write. -/
theorem patch_ready (hctx : I.Quiet ctx) (hcheck : ctx.check.perform s = (.ok (), t))
    (hs : I.Ready s) (space item : String) (p : Patch) :
    ∃ u, (I.backend.patch ctx space item p).perform s =
        (.ok ((I.documents s).find? (documentKey space item)).isSome, u) ∧ I.Ready u ∧
      I.Becomes s u ((I.documents s).patch (documentKey space item) p) := by
  have h₁ := check_becomes hctx hs.settled hcheck
  obtain ⟨t₂, htake, hready⟩ := takeWriter_ready (hs.calm (check_calm hctx hcheck))
  have h₂ := h₁.keep (takeWriter_becomes h₁.settled htake)
  have hview : I.view.get t₂ = I.documents s := h₂.documents
  simp only [backend, Embedded.backend, Op.perform_bind, Op.perform_read, hcheck, htake, hview]
  cases hfind : (I.documents s).find? (documentKey space item) with
  | none =>
    refine ⟨t₂, rfl, hready, ?_⟩
    rw [Collection.patch, hfind]
    exact h₂
  | some d =>
    obtain ⟨t₃, hwrite, hready', h₃⟩ := write_ready hready [p.apply d]
    refine ⟨t₃, by simp only [Op.perform_bind, hwrite]; rfl, hready', ?_⟩
    rw [Collection.patch, hfind]
    rw [h₂.documents] at h₃
    exact h₂.trans h₃

/-- A search whose context holds answers from what the index holds. -/
theorem search_of_check (hcheck : ctx.check.perform s = (.ok (), t)) (q : BackendQuery) :
    (I.backend.search ctx q).perform s =
      (((I.documents t).search q).mapError (.badQuery ∘ .text), t) := by
  simp only [backend, Embedded.backend, Op.perform_bind, hcheck]
  rfl

/-- A search answers from what the index holds, or fails. -/
theorem search_spec (hctx : I.Quiet ctx) (q : BackendQuery) (s : σ) :
    ∃ t, I.Calm s t ∧
      ((I.backend.search ctx q).perform s =
          (((I.documents s).search q).mapError (.badQuery ∘ .text), t) ∨
        ∃ e, (I.backend.search ctx q).perform s = (.error e, t)) := by
  rcases hcheck : ctx.check.perform s with ⟨e | ⟨⟩, t⟩
  · refine ⟨t, check_calm hctx hcheck, .inr ⟨e, ?_⟩⟩
    simp only [backend, Embedded.backend, Op.perform_bind, hcheck]
  · have h := check_calm hctx hcheck
    refine ⟨t, h, .inl ?_⟩
    rw [search_of_check hcheck, Installation.documents, h.view]
    rfl

/-- A search does to the state what checking its context does. -/
theorem search_within {R : σ → σ → Prop} (hrefl : ∀ s, R s s)
    (htrans : ∀ {s t u}, R s t → R t u → R s u) (hcheck : Op.Within R ctx.check)
    (q : BackendQuery) : Op.Within R (I.backend.search ctx q) := by
  have hread : ∀ docs : Collection, Op.Within R
      (Op.ofExcept ((docs.search q).mapError (.badQuery ∘ .text))) :=
    fun docs => Op.within_ofExcept hrefl _
  exact Op.Within.bind (R := R) htrans hcheck fun _ =>
    Op.Within.bind (R := R) htrans (Op.within_read hrefl I.view.get) hread

/-- A search that succeeds returns what the documents of the index answer. -/
theorem documents_search {q : BackendQuery} {found : Hits}
    (h : (I.backend.search ctx q).perform s = (.ok found, t)) :
    (I.documents t).search q = .ok found := by
  rcases hcheck : ctx.check.perform s with ⟨e | ⟨⟩, u⟩
  · simp only [backend, Embedded.backend, Op.perform_bind, hcheck] at h
    cases h
  · rw [search_of_check hcheck, Prod.mk.injEq] at h
    obtain ⟨hfound, rfl⟩ := h
    exact mapError_eq_ok_iff.1 hfound

/-- A search that succeeds and whose context moves nothing answers from what was there. -/
theorem search_ok (hctx : I.Quiet ctx) {q : BackendQuery} {found : Hits}
    (h : (I.backend.search ctx q).perform s = (.ok found, t)) :
    I.Calm s t ∧ (I.documents s).search q = .ok found := by
  have hcalm : I.Calm s t := by
    obtain ⟨u, hcalm, hsearch | ⟨e, hsearch⟩⟩ := search_spec hctx q s <;>
      · rw [hsearch, Prod.mk.injEq] at h
        obtain ⟨-, rfl⟩ := h
        exact hcalm
  refine ⟨hcalm, ?_⟩
  rw [Installation.documents, ← hcalm.view]
  exact documents_search h

end Installation

/-! ## A state with nothing else in it -/

/-- A state made of the pieces of an installation and nothing else. -/
structure Shelf where
  files : IndexFiles := {}
  view : Collection := ∅
  storage : Storage

/-- The installation on a shelf. -/
def Shelf.installation (extractor : Extractor Shelf) (handle : Nat) : Installation Shelf where
  handle := handle
  heap := Embedded.defaultHeap
  files := { get := files, put := fun f s => { s with files := f } }
  view := { get := view, put := fun c s => { s with view := c } }
  storage := storage
  extractor := extractor
  files_put_view _ _ := rfl
  view_put_files _ _ := rfl
  storage_put_files _ _ := rfl
  storage_put_view _ _ := rfl

end ScopedSearch
