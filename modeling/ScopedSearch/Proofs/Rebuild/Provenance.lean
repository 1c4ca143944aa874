import ScopedSearch.Extraction.Plain
import ScopedSearch.Proofs.Rebuild.Run
import ScopedSearch.Proofs.Rebuild.Upkeep

/-!
# Where a text is from

A document keeps its text through moves, tags and the trash, and a rebuild may take the text over
into a new document without a look at the file.  Whatever an index goes through, every text in it
can be traced: some rebuild has listed the item with the modification time and the size that the
document has, and in that rebuild the extractor has made this text of it, or the item was a
directory and there was no text to make.  Where extraction has failed, the document says so and has
no text, and nothing ever takes that for the text of the file.

Nothing is assumed of storage, which may change at any time, also while a rebuild is running, and
nothing of the extractor but that it keeps its hands off the index.

## Main results

* `prepare_traced`: a rebuild makes documents whose texts can be traced.
* `carryOutAll_traced`: so they can be after the calls of an event, whatever calls fail.
* `Run.content_traced`: in every state that an index can come to, all texts can be traced.
-/

namespace ScopedSearch

variable {σ : Type}

/-! ## Rebuilds that have been run -/

/-- A rebuild: on whose behalf, of which space, and in which state it starts. -/
structure Rebuild (σ : Type) where
  ctx : Context σ
  space : String
  start : σ

namespace Rebuild

variable (e : IndexEngine σ) (b : Rebuild σ)

/-- The rebuild gets a listing, and starts to go through it in the state `t`. -/
def Opens (t : σ) (rs : List Resource) : Prop :=
  b.ctx.check.perform b.start = (.ok (), t) ∧ (e.storage t).walkSpace b.space = .ok rs

/-- The rebuild comes to prepare a resource of its listing, in the state `u`. -/
def Reaches (r : Resource) (u : σ) : Prop :=
  ∃ t rs, b.Opens e t rs ∧
    e.Prepares b.ctx { stats := { scanned := rs.length } } t rs r u

/-- The rebuild lists the resource. -/
def Lists (r : Resource) : Prop := ∃ t rs, b.Opens e t rs ∧ r ∈ rs

/--
The rebuild comes to the resource, finds that its document decides nothing, and has the extractor
make this text of it.
-/
def Extracts (r : Resource) (text : String) : Prop :=
  ∃ u v w old, b.Reaches e r u ∧
    (e.backend.get b.ctx r.space r.item).perform u = (.ok old, v) ∧ r.decided? old = none ∧
    (e.extractor.tryExtract b.ctx r).perform v = (.ok text, w)

/-- A rebuild lists what it comes to. -/
theorem Reaches.lists {e : IndexEngine σ} {b : Rebuild σ} {r : Resource} {u : σ}
    (h : b.Reaches e r u) : b.Lists e r := by
  obtain ⟨t, rs, hopens, hprepares⟩ := h
  exact ⟨t, rs, hopens, hprepares.mem⟩

/-- The resources that rebuilds list have different keys when they are of different items. -/
def KeysApart (e : IndexEngine σ) (past : List (Rebuild σ)) : Prop :=
  ∀ b ∈ past, ∀ b' ∈ past, ∀ r r' : Resource, b.Lists e r → b'.Lists e r' → r.key = r'.key →
    r.identity = r'.identity

/-- So do those that the earlier ones of them list. -/
theorem KeysApart.of_append {e : IndexEngine σ} {past more : List (Rebuild σ)}
    (h : KeysApart e (past ++ more)) : KeysApart e past :=
  fun b hb b' hb' => h b (List.mem_append_left _ hb) b' (List.mem_append_left _ hb')

/-- The rebuild that a call runs, if it runs one. -/
def ofCall (ctx : Context σ) (s : σ) : EngineCall → List (Rebuild σ)
  | .indexSpace space => [⟨ctx, space, s⟩]
  | _ => []

/-- The rebuilds among calls that are made one after the other. -/
def among (e : IndexEngine σ) (ctx : Context σ) : List EngineCall → σ → List (Rebuild σ)
  | [], _ => []
  | call :: rest, s =>
    ofCall ctx s call ++ among e ctx rest ((e.toEngine.carryOut ctx call).perform s).2

/-- The rebuilds among calls are run on behalf of the one who makes the calls. -/
theorem ctx_of_mem_among {e : IndexEngine σ} {ctx : Context σ} {s : σ} {calls : List EngineCall}
    {b : Rebuild σ} (h : b ∈ among e ctx calls s) : b.ctx = ctx := by
  induction calls generalizing s with
  | nil => cases h
  | cons call rest ih =>
    rcases List.mem_append.1 h with hcall | hrest
    · cases call with
      | indexSpace space =>
        rw [List.mem_singleton.1 hcall]
      | trashItem space item => cases hcall
      | restoreItem space item => cases hcall
      | moveItem space item path => cases hcall
      | upsertItem space item delta => cases hcall
    · exact ih hrest

end Rebuild

/-! ## Documents that can be traced -/

namespace Document

/-- The rebuild has the text of the document from the resource. -/
structure TracedTo (e : IndexEngine σ) (b : Rebuild σ) (r : Resource) (d : Document) : Prop where
  mtime : r.mtime = d.mtime
  size : r.size = d.size
  text : r.isDir = true ∧ d.content = "" ∨ b.Extracts e r d.content

/--
One of the rebuilds has listed a resource of the item of the document, and has the text of the
document from it; or extraction has failed, and there is no text.
-/
def Traced (e : IndexEngine σ) (past : List (Rebuild σ)) (d : Document) : Prop :=
  ∃ b ∈ past, ∃ r : Resource, b.Lists e r ∧ r.identity = d.identity ∧
    (d.degraded = true ∧ d.content = "" ∨ d.degraded = false ∧ d.TracedTo e b r)

variable {e : IndexEngine σ} {past : List (Rebuild σ)} {b : Rebuild σ} {r : Resource}
  {d : Document}

/-- More rebuilds do not make a text less traced. -/
theorem Traced.mono {past' : List (Rebuild σ)} (h : d.Traced e past)
    (hpast : ∀ b ∈ past, b ∈ past') : d.Traced e past' := by
  obtain ⟨b, hb, r, hr⟩ := h
  exact ⟨b, hpast b hb, r, hr⟩

/-- Changes that events ask for do not touch what a text is traced by. -/
theorem Traced.change (p : PointChange) (h : d.Traced e past) : (p.apply d).Traced e past := by
  obtain ⟨b, hb, r, hr, hidentity, htext⟩ := h
  refine ⟨b, hb, r, hr, hidentity.trans (p.identity_apply d).symm, ?_⟩
  rw [p.apply_eq d]
  exact htext.imp id fun ⟨hdegraded, htraced⟩ =>
    ⟨hdegraded, htraced.mtime, htraced.size, htraced.text⟩

/-- A text that has been extracted is traced to the extraction. -/
theorem traced_of_extracts {text : String} (hb : b ∈ past) (hr : b.Lists e r)
    (htext : b.Extracts e r text) : (r.toDocument text).Traced e past :=
  ⟨b, hb, r, hr, rfl, .inr ⟨rfl, rfl, rfl, .inr htext⟩⟩

/-- Where extraction has failed there is no text. -/
theorem traced_of_failure (hb : b ∈ past) (hr : b.Lists e r) :
    (r.toDocument "" true).Traced e past :=
  ⟨b, hb, r, hr, rfl, .inl ⟨rfl, rfl⟩⟩

/-- A directory has no text. -/
theorem traced_of_isDir (hb : b ∈ past) (hr : b.Lists e r) (hdir : r.isDir = true) :
    (r.toDocument "").Traced e past :=
  ⟨b, hb, r, hr, rfl, .inr ⟨rfl, rfl, rfl, .inl ⟨hdir, rfl⟩⟩⟩

/-- A text that is reused is traced to where it was from. -/
theorem Traced.reuse (h : d.Traced e past) (hd : d.identity = r.identity)
    (hreusable : d.isReusableFor r = true) : (r.toDocument d.content).Traced e past := by
  obtain ⟨hdegraded, _, hmtime, hsize⟩ := isReusableFor_iff.1 hreusable
  obtain ⟨b, hb, r', hr', hidentity, ⟨hfailed, _⟩ | ⟨_, htraced⟩⟩ := h
  · rw [hdegraded] at hfailed
    cases hfailed
  · refine ⟨b, hb, r', hr', hidentity.trans hd, .inr ⟨rfl, ?_, ?_, htraced.text⟩⟩
    · exact htraced.mtime.trans hmtime
    · exact htraced.size.trans hsize

end Document

namespace Installation

variable {I : Installation σ} {ctx : Context σ} {past : List (Rebuild σ)} {b : Rebuild σ}
  {s u : σ} {r : Resource}

/-! ## Storage that changes -/

/-- The installation without an eye on storage: from one state to the next only the index counts. -/
def detached (I : Installation σ) : Installation σ :=
  { I with
    storage := fun _ => default
    storage_put_files := fun _ _ => rfl
    storage_put_view := fun _ _ => rfl }

/-- Neither a check nor the extractor touches the index. -/
structure Discreet (I : Installation σ) (ctx : Context σ) : Prop where
  check : I.detached.Quiet ctx
  extract : ∀ r s, I.detached.Calm s ((I.extractor.tryExtract ctx r).perform s).2

/-- All texts of the index can be traced. -/
abbrev TracedIn (I : Installation σ) (past : List (Rebuild σ)) (s : σ) : Prop :=
  I.detached.Sound (fun _ => True) (·.Traced I.engine past) s

/-- More rebuilds do not make texts less traced. -/
theorem TracedIn.append (hs : I.TracedIn past s) (more : List (Rebuild σ)) :
    I.TracedIn (past ++ more) s :=
  Sound.mono hs trivial fun _ hd => hd.mono fun _ hb => List.mem_append_left more hb

/-- What stands under the key of a listed resource is of the same item. -/
theorem TracedIn.of_contents (hs : I.TracedIn past s) (hkeys : Rebuild.KeysApart I.engine past)
    (hb : b ∈ past) (hr : b.Lists I.engine r) {d : Document}
    (hd : (I.documents s).contents r.key = some d) :
    d.Traced I.engine past ∧ d.identity = r.identity := by
  have htraced : d.Traced I.engine past := hs.under_key hd
  obtain ⟨b', hb', r', hr', hidentity, _⟩ := id htraced
  have hkey : r'.key = r.key := by
    have hsame : r'.identity.key = d.identity.key := by rw [hidentity]
    exact hsame.trans (Collection.key_of_contents hd)
  exact ⟨htraced, hidentity.symm.trans (hkeys b' hb' b hb r' r hr' hr hkey)⟩

/-! ## Rebuilds and events -/

/-- A rebuild makes documents whose texts can be traced. -/
theorem prepare_traced (hkeys : Rebuild.KeysApart I.engine past) (hctx : I.Discreet b.ctx)
    (hb : b ∈ past) (hr : b.Reaches I.engine r u) (hu : I.TracedIn past u) :
    I.detached.Safe (fun _ => True) (·.Traced I.engine past) (I.engine.prepare b.ctx r) u
      fun prepared _ => ∀ d, prepared = .write d → d.Traced I.engine past := by
  have hlists := hr.lists
  rw [IndexEngine.prepare_eq]
  refine Safe.bind (get_safe hctx.check hu r.space r.item) ?_
  rintro old v hv ⟨hget, hold⟩
  cases hdecided : r.decided? old with
  | some prepared =>
    refine Safe.of_pure hv ?_
    rintro d rfl
    rcases Resource.of_decided_write hdecided with ⟨hdir, rfl⟩ | ⟨x, hx, hreusable, rfl⟩
    · exact Document.traced_of_isDir hb hlists hdir
    · obtain ⟨htraced, hidentity⟩ := hu.of_contents hkeys hb hlists (hold.symm.trans hx)
      exact htraced.reuse hidentity hreusable
  | none =>
    have hcalm := hctx.extract r v
    rcases hextract : (I.extractor.tryExtract b.ctx r).perform v with ⟨fault | text, w⟩
    · rw [hextract] at hcalm
      refine Safe.of_ok (IndexEngine.perform_extracted_of_error hextract) (hv.calm hcalm) ?_
      rintro d ⟨⟩
      exact Document.traced_of_failure hb hlists
    · rw [hextract] at hcalm
      refine Safe.of_ok (IndexEngine.perform_extracted_of_ok hextract) (hv.calm hcalm) ?_
      rintro d ⟨⟩
      exact Document.traced_of_extracts hb hlists ⟨u, v, w, old, hr, hget, hdecided, hextract⟩

/-- After a rebuild that counts, all texts can be traced, also when it has failed midway. -/
theorem indexSpace_traced {space : String} (hkeys : Rebuild.KeysApart I.engine past)
    (hctx : I.Discreet ctx) (hb : ⟨ctx, space, s⟩ ∈ past) (hs : I.TracedIn past s) :
    I.detached.Safe (fun _ => True) (·.Traced I.engine past) (I.engine.indexSpace ctx space) s
      fun _ _ => True := by
  refine indexSpace_safe rfl hctx.check hs space fun t rs hcheck hwalk ht => ?_
  refine steps_safe rfl hctx.check ht (fun d hd => by cases hd) fun r v hprepares hv => ?_
  have hreaches : Rebuild.Reaches I.engine ⟨ctx, space, s⟩ r v :=
    ⟨t, rs, ⟨hcheck, hwalk⟩, hprepares⟩
  exact prepare_traced (b := ⟨ctx, space, s⟩) hkeys hctx hb hreaches hv

/-- After the calls of an event all texts can be traced, whatever calls fail. -/
theorem carryOutAll_traced {calls : List EngineCall} (hkeys : Rebuild.KeysApart I.engine past)
    (hctx : I.Discreet ctx) (hpast : ∀ b ∈ Rebuild.among I.engine ctx calls s, b ∈ past)
    (hs : I.TracedIn past s) :
    I.detached.Safe (fun _ => True) (·.Traced I.engine past)
      (I.engine.toEngine.carryOutAll ctx calls) s fun _ _ => True := by
  induction calls generalizing s with
  | nil => exact Safe.of_pure hs trivial
  | cons call rest ih =>
    have hindex : ∀ space, call = .indexSpace space →
        I.detached.Safe (fun _ => True) (·.Traced I.engine past)
          (I.engine.indexSpace ctx space) s fun _ _ => True := by
      rintro space rfl
      exact indexSpace_traced hkeys hctx (hpast _ List.mem_cons_self) hs
    have hcall := carryOut_safe rfl hctx.check hs (fun p _ => Document.Traced.change p) call hindex
    refine Safe.bind hcall.outcome ?_
    rintro _ t ht rfl
    have hrest := ih (fun b hb => hpast b (List.mem_append_right _ hb)) ht
    exact Safe.bind hrest fun _ _ hu _ => Safe.of_pure hu trivial

/-! ## Everything that an index may go through -/

/--
The states that an index can come to, with the rebuilds that have been run on the way.  It starts
out empty; rebuilds are run and events handled, with any outcome; and beside the index anything may
change at any time.
-/
inductive Run (I : Installation σ) : List (Rebuild σ) → σ → Prop
  | empty {s : σ} (h : I.IsEmpty s) : Run I [] s
  | change {past : List (Rebuild σ)} {s t : σ} (h : Run I past s) (hcalm : I.detached.Calm s t) :
      Run I past t
  | rebuild {past : List (Rebuild σ)} {s : σ} {ctx : Context σ} (h : Run I past s)
      (hctx : I.Discreet ctx) (space : String) :
      Run I (past ++ [⟨ctx, space, s⟩]) ((I.engine.indexSpace ctx space).perform s).2
  | handle {past : List (Rebuild σ)} {s : σ} {ctx : Context σ} (h : Run I past s)
      (hctx : I.Discreet ctx) (options : ReindexOptions) (event : Event) :
      Run I (past ++ Rebuild.among I.engine ctx (plan options event) s)
        ((I.engine.toEngine.handle options ctx event).perform s).2

/-- In every state of a run, all texts can be traced to the rebuilds before. -/
theorem Run.traced (h : I.Run past s) (hkeys : Rebuild.KeysApart I.engine past) :
    I.TracedIn past s := by
  induction h with
  | empty h => exact IsEmpty.sound ⟨h.files, h.view⟩ trivial
  | change _ hcalm ih => exact (ih hkeys).calm hcalm
  | @rebuild past s ctx _ hctx space ih =>
    have hs := (ih hkeys.of_append).append [⟨ctx, space, s⟩]
    exact (indexSpace_traced hkeys hctx (List.mem_append_right _ List.mem_cons_self) hs _ _ rfl).1
  | @handle past s ctx _ hctx options event ih =>
    have hs := (ih hkeys.of_append).append (Rebuild.among I.engine ctx (plan options event) s)
    exact (carryOutAll_traced hkeys hctx (fun b hb => List.mem_append_right _ hb) hs _ _ rfl).1

/--
In every state of a run, a degraded document has no text, and the text of any other one is from a
rebuild before: one that has listed the item with the modification time and the size that the
document has, and in which the extractor has made this text of it, or which has listed it as a
directory, and there is no text.
-/
theorem Run.content_traced (h : I.Run past s) (hkeys : Rebuild.KeysApart I.engine past)
    {d : Document} (hd : d ∈ (I.documents s).toList) :
    (d.degraded = true → d.content = "") ∧
      (d.degraded = false → ∃ b ∈ past, ∃ r : Resource, b.Lists I.engine r ∧
        r.identity = d.identity ∧ r.mtime = d.mtime ∧ r.size = d.size ∧
        (r.isDir = true ∧ d.content = "" ∨ b.Extracts I.engine r d.content)) := by
  obtain ⟨b, hb, r, hr, hidentity, htext⟩ := (h.traced hkeys).holds d hd
  rcases htext with ⟨hdegraded, hnone⟩ | ⟨hdegraded, htraced⟩
  · refine ⟨fun _ => hnone, fun hfine => ?_⟩
    rw [hdegraded] at hfine
    cases hfine
  · refine ⟨fun hfailed => ?_, fun _ => ⟨b, hb, r, hr, hidentity, ?_⟩⟩
    · rw [hdegraded] at hfailed
      cases hfailed
    · exact ⟨htraced.mtime, htraced.size, htraced.text⟩

/-! ## A file on a disk that fails -/

/-- A file. -/
def diskNote : Resource where
  space := "alice"
  item := "42"
  path := "/a.txt"
  name := "a.txt"
  mimeType := "text/plain"
  size := 5
  mtime := 100

/-- A disk with the file on it, whose bytes can be read or not. -/
def diskOf (r : Resource) (bytes : Except Fault ByteArray) : Storage :=
  { (default : Storage) with walkSpace := fun _ => .ok [r], bytes := fun _ => bytes }

/-- The extractor that takes the bytes on the disk for the text of a file. -/
def diskExtractor : Extractor Shelf :=
  ⟨"disk", fun _ r => do
    let storage ← Op.read Shelf.storage
    Op.ofExcept ((storage.bytes r).bind PlainText.textOf)⟩

/-- The installation over the disk. -/
def diskInstallation : Installation Shelf := Shelf.installation diskExtractor 1

/-- The shelf after a rebuild. -/
def rebuiltDisk (s : Shelf) : Shelf :=
  ((diskInstallation.engine.indexSpace .background "alice").perform s).2

/-- What is said of a disk that fails. -/
def diskFault : Except Fault ByteArray := .error (.internal "disk failed")

/-- Nothing has been indexed, and the disk fails. -/
def failingDisk : Shelf := { storage := diskOf diskNote diskFault }

/-- After a rebuild, the disk can be read. -/
def mendedDisk : Shelf :=
  { rebuiltDisk failingDisk with storage := diskOf diskNote (.ok "hello".toUTF8) }

/-- The file under another name. -/
def renamedDiskNote : Resource := { diskNote with path := "/c.txt", name := "c.txt" }

/-- After another rebuild, the file is renamed, and the disk fails again. -/
def renamedDisk : Shelf :=
  { rebuiltDisk mendedDisk with storage := diskOf renamedDiskNote diskFault }

/-- A move of the file, to a name that it does not have any more. -/
def diskMove : Event :=
  { space := "alice", item := "42", change := .itemMoved "/a.txt" "/b.txt" }

/-- The move has been handled, with the rebuild that follows. -/
def movedDisk : Shelf :=
  ((diskInstallation.engine.toEngine.handle {} .background diskMove).perform renamedDisk).2

/-- The rebuilds on the way. -/
def diskRebuilds : List (Rebuild Shelf) :=
  [⟨.background, "alice", failingDisk⟩, ⟨.background, "alice", mendedDisk⟩] ++
    Rebuild.among diskInstallation.engine .background (plan {} diskMove) renamedDisk

theorem discreet_disk : diskInstallation.Discreet .background where
  check := quiet_background
  extract _ s := Calm.refl s

theorem run_disk : diskInstallation.Run diskRebuilds movedDisk := by
  have hempty : diskInstallation.Run [] failingDisk := .empty ⟨rfl, rfl⟩
  have hmended : diskInstallation.Run _ mendedDisk :=
    (hempty.rebuild discreet_disk "alice").change ⟨rfl, rfl, rfl⟩
  have hrenamed : diskInstallation.Run _ renamedDisk :=
    (hmended.rebuild discreet_disk "alice").change ⟨rfl, rfl, rfl⟩
  exact hrenamed.handle discreet_disk {} diskMove

/-- All rebuilds list the one file, whatever it is called. -/
theorem keysApart_disk : Rebuild.KeysApart diskInstallation.engine diskRebuilds := by
  have hlisted : ∀ b ∈ diskRebuilds,
      ∀ r ∈ (b.start.storage.walkSpace b.space).toOption.getD [],
        r.identity = diskNote.identity := by decide +kernel
  have hctx : ∀ b ∈ diskRebuilds, b.ctx = .background := by
    intro b hb
    rcases List.mem_append.1 hb with hb | hb
    · rcases List.mem_pair.1 hb with rfl | rfl <;> rfl
    · exact Rebuild.ctx_of_mem_among hb
  have hlists : ∀ b ∈ diskRebuilds, ∀ r, b.Lists diskInstallation.engine r →
      r.identity = diskNote.identity := by
    rintro b hb r ⟨t, rs, ⟨hcheck, hwalk⟩, hr⟩
    rw [hctx b hb] at hcheck
    cases hcheck
    have hwalk' : b.start.storage.walkSpace b.space = .ok rs := hwalk
    refine hlisted b hb r ?_
    rw [hwalk']
    exact hr
  exact fun b hb b' hb' r r' hr hr' _ => (hlists b hb r hr).trans (hlists b' hb' r' hr').symm

/--
The text of the file is still there after the move, although the rebuild that follows it cannot read
the file.  It is traced to a rebuild that has extracted it.
-/
theorem content_traced_disk :
    renamedDiskNote.toDocument "hello" ∈ movedDisk.view.toList ∧
      ∃ b ∈ diskRebuilds, ∃ r : Resource, b.Lists diskInstallation.engine r ∧
        r.identity = renamedDiskNote.identity ∧ r.mtime = 100 ∧ r.size = 5 ∧
        b.Extracts diskInstallation.engine r "hello" := by
  have hd : renamedDiskNote.toDocument "hello" ∈ movedDisk.view.toList := by decide +kernel
  obtain ⟨_, htraced⟩ := Run.content_traced run_disk keysApart_disk hd
  obtain ⟨b, hb, r, hr, hidentity, hmtime, hsize, ⟨_, hnone⟩ | htext⟩ := htraced rfl
  · exact absurd hnone (by decide)
  · exact ⟨hd, b, hb, r, hr, hidentity, hmtime, hsize, htext⟩

end Installation

end ScopedSearch
