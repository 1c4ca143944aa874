import ScopedSearch.Proofs.Events.Replay
import ScopedSearch.Proofs.Rebuild.Phases
import ScopedSearch.Proofs.Search.Visibility

/-!
# A deletion beside a rebuild

An item goes from storage, and the event of that has its document trashed and the space rebuilt.
Meanwhile another rebuild of the space may be under way.  If it has listed the item before it went,
it may write a document of the item after the trash, and such a document is out of the trash.  No
rebuild after that puts it back, as none lists the item; so whether the item stays in the trash is
up to the rebuild that was under way, and to nothing else.

## Main results

* `Race.run_alone`, `Race.handle`: a rebuild, or the handling of the event, that nobody interrupts is
  one way to go on.
* `Race.trashed_iff`: the item stays in the trash exactly when the rebuild that was under way has
  written no document of it since.
-/

namespace ScopedSearch

open IndexEngine (Phase)

/-- Storage lists of the space what belongs to it, and the item is not among it. -/
def Storage.Lacks (S : Storage) (space item : String) : Prop :=
  ∀ rs, S.walkSpace space = .ok rs → ∀ r ∈ rs, r.space = space ∧ r.item ≠ item

theorem Storage.Lacks.key_ne {S : Storage} {space item : String} (h : S.Lacks space item) :
    ∀ rs, S.walkSpace space = .ok rs → ∀ r ∈ rs, r.key ≠ documentKey space item := by
  intro rs hrs r hr hkey
  obtain ⟨hspace, hitem⟩ := h rs hrs r hr
  rw [Resource.key, hspace] at hkey
  exact hitem ((String.append_right_inj _).1 hkey)

namespace Collection

variable {c : Collection} {docs : List Document} {key : String} {d : Document}

/-- What has been written under a key is there then. -/
theorem mem_of_contents_placeAll (hd : (c.placeAll docs).contents key = some d)
    (hkey : ∃ e ∈ docs, e.key = key) : d ∈ docs := by
  obtain ⟨e, he, hkey⟩ := hkey
  rw [contents_placeAll, Contents.writeAll_apply] at hd
  cases hfind : docs.reverse.find? (·.key = key) with
  | none => exact absurd hkey (by simpa using List.find?_eq_none.1 hfind e (by simpa using he))
  | some e' =>
    rw [hfind] at hd
    cases hd
    simpa using List.mem_of_find?_eq_some hfind

/-- Where nothing has been written, what was there is there. -/
theorem contents_placeAll_of_forall_ne (hkey : ∀ e ∈ docs, e.key ≠ key) :
    (c.placeAll docs).contents key = c.contents key := by
  rw [contents_placeAll, Contents.writeAll_of_ne fun e he => (hkey e he).symm]

/-- What stands under a key does not go away. -/
theorem isSome_contents_placeAll (h : (c.contents key).isSome) :
    ((c.placeAll docs).contents key).isSome := by
  rw [contents_placeAll, Contents.writeAll_apply, Option.isSome_or, h, Bool.or_true]

end Collection

namespace Installation

variable {σ : Type} (I : Installation σ)

/--
A rebuild of a space is under way, an item goes from storage, and the event of that is handled: the
item is trashed, and then the space is rebuilt.  Named are how far the rebuild under way has come,
how far the one of the event has once the item is trashed, and the documents that the former has
written since then.
-/
inductive Race (ctx ctx' : Context σ) (space item : String) (s : σ) :
    Phase → Option Phase → List Document → σ → Prop
  | start : Race ctx ctx' space item s .opening none [] s
  /-- Storage changes; what has gone does not come back. -/
  | change {running following late t u} (h : Race ctx ctx' space item s running following late t)
    (hfiles : I.files.get u = I.files.get t) (hview : I.view.get u = I.view.get t)
    (hlacks : following.isSome → (I.storage u).Lacks space item) :
    Race ctx ctx' space item s running following late u
  /-- The rebuild that is under way makes a step. -/
  | run {running following late t x u} (h : Race ctx ctx' space item s running following late t)
    (hstep : (I.engine.advance ctx space running).perform t = (x, u)) :
    Race ctx ctx' space item s (.after x) following
      (if following.isSome then late ++ running.written x else late) u
  /-- The item has gone, and is trashed. -/
  | trash {running late t u} (h : Race ctx ctx' space item s running none late t)
    (hlacks : (I.storage t).Lacks space item)
    (htrash : (I.engine.toEngine.trashItem ctx' space item).perform t = (.ok (), u)) :
    Race ctx ctx' space item s running (some .opening) late u
  /-- The rebuild of the event makes a step. -/
  | follow {running following late t x u}
    (h : Race ctx ctx' space item s running (some following) late t)
    (hstep : (I.engine.advance ctx' space following).perform t = (x, u)) :
    Race ctx ctx' space item s running (some (.after x)) late u

/-- What is true at any time of it. -/
structure Racing (space item : String) (running : Phase) (following : Option Phase)
    (late : List Document) (t : σ) : Prop where
  settled : I.Settled t
  known : ((I.documents t).contents (documentKey space item)).isSome
  /-- Whatever a rebuild makes is out of the trash. -/
  live : running.Of (fun _ => True) (·.trashed = false)
  /-- The rebuild of the event does not come across the item. -/
  apart : ∀ ph ∈ following,
    ph.Of (·.key ≠ documentKey space item) (·.key ≠ documentKey space item)
  early : following = none → late = []
  lacks : following.isSome → (I.storage t).Lacks space item
  trashed : following.isSome → ∀ d ∈ (I.documents t).contents (documentKey space item),
    (d.trashed = true ↔ ∀ e ∈ late, e.key ≠ documentKey space item)

variable {I} {ctx ctx' : Context σ} {space item : String} {s t u : σ} {running : Phase}
  {following : Option Phase} {late : List Document}

namespace Racing

/-- A step of the rebuild that is under way. -/
theorem run (h : I.Racing space item running following late t) (hctx : I.Unobtrusive ctx)
    {x : Except Fault Phase}
    (hstep : (I.engine.advance ctx space running).perform t = (x, u)) :
    I.Racing space item (.after x) following
      (if following.isSome then late ++ running.written x else late) u := by
  have hadvanced := advance_cases hctx h.settled hstep
  have hu := hadvanced.becomes
  have hlive : ∀ e ∈ running.written x, e.trashed = false := fun e he =>
    h.live.batch e (Phase.mem_batch_of_mem_written he)
  refine ⟨hu.settled, ?_, hadvanced.keeps h.live (fun _ _ _ _ => rfl) fun _ _ _ _ => trivial,
    h.apart, fun hnone => ?_, fun hsome => ?_, fun hsome d hd => ?_⟩
  · rw [hu.documents]
    exact Collection.isSome_contents_placeAll h.known
  · subst hnone
    exact h.early rfl
  · rw [hu.storage]
    exact h.lacks hsome
  · rw [if_pos hsome, List.forall_mem_append]
    rw [hu.documents] at hd
    by_cases hwritten : ∃ e ∈ running.written x, e.key = documentKey space item
    · have hd' := hlive d (Collection.mem_of_contents_placeAll hd hwritten)
      obtain ⟨e, he, hkey⟩ := hwritten
      simp only [hd', Bool.false_eq_true, false_iff, not_and]
      exact fun _ hnone => hnone e he hkey
    · simp only [not_exists, not_and] at hwritten
      rw [Collection.contents_placeAll_of_forall_ne hwritten] at hd
      rw [h.trashed hsome d hd]
      exact (and_iff_left hwritten).symm

/-- Storage changes. -/
theorem change (h : I.Racing space item running following late t)
    (hfiles : I.files.get u = I.files.get t) (hview : I.view.get u = I.view.get t)
    (hlacks : following.isSome → (I.storage u).Lacks space item) :
    I.Racing space item running following late u := by
  have hdocuments : I.documents u = I.documents t := hview
  refine ⟨?_, ?_, h.live, h.apart, h.early, hlacks, ?_⟩
  · rw [Settled, hfiles, hview]
    exact h.settled
  · rw [hdocuments]
    exact h.known
  · rw [hdocuments]
    exact h.trashed

/-- The item is trashed. -/
theorem trash (h : I.Racing space item running none late t) (hctx : I.Quiet ctx')
    (hlacks : (I.storage t).Lacks space item)
    (htrash : (I.engine.toEngine.trashItem ctx' space item).perform t = (.ok (), u)) :
    I.Racing space item running (some .opening) late u := by
  obtain ⟨d, hd⟩ := Option.isSome_iff_exists.1 h.known
  obtain ⟨hsettled, hstorage, ⟨-, hu⟩ | ⟨hfailed, -⟩⟩ :=
    setTrashed_spec hctx h.settled hd true htrash
  · refine ⟨hsettled, ?_, h.live, ?_, nofun, fun _ => ?_, fun _ e he => ?_⟩
    · rw [hu]
      rfl
    · rintro ph ⟨⟩
      exact Phase.of_opening _ _
    · rw [hstorage]
      exact hlacks
    · rw [hu] at he
      cases he
      simp [h.early rfl]
  · exact absurd rfl hfailed

/-- A step of the rebuild of the event. -/
theorem follow {following : Phase} (h : I.Racing space item running (some following) late t)
    (hctx : I.Unobtrusive ctx') {x : Except Fault Phase}
    (hstep : (I.engine.advance ctx' space following).perform t = (x, u)) :
    I.Racing space item running (some (.after x)) late u := by
  have hadvanced := advance_cases hctx h.settled hstep
  have hu := hadvanced.becomes
  have hapart := h.apart following rfl
  have hlacks := h.lacks rfl
  have hcontents : (I.documents u).contents (documentKey space item) =
      (I.documents t).contents (documentKey space item) := by
    rw [hu.documents]
    exact Collection.contents_placeAll_of_forall_ne fun e he =>
      hapart.batch e (Phase.mem_batch_of_mem_written he)
  refine ⟨hu.settled, ?_, h.live, ?_, nofun, fun _ => ?_, fun _ => ?_⟩
  · rw [hcontents]
    exact h.known
  · rintro ph ⟨⟩
    exact hadvanced.keeps hapart (fun _ hr _ _ => hr) hlacks.key_ne
  · rw [hu.storage]
    exact hlacks
  · rw [hcontents]
    exact h.trashed rfl

end Racing

namespace Race

/-- The rebuild that is under way, for as long as nobody interrupts it. -/
theorem run_alone {ph : Phase} (h : I.Race ctx ctx' space item s running following late t)
    (halone : I.engine.Alone ctx space running t ph u) :
    ∃ late', I.Race ctx ctx' space item s ph following late' u := by
  induction halone generalizing late with
  | refl => exact ⟨late, h⟩
  | step hstep _ ih => exact ih (h.run hstep)

/-- The rebuild of the event, for as long as nobody interrupts it. -/
theorem follow_alone {following ph : Phase}
    (h : I.Race ctx ctx' space item s running (some following) late t)
    (halone : I.engine.Alone ctx' space following t ph u) :
    I.Race ctx ctx' space item s running (some ph) late u := by
  induction halone with
  | refl => exact h
  | step hstep _ ih => exact ih (h.follow hstep)

/-- The event is handled while nobody interrupts, and no call fails. -/
theorem handle {options : ReindexOptions} {event : Event}
    (hoptions : options.rebuildAfterMutation = true) (hevent : event.change = .itemTrashed)
    (h : I.Race ctx ctx' event.space event.item s running none late t)
    (hlacks : (I.storage t).Lacks event.space event.item)
    (hhandle : (I.engine.toEngine.handle options ctx' event).perform t = (.ok 0, u)) :
    ∃ stats,
      I.Race ctx ctx' event.space event.item s running (some (.ended (.ok stats))) late u := by
  have hplan : plan options event =
      [.trashItem event.space event.item, .indexSpace event.space] := by
    simp [plan, hevent, Change.pointChange?, hoptions, PointChange.call]
  rw [Engine.handle, hplan, Engine.carryOutAll_cons_eq_zero] at hhandle
  obtain ⟨v, htrash, hhandle⟩ := hhandle
  rw [Engine.carryOutAll_cons_eq_zero] at hhandle
  obtain ⟨w, hindex, hdone⟩ := hhandle
  obtain rfl := Engine.carryOutAll_nil_eq_zero.1 hdone
  obtain ⟨stats, _, hrun, hnothing⟩ := Op.perform_bind_eq_ok.1 hindex
  cases hnothing
  exact ⟨stats, (h.trash hlacks htrash).follow_alone (IndexEngine.alone_iff.2 hrun)⟩

end Race

/-- It is true at any time of it. -/
theorem Race.racing (h : I.Race ctx ctx' space item s running following late t)
    (hctx : I.Unobtrusive ctx) (hctx' : I.Unobtrusive ctx') (hs : I.Settled s)
    (hknown : ((I.documents s).find? (documentKey space item)).isSome) :
    I.Racing space item running following late t := by
  induction h with
  | start =>
    exact ⟨hs, hknown, Phase.of_opening _ _, nofun, fun _ => rfl, nofun, nofun⟩
  | change _ hfiles hview hlacks ih => exact ih.change hfiles hview hlacks
  | run _ hstep ih => exact ih.run hctx hstep
  | trash _ hlacks htrash ih => exact ih.trash hctx'.quiet hlacks htrash
  | follow _ hstep ih => exact ih.follow hctx' hstep

/-- No search finds what is in the trash unless it asks for it. -/
theorem not_found_of_trashed (hctx : I.Quiet ctx) {d : Document}
    (hd : (I.documents s).find? (documentKey space item) = some d) (htrashed : d.trashed = true)
    {request : Request} {actor : Actor} {response : Response}
    (hdefault : request.includeTrashed = false)
    (hsearch : (I.engine.search ctx request actor).perform s = (.ok response, t)) :
    ∀ m ∈ response.hits, ¬ (m.space = space ∧ m.item = item) := by
  rintro m hm ⟨rfl, rfl⟩
  obtain ⟨permitted, -, ⟨-, rfl⟩ | ⟨-, offset, base, found, -, hfound, rfl⟩⟩ :=
    search_listed hctx hsearch
  · cases hm
  · obtain ⟨⟨e, score⟩, hhit, rfl⟩ := List.mem_map.1 hm
    obtain ⟨he, hselects⟩ := Collection.of_mem_hits hfound (List.mem_map_of_mem hhit)
    have hsame : (I.documents s).find? e.key = some e := Collection.mem_toList_iff.1 he
    cases hd.symm.trans hsame
    have hlive := hselects.live htrashed
    rw [Request.toBackend, hdefault] at hlive
    cases hlive

/-- A search of an index of few documents finds every document that it shows. -/
theorem exists_found {request : Request} {actor : Actor} {permitted : List String} {d : Document}
    (hpermitted : (I.storage s).listSpaces actor = .ok permitted)
    (hitem : request.reference.item = none) (hfirst : request.pageToken = "")
    (hd : d ∈ (I.documents s).toList) (hshows : request.Shows permitted d)
    (hfew : (I.documents s).size ≤ pageLimit request.pageSize) :
    ∃ response, (I.engine.search .background request actor).perform s = (.ok response, s) ∧
      ∃ m ∈ response.hits, m.space = d.space ∧ m.item = d.item := by
  have hselects : (request.toBackend (IndexEngine.selectSpaces permitted request.reference) none
      0).Selects d := Request.selects_toBackend_iff.2 hshows
  obtain ⟨c, hc⟩ := Document.exists_textCriterion hshows.satisfies
  obtain ⟨ranked, hranked⟩ := Collection.exists_ranked (I.documents s)
    (q := request.toBackend (IndexEngine.selectSpaces permitted request.reference) none 0) hc
  have hsome : IndexEngine.selectSpaces permitted request.reference ≠ [] :=
    List.ne_nil_of_mem hselects.space
  have hfound := (Collection.search_eq_ok_iff hsome
    (Nat.ne_of_gt (pageLimit_pos request.pageSize))).2 ⟨ranked, hranked, rfl⟩
  have hall : ranked.length ≤ pageLimit request.pageSize := by
    refine Nat.le_trans ?_ hfew
    rw [← List.length_map (·.1), (Collection.ranked_perm hranked).length_eq]
    exact List.length_filter_le _ _
  have hoffset : PageToken.offsetFor request.fingerprint request.pageToken = .ok 0 :=
    if_pos hfirst
  refine ⟨_, search_background hpermitted hoffset hsome
    (IndexEngine.referencedPath_of_item_eq_none hitem) hfound, ?_⟩
  obtain ⟨⟨_, score⟩, hhit, rfl⟩ :=
    List.mem_map.1 ((Collection.mem_ranked_iff hranked).2 ⟨hd, hselects⟩)
  refine ⟨_, List.mem_map_of_mem (a := (_, score)) ?_, rfl, rfl⟩
  show _ ∈ (ranked.drop 0).take (pageLimit request.pageSize)
  rwa [List.drop_zero, List.take_of_length_le hall]

/--
When both rebuilds have ended, one more rebuild leaves the item in the trash exactly when the one
that was under way has written no document of it since it was trashed.  In the trash, no search
finds it unless it asks for what is trashed.
-/
theorem Race.trashed_iff {outcome outcome' : Except Fault IndexStats} {ctx'' : Context σ}
    (h : I.Race ctx ctx' space item s (.ended outcome) (some (.ended outcome')) late t)
    (hctx : I.Unobtrusive ctx) (hctx' : I.Unobtrusive ctx') (hctx'' : I.Unobtrusive ctx'')
    (hs : I.Settled s) (hknown : ((I.documents s).find? (documentKey space item)).isSome)
    {stats : Except Fault IndexStats}
    (hagain : (I.engine.indexSpace ctx'' space).perform t = (stats, u)) :
    ∃ d, (I.documents u).find? (documentKey space item) = some d ∧
      (d.trashed = true ↔ ∀ e ∈ late, e.key ≠ documentKey space item) ∧
      (d.trashed = true → ∀ (ctx : Context σ) (request : Request) actor response v, I.Quiet ctx →
        request.includeTrashed = false →
        (I.engine.search ctx request actor).perform u = (.ok response, v) →
        ∀ m ∈ response.hits, ¬ (m.space = space ∧ m.item = item)) := by
  have hracing := h.racing hctx hctx' hs hknown
  obtain ⟨-, hsame⟩ := indexSpace_leaves hctx'' hracing.settled (hracing.lacks rfl).key_ne hagain
  obtain ⟨d, hd⟩ := Option.isSome_iff_exists.1 hracing.known
  refine ⟨d, hsame.trans hd, hracing.trashed rfl d hd, ?_⟩
  intro htrashed ctx request actor response v hquiet hdefault hsearch
  exact not_found_of_trashed hquiet (hsame.trans hd) htrashed hdefault hsearch

/-! ## A note that goes -/

/-- The file of the first note. -/
def firstFile : Resource where
  space := "alice"
  item := "1"
  path := "/a.txt"
  name := "a.txt"
  mimeType := "text/plain"
  size := 5
  mtime := 100

/-- Storage of alice that has these files. -/
def aliceStorage (rs : List Resource) : Storage :=
  { (default : Storage) with
    listSpaces := fun _ => .ok ["alice"]
    walkSpace := fun _ => .ok rs }

/-- The index of the notes, with the file of the first one. -/
def filedShelf : Shelf := { noteShelf with storage := aliceStorage [firstFile] }

/-- The index of the notes when the file has gone. -/
def goneShelf : Shelf := { noteShelf with storage := aliceStorage [] }

theorem lacks_goneShelf : goneShelf.storage.Lacks "alice" "1" := by
  rintro rs ⟨⟩
  exact nofun

theorem unobtrusive_basic : (Shelf.installation .basic 1).Unobtrusive .background where
  quiet := quiet_background
  extract _ s := Calm.refl s

/-- A rebuild lists the file, and the file goes. -/
theorem race_goneShelf : (Shelf.installation .basic 1).Race .background .background "alice" "1"
    filedShelf (.going { stats := { scanned := 1 } } [firstFile]) none [] goneShelf :=
  (Race.start.run (x := .ok (.going { stats := { scanned := 1 } } [firstFile]))
    (Op.perform_eq_of_toOption (by decide +kernel))).change rfl rfl nofun

/--
The rebuild still finds the note up to date before the note is trashed.  So it writes nothing of it,
and the note stays in the trash.
-/
theorem trashed_after_lookup :
    ∃ outcome outcome' t u d, (Shelf.installation .basic 1).Race .background .background "alice" "1"
      filedShelf (.ended outcome) (some (.ended outcome')) [] t ∧
      ((Shelf.installation .basic 1).engine.indexSpace .background "alice").perform t = u ∧
      u.2.view.find? firstNote.key = some d ∧ d.trashed = true := by
  have hlooked := race_goneShelf.run
    (x := .ok (.going { stats := { scanned := 1, skipped := 1 } } []))
    (Op.perform_eq_of_toOption (by decide +kernel))
  have htrashed := hlooked.trash lacks_goneShelf
    (Op.perform_eq_of_toOption (a := ()) (by decide +kernel))
  have hwritten := htrashed.run (x := .ok (.ended (.ok { scanned := 1, skipped := 1 })))
    (Op.perform_eq_of_toOption (by decide +kernel))
  have hopened := hwritten.follow (x := .ok (.going { stats := {} } []))
    (Op.perform_eq_of_toOption (by decide +kernel))
  have hended := hopened.follow (x := .ok (.ended (.ok {})))
    (Op.perform_eq_of_toOption (by decide +kernel))
  obtain ⟨d, hd, htrash, -⟩ := Race.trashed_iff hended unobtrusive_basic unobtrusive_basic
    unobtrusive_basic noteShelf_ready.settled (by decide +kernel) Prod.mk.eta.symm
  exact ⟨_, _, _, _, d, hended, rfl, hd, htrash.2 nofun⟩

/--
The note is trashed, and then the rebuild comes to look it up and writes it.  One more rebuild
leaves it out of the trash, where a search finds it.
-/
theorem not_trashed_after_late_lookup :
    (filedShelf.view.find? firstNote.key).isSome ∧
      ∃ outcome outcome' t u, (Shelf.installation .basic 1).Race .background .background
        "alice" "1" filedShelf (.ended outcome) (some (.ended outcome')) [firstNote] t ∧
      ((Shelf.installation .basic 1).engine.indexSpace .background "alice").perform t =
        (.ok {}, u) ∧
      u.view.find? firstNote.key = some firstNote ∧ firstNote.trashed = false ∧
      ∃ response, ((Shelf.installation .basic 1).engine.search .background helloRequest
        alice).perform u = (.ok response, u) ∧
        ∃ m ∈ response.hits, m.space = "alice" ∧ m.item = "1" := by
  have htrashed := race_goneShelf.trash lacks_goneShelf
    (Op.perform_eq_of_toOption (a := ()) (by decide +kernel))
  have hlooked := htrashed.run
    (x := .ok (.going { stats := { scanned := 1 }, batch := [firstNote] } []))
    (Op.perform_eq_of_toOption (by decide +kernel))
  have hwritten := hlooked.run (x := .ok (.ended (.ok { scanned := 1, indexed := 1 })))
    (Op.perform_eq_of_toOption (by decide +kernel))
  have hopened := hwritten.follow (x := .ok (.going { stats := {} } []))
    (Op.perform_eq_of_toOption (by decide +kernel))
  have hended := hopened.follow (x := .ok (.ended (.ok {})))
    (Op.perform_eq_of_toOption (by decide +kernel))
  refine ⟨by decide +kernel, _, _, _, _, hended, Op.perform_eq_of_toOption (by decide +kernel),
    by decide +kernel, rfl, ?_⟩
  exact exists_found (I := Shelf.installation .basic 1) (d := firstNote)
    (show _ = Except.ok ["alice"] from rfl) rfl rfl (by decide +kernel) (by decide +kernel)
    (by decide +kernel)

end Installation

end ScopedSearch
