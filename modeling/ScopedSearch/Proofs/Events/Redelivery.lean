import ScopedSearch.Proofs.Events.PointChanges
import ScopedSearch.Proofs.Rebuild.Run

/-!
# An event that is delivered twice

A stream may deliver an event a second time.  What it asks for is done again then: its document is
changed again, and where a rebuild follows, the rebuild is run again.  The change may undo what the
rebuild has made of the document, and the rebuild then has to make it once more, by one of three
ways: the document is current, its text is reused, or the file is extracted.  Whichever way it goes,
it comes to the same document, as long as the listing names resources by their paths; so no index
can tell whether an event has come once or twice.

## Main results

* `revised_again`: a rebuild makes of a document that was changed again what it had made before.
* `takeIn_takeIn`: what an event makes of an index, it makes of it once and for all.
* `handle_twice`: a second delivery leaves the index as it is.
-/

namespace ScopedSearch

/-! ## One document -/

namespace Resource

/--
A change of documents that the rebuilds of a resource put up with: it comes to rest after one time,
leaves alone what the text is reused by, and leaves a document of the resource as it is where it
leaves it current.
-/
structure Absorbs (r : Resource) (f : Document → Document) : Prop where
  apply_apply : ∀ d, f (f d) = f d
  degraded : ∀ d, (f d).degraded = d.degraded
  mtime : ∀ d, (f d).mtime = d.mtime
  size : ∀ d, (f d).size = d.size
  content : ∀ d, (f d).content = d.content
  current : ∀ content degraded, (f (r.toDocument content degraded)).isCurrentFor r = true →
    f (r.toDocument content degraded) = r.toDocument content degraded

variable {texts : Texts} {r : Resource} {f : Document → Document}

theorem absorbs_id (r : Resource) : r.Absorbs id :=
  ⟨fun _ => rfl, fun _ => rfl, fun _ => rfl, fun _ => rfl, fun _ => rfl, fun _ _ _ => rfl⟩

/-- Rebuilds put up with the changes that events ask for, where resources are named by their paths. -/
theorem absorbs_apply (hname : r.name = Path.lastName (Path.normalize r.path)) (p : PointChange) :
    r.Absorbs p.apply where
  apply_apply := p.apply_apply
  degraded d := by cases p <;> rfl
  mtime d := by cases p <;> rfl
  size d := by cases p <;> rfl
  content d := by cases p <;> rfl
  current content degraded h := by
    obtain ⟨htrashed, _, _, hpath, htags, _⟩ := Document.isCurrentFor_iff.1 h
    cases p with
    | trash => cases htrashed
    | restore => rfl
    | move path =>
      -- the path is the old one, and the name is told by the path
      have hpath' : Path.normalize path = Path.normalize r.path := hpath
      simp only [PointChange.apply, Patch.apply, Document.relocate, hpath', ← hname]
      rfl
    | retag delta =>
      have htags' : delta.applyTo r.tags = r.tags := htags
      show { r.toDocument content degraded with tags := delta.applyTo r.tags } = _
      rw [htags']
      rfl

/-- A document that a rebuild has made of a text is made of the same text again. -/
theorem revised_toDocument (hf : r.Absorbs f) {content : String} (hdir : r.isDir = false) :
    r.revised texts (some (f (r.toDocument content))) = r.toDocument content := by
  by_cases hcurrent : (f (r.toDocument content)).isCurrentFor r = true
  · rw [revised_of_isCurrentFor texts hcurrent]
    exact hf.current content false hcurrent
  · have hreusable : (f (r.toDocument content)).isReusableFor r = true :=
      Document.isReusableFor_iff.2 ⟨hf.degraded _, hdir, hf.mtime _, hf.size _⟩
    rw [revised_of_isReusableFor texts (Bool.eq_false_iff.2 hcurrent) hreusable, hf.content]
    rfl

/-- A document that a rebuild has made from scratch is made from scratch again, or kept. -/
theorem revised_fresh (hf : r.Absorbs f) :
    r.revised texts (some (f (r.fresh texts))) = r.fresh texts := by
  by_cases hcurrent : (f (r.fresh texts)).isCurrentFor r = true
  · rw [revised_of_isCurrentFor texts hcurrent]
    exact hf.current _ _ hcurrent
  · by_cases hreusable : (f (r.fresh texts)).isReusableFor r = true
    · obtain ⟨hdegraded, hdir, _⟩ := Document.isReusableFor_iff.1 hreusable
      rw [hf.degraded] at hdegraded
      have hfresh : r.fresh texts = r.toDocument (r.fresh texts).content := by
        show r.toDocument _ (r.fresh texts).degraded = _
        rw [hdegraded]
        rfl
      rw [hfresh]
      exact revised_toDocument hf hdir
    · exact revised_of_not_isReusableFor texts (Bool.eq_false_iff.2 hcurrent)
        (Bool.eq_false_iff.2 hreusable)

/--
A rebuild makes of a document what it had made of it before, also when the change that had come
first is made again in between.
-/
theorem revised_again (hf : r.Absorbs f) (old : Option Document) :
    r.revised texts (some (f (r.revised texts (old.map f)))) = r.revised texts (old.map f) := by
  cases old with
  | none => exact revised_fresh hf
  | some d =>
    show r.revised texts (some (f (r.revised texts (some (f d))))) = r.revised texts (some (f d))
    -- by what the first rebuild has done: kept the document, reused its text, or extracted one
    by_cases hcurrent : (f d).isCurrentFor r = true
    · rw [revised_of_isCurrentFor texts hcurrent, hf.apply_apply,
        revised_of_isCurrentFor texts hcurrent]
    · have hstale : (f d).isCurrentFor r = false := Bool.eq_false_iff.2 hcurrent
      by_cases hreusable : (f d).isReusableFor r = true
      · have hdir := (Document.isReusableFor_iff.1 hreusable).2.1
        rw [revised_of_isReusableFor texts hstale hreusable]
        exact revised_toDocument hf hdir
      · rw [revised_of_not_isReusableFor texts hstale (Bool.eq_false_iff.2 hreusable)]
        exact revised_fresh hf

/--
What storage lists of a space: the resources are of that space, no two are of one item, and each is
named by its path.
-/
structure ListingOf (space : String) (rs : List Resource) : Prop where
  ofSpace : ∀ r ∈ rs, r.space = space
  items : (rs.map (·.item)).Nodup
  named : ∀ r ∈ rs, r.name = Path.lastName (Path.normalize r.path)

/-- In a listing of one space every resource has a key of its own. -/
theorem ListingOf.nodup_keys {space : String} {rs : List Resource} (h : ListingOf space rs) :
    (rs.map Resource.key).Nodup :=
  nodup_keys_of_items h.ofSpace h.items

end Resource

/-! ## The index, key by key -/

namespace Contents

variable {texts : Texts} {rs : List Resource} {e : Event} {m : Contents}

/-- What stands in an index after an event and the rebuild that follows it. -/
def takeIn (texts : Texts) (rs : List Resource) (e : Event) (m : Contents) : Contents :=
  (m.follow e).reviseAll texts rs

theorem absorbs_changeAt {r : Resource} (hname : r.name = Path.lastName (Path.normalize r.path))
    (e : Event) (key : String) : r.Absorbs (changeAt e key) := by
  unfold changeAt
  cases e.change.pointChange? with
  | none => exact Resource.absorbs_id r
  | some p =>
    dsimp only
    split
    · exact Resource.absorbs_apply hname p
    · exact Resource.absorbs_id r

/-- What an event and its rebuild make of an index, they make of it once and for all. -/
theorem takeIn_takeIn {space : String} (hrs : Resource.ListingOf space rs) :
    (m.takeIn texts rs e).takeIn texts rs e = m.takeIn texts rs e := by
  have hkeys := hrs.nodup_keys
  funext key
  -- a document that is listed is changed and then revised, any other one is only changed
  by_cases hkey : key ∈ rs.map Resource.key
  · obtain ⟨r, hr, rfl⟩ := List.mem_map.1 hkey
    have htaken : ∀ m : Contents, m.takeIn texts rs e r.key =
        some (r.revised texts ((m r.key).map (changeAt e r.key))) := by
      intro m
      rw [takeIn, reviseAll_apply texts hkeys hr, follow_eq_map]
    rw [htaken, htaken, Option.map_some,
      Resource.revised_again (absorbs_changeAt (hrs.named r hr) e r.key)]
  · have hleft : ∀ m : Contents, m.takeIn texts rs e key = m.follow e key :=
      fun m => reviseAll_of_not_mem texts hkey
    rw [hleft, hleft, follow_eq_map, hleft, ← follow_eq_map, follow_follow]

end Contents

/-! ## The calls -/

/-- An event is followed by a rebuild of its space. -/
def Event.isRebuilt (options : ReindexOptions) (e : Event) : Bool :=
  match e.change.pointChange? with
  | some _ => options.rebuildAfterMutation
  | none => e.change.asksForRebuild options

/-- A plan is the change of a document, if any, and then the rebuild, if any. -/
theorem plan_eq (options : ReindexOptions) (e : Event) :
    plan options e = (e.change.pointChange?.toList.map (·.call e.space e.item)) ++
      (if e.isRebuilt options then [.indexSpace e.space] else []) := by
  unfold plan Event.isRebuilt
  cases e.change.pointChange? <;> rfl

/-- The texts of listed files, by their items. -/
def textsOf (text : Resource → Option String) (rs : List Resource) : Texts :=
  fun p _ _ => (rs.find? (·.identity = p)).bind text

theorem textsOf_of_mem {text : Resource → Option String} {rs : List Resource} {r : Resource}
    (hitems : (rs.map (·.item)).Nodup) (hr : r ∈ rs) :
    textsOf text rs r.identity r.mtime r.size = text r := by
  have hsome : (rs.find? (·.identity = r.identity)).isSome :=
    List.find?_isSome.2 ⟨r, hr, by simp⟩
  obtain ⟨x, hx⟩ := Option.isSome_iff_exists.1 hsome
  have hidentity : x.identity = r.identity := by simpa using List.find?_some hx
  have hitem : x.item = r.item := (Identity.mk.inj hidentity).2
  have hsame : x = r :=
    List.inj_on_of_nodup_map hitems (List.mem_of_find?_eq_some hx) hr hitem
  rw [textsOf, hx, hsame]
  rfl

namespace Installation

variable {σ : Type} {I : Installation σ} {ctx ctx' : Context σ} {s t u : σ} {S : Storage}
  {space : String} {text : Resource → Option String} {options : ReindexOptions} {event : Event}

/--
As long as storage answers as `S` does, the extractor makes the same of a listed file every time: its
text, or nothing.  Neither it nor a check touches the index.
-/
structure Deterministic (I : Installation σ) (text : Resource → Option String) (ctx : Context σ)
    (S : Storage) (space : String) : Prop where
  quiet : I.Quiet ctx
  extract : ∀ s rs r, I.storage s = S → S.walkSpace space = .ok rs → r ∈ rs → r.isDir = false →
    ∃ outcome t, (I.extractor.tryExtract ctx r).perform s = (outcome, t) ∧ I.Calm s t ∧
      outcome.toOption = text r

/-- What the extractor makes every time are the texts that rebuilds read. -/
theorem Deterministic.reads {rs : List Resource} (h : I.Deterministic text ctx S space)
    (hwalk : S.walkSpace space = .ok rs) (hrs : Resource.ListingOf space rs) :
    I.Reads (textsOf text rs) ctx S rs where
  quiet := h.quiet
  extract s r hs hr hdir := by
    obtain ⟨outcome, t, hextract, hcalm, htext⟩ := h.extract s rs r hs hwalk hr hdir
    rw [textsOf_of_mem hrs.items hr, ← htext]
    cases outcome with
    | ok content => exact ⟨_, t, Extractor.perform_extract_of_ok hextract, hcalm, rfl, rfl⟩
    | error e => exact ⟨_, t, Extractor.perform_extract_of_error hextract, hcalm, rfl, rfl⟩

/-- The change of a document that does not fail is followed. -/
theorem contents_of_changes (hctx : I.Quiet ctx) (hs : I.Settled s)
    (hrun : (I.engine.toEngine.carryOutAll ctx
      (event.change.pointChange?.toList.map (·.call event.space event.item))).perform s =
        (.ok 0, t)) :
    I.Becomes s t (I.documents t) ∧
      (I.documents t).contents = (I.documents s).contents.follow event := by
  unfold Contents.follow
  cases hp : event.change.pointChange? with
  | none =>
    rw [hp] at hrun
    obtain rfl := Engine.carryOutAll_nil_eq_zero.1 hrun
    exact ⟨Becomes.refl hs, rfl⟩
  | some p =>
    rw [hp, Option.toList_some, List.map_singleton, Engine.carryOutAll_cons_eq_zero] at hrun
    obtain ⟨v, hcall, hnil⟩ := hrun
    obtain rfl := Engine.carryOutAll_nil_eq_zero.1 hnil
    rcases pointCall_spec hctx hs event.space event.item p with ⟨w, hok, h⟩ | ⟨e, w, herror, _⟩
    · rw [hcall] at hok
      cases hok
      refine ⟨⟨h.settled, rfl, h.storage⟩, ?_⟩
      rw [h.documents, Collection.contents_amend _ _ p.key_apply]
      rfl
    · rw [hcall] at herror
      cases herror

/-- A rebuild that does not fail takes in what storage lists. -/
theorem contents_of_rebuilt (hctx : I.Deterministic text ctx (I.storage s) space)
    (hs : I.Settled s)
    (hrs : ∀ rs, (I.storage s).walkSpace space = .ok rs → Resource.ListingOf space rs)
    (hrun : (I.engine.toEngine.carryOutAll ctx [.indexSpace space]).perform s = (.ok 0, t)) :
    I.Becomes s t (I.documents t) ∧ ∃ rs, (I.storage s).walkSpace space = .ok rs ∧
      (I.documents t).contents = (I.documents s).contents.reviseAll (textsOf text rs) rs := by
  obtain ⟨v, hcall, hnil⟩ := Engine.carryOutAll_cons_eq_zero.1 hrun
  obtain rfl := Engine.carryOutAll_nil_eq_zero.1 hnil
  obtain ⟨stats, w, hindex, ⟨⟩⟩ := Op.perform_bind_eq_ok.1 hcall
  obtain ⟨rs, hwalk⟩ := walks_of_indexSpace hctx.quiet hindex
  have hlisting := hrs rs hwalk
  obtain ⟨h, hcontents⟩ :=
    indexSpace_ok hs hwalk (hctx.reads hwalk hlisting) hlisting.nodup_keys hindex
  exact ⟨h, rs, hwalk, hcontents⟩

/-- What an event without failures makes of the index, with its rebuild and without. -/
theorem contents_of_handle (hctx : I.Deterministic text ctx (I.storage s) event.space)
    (hs : I.Settled s)
    (hrs : ∀ rs, (I.storage s).walkSpace event.space = .ok rs →
      Resource.ListingOf event.space rs)
    (hrun : (I.engine.toEngine.handle options ctx event).perform s = (.ok 0, t)) :
    I.Becomes s t (I.documents t) ∧
      if event.isRebuilt options then
        ∃ rs, (I.storage s).walkSpace event.space = .ok rs ∧
          (I.documents t).contents = (I.documents s).contents.takeIn (textsOf text rs) rs event
      else (I.documents t).contents = (I.documents s).contents.follow event := by
  rw [Engine.handle, plan_eq, Engine.carryOutAll_append_eq_zero] at hrun
  obtain ⟨v, hchanges, hrebuild⟩ := hrun
  obtain ⟨hv, hfollow⟩ := contents_of_changes hctx.quiet hs hchanges
  split
  · next hrebuilt =>
    rw [if_pos hrebuilt] at hrebuild
    rw [← hv.storage] at hctx hrs
    obtain ⟨ht, rs, hwalk, hcontents⟩ := contents_of_rebuilt hctx hv.settled hrs hrebuild
    refine ⟨⟨ht.settled, rfl, ht.storage.trans hv.storage⟩, rs, hv.storage ▸ hwalk, ?_⟩
    rw [hcontents, hfollow]
    rfl
  · next hrebuilt =>
    rw [if_neg hrebuilt] at hrebuild
    obtain rfl := Engine.carryOutAll_nil_eq_zero.1 hrebuild
    exact ⟨hv, hfollow⟩

/--
An event of any kind that is delivered a second time, with nothing else changed and without
failures, leaves all documents as they are.
-/
theorem handle_twice (hs : I.Settled s)
    (hctx : I.Deterministic text ctx (I.storage s) event.space)
    (hctx' : I.Deterministic text ctx' (I.storage s) event.space)
    (hrs : ∀ rs, (I.storage s).walkSpace event.space = .ok rs →
      Resource.ListingOf event.space rs)
    (hrun : (I.engine.toEngine.handle options ctx event).perform s = (.ok 0, t))
    (hagain : (I.engine.toEngine.handle options ctx' event).perform t = (.ok 0, u)) :
    I.documents u = I.documents t := by
  obtain ⟨ht, hcontents⟩ := contents_of_handle hctx hs hrs hrun
  rw [← ht.storage] at hctx' hrs
  obtain ⟨_, hcontents'⟩ := contents_of_handle hctx' ht.settled hrs hagain
  apply Collection.eq_of_contents_eq
  by_cases hrebuilt : event.isRebuilt options = true
  · rw [if_pos hrebuilt] at hcontents hcontents'
    obtain ⟨rs, hwalk, hcontents⟩ := hcontents
    obtain ⟨rs', hwalk', hcontents'⟩ := hcontents'
    rw [ht.storage, hwalk, Except.ok.injEq] at hwalk'
    subst hwalk'
    rw [hcontents', hcontents]
    exact Contents.takeIn_takeIn (hrs rs (ht.storage ▸ hwalk))
  · rw [if_neg hrebuilt] at hcontents hcontents'
    rw [hcontents', hcontents, Contents.follow_follow]

/-! ## A folder of which one file cannot be read -/

/-- A file that cannot be read, another file, and the folder that it is in. -/
def mixedListing : List Resource :=
  [{ space := "alice", item := "1", path := "/a.bin", name := "a.bin", mimeType := "image/png",
     size := 9, mtime := 100 },
   { space := "alice", item := "2", path := "/notes/b.txt", name := "b.txt",
     mimeType := "text/plain", size := 5, mtime := 100, tags := TagSet.ofList ["red"] },
   { space := "alice", item := "3", path := "/notes/", name := "notes", mimeType := directoryMime,
     size := 0, mtime := 100, isDir := true }]

/-- An extractor that reads every file but the first one. -/
def mixedExtractor : Extractor Shelf :=
  ⟨"mixed", fun _ r => Op.ofExcept (if r.item = "1" then .error (.internal "no text") else .ok "hello")⟩

/-- What it makes of a file. -/
def mixedText (r : Resource) : Option String := if r.item = "1" then none else some "hello"

/-- The folder, before it is indexed. -/
def mixedShelf : Shelf :=
  { storage := { (default : Storage) with walkSpace := fun _ => .ok mixedListing } }

/-- A move of the second file to a path that storage does not report. -/
def mixedMove : Event :=
  { space := "alice", item := "2", change := .itemMoved "/b.txt" "/c.txt" }

/-- Handles the move. -/
def moveMixed : Op Shelf Nat :=
  (Shelf.installation mixedExtractor 1).engine.toEngine.handle {} .background mixedMove

theorem deterministic_mixed :
    (Shelf.installation mixedExtractor 1).Deterministic mixedText .background mixedShelf.storage
      mixedMove.space where
  quiet := quiet_background
  extract s rs r _ _ _ _ := by
    refine ⟨_, s, rfl, Calm.refl s, ?_⟩
    unfold mixedText
    split <;> rfl

/--
The first delivery indexes the folder.  The second one moves the indexed file, and the rebuild moves
it back; the index is as before, with one document without a text.
-/
theorem move_mixed_twice :
    ∃ t u, moveMixed.perform mixedShelf = (.ok 0, t) ∧ moveMixed.perform t = (.ok 0, u) ∧
      u.view = t.view ∧
      t.view.toList.map (fun d => (d.item, d.path, d.content, d.degraded)) =
        [("1", "/a.bin", "", true), ("2", "/notes/b.txt", "hello", false),
          ("3", "/notes", "", false)] := by
  have hrun : moveMixed.perform mixedShelf = (.ok 0, _) :=
    Op.perform_eq_of_toOption (by decide +kernel)
  have hagain : moveMixed.perform (moveMixed.perform mixedShelf).2 = (.ok 0, _) :=
    Op.perform_eq_of_toOption (by decide +kernel)
  have hlisting : ∀ rs, mixedShelf.storage.walkSpace mixedMove.space = .ok rs →
      Resource.ListingOf mixedMove.space rs := by
    rintro _ ⟨⟩
    exact ⟨by decide, by decide, by decide +kernel⟩
  have hsettled : (Shelf.installation mixedExtractor 1).Settled mixedShelf := rfl
  refine ⟨_, _, hrun, hagain, ?_, by decide +kernel⟩
  exact handle_twice hsettled deterministic_mixed deterministic_mixed hlisting hrun hagain

end Installation

end ScopedSearch
