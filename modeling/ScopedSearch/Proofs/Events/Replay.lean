import ScopedSearch.Proofs.Events.PointChanges

/-!
# A history that is replayed

Where no rebuilds follow, events change single documents and nothing else.  What a sequence of them
makes of a document is told by its last words: its path and name by the last move, its place in the
trash by the last event that put it there or took it out, and every tag by the last event that
mentions it.  Words that are said again in the same order leave the last ones the last ones, so a
history that is replayed as a whole changes nothing, however its events contradict each other.

## Main results

* `settles_applyAll`: what changes make of a document, by their last words.
* `contents_of_handleAll`: what events make of the index, key by key.
* `replay_settles`: a history settles every document, and changes nothing when it is replayed.
-/

namespace ScopedSearch

/-! ## Last words -/

namespace PointChange

/-- The path that a change gives. -/
def path? : PointChange → Option String
  | move path => some path
  | _ => none

/-- The flag of the trash that a change sets. -/
def flag? : PointChange → Option Bool
  | trash => some true
  | restore => some false
  | _ => none

/-- Whether a change that mentions the tag adds it. -/
def mention? (tag : String) : PointChange → Option Bool
  | retag (.add tags) => if tag ∈ tags then some true else none
  | retag (.remove tags) => if tag ∈ tags then some false else none
  | _ => none

/-- What the last change that says something says. -/
def last? {α : Type} (word : PointChange → Option α) (ps : List PointChange) : Option α :=
  ps.reverse.findSome? word

/-- The document after changes, one after the other. -/
def applyAll (ps : List PointChange) (d : Document) : Document := ps.foldl (fun d p => p.apply d) d

variable {α : Type} (word : PointChange → Option α) (ps : List PointChange) (p : PointChange)

@[simp] theorem last?_nil : last? word [] = none := rfl

theorem last?_concat : last? word (ps ++ [p]) = (word p).or (last? word ps) := by
  rw [last?, List.reverse_append]
  cases h : word p with
  | none => simp [last?, h]
  | some a => simp [h]

theorem applyAll_concat (d : Document) : applyAll (ps ++ [p]) d = p.apply (applyAll ps d) := by
  rw [applyAll, List.foldl_append]
  rfl

@[simp] theorem identity_applyAll (d : Document) : (applyAll ps d).identity = d.identity := by
  induction ps generalizing d with
  | nil => rfl
  | cons q ps ih => exact (ih (q.apply d)).trans (identity_apply q d)

/-! ### One change -/

theorem path_apply (d : Document) :
    (p.apply d).path = (p.path?.map Path.normalize).getD d.path := by
  cases p <;> rfl

theorem name_apply (d : Document) :
    (p.apply d).name = (p.path?.map fun path => Path.lastName (Path.normalize path)).getD d.name := by
  cases p <;> rfl

theorem trashed_apply (d : Document) : (p.apply d).trashed = p.flag?.getD d.trashed := by
  cases p <;> rfl

theorem mem_tags_apply (tag : String) (d : Document) :
    tag ∈ (p.apply d).tags ↔ (p.mention? tag).getD (decide (tag ∈ d.tags)) = true := by
  cases p with
  | trash => simp [apply, Patch.apply, mention?]
  | restore => simp [apply, Patch.apply, mention?]
  | move path => simp [apply, Patch.apply, Document.relocate, mention?]
  | retag delta =>
    have hmem : tag ∈ ((retag delta).apply d).tags ↔ tag ∈ delta.applyTo d.tags := Iff.rfl
    rw [hmem, TagDelta.mem_applyTo_iff]
    cases delta with
    | add tags => by_cases h : tag ∈ tags <;> simp [mention?, h]
    | remove tags => by_cases h : tag ∈ tags <;> simp [mention?, h]

end PointChange

open PointChange

/--
What changes make of a document: its path and name are those of the last move, the flag of the trash
is the one set last, a tag is there when the last change that mentions it adds it, and where no
change says anything about one of these it is as before.  All else stays.
-/
structure Document.Settles (ps : List PointChange) (d d' : Document) : Prop where
  path : d'.path = ((last? path? ps).map Path.normalize).getD d.path
  name : d'.name = ((last? path? ps).map fun path => Path.lastName (Path.normalize path)).getD d.name
  trashed : d'.trashed = (last? flag? ps).getD d.trashed
  tags : ∀ tag, tag ∈ d'.tags ↔ (last? (mention? tag) ps).getD (decide (tag ∈ d.tags)) = true
  rest : d' = { d with
    path := d'.path
    name := d'.name
    trashed := d'.trashed
    tags := d'.tags }

namespace Document.Settles

variable {ps : List PointChange} {d d' d'' : Document}

/-- No changes leave a document as it is. -/
theorem nil (d : Document) : d.Settles [] d := ⟨rfl, rfl, rfl, by simp, rfl⟩

/-- One more change has the last word. -/
theorem concat (h : d.Settles ps d') (p : PointChange) : d.Settles (ps ++ [p]) (p.apply d') where
  path := by rw [path_apply, h.path, last?_concat, Option.map_or, Option.getD_or]
  name := by rw [name_apply, h.name, last?_concat, Option.map_or, Option.getD_or]
  trashed := by rw [trashed_apply, h.trashed, last?_concat, Option.getD_or]
  tags tag := by
    rw [mem_tags_apply, last?_concat, Option.getD_or]
    cases p.mention? tag with
    | none => simpa using h.tags tag
    | some flag => rfl
  rest := by
    rw [apply_eq p d', h.rest]

/-- The last words tell what a document has become. -/
theorem unique (h : d.Settles ps d') (h' : d.Settles ps d'') : d' = d'' := by
  have htags : d'.tags = d''.tags := by
    ext tag
    rw [h.tags, h'.tags]
  rw [h.rest, h'.rest, h.path, h'.path, h.name, h'.name, h.trashed, h'.trashed, htags]

/-- Said once more, the last words are the same. -/
theorem again (h : d.Settles ps d') (h' : d'.Settles ps d'') : d.Settles ps d'' where
  path := by rw [h'.path, h.path, ← Option.getD_or, Option.or_self]
  name := by rw [h'.name, h.name, ← Option.getD_or, Option.or_self]
  trashed := by rw [h'.trashed, h.trashed, ← Option.getD_or, Option.or_self]
  tags tag := by
    have htag := h.tags tag
    rw [h'.tags]
    cases hlast : last? (mention? tag) ps with
    | none =>
      rw [hlast] at htag
      simpa using htag
    | some flag => rfl
  rest := by
    rw [h'.rest, h.rest]

end Document.Settles

/-- Changes settle a document by their last words. -/
theorem PointChange.settles_applyAll (ps : List PointChange) (d : Document) :
    d.Settles ps (applyAll ps d) := by
  induction ps using List.reverseRecOn with
  | nil => exact Document.Settles.nil d
  | append_singleton ps p ih =>
    rw [applyAll_concat]
    exact ih.concat p

/-- Changes that are all made a second time change nothing. -/
theorem PointChange.applyAll_applyAll (ps : List PointChange) (d : Document) :
    applyAll ps (applyAll ps d) = applyAll ps d :=
  ((settles_applyAll ps d).again (settles_applyAll ps _)).unique (settles_applyAll ps d)

/-! ## Events -/

/-- The changes of single documents that events ask for. -/
def Event.pointChanges (events : List Event) : List PointChange :=
  events.filterMap (·.change.pointChange?)

/-- The changes that events ask for of one item. -/
def Event.changesOf (p : Identity) (events : List Event) : List PointChange :=
  pointChanges (events.filter (·.identity = p))

namespace Contents

/-- What stands in an index after events that no rebuilds follow. -/
def followAll (m : Contents) (events : List Event) : Contents := events.foldl follow m

/-- The first of several events makes its change under the key, and the others make theirs. -/
theorem applyAll_pointChanges_cons (e : Event) (events : List Event) (key : String)
    (d : Document) :
    applyAll (Event.pointChanges ((e :: events).filter (·.identity.key = key))) d =
      applyAll (Event.pointChanges (events.filter (·.identity.key = key)))
        (changeAt e key d) := by
  unfold changeAt
  by_cases hkey : e.identity.key = key
  · rw [List.filter_cons_of_pos (by simpa using hkey), Event.pointChanges, List.filterMap_cons]
    cases e.change.pointChange? with
    | none => rfl
    | some p =>
      dsimp only
      rw [if_pos hkey.symm]
      rfl
  · rw [List.filter_cons_of_neg (by simpa using hkey)]
    cases e.change.pointChange? with
    | none => rfl
    | some p =>
      dsimp only
      rw [if_neg (Ne.symm hkey)]
      rfl

/-- Under a key the changes are made that events ask for of its items. -/
theorem followAll_apply (m : Contents) (events : List Event) (key : String) :
    m.followAll events key =
      (m key).map (applyAll (Event.pointChanges (events.filter (·.identity.key = key)))) := by
  induction events generalizing m with
  | nil =>
    show m key = (m key).map id
    rw [Option.map_id_fun, id]
  | cons e events ih =>
    show (m.follow e).followAll events key = _
    rw [ih, follow_eq_map, Option.map_map]
    congr 1
    funext d
    exact (applyAll_pointChanges_cons e events key d).symm

/-- Events that are all followed a second time change nothing. -/
theorem followAll_followAll (m : Contents) (events : List Event) :
    (m.followAll events).followAll events = m.followAll events := by
  funext key
  rw [followAll_apply, followAll_apply, Option.map_map]
  congr 1
  funext d
  exact applyAll_applyAll _ d

end Contents

/-- Where no other item has its key, a document is changed as the events of its item ask for. -/
theorem Collection.mem_of_followAll {c c' : Collection} {events : List Event} {d : Document}
    (hcontents : c'.contents = c.contents.followAll events) (hd : d ∈ c.toList)
    (hkeys : ∀ e ∈ events, e.identity.key = d.identity.key → e.identity = d.identity) :
    applyAll (Event.changesOf d.identity events) d ∈ c'.toList := by
  have hsame : events.filter (·.identity.key = d.key) =
      events.filter (·.identity = d.identity) := by
    refine List.filter_congr fun e he => decide_eq_decide.2 ⟨hkeys e he, ?_⟩
    intro heq
    rw [heq, Document.key_identity]
  have hkey : (applyAll (Event.changesOf d.identity events) d).key = d.key := by
    rw [← Document.key_identity, identity_applyAll, Document.key_identity]
  rw [mem_toList_iff, hkey, hcontents, Contents.followAll_apply, hsame, mem_toList_iff.1 hd]
  rfl

/-! ## The index -/

namespace Installation

variable {σ : Type} {I : Installation σ} {ctx ctx' : Context σ} {s : σ}
  {options : ReindexOptions} {events : List Event}

/-- An event that asks for the change of a document gets it, and no rebuild where none follows. -/
theorem handle_ready (hoptions : options.rebuildAfterMutation = false) (hctx : I.Holds ctx)
    (hs : I.Ready s) {event : Event} (hevent : event.change.pointChange?.isSome) :
    ∃ t, (I.engine.toEngine.handle options ctx event).perform s = (.ok 0, t) ∧ I.Ready t ∧
      (I.documents t).contents = (I.documents s).contents.follow event := by
  obtain ⟨p, hp⟩ := Option.isSome_iff_exists.1 hevent
  have hplan : plan options event = [p.call event.space event.item] := by
    simp [plan, hp, hoptions]
  obtain ⟨t, hcall, hready, h⟩ := pointCall_ready hctx hs event.space event.item p
  refine ⟨t, ?_, hready, ?_⟩
  · rw [Engine.handle, hplan, Engine.carryOutAll_cons_eq_zero]
    exact ⟨t, hcall, rfl⟩
  · rw [h.documents, Collection.contents_amend _ _ p.key_apply, Contents.follow, hp]
    rfl

/-- Events that no rebuilds follow make the changes that they ask for, one after the other. -/
theorem contents_of_handleAll (hoptions : options.rebuildAfterMutation = false)
    (hctx : I.Holds ctx) (hs : I.Ready s)
    (hevents : ∀ e ∈ events, e.change.pointChange?.isSome) :
    ∃ t, (I.engine.toEngine.handleAll options ctx events).perform s = (.ok (), t) ∧ I.Ready t ∧
      (I.documents t).contents = (I.documents s).contents.followAll events := by
  induction events generalizing s with
  | nil => exact ⟨s, rfl, hs, rfl⟩
  | cons e events ih =>
    obtain ⟨t, hhandle, ht, hcontents⟩ :=
      handle_ready hoptions hctx hs (hevents e List.mem_cons_self)
    obtain ⟨u, hrest, hu, hcontents'⟩ :=
      ih ht fun x hx => hevents x (List.mem_cons_of_mem e hx)
    refine ⟨u, ?_, hu, ?_⟩
    · rw [Engine.handleAll, Op.perform_bind_of_ok hhandle]
      exact hrest
    · rw [hcontents', hcontents]
      rfl

/--
Where no rebuilds follow, a history of changes settles every document by its last words and leaves
all others; it makes no documents, and to replay it as a whole changes nothing.
-/
theorem replay_settles (hoptions : options.rebuildAfterMutation = false) (hctx : I.Holds ctx)
    (hctx' : I.Holds ctx') (hs : I.Ready s)
    (hevents : ∀ e ∈ events, e.change.pointChange?.isSome)
    (hkeys : ∀ e ∈ events, ∀ d ∈ (I.documents s).toList, e.identity.key = d.identity.key →
      e.identity = d.identity) :
    ∃ t u, (I.engine.toEngine.handleAll options ctx events).perform s = (.ok (), t) ∧
      (I.engine.toEngine.handleAll options ctx' events).perform t = (.ok (), u) ∧
      I.documents u = I.documents t ∧
      (∀ d ∈ (I.documents s).toList, ∃ d' ∈ (I.documents t).toList,
        d.Settles (Event.changesOf d.identity events) d') ∧
      (∀ d ∈ (I.documents s).toList, (∀ e ∈ events, e.identity ≠ d.identity) →
        d ∈ (I.documents t).toList) ∧
      ∀ d' ∈ (I.documents t).toList, ∃ d ∈ (I.documents s).toList, d.identity = d'.identity := by
  obtain ⟨t, hrun, ht, hcontents⟩ := contents_of_handleAll hoptions hctx hs hevents
  obtain ⟨u, hrun', _, hcontents'⟩ := contents_of_handleAll hoptions hctx' ht hevents
  have hsettled : ∀ d ∈ (I.documents s).toList,
      applyAll (Event.changesOf d.identity events) d ∈ (I.documents t).toList :=
    fun d hd => Collection.mem_of_followAll hcontents hd fun e he => hkeys e he d hd
  refine ⟨t, u, hrun, hrun', ?_, ?_, ?_, ?_⟩
  · apply Collection.eq_of_contents_eq
    rw [hcontents', hcontents, Contents.followAll_followAll]
  · exact fun d hd => ⟨_, hsettled d hd, settles_applyAll _ d⟩
  · -- no changes settle a document as it is
    intro d hd hother
    have hnone : events.filter (·.identity = d.identity) = [] := by
      rw [List.filter_eq_nil_iff]
      simpa using hother
    have hd' := hsettled d hd
    rwa [Event.changesOf, hnone] at hd'
  · intro d' hd'
    rw [Collection.mem_toList_iff, hcontents, Contents.followAll_apply] at hd'
    obtain ⟨d, hd, happly⟩ := Option.map_eq_some_iff.1 hd'
    refine ⟨d, Collection.mem_toList_iff.2 (Collection.key_of_contents hd ▸ hd), ?_⟩
    rw [← happly, identity_applyAll]

/-! ## Two notes -/

/-- A note. -/
def firstNote : Document where
  space := "alice"
  item := "1"
  path := "/a.txt"
  name := "a.txt"
  mimeType := "text/plain"
  size := 5
  mtime := 100
  content := "hello"

/-- Another note, with a tag. -/
def secondNote : Document := { firstNote with item := "2", tags := TagSet.ofList ["red"] }

/-- An index of the two notes. -/
def noteShelf : Shelf :=
  let notes := (∅ : Collection).placeAll [firstNote, secondNote]
  { files := { documents := notes }, view := notes, storage := default }

/--
The first note is moved twice, gets two tags and loses one of them, and leaves the trash only to
return to it.  An item that is not indexed gets a tag, too.
-/
def noteHistory : List Event :=
  let note (change : Change) : Event := { space := "alice", item := "1", change }
  [note (.tagsRemoved (TagSet.ofList ["red"])), note (.itemMoved "/a.txt" "/b.txt"),
    note .itemRestored, note (.tagsAdded (TagSet.ofList ["red", "blue"])), note .itemTrashed,
    note (.itemMoved "/b.txt" "//c.txt/"), note (.tagsRemoved (TagSet.ofList ["blue"])),
    { space := "alice", item := "9", change := .tagsAdded (TagSet.ofList ["red"]) }]

/-- Handles the history of the notes without rebuilds. -/
def settleNotes : Op Shelf Unit :=
  (Shelf.installation .basic 1).engine.toEngine.handleAll { rebuildAfterMutation := false }
    .background noteHistory

theorem noteShelf_ready : (Shelf.installation .basic 1).Ready noteShelf where
  settled := rfl
  writer holder hholder := by cases hholder
  memory := by decide

/-- The last words of the history are what becomes of the first note; the second one stays. -/
theorem replay_noteHistory :
    ∃ t u, settleNotes.perform noteShelf = (.ok (), t) ∧ settleNotes.perform t = (.ok (), u) ∧
      u.view = t.view ∧
      (∃ d ∈ t.view.toList, d.path = "/c.txt" ∧ d.name = "c.txt" ∧ d.trashed = true ∧
        "red" ∈ d.tags ∧ ¬ "blue" ∈ d.tags ∧ d.content = "hello") ∧
      secondNote ∈ t.view.toList := by
  have hoptions : ({ rebuildAfterMutation := false } : ReindexOptions).rebuildAfterMutation =
      false := rfl
  have hevents : ∀ e ∈ noteHistory, e.change.pointChange?.isSome := by decide
  have hkeys : ∀ e ∈ noteHistory,
      ∀ d ∈ ((Shelf.installation .basic 1).documents noteShelf).toList,
        e.identity.key = d.identity.key → e.identity = d.identity := by decide +kernel
  obtain ⟨t, u, hrun, hrun', hsame, hsettled, hother, _⟩ :=
    replay_settles hoptions holds_background holds_background noteShelf_ready hevents hkeys
  obtain ⟨d, hd, hlast⟩ := hsettled firstNote (by decide +kernel)
  have hcontent : d.content = "hello" := by rw [hlast.rest]; rfl
  refine ⟨t, u, hrun, hrun', hsame, ⟨d, hd, ?_, ?_, ?_, ?_, ?_, hcontent⟩, ?_⟩
  · exact hlast.path.trans (by decide +kernel)
  · exact hlast.name.trans (by decide +kernel)
  · exact hlast.trashed.trans (by decide +kernel)
  · exact (hlast.tags "red").2 (by decide +kernel)
  · rw [hlast.tags "blue"]
    decide +kernel
  · exact hother secondNote (by decide +kernel) (by decide +kernel)

end Installation

end ScopedSearch
