import ScopedSearch.Proofs.Events.Interleaving
import ScopedSearch.Proofs.Events.Replay

/-!
# A worker that is overtaken

A change of tags stores the document that it has found, with other tags.  A worker that has been
overtaken in between takes back with it whatever the others have made of the document since.  So of
two workers with an event each, on the same document, the one that has been overtaken leaves the
index as if there had not been another; and where nobody has been, the index is as after the one
event and then the other.

## Main results

* `Turns.overtaken`: of two workers, one that has been overtaken undoes what the other one has done.
* `Installation.interleaved_pair`: what two workers make of the index.
* `Installation.not_serializable_tag_beside_trash`: a document that is taken out of the trash by a
  change of its tags.
-/

namespace ScopedSearch

variable {ι σ : Type} {space item : String}

section

variable [DecidableEq ι] {p : ι → PointChange} {c c' c'' : Collection}
  {trace more : List (ι × Exchange)} {now : ι → List Duty} {i : ι} {x y : ι × Exchange}

/-! ## Runs and their parts -/

/-- The last turn of a run, and the run before it. -/
theorem Turns.exists_last (h : Turns space item p c (trace ++ [x]) now c'') :
    ∃ earlier ds c', Turns space item p c trace earlier c' ∧
      Turn space item (p x.1) (earlier x.1) c' x.2 ds c'' := by
  generalize hwhole : trace ++ [x] = whole at h
  cases h with
  | nil => simp at hwhole
  | snoc hbefore hturn =>
    obtain ⟨rfl, hlast⟩ := List.append_inj' hwhole rfl
    cases hlast
    exact ⟨_, _, _, hbefore, hturn⟩

/-- The beginning of a run is a run. -/
theorem Turns.of_append (h : Turns space item p c (trace ++ more) now c') :
    ∃ earlier seen, Turns space item p c trace earlier seen := by
  induction more using List.reverseRecOn generalizing now c' with
  | nil => exact ⟨now, c', by simpa using h⟩
  | append_singleton more x ih =>
    rw [← List.append_assoc] at h
    obtain ⟨_, _, _, hbefore, _⟩ := h.exists_last
    exact ih hbefore

/-- Where nobody has written, the index is as it was. -/
theorem Turns.eq_of_unwritten (h : Turns space item p c trace now c')
    (hunwritten : ∀ y ∈ trace, y.2.request.isWrite = false) : c' = c := by
  induction h with
  | nil => rfl
  | snoc _ hturn ih =>
    obtain ⟨hold, hnew⟩ := List.forall_mem_append.1 hunwritten
    rw [hturn.eq_of_isWrite_eq_false (hnew _ List.mem_cons_self), ih hold]

/-! ## One write each -/

/-- Who is done has no turn. -/
theorem Turn.ne_nil {p : PointChange} {x : Exchange} {ds ds' : List Duty}
    (h : Turn space item p ds c x ds' c') : ds ≠ [] := by
  cases h <;> exact List.cons_ne_nil _ _

/-- A write is the last turn. -/
theorem Turn.eq_nil_of_isWrite {p : PointChange} {x : Exchange} {ds ds' : List Duty}
    (h : Turn space item p ds c x ds' c') (hwrite : x.request.isWrite = true) : ds' = [] := by
  cases h with
  | idle _ | look _ _ => cases hwrite
  | patch _ | store => rfl

/-- Who has written is done. -/
theorem Turns.done_of_wrote (h : Turns space item p c trace now c') (hy : y ∈ trace)
    (hwrite : y.2.request.isWrite = true) : now y.1 = [] := by
  induction h with
  | nil => cases hy
  | @snoc trace now i x ds c' c'' _ hturn ih =>
    obtain hy | hy := List.mem_append.1 hy
    · have hdone := ih hy
      rwa [Function.update_of_ne]
      rintro rfl
      exact hturn.ne_nil hdone
    · obtain rfl := List.mem_singleton.1 hy
      rw [Function.update_self]
      exact hturn.eq_nil_of_isWrite hwrite

/-- Who has written has no further turn. -/
theorem Turns.pairwise (h : Turns space item p c trace now c') :
    trace.Pairwise fun y z => y.2.request.isWrite = true → z.1 ≠ y.1 := by
  induction h with
  | nil => exact .nil
  | snoc hbefore hturn ih =>
    refine List.pairwise_append.2 ⟨ih, List.pairwise_singleton _ _, fun y hy z hz hwrite heq => ?_⟩
    obtain rfl := List.mem_singleton.1 hz
    have hdone := hbefore.done_of_wrote hy hwrite
    rw [← heq] at hdone
    exact hturn.ne_nil hdone

/-! ## What a late write leaves -/

/-- Only the document of the item is changed. -/
theorem Turns.contents_of_ne (h : Turns space item p c trace now c') {key : String}
    (hkey : key ≠ documentKey space item) : c'.contents key = c.contents key := by
  induction h with
  | nil => rfl
  | @snoc _ now i _ _ _ _ hbefore hturn ih =>
    rw [← ih]
    have hknown := hbefore.known i
    generalize now i = duties at hknown hturn
    cases hturn with
    | idle _ | look _ _ => rfl
    | patch _ =>
      rw [Collection.contents_amend _ _ (p i).key_apply]
      exact if_neg hkey
    | store =>
      obtain ⟨_, _, _, _, _, d, _, _, _, _, _, hfind, rfl⟩ := hknown.exists_lookup
      rw [Collection.contents_place, Contents.write_of_ne]
      rwa [PointChange.key_apply, Collection.find?_key hfind]

/-- A document that is stored after a lookup leaves the index as it would have been then. -/
theorem Turns.place_eq_amend {d : Document} (h : Turns space item p c trace now c')
    (hfind : c.find? (documentKey space item) = some d) (q : PointChange) :
    c'.place (q.apply d) = c.amend (documentKey space item) q.apply := by
  have hkey : (q.apply d).key = documentKey space item := by
    rw [q.key_apply, Collection.find?_key hfind]
  rw [Collection.amend, hfind]
  apply Collection.eq_of_contents_eq
  funext k
  rw [Collection.contents_place, Collection.contents_place]
  by_cases hk : k = (q.apply d).key
  · rw [hk, Contents.write_self, Contents.write_self]
  · rw [Contents.write_of_ne _ hk, Contents.write_of_ne _ hk, h.contents_of_ne (hkey ▸ hk)]

end

/-! ## Two workers -/

/--
Of two workers, one that has been overtaken changes tags, and leaves the index as if there had been
no other.
-/
theorem Turns.overtaken {p : Bool → PointChange} {c c' : Collection}
    {trace : List (Bool × Exchange)} {now : Bool → List Duty} {i : Bool}
    (h : Turns space item p c trace now c') (hi : Overtaken i trace) :
    (∃ delta, p i = .retag delta) ∧ c' = c.amend (documentKey space item) (p i).apply := by
  obtain ⟨before, look, between, store, after, rfl, hlook, hstore, x, hx, hxi, hwrite⟩ := hi
  have hthird : ∀ j, j ≠ i → j ≠ x.1 → False := fun j hji hjx =>
    hji (by rw [Bool.eq_not.2 hjx, Bool.eq_not.2 hxi, Bool.not_not])
  obtain ⟨-, hlater, hearlier⟩ := List.pairwise_append.1 h.pairwise
  obtain ⟨hlook', hlater⟩ := List.pairwise_cons.1 hlater
  obtain ⟨-, hafter, hcross⟩ := List.pairwise_append.1 hlater
  -- both of them have written in the end, so nobody has another turn
  have hend : after = [] := by
    rw [List.eq_nil_iff_forall_not_mem]
    intro y hy
    exact hthird y.1 ((List.pairwise_cons.1 hafter).1 y hy hstore)
      (hcross x hx y (List.mem_cons_of_mem _ hy) hwrite)
  subst hend
  -- and since they write in what follows, nobody has written before the lookup
  have hunwritten : ∀ y ∈ before, y.2.request.isWrite = false := by
    intro y hy
    by_contra hwrite'
    rw [Bool.not_eq_false] at hwrite'
    refine hthird y.1 (hearlier y hy (i, look) List.mem_cons_self hwrite').symm ?_
    exact (hearlier y hy x (by simp [hx]) hwrite').symm
  rw [← List.cons_append, ← List.append_assoc] at h
  obtain ⟨earlier, ds, seen, hbefore, hturn⟩ := h.exists_last
  have hknown := hbefore.known i
  generalize earlier i = duties at hknown hturn
  cases hturn with
  | idle _ | look _ _ => cases hstore
  | patch _ => exact absurd rfl (hknown.ne_of_call (i, look) (by simp))
  | store =>
    obtain ⟨before', _, _, _, _, d, hwhole, hretag, hbefore', hbetween', hturns, hfind, rfl⟩ :=
      hknown.exists_lookup
    obtain ⟨rfl, -, -⟩ := (List.append_cons_inj_of_notMem (fun hmem => hbefore' _ hmem rfl)
      fun hmem => hbetween' _ hmem rfl).1 hwhole.symm
    obtain rfl := hturns.eq_of_unwritten hunwritten
    exact ⟨hretag, hbefore.place_eq_amend hfind (p i)⟩

/-- Everybody out of two has come, and nobody twice. -/
theorem exists_pair {order : List Bool} (hnodup : order.Nodup) (hall : ∀ i, i ∈ order) :
    ∃ i, order = [i, !i] := by
  have hperm : order.Perm [true, false] :=
    (List.perm_ext_iff_of_nodup hnodup (by decide)).2 fun i => by simp [hall]
  obtain ⟨i, j, rfl⟩ := List.length_eq_two.1 hperm.length_eq
  have hne : j ≠ i := by
    rintro rfl
    simp at hnodup
  exact ⟨i, by rw [Bool.eq_not.2 hne]⟩

namespace Installation

variable {I : Installation σ} {ctx : Context σ} {s t : σ} {options : ReindexOptions}
  {event : Bool → Event} {trace : List (Bool × Exchange)} {now : Bool → List Duty}

/--
Two workers that each handle an event, both events about one item and asking for a change of its
document, with no rebuilds.  One that is overtaken changes tags, and the index is as after its event
alone.  Where none is, the index is as after the one event and then the other.
-/
theorem interleaved_pair (hoptions : options.rebuildAfterMutation = false) (hctx : I.Holds ctx)
    (hs : I.Ready s) (hitem : (event true).identity = (event false).identity)
    (hevent : ∀ i, (event i).change.pointChange?.isSome)
    (hrun : I.engine.toEngine.Interleaved ctx (fun i => (plan options (event i)).map .call) s trace
      now t)
    (hdone : ∀ i, now i = []) :
    (∀ i, Overtaken i trace →
      (∃ delta, (event i).change.pointChange? = some (.retag delta)) ∧
        ∃ u, (I.engine.toEngine.handle options ctx (event i)).perform s = (.ok 0, u) ∧
          I.documents t = I.documents u) ∧
      ((∀ i, ¬ Overtaken i trace) → ∃ i u,
        (I.engine.toEngine.handleAll options ctx [event i, event !i]).perform s = (.ok (), u) ∧
          I.documents t = I.documents u) := by
  choose p hp using fun i => Option.isSome_iff_exists.1 (hevent i)
  obtain ⟨space, item, hsame⟩ : ∃ space item, ∀ i, (event i).identity = ⟨space, item⟩ :=
    ⟨(event false).space, (event false).item, Bool.forall_bool.2 ⟨rfl, hitem⟩⟩
  have hduties : (fun i => (plan options (event i)).map Duty.call) =
      fun i => dutiesOf space item (p i) := by
    funext i
    obtain ⟨rfl, rfl⟩ := Identity.mk.inj (hsame i)
    simp [plan, hp i, hoptions]
  have hfollow : ∀ (m : Contents) i,
      m.follow (event i) = m.amend (documentKey space item) (p i).apply := by
    intro m i
    rw [Contents.follow, hp i, hsame i]
    rfl
  rw [hduties] at hrun
  obtain ⟨-, hturns⟩ := turns_of_interleaved hctx hs hrun
  refine ⟨fun i hi => ?_, fun hnone => ?_⟩
  · obtain ⟨⟨delta, hdelta⟩, hdocuments⟩ := hturns.overtaken hi
    obtain ⟨u, hhandle, -, hcontents⟩ := handle_ready hoptions hctx hs (hevent i)
    refine ⟨⟨delta, by rw [hp i, hdelta]⟩, u, hhandle, Collection.eq_of_contents_eq ?_⟩
    rw [hcontents, hfollow, hdocuments, Collection.contents_amend _ _ (p i).key_apply]
  · obtain ⟨order, hnodup, hmem, hdocuments⟩ := hturns.in_order hnone
    obtain ⟨i, rfl⟩ := exists_pair hnodup fun i => (hmem i).2 (hdone i)
    have hevents : ∀ e ∈ [event i, event !i], e.change.pointChange?.isSome := by
      simp [hevent]
    obtain ⟨u, hhandle, -, hcontents⟩ := contents_of_handleAll hoptions hctx hs hevents
    refine ⟨i, u, hhandle, Collection.eq_of_contents_eq ?_⟩
    rw [hcontents, hdocuments]
    show (((I.documents s).amend _ _).amend _ _).contents =
      (((I.documents s).contents.follow (event i)).follow (event !i))
    rw [hfollow, hfollow, Collection.contents_amend _ _ (p _).key_apply,
      Collection.contents_amend _ _ (p _).key_apply]

/-! ## A tag and the trash -/

/-- The first note gets a tag, and it is trashed. -/
def tagBesideTrash : Bool → Event
  | true => { space := "alice", item := "1", change := .tagsAdded (TagSet.ofList ["red"]) }
  | false => { space := "alice", item := "1", change := .itemTrashed }

/-- The first note with its tag. -/
def taggedNote : Document := { firstNote with tags := TagSet.ofList ["red"] }

/-- One worker looks the note up to tag it, the other one trashes it, and the first one goes on. -/
def tagTrashTag : List (Bool × Exchange) :=
  [(true, ⟨.document "alice" "1", .ok (some firstNote)⟩),
    (false, ⟨.trashItem "alice" "1", .ok none⟩),
    (true, ⟨.upsertItem taggedNote, .ok none⟩)]

/-- An engine on the notes. -/
def noteEngine : Engine Shelf := (Shelf.installation .basic 1).engine.toEngine

/-- Two workers may come to that, and leave the note with the tag and out of the trash. -/
theorem exists_tagTrashTag :
    ∃ now t, noteEngine.Interleaved .background
        (fun i => (plan { rebuildAfterMutation := false } (tagBesideTrash i)).map .call) noteShelf
        tagTrashTag now t ∧
      (∀ i, now i = []) ∧ (t : Shelf).view.find? firstNote.key = some taggedNote := by
  have hstart : noteEngine.Interleaved .background
      (fun i => (plan { rebuildAfterMutation := false } (tagBesideTrash i)).map .call) noteShelf
      [] _ noteShelf := .nil
  have hlook := hstart.snoc (i := true)
    (d := .call (.upsertItem "alice" "1" (.add (TagSet.ofList ["red"])))) rfl
    (Op.perform_eq_of_toOption (a := some firstNote) (by decide +kernel))
  have htrash := hlook.snoc (i := false) (d := .call (.trashItem "alice" "1")) rfl
    (Op.perform_eq_of_toOption (a := none) (by decide +kernel))
  have hstore := htrash.snoc (i := true) (d := .store taggedNote)
    (show _ = [_] by decide +kernel)
    (Op.perform_eq_of_toOption (a := none) (by decide +kernel))
  exact ⟨_, _, hstore, by decide +kernel, by decide +kernel⟩

/-- The note is left as its tag alone leaves it. -/
theorem tag_beside_trash :
    ∃ now t u, noteEngine.Interleaved .background
        (fun i => (plan { rebuildAfterMutation := false } (tagBesideTrash i)).map .call) noteShelf
        tagTrashTag now t ∧
      (noteEngine.handle { rebuildAfterMutation := false } .background
        (tagBesideTrash true)).perform noteShelf = (.ok 0, u) ∧
      t.view = u.view := by
  obtain ⟨now, t, hrun, hdone, -⟩ := exists_tagTrashTag
  have hoptions : ({ rebuildAfterMutation := false } : ReindexOptions).rebuildAfterMutation =
      false := rfl
  have hitem : (tagBesideTrash true).identity = (tagBesideTrash false).identity := rfl
  have hevent : ∀ i, (tagBesideTrash i).change.pointChange?.isSome := by decide
  have hovertaken : Overtaken true tagTrashTag :=
    ⟨[], _, [_], _, [], rfl, rfl, rfl, _, List.mem_singleton_self _, by decide, rfl⟩
  obtain ⟨-, u, hhandle, hsame⟩ := (interleaved_pair hoptions holds_background noteShelf_ready
    hitem hevent hrun hdone).1 true hovertaken
  exact ⟨now, t, u, hrun, hhandle, hsame⟩

/--
The note is out of the trash in the end, where it is in the trash after the two events one after the
other, in whichever order.
-/
theorem not_serializable_tag_beside_trash :
    ∃ now t, noteEngine.Interleaved .background
        (fun i => (plan { rebuildAfterMutation := false } (tagBesideTrash i)).map .call) noteShelf
        tagTrashTag now t ∧
      (∀ i, now i = []) ∧
      ∀ i, ∃ u, (noteEngine.handleAll { rebuildAfterMutation := false } .background
          [tagBesideTrash i, tagBesideTrash !i]).perform noteShelf = (.ok (), u) ∧
        (t.view.find? firstNote.key).map (·.trashed) = some false ∧
        (u.view.find? firstNote.key).map (·.trashed) = some true := by
  obtain ⟨now, t, hrun, hdone, hnote⟩ := exists_tagTrashTag
  have htrashed : (t.view.find? firstNote.key).map (·.trashed) = some false := by
    rw [hnote]
    rfl
  refine ⟨now, t, hrun, hdone, fun i => ⟨_, Op.perform_eq_of_toOption ?_, htrashed, ?_⟩⟩
  · cases i <;> decide +kernel
  · cases i <;> decide +kernel

end Installation

end ScopedSearch
