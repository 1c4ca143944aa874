import Mathlib.Algebra.GroupWithZero.Nat
import Mathlib.Data.List.Forall2
import Mathlib.Data.List.Nodup
import ScopedSearch.Proofs.Index.Isolation
import ScopedSearch.Proofs.Rebuild.Ledger

/-!
# What a rebuild accounts for

A rebuild tells at its end how many resources it has seen, and how many documents it has written and
skipped.  The ledger of the backend shows whether that is so: a document of every resource that is
not skipped, in the order of the listing, in writes of one size and a last one that is smaller.

The course of a rebuild is followed phase by phase.  At any time the documents that are written,
with the batch behind them, are made of the resources so far, and the counts are theirs.  What is
looked up is what the index held at the beginning, since no key is listed twice.

## Main results

* `Stage.step`: a step of a rebuild keeps the invariant of its course.
* `stage_of_indexSpace`: what has come of a rebuild when it has ended, well or not.
* `rebuild_accounts`: what a rebuild that succeeds has written, counted and left alone.
-/

namespace ScopedSearch

namespace Contents

variable {m : Contents} {rs : List Resource} {r : Resource}

/-- The resources of a listing that a rebuild does not skip, in their order. -/
def stale (m : Contents) (rs : List Resource) : List Resource := rs.filter fun r => !m.isCurrent r

/-- A resource of a listing is skipped or not. -/
theorem length_stale_add (m : Contents) (rs : List Resource) :
    (m.stale rs).length + rs.countP m.isCurrent = rs.length := by
  rw [stale, ← List.countP_eq_length_filter, List.length_eq_countP_add_countP m.isCurrent]
  simp only [Bool.not_eq_true, Bool.decide_eq_false]
  exact Nat.add_comm _ _

theorem stale_append_of_current (h : m.isCurrent r = true) : m.stale (rs ++ [r]) = m.stale rs := by
  simp [stale, h]

theorem stale_append_of_stale (h : m.isCurrent r = false) :
    m.stale (rs ++ [r]) = m.stale rs ++ [r] := by
  simp [stale, h]

end Contents

theorem Collection.placeAll_append (c : Collection) (docs more : List Document) :
    (c.placeAll docs).placeAll more = c.placeAll (docs ++ more) :=
  List.foldl_append.symm

theorem batchSize_pos : 0 < batchSize := by decide

namespace Ledger

open IndexEngine (Phase Progress)
open Installation (bareDocument)

variable {σ : Type} (L : Ledger σ)

/-- The documents are made of the resources that are not skipped, one of each, in their order. -/
def MadeOf (ctx : Context σ) (s : σ) (rs : List Resource) (docs : List Document) : Prop :=
  List.Forall₂
    (fun r d => L.Makes ctx (L.storage s) r ((L.documents s).contents r.key) d)
    ((L.documents s).contents.stale rs) docs

/--
What a rebuild has done that has succeeded: from `s` to `t` it has written `full`, and `last` behind
that, and it has counted `stats`.
-/
structure Accounts (ctx : Context σ) (rs : List Resource) (s : σ) (full : List (List Document))
    (last : List Document) (stats : IndexStats) (t : σ) : Prop where
  /-- The backend was asked for these writes, and the index holds them. -/
  notes : L.Notes s t ((L.documents s).placeAll (full ++ [last]).flatten) (full ++ [last])
  made : L.MadeOf ctx s rs (full ++ [last]).flatten
  full_length : ∀ b ∈ full, b.length = batchSize
  last_length : last.length < batchSize
  scanned : stats.scanned = rs.length
  skipped : stats.skipped = rs.countP (L.documents s).contents.isCurrent
  indexed : stats.indexed = ((full ++ [last]).map List.length).sum
  degraded : stats.degraded = (full ++ [last]).flatten.countP (·.degraded)

/--
The course of a rebuild after the resources `done` of `listed`: from `s` to `t` it has written
`full`, and the batch is in hand.
-/
structure Underway (ctx : Context σ) (listed : List Resource) (s : σ) (done : List Resource)
    (full : List (List Document)) (p : Progress) (t : σ) : Prop where
  notes : L.Notes s t ((L.documents s).placeAll full.flatten) full
  made : L.MadeOf ctx s done (full.flatten ++ p.batch)
  full_length : ∀ b ∈ full, b.length = batchSize
  scanned : p.stats.scanned = listed.length
  skipped : p.stats.skipped = done.countP (L.documents s).contents.isCurrent
  indexed : p.stats.indexed = full.flatten.length
  degraded : p.stats.degraded = (full.flatten ++ p.batch).countP (·.degraded)

/-- What is true of a rebuild of a listing in each of its phases.  It has begun in `s`. -/
inductive Stage (ctx : Context σ) (rs : List Resource) (s : σ) : Phase → σ → Prop
  | opening (hs : L.Settled s) : Stage ctx rs s .opening s
  | going {done rest full p t} (hrs : rs = done ++ rest)
    (h : L.Underway ctx rs s done full p t) (hroom : p.batch.length < batchSize) :
    Stage ctx rs s (.going p rest) t
  | full {done rest full p t} (hrs : rs = done ++ rest) (h : L.Underway ctx rs s done full p t)
    (hfull : p.batch.length = batchSize) : Stage ctx rs s (.full p rest) t
  | completed {full last stats t} (h : L.Accounts ctx rs s full last stats t) :
    Stage ctx rs s (.ended (.ok stats)) t
  /-- Of the documents that are made, the first ones are written. -/
  | broken {done rest written left fault t} (hrs : rs = done ++ rest)
    (hmade : L.MadeOf ctx s done (written ++ left))
    (h : L.Becomes s t ((L.documents s).placeAll written)) :
    Stage ctx rs s (.ended (.error fault)) t

variable {L} {ctx : Context σ} {s t u : σ} {rs done rest : List Resource} {r : Resource}
  {docs : List Document} {d : Document} {full : List (List Document)} {p : Progress}

/-! ## The documents of a listing -/

namespace MadeOf

theorem nil : L.MadeOf ctx s [] [] := List.Forall₂.nil

/-- A resource that is skipped has no document made of it. -/
theorem skip (h : L.MadeOf ctx s done docs)
    (hcurrent : (L.documents s).contents.isCurrent r = true) :
    L.MadeOf ctx s (done ++ [r]) docs := by
  rwa [MadeOf, Contents.stale_append_of_current hcurrent]

/-- The document of a resource that is not skipped comes behind the others. -/
theorem add (h : L.MadeOf ctx s done docs)
    (hstale : (L.documents s).contents.isCurrent r = false)
    (hd : L.Makes ctx (L.storage s) r ((L.documents s).contents r.key) d) :
    L.MadeOf ctx s (done ++ [r]) (docs ++ [d]) := by
  rw [MadeOf, Contents.stale_append_of_stale hstale]
  exact List.rel_append h (.cons hd .nil)

/-- Each document is made of a resource that is not skipped. -/
theorem exists_resource (h : L.MadeOf ctx s rs docs) (hd : d ∈ docs) :
    ∃ r ∈ (L.documents s).contents.stale rs,
      L.Makes ctx (L.storage s) r ((L.documents s).contents r.key) d := by
  unfold MadeOf at h
  generalize (L.documents s).contents.stale rs = stale at h ⊢
  induction h with
  | nil => cases hd
  | @cons r e rs docs hmade _ ih =>
    rcases List.mem_cons.1 hd with rfl | hd
    · exact ⟨r, List.mem_cons_self, hmade⟩
    · obtain ⟨r', hr', hmade'⟩ := ih hd
      exact ⟨r', List.mem_cons_of_mem _ hr', hmade'⟩

/-- Of each resource that is not skipped a document is made. -/
theorem exists_document (h : L.MadeOf ctx s rs docs)
    (hr : r ∈ (L.documents s).contents.stale rs) :
    ∃ d ∈ docs, L.Makes ctx (L.storage s) r ((L.documents s).contents r.key) d := by
  unfold MadeOf at h
  generalize (L.documents s).contents.stale rs = stale at h hr
  induction h with
  | nil => cases hr
  | @cons x d rs docs hmade _ ih =>
    rcases List.mem_cons.1 hr with rfl | hr
    · exact ⟨d, List.mem_cons_self, hmade⟩
    · obtain ⟨d', hd', hmade'⟩ := ih hr
      exact ⟨d', List.mem_cons_of_mem _ hd', hmade'⟩

/-- The documents have the keys of their resources. -/
theorem keys (h : L.MadeOf ctx s rs docs) :
    docs.map (·.key) = ((L.documents s).contents.stale rs).map Resource.key := by
  have hsame : List.Forall₂ (· = ·) (docs.map (·.key))
      (((L.documents s).contents.stale rs).map Resource.key) := by
    rw [List.forall₂_map_left_iff, List.forall₂_map_right_iff]
    exact (h.imp fun _ _ hd => hd.key_eq).flip
  rwa [List.forall₂_eq_eq_eq] at hsame

theorem key_mem (h : L.MadeOf ctx s rs docs) (hd : d ∈ docs) : d.key ∈ rs.map Resource.key := by
  have hmem : d.key ∈ docs.map (·.key) := List.mem_map_of_mem hd
  rw [h.keys] at hmem
  exact (List.filter_sublist.map _).subset hmem

/-- Where no key is listed twice, none is written twice. -/
theorem nodup_keys (h : L.MadeOf ctx s rs docs) (hkeys : (rs.map Resource.key).Nodup) :
    (docs.map (·.key)).Nodup := by
  rw [h.keys]
  exact hkeys.sublist (List.filter_sublist.map _)

/-- Writing the first ones of them leaves what stands under a key that is not listed. -/
theorem leaves {left : List Document} {key : String} (h : L.MadeOf ctx s done (docs ++ left))
    (hkey : key ∉ done.map Resource.key) (c : Collection) :
    (c.placeAll docs).contents key = c.contents key := by
  have hne : ∀ d ∈ docs, key ≠ d.key := by
    rintro d hd rfl
    exact hkey (h.key_mem (List.mem_append_left _ hd))
  rw [Collection.contents_placeAll, Contents.writeAll_of_ne hne]

end MadeOf

/-! ## The course of a rebuild -/

namespace Underway

/-- A rebuild that has taken its listing. -/
theorem start (h : L.Still s t) (hs : L.Settled s) :
    L.Underway ctx rs s [] [] { stats := { scanned := rs.length } } t where
  notes := h.notes hs
  made := MadeOf.nil
  full_length := nofun
  scanned := rfl
  skipped := rfl
  indexed := rfl
  degraded := rfl

/-- What is looked up of a resource that has not come up is what the index held at the beginning. -/
theorem lookup (h : L.Underway ctx rs s done full p t) (hr : r.key ∉ done.map Resource.key) :
    (L.documents t).contents r.key = (L.documents s).contents r.key := by
  rw [h.notes.becomes.documents]
  exact h.made.leaves hr _

/-- A step that leaves everything as it is. -/
theorem still (h : L.Underway ctx rs s done full p t) (h' : L.Still t u) :
    L.Underway ctx rs s done full p u :=
  { h with notes := h.notes.still h' }

/-- A resource is skipped. -/
theorem skip (h : L.Underway ctx rs s done full p t)
    (hcurrent : (L.documents s).contents.isCurrent r = true) :
    L.Underway ctx rs s (done ++ [r]) full
      { p with stats := { p.stats with skipped := p.stats.skipped + 1 } } t :=
  { h with
    made := h.made.skip hcurrent
    skipped := by
      rw [List.countP_append, ← h.skipped]
      simp [hcurrent] }

/-- A document goes into the batch. -/
theorem add (h : L.Underway ctx rs s done full p t)
    (hstale : (L.documents s).contents.isCurrent r = false)
    (hd : L.Makes ctx (L.storage s) r ((L.documents s).contents r.key) d) :
    L.Underway ctx rs s (done ++ [r]) full
      { stats := { p.stats with degraded := p.stats.degraded + (if d.degraded then 1 else 0) }
        batch := p.batch ++ [d] } t :=
  { h with
    made := by
      rw [← List.append_assoc]
      exact h.made.add hstale hd
    skipped := by
      rw [List.countP_append, ← h.skipped]
      simp [hstale]
    degraded := by
      rw [← List.append_assoc, List.countP_append, ← h.degraded, List.countP_singleton] }

/-- A full batch is written. -/
theorem flush (h : L.Underway ctx rs s done full p t)
    (hfull : p.batch.length = batchSize)
    (h' : L.Notes t u ((L.documents t).placeAll p.batch) [p.batch]) :
    L.Underway ctx rs s done (full ++ [p.batch])
      ⟨{ p.stats with indexed := p.stats.indexed + p.batch.length }, []⟩ u where
  notes := by
    rw [h.notes.becomes.documents, Collection.placeAll_append, ← List.flatten_concat] at h'
    exact h.notes.trans h'
  made := by
    rw [List.append_nil, List.flatten_concat]
    exact h.made
  full_length := List.forall_mem_append.2 ⟨h.full_length, by simpa using hfull⟩
  scanned := h.scanned
  skipped := h.skipped
  indexed := by
    rw [h.indexed, List.flatten_concat, List.length_append]
  degraded := by
    rw [List.append_nil, List.flatten_concat]
    exact h.degraded

/-- The last batch is written when every resource has been taken in. -/
theorem complete (h : L.Underway ctx rs s rs full p t)
    (hroom : p.batch.length < batchSize)
    (h' : L.Notes t u ((L.documents t).placeAll p.batch) [p.batch]) :
    L.Accounts ctx rs s full p.batch
      { p.stats with indexed := p.stats.indexed + p.batch.length } u where
  notes := by
    rw [h.notes.becomes.documents, Collection.placeAll_append, ← List.flatten_concat] at h'
    exact h.notes.trans h'
  made := by
    rw [List.flatten_concat]
    exact h.made
  full_length := h.full_length
  last_length := hroom
  scanned := h.scanned
  skipped := h.skipped
  indexed := by
    rw [h.indexed, ← List.length_flatten, List.flatten_concat, List.length_append]
  degraded := by
    rw [List.flatten_concat]
    exact h.degraded

/-- A rebuild that fails leaves what it has written. -/
theorem break_off {fault : Fault} (h : L.Underway ctx rs s done full p t) (hrs : rs = done ++ rest)
    (h' : L.Becomes t u (L.documents t)) : L.Stage ctx rs s (.ended (.error fault)) u :=
  .broken hrs h.made (h.notes.becomes.keep h')

end Underway

/-! ## Step by step -/

variable {ph : Phase} {x : Except Fault Phase} {space : String}

/-- A resource is looked up and taken in. -/
theorem Stage.take (hctx : L.Unobtrusive ctx) (hkeys : (rs.map Resource.key).Nodup)
    (hrs : rs = done ++ r :: rest) (h : L.Underway ctx rs s done full p t)
    (hroom : p.batch.length < batchSize)
    (hstep : (L.noting.advance ctx space (.going p (r :: rest))).perform t = (x, u)) :
    L.Stage ctx rs s (.after x) u := by
  have hnew : r.key ∉ done.map Resource.key := by
    rw [hrs, List.map_append, List.map_cons] at hkeys
    intro hmem
    exact (List.nodup_append.1 hkeys).2.2 _ hmem _ List.mem_cons_self rfl
  have hnext : rs = (done ++ [r]) ++ rest := by rw [hrs, List.append_assoc, List.singleton_append]
  rcases hcheck : ctx.check.perform t with ⟨fault | ⟨⟩, v⟩
  · have hv : L.Still t v := by simpa [hcheck] using hctx.check t
    cases (Op.perform_bind_of_error hcheck).symm.trans hstep
    exact h.break_off hrs (hv.calm.becomes h.notes.becomes.settled)
  · have hv : L.Still t v := by simpa [hcheck] using hctx.check t
    replace hstep := (Op.perform_bind_of_ok hcheck).symm.trans hstep
    have hgoing := h.still hv
    rcases hprepare : (L.noting.prepare ctx r).perform v with ⟨fault | prepared, w⟩
    · obtain ⟨hw, -⟩ := prepare_spec hctx hprepare
      cases (Op.perform_bind_of_error hprepare).symm.trans hstep
      exact hgoing.break_off hrs (hw.calm.becomes hgoing.notes.becomes.settled)
    · obtain ⟨hw, hprepared⟩ := prepare_spec hctx hprepare
      cases (Op.perform_bind_of_ok hprepare).symm.trans hstep
      have htaken := hprepared prepared rfl
      rw [hgoing.lookup hnew, hgoing.notes.becomes.storage] at htaken
      cases prepared with
      | skip => exact .going hnext ((hgoing.still hw).skip htaken) hroom
      | write d =>
        have hadded := (hgoing.still hw).add htaken.1 htaken.2
        have hlength : (p.batch ++ [d]).length = p.batch.length + 1 := List.length_append
        dsimp only [Phase.after, Phase.take]
        split
        · exact .full hnext hadded (show (p.batch ++ [d]).length = _ by omega)
        · exact .going hnext hadded (show (p.batch ++ [d]).length < _ by omega)

/-- A step of a rebuild keeps what is true of its phase. -/
theorem Stage.step (hctx : L.Unobtrusive ctx)
    (hwalk : (L.storage s).walkSpace space = .ok rs) (hkeys : (rs.map Resource.key).Nodup)
    (h : L.Stage ctx rs s ph t)
    (hstep : (L.noting.advance ctx space ph).perform t = (x, u)) :
    L.Stage ctx rs s (.after x) u := by
  cases h with
  | opening hs =>
    rcases hcheck : ctx.check.perform s with ⟨fault | ⟨⟩, v⟩
    · have hv : L.Still s v := by simpa [hcheck] using hctx.check s
      cases (Op.perform_bind_of_error hcheck).symm.trans hstep
      have hnothing : L.MadeOf ctx s [] ([] ++ []) := MadeOf.nil
      exact .broken (List.nil_append rs).symm hnothing (hv.calm.becomes hs)
    · have hv : L.Still s v := by simpa [hcheck] using hctx.check s
      replace hstep := (Op.perform_bind_of_ok hcheck).symm.trans hstep
      rw [Op.perform_bind_of_ok (Op.perform_read _ v),
        show L.noting.storage v = L.storage s from hv.calm.storage, hwalk] at hstep
      cases hstep
      exact .going (List.nil_append rs).symm (.start hv hs) batchSize_pos
  | @going done rest full p t hrs h hroom =>
    cases rest with
    | nil =>
      rw [List.append_nil] at hrs
      subst hrs
      rcases flush_spec hctx h.notes.becomes.settled p with ⟨v, hflush, hv⟩ | ⟨e, v, hflush, hv⟩
      · cases (Op.perform_bind_of_ok hflush).symm.trans hstep
        exact .completed (h.complete hroom hv)
      · cases (Op.perform_bind_of_error hflush).symm.trans hstep
        exact h.break_off (List.append_nil rs).symm hv.becomes
    | cons r rest => exact Stage.take hctx hkeys hrs h hroom hstep
  | @full done rest full p t hrs h hfull =>
    rcases flush_spec hctx h.notes.becomes.settled p with ⟨v, hflush, hv⟩ | ⟨e, v, hflush, hv⟩
    · cases (Op.perform_bind_of_ok hflush).symm.trans hstep
      exact .going hrs (h.flush hfull hv) batchSize_pos
    · cases (Op.perform_bind_of_error hflush).symm.trans hstep
      exact h.break_off hrs hv.becomes
  | completed h =>
    cases hstep
    exact .completed h
  | broken hrs hmade h =>
    cases hstep
    exact .broken hrs hmade h

/-- What is true of a phase comes to be true of every phase that steps lead to. -/
theorem Stage.alone {ph' : Phase} (hctx : L.Unobtrusive ctx)
    (hwalk : (L.storage s).walkSpace space = .ok rs) (hkeys : (rs.map Resource.key).Nodup)
    (h : L.Stage ctx rs s ph t) (halone : L.noting.Alone ctx space ph t ph' u) :
    L.Stage ctx rs s ph' u := by
  induction halone with
  | refl => exact h
  | step hstep _ ih => exact ih (h.step hctx hwalk hkeys hstep)

/-! ## At the end -/

variable {outcome : Except Fault IndexStats} {stats : IndexStats}

/-- What has come of a rebuild when it has ended, well or not. -/
theorem stage_of_indexSpace (hctx : L.Unobtrusive ctx) (hs : L.Settled s)
    (hwalk : (L.storage s).walkSpace space = .ok rs) (hkeys : (rs.map Resource.key).Nodup)
    (hrun : (L.noting.indexSpace ctx space).perform s = (outcome, t)) :
    L.Stage ctx rs s (.ended outcome) t :=
  (Stage.opening hs).alone hctx hwalk hkeys (IndexEngine.alone_iff.2 hrun)

/-- What has come of a rebuild that succeeds. -/
theorem accounts_of_indexSpace (hctx : L.Unobtrusive ctx) (hs : L.Settled s)
    (hwalk : (L.storage s).walkSpace space = .ok rs) (hkeys : (rs.map Resource.key).Nodup)
    (hrun : (L.noting.indexSpace ctx space).perform s = (.ok stats, t)) :
    ∃ full last, L.Accounts ctx rs s full last stats t := by
  cases stage_of_indexSpace hctx hs hwalk hkeys hrun with
  | completed h => exact ⟨_, _, h⟩

namespace Accounts

variable {last : List Document}

/-- Every resource is counted once, as one that is indexed or as one that is skipped. -/
theorem scanned_eq (h : L.Accounts ctx rs s full last stats t) :
    stats.scanned = stats.indexed + stats.skipped := by
  rw [h.scanned, h.indexed, h.skipped, ← List.length_flatten, ← h.made.length_eq,
    Contents.length_stale_add]

theorem degraded_le (h : L.Accounts ctx rs s full last stats t) :
    stats.degraded ≤ stats.indexed := by
  rw [h.degraded, h.indexed, ← List.length_flatten]
  exact List.countP_le_length

/-- What stands under a key that is not listed is left. -/
theorem leaves (h : L.Accounts ctx rs s full last stats t) {key : String}
    (hkey : key ∉ rs.map Resource.key) :
    (L.documents t).contents key = (L.documents s).contents key := by
  have hmade : L.MadeOf ctx s rs ((full ++ [last]).flatten ++ []) := by simpa using h.made
  rw [h.notes.becomes.documents]
  exact hmade.leaves hkey _

/-- What is made of a resource that is not skipped stands under its key. -/
theorem exists_made (h : L.Accounts ctx rs s full last stats t)
    (hkeys : (rs.map Resource.key).Nodup) (hr : r ∈ (L.documents s).contents.stale rs) :
    ∃ d, (L.documents t).contents r.key = some d ∧
      L.Makes ctx (L.storage s) r ((L.documents s).contents r.key) d := by
  obtain ⟨d, hd, hmade⟩ := h.made.exists_document hr
  refine ⟨d, ?_, hmade⟩
  rw [h.notes.becomes.documents, Collection.contents_placeAll, ← hmade.key_eq]
  exact Contents.writeAll_of_mem (h.made.nodup_keys hkeys) hd _

/-- What stands under the key of a resource that is skipped is left. -/
theorem skips (h : L.Accounts ctx rs s full last stats t) (hkeys : (rs.map Resource.key).Nodup)
    (hr : r ∈ rs) (hcurrent : (L.documents s).contents.isCurrent r = true) :
    (L.documents t).contents r.key = (L.documents s).contents r.key := by
  rw [h.notes.becomes.documents, Collection.contents_placeAll, Contents.writeAll_of_ne]
  intro d hd hkey
  obtain ⟨r', hr', hmade⟩ := h.made.exists_resource hd
  obtain ⟨hlisted, hstale⟩ := List.mem_filter.1 hr'
  have hsame : r = r' := List.inj_on_of_nodup_map hkeys hr hlisted (hkey.trans hmade.key_eq)
  rw [← hsame, hcurrent] at hstale
  cases hstale

/--
A document of an identity that is not listed is left exactly when it passes for an up to date
document of every resource that is listed under its key.
-/
theorem mem_iff_of_unlisted (h : L.Accounts ctx rs s full last stats t)
    (hkeys : (rs.map Resource.key).Nodup) (hd : d ∈ (L.documents s).toList)
    (hunlisted : d.identity ∉ rs.map Resource.identity) :
    d ∈ (L.documents t).toList ↔ ∀ r ∈ rs, r.key = d.key → d.isCurrentFor r = true := by
  rw [Collection.mem_toList_iff] at hd ⊢
  constructor
  · intro ht r hr hkey
    have hcurrent : (L.documents s).contents.isCurrent r = d.isCurrentFor r := by
      rw [Contents.isCurrent, hkey, hd, Option.any_some]
    by_contra hstale
    rw [← hcurrent] at hstale
    have hr' : r ∈ (L.documents s).contents.stale rs :=
      List.mem_filter.2 ⟨hr, by rw [Bool.eq_false_iff.2 hstale]; rfl⟩
    obtain ⟨e, he, hmade⟩ := h.exists_made hkeys hr'
    rw [hkey, ht, Option.some.injEq] at he
    subst he
    exact hunlisted (hmade.identity_eq ▸ List.mem_map_of_mem hr)
  · intro hall
    by_cases hkey : d.key ∈ rs.map Resource.key
    · obtain ⟨r, hr, hkey⟩ := List.mem_map.1 hkey
      have hcurrent : (L.documents s).contents.isCurrent r = true := by
        rw [Contents.isCurrent, hkey, hd, Option.any_some]
        exact hall r hr hkey
      rw [← hkey, h.skips hkeys hr hcurrent, hkey, hd]
    · rw [h.leaves hkey, hd]

end Accounts

/--
A rebuild that succeeds counts every resource once.  It writes a document of each resource whose
document is not up to date, once and in the order of the listing, in full batches and a last one
that is not full.  It leaves what stands under a key that is not listed.  So a document of an
identity that is not listed is left too, unless its key is the one of a listed resource and it does
not pass for an up to date document of that.
-/
theorem rebuild_accounts (hctx : L.Unobtrusive ctx) (hs : L.Settled s)
    (hwalk : (L.storage s).walkSpace space = .ok rs) (hspace : ∀ r ∈ rs, r.space = space)
    (hitems : (rs.map (·.item)).Nodup)
    (hrun : (L.noting.indexSpace ctx space).perform s = (.ok stats, t)) :
    (∃ full last, L.Accounts ctx rs s full last stats t) ∧
      stats.scanned = stats.indexed + stats.skipped ∧ stats.degraded ≤ stats.indexed ∧
      (∀ key, key ∉ rs.map Resource.key →
        (L.documents t).contents key = (L.documents s).contents key) ∧
      ∀ d ∈ (L.documents s).toList, d.identity ∉ rs.map Resource.identity →
        (d ∈ (L.documents t).toList ↔ ∀ r ∈ rs, r.key = d.key → d.isCurrentFor r = true) := by
  have hkeys := Resource.nodup_keys_of_items hspace hitems
  obtain ⟨full, last, h⟩ := accounts_of_indexSpace hctx hs hwalk hkeys hrun
  exact ⟨⟨full, last, h⟩, h.scanned_eq, h.degraded_le, fun key hkey => h.leaves hkey,
    fun d hd hunlisted => h.mem_iff_of_unlisted hkeys hd hunlisted⟩

/-! ## Three resources, and one of a foreign key -/

/-- A file. -/
def plainFile : Resource where
  space := "alice"
  item := "1"
  path := "/a.txt"
  name := "a.txt"
  mimeType := "text/plain"
  size := 5
  mtime := 100

/-- A file that is up to date in the index, another one, and a directory. -/
def threeResources : List Resource :=
  [plainFile, { plainFile with item := "2" }, { plainFile with item := "3", isDir := true }]

/-- Two of the resources are written and one is skipped, and a document of another space stays. -/
theorem rebuild_accounts_threeResources :
    let s := LedgerShelf.holding [plainFile.toDocument "hello", bareDocument ⟨"bob", "1"⟩]
      threeResources
    ∃ t, (((LedgerShelf.ledger .basic).noting.indexSpace .background "alice").perform s =
        (.ok { scanned := 3, indexed := 2, skipped := 1 }, t)) ∧
      (∃ full last, (LedgerShelf.ledger .basic).Accounts .background threeResources s full last
        { scanned := 3, indexed := 2, skipped := 1 } t) ∧
      bareDocument ⟨"bob", "1"⟩ ∈ t.view.toList := by
  intro s
  have hrun : ((LedgerShelf.ledger .basic).noting.indexSpace .background "alice").perform s =
      (.ok { scanned := 3, indexed := 2, skipped := 1 }, _) :=
    Op.perform_eq_of_toOption (by decide +kernel)
  have hwalk : s.storage.walkSpace "alice" = .ok threeResources := rfl
  obtain ⟨haccounts, -, -, -, hleft⟩ := rebuild_accounts LedgerShelf.unobtrusive_basic
    (LedgerShelf.settled_holding .basic _ _) hwalk (by decide) (by decide) hrun
  have hstays := (hleft (bareDocument ⟨"bob", "1"⟩) (by decide +kernel) (by decide)).2
    (by decide +kernel)
  exact ⟨_, hrun, haccounts, hstays⟩

/-- A file whose item and space are written `a!b!c`, as those of an item `c` of a space `a!b`. -/
def crossedFile : Resource := { plainFile with space := "a", item := "b!c" }

/-- A rebuild of the space `a` puts a document of its own in the place of one of the space `a!b`. -/
theorem not_rebuild_leaves_crossed :
    let d := bareDocument ⟨"a!b", "c"⟩
    let s := LedgerShelf.holding [d] [crossedFile]
    ∃ t, (((LedgerShelf.ledger .basic).noting.indexSpace .background "a").perform s =
        (.ok { scanned := 1, indexed := 1 }, t)) ∧
      d ∈ s.view.toList ∧ d.identity ∉ [crossedFile].map Resource.identity ∧
      t.view.find? d.key = some (crossedFile.toDocument "") ∧ d ∉ t.view.toList :=
  ⟨_, Op.perform_eq_of_toOption (by decide +kernel), by decide +kernel, by decide,
    by decide +kernel, by decide +kernel⟩

end Ledger

end ScopedSearch
