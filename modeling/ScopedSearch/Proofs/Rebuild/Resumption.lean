import ScopedSearch.Proofs.Events.Redelivery
import ScopedSearch.Proofs.Rebuild.Accounts

/-!
# A rebuild that is taken up again

A rebuild may fail at a check, at a lookup or at a write, and what it has written by then stays.  It
is taken up again by starting over.  That comes to the same as if it had not failed, as long as the
extractor makes the same of a file every time: each document that is written is what the rebuild
would have made of it in the end, and revising that once more leaves it.

So any number of attempts leave every listed document as it was or as it is to become.  The first
one that succeeds leaves all of them as they are to become, and the next one finds nothing to do but
to write once more what no text could be made of.

## Main results

* `PartlyRevised.trans`, `PartlyRevised.reviseAll_eq`: attempts add up, and nothing is lost by them.
* `Attempts.partlyRevised`: what attempts leave of an index, whatever comes of them.
* `rebuild_resumes`: what an attempt that succeeds leaves, and what the next one does.
-/

namespace ScopedSearch

namespace Resource

variable {texts : Texts} {r : Resource}

/-- A document of a resource is up to date unless no text could be made of it. -/
theorem isCurrentFor_toDocument (r : Resource) (content : String) (degraded : Bool) :
    (r.toDocument content degraded).isCurrentFor r = !degraded := by
  simp [Document.isCurrentFor, toDocument]

/-- What a rebuild leaves of a resource is up to date unless no text could be made of it. -/
theorem isCurrentFor_revised (texts : Texts) (r : Resource) (old : Option Document) :
    (r.revised texts old).isCurrentFor r = !(r.revised texts old).degraded := by
  cases old with
  | none => exact isCurrentFor_toDocument r _ _
  | some d =>
    by_cases hcurrent : d.isCurrentFor r = true
    · rw [revised_of_isCurrentFor texts hcurrent, hcurrent,
        (Document.isCurrentFor_iff.1 hcurrent).2.1]
      rfl
    · have hstale : d.isCurrentFor r = false := Bool.eq_false_iff.2 hcurrent
      by_cases hreusable : d.isReusableFor r = true
      · rw [revised_of_isReusableFor texts hstale hreusable]
        exact isCurrentFor_toDocument r _ _
      · rw [revised_of_not_isReusableFor texts hstale (Bool.eq_false_iff.2 hreusable)]
        exact isCurrentFor_toDocument r _ _

/-- What has been revised is left by revising it once more. -/
theorem revised_revised (texts : Texts) (r : Resource) (old : Option Document) :
    r.revised texts (some (r.revised texts old)) = r.revised texts old := by
  have hagain : r.revised texts (some (id (r.revised texts (old.map id)))) =
      r.revised texts (old.map id) := revised_again (absorbs_id r) old
  rwa [Option.map_id] at hagain

end Resource

namespace Contents

variable {texts : Texts} {rs : List Resource} {m m' m'' : Contents}

/-- Of what stands under the keys of a listing, some is revised and the rest is left. -/
structure PartlyRevised (texts : Texts) (rs : List Resource) (m m' : Contents) : Prop where
  listed : ∀ r ∈ rs, m' r.key = m r.key ∨ m' r.key = some (r.revised texts (m r.key))
  unlisted : ∀ key, key ∉ rs.map Resource.key → m' key = m key

theorem PartlyRevised.refl (m : Contents) : m.PartlyRevised texts rs m :=
  ⟨fun _ _ => .inl rfl, fun _ _ => rfl⟩

/-- Revising part of a listing twice revises part of it. -/
theorem PartlyRevised.trans (h : m.PartlyRevised texts rs m')
    (h' : m'.PartlyRevised texts rs m'') : m.PartlyRevised texts rs m'' where
  listed r hr := by
    rcases h'.listed r hr with hsame | hrevised
    · rw [hsame]
      exact h.listed r hr
    · rcases h.listed r hr with hsame' | hrevised'
      · exact .inr (hsame' ▸ hrevised)
      · rw [hrevised', Resource.revised_revised] at hrevised
        exact .inr hrevised
  unlisted key hkey := (h'.unlisted key hkey).trans (h.unlisted key hkey)

/-- Revising all of a listing comes to the same when part of it has been revised before. -/
theorem PartlyRevised.reviseAll_eq (hkeys : (rs.map Resource.key).Nodup)
    (h : m.PartlyRevised texts rs m') : m'.reviseAll texts rs = m.reviseAll texts rs := by
  funext key
  by_cases hkey : key ∈ rs.map Resource.key
  · obtain ⟨r, hr, rfl⟩ := List.mem_map.1 hkey
    rw [reviseAll_apply texts hkeys hr, reviseAll_apply texts hkeys hr]
    rcases h.listed r hr with hsame | hrevised
    · rw [hsame]
    · rw [hrevised, Resource.revised_revised]
  · rw [reviseAll_of_not_mem texts hkey, reviseAll_of_not_mem texts hkey, h.unlisted key hkey]

/-- All of a listing is revised when each of its documents is. -/
theorem eq_reviseAll (hkeys : (rs.map Resource.key).Nodup)
    (hlisted : ∀ r ∈ rs, m' r.key = some (r.revised texts (m r.key)))
    (hunlisted : ∀ key, key ∉ rs.map Resource.key → m' key = m key) :
    m' = m.reviseAll texts rs := by
  funext key
  by_cases hkey : key ∈ rs.map Resource.key
  · obtain ⟨r, hr, rfl⟩ := List.mem_map.1 hkey
    rw [reviseAll_apply texts hkeys hr, hlisted r hr]
  · rw [reviseAll_of_not_mem texts hkey, hunlisted key hkey]

theorem partlyRevised_reviseAll (hkeys : (rs.map Resource.key).Nodup) (m : Contents) :
    m.PartlyRevised texts rs (m.reviseAll texts rs) where
  listed _ hr := .inr (reviseAll_apply texts hkeys hr)
  unlisted _ hkey := reviseAll_of_not_mem texts hkey

end Contents

namespace Ledger

open Installation (bareDocument)

variable {σ : Type} {L : Ledger σ} {ctx : Context σ} {s t u : σ} {space : String}
  {text : Resource → Option String} {rs done rest : List Resource} {r : Resource}
  {docs : List Document} {d : Document}

/-! ## One attempt -/

/-- An extractor that is always of one mind makes of a resource what revising it makes. -/
theorem Makes.eq_revised {S : Storage} {old : Option Document}
    (htext : L.Deterministic text ctx S space) (hwalk : S.walkSpace space = .ok rs)
    (hitems : (rs.map (·.item)).Nodup) (hr : r ∈ rs) (h : L.Makes ctx S r old d)
    (hstale : old.any (·.isCurrentFor r) = false) :
    d = r.revised (textsOf text rs) old := by
  have hfresh : (∀ e ∈ old, e.isReusableFor r = false) →
      r.revised (textsOf text rs) old = r.fresh (textsOf text rs) := by
    intro hnone
    cases old with
    | none => rfl
    | some e => exact Resource.revised_of_not_isReusableFor _ hstale (hnone e rfl)
  cases h with
  | @reused e hreusable => exact (Resource.revised_of_isReusableFor _ hstale hreusable).symm
  | directory hdir =>
    have hnone : ∀ e ∈ old, e.isReusableFor r = false := by
      intro e _
      simp [Document.isReusableFor, hdir]
    rw [hfresh hnone]
    simp [Resource.fresh, Resource.text?, hdir]
  | @extracted _ v w x hdir hnone hv hrun =>
    have hsame : r.text? (textsOf text rs) = text r := by
      simp [Resource.text?, hdir, textsOf_of_mem hitems hr]
    obtain ⟨outcome, w', htry, -, houtcome⟩ := htext.extract v rs r hv hwalk hr hdir
    rw [hfresh hnone, Resource.fresh, hsame, ← houtcome]
    cases outcome with
    | ok content =>
      cases (Extractor.perform_extract_of_ok htry).symm.trans hrun
      rfl
    | error fault =>
      cases (Extractor.perform_extract_of_error htry).symm.trans hrun
      rfl

/-- What is made of a listing under an extractor that is always of one mind. -/
theorem MadeOf.revised_of_mem (htext : L.Deterministic text ctx (L.storage s) space)
    (hwalk : (L.storage s).walkSpace space = .ok rs) (hitems : (rs.map (·.item)).Nodup)
    (hdone : ∀ r ∈ done, r ∈ rs) (h : L.MadeOf ctx s done docs) (hd : d ∈ docs) :
    ∃ r ∈ done, d.key = r.key ∧
      d = r.revised (textsOf text rs) ((L.documents s).contents r.key) := by
  obtain ⟨r, hr, hmade⟩ := h.exists_resource hd
  obtain ⟨hr, hstale⟩ := List.mem_filter.1 hr
  have hstale' : (L.documents s).contents.isCurrent r = false := by simpa using hstale
  exact ⟨r, hr, hmade.key_eq, hmade.eq_revised htext hwalk hitems (hdone r hr) hstale'⟩

/-- A rebuild that fails has revised part of its listing. -/
theorem MadeOf.partlyRevised {left : List Document}
    (htext : L.Deterministic text ctx (L.storage s) space)
    (hwalk : (L.storage s).walkSpace space = .ok rs) (hitems : (rs.map (·.item)).Nodup)
    (hkeys : (rs.map Resource.key).Nodup) (hrs : rs = done ++ rest)
    (h : L.MadeOf ctx s done (docs ++ left)) :
    (L.documents s).contents.PartlyRevised (textsOf text rs) rs
      ((L.documents s).placeAll docs).contents := by
  have hdone : ∀ r ∈ done, r ∈ rs := fun r hr => hrs ▸ List.mem_append_left rest hr
  have hnodup : (docs.map (·.key)).Nodup := by
    have hmade := h.nodup_keys (hkeys.sublist (by rw [hrs]; simp))
    rw [List.map_append] at hmade
    exact (List.nodup_append.1 hmade).1
  refine ⟨?_, ?_⟩
  · intro r hr
    rw [Collection.contents_placeAll]
    by_cases hkey : ∃ d ∈ docs, d.key = r.key
    · obtain ⟨d, hd, hkey⟩ := hkey
      obtain ⟨r', hr', hkey', hrevised⟩ :=
        h.revised_of_mem htext hwalk hitems hdone (List.mem_append_left _ hd)
      have hsame : r = r' :=
        List.inj_on_of_nodup_map hkeys hr (hdone r' hr') (hkey.symm.trans hkey')
      right
      rw [← hkey, Contents.writeAll_of_mem hnodup hd, hkey, hrevised, hsame]
    · exact .inl (Contents.writeAll_of_ne (fun d hd heq => hkey ⟨d, hd, heq.symm⟩) _)
  · intro key hkey
    refine h.leaves (fun hmem => hkey ?_) _
    rw [hrs, List.map_append]
    exact List.mem_append_left _ hmem

/-- A rebuild that succeeds has revised all of its listing. -/
theorem Accounts.reviseAll {full : List (List Document)} {last : List Document}
    {stats : IndexStats} (htext : L.Deterministic text ctx (L.storage s) space)
    (hwalk : (L.storage s).walkSpace space = .ok rs) (hitems : (rs.map (·.item)).Nodup)
    (hkeys : (rs.map Resource.key).Nodup) (h : L.Accounts ctx rs s full last stats t) :
    (L.documents t).contents = (L.documents s).contents.reviseAll (textsOf text rs) rs := by
  refine Contents.eq_reviseAll hkeys (fun r hr => ?_) fun key hkey => h.leaves hkey
  by_cases hcurrent : (L.documents s).contents.isCurrent r = true
  · obtain ⟨d, hd, hcurrent'⟩ := (Option.any_eq_true _ _).1 hcurrent
    rw [h.skips hkeys hr hcurrent, hd, Resource.revised_of_isCurrentFor _ hcurrent']
  · have hstale : (L.documents s).contents.isCurrent r = false := Bool.eq_false_iff.2 hcurrent
    obtain ⟨d, hd, hmade⟩ := h.exists_made hkeys (List.mem_filter.2 ⟨hr, by rw [hstale]; rfl⟩)
    rw [hd, hmade.eq_revised htext hwalk hitems hr hstale]

/-! ## Any number of attempts -/

/--
Rebuilds of a space, whatever comes of them, while storage stays as it is in `s` and the extractor
makes the same of each file every time.
-/
inductive Attempts (L : Ledger σ) (text : Resource → Option String) (space : String) (s : σ) :
    σ → Prop
  | none : Attempts L text space s s
  | more {t u : σ} {ctx : Context σ} {outcome : Except Fault IndexStats}
    (h : Attempts L text space s t) (hctx : L.Unobtrusive ctx)
    (htext : L.Deterministic text ctx (L.storage s) space)
    (hrun : (L.noting.indexSpace ctx space).perform t = (outcome, u)) : Attempts L text space s u

/-- What an attempt leaves of an index, whatever comes of it. -/
theorem partlyRevised_of_indexSpace {outcome : Except Fault IndexStats} (hctx : L.Unobtrusive ctx)
    (htext : L.Deterministic text ctx (L.storage s) space) (hs : L.Settled s)
    (hwalk : (L.storage s).walkSpace space = .ok rs) (hitems : (rs.map (·.item)).Nodup)
    (hkeys : (rs.map Resource.key).Nodup)
    (hrun : (L.noting.indexSpace ctx space).perform s = (outcome, t)) :
    L.Becomes s t (L.documents t) ∧
      (L.documents s).contents.PartlyRevised (textsOf text rs) rs (L.documents t).contents := by
  cases stage_of_indexSpace hctx hs hwalk hkeys hrun with
  | completed h =>
    refine ⟨⟨h.notes.becomes.settled, rfl, h.notes.becomes.storage⟩, ?_⟩
    rw [h.reviseAll htext hwalk hitems hkeys]
    exact Contents.partlyRevised_reviseAll hkeys _
  | broken hrs hmade h =>
    refine ⟨⟨h.settled, rfl, h.storage⟩, ?_⟩
    rw [h.documents]
    exact hmade.partlyRevised htext hwalk hitems hkeys hrs

/-- What any number of attempts leave of an index. -/
theorem Attempts.partlyRevised (hs : L.Settled s)
    (hwalk : (L.storage s).walkSpace space = .ok rs) (hitems : (rs.map (·.item)).Nodup)
    (hkeys : (rs.map Resource.key).Nodup) (h : L.Attempts text space s t) :
    L.Becomes s t (L.documents t) ∧
      (L.documents s).contents.PartlyRevised (textsOf text rs) rs (L.documents t).contents := by
  induction h with
  | none => exact ⟨Installation.Becomes.refl hs, .refl _⟩
  | @more t u ctx outcome _ hctx htext hrun ih =>
    obtain ⟨ht, hpartly⟩ := ih
    rw [← ht.storage] at hwalk htext
    obtain ⟨hu, hpartly'⟩ :=
      partlyRevised_of_indexSpace hctx htext ht.settled hwalk hitems hkeys hrun
    exact ⟨ht.trans hu, hpartly.trans hpartly'⟩

/-! ## After one that succeeds -/

/-- Of every listed resource the index has what revising it leaves. -/
def IsRevised (texts : Texts) (rs : List Resource) (m : Contents) : Prop :=
  ∀ r ∈ rs, ∃ d, m r.key = some d ∧ r.revised texts (some d) = d ∧ d.isCurrentFor r = !d.degraded

theorem isRevised_reviseAll {texts : Texts} (hkeys : (rs.map Resource.key).Nodup) (m : Contents) :
    IsRevised texts rs (m.reviseAll texts rs) := by
  intro r hr
  exact ⟨_, Contents.reviseAll_apply texts hkeys hr, Resource.revised_revised texts r _,
    Resource.isCurrentFor_revised texts r _⟩

namespace IsRevised

variable {texts : Texts} {m : Contents}

theorem isCurrent_eq (h : IsRevised texts rs m) (hr : r ∈ rs) :
    m.isCurrent r = (m r.key).any (!·.degraded) := by
  obtain ⟨d, hd, -, hcurrent⟩ := h r hr
  rw [Contents.isCurrent, hd, Option.any_some, Option.any_some, hcurrent]

/-- What is not skipped is what no text could be made of. -/
theorem filterMap_stale (h : IsRevised texts rs m) :
    (m.stale rs).filterMap (fun r => m r.key) =
      (rs.filterMap fun r => m r.key).filter (·.degraded) := by
  rw [Contents.stale, List.filterMap_filter, List.filter_filterMap]
  refine List.filterMap_congr fun r hr => ?_
  obtain ⟨d, hd, -⟩ := h r hr
  rw [h.isCurrent_eq hr, hd, Option.any_some, Bool.not_not]
  cases hdegraded : d.degraded <;> simp [Option.filter, hdegraded]

end IsRevised

/-- What is made of a listing that has been revised is what is there already. -/
theorem MadeOf.eq_filterMap (htext : L.Deterministic text ctx (L.storage s) space)
    (hwalk : (L.storage s).walkSpace space = .ok rs) (hitems : (rs.map (·.item)).Nodup)
    (h : L.MadeOf ctx s rs docs)
    (hrevised : IsRevised (textsOf text rs) rs (L.documents s).contents) :
    docs = ((L.documents s).contents.stale rs).filterMap
      fun r => (L.documents s).contents r.key := by
  have hpairs : List.Forall₂ (fun r d => (L.documents s).contents r.key = some d)
      ((L.documents s).contents.stale rs) docs := by
    have hlisted := (List.forall₂_and_left _ _).2 ⟨fun r hr => List.mem_filter.1 hr, h⟩
    refine hlisted.imp ?_
    rintro r d ⟨⟨hr, hstale⟩, hmade⟩
    obtain ⟨e, he, hsame, -⟩ := hrevised r hr
    have hstale' : (L.documents s).contents.isCurrent r = false := by simpa using hstale
    have hd := hmade.eq_revised htext hwalk hitems hr hstale'
    rw [he, hsame] at hd
    rw [he, hd]
  clear h
  generalize (L.documents s).contents.stale rs = stale at hpairs ⊢
  induction hpairs with
  | nil => rfl
  | cons hd _ ih => simp only [List.filterMap_cons, hd, ← ih]

/--
A rebuild behind one that has succeeded leaves the index.  It skips all that a text could be made
of, and writes once more what no text could be made of, as it stands there.
-/
theorem Accounts.of_revised {full : List (List Document)} {last : List Document}
    {stats : IndexStats} (htext : L.Deterministic text ctx (L.storage s) space)
    (hwalk : (L.storage s).walkSpace space = .ok rs) (hitems : (rs.map (·.item)).Nodup)
    (hkeys : (rs.map Resource.key).Nodup)
    (hrevised : IsRevised (textsOf text rs) rs (L.documents s).contents)
    (h : L.Accounts ctx rs s full last stats t) :
    L.documents t = L.documents s ∧
      stats.skipped = rs.countP (fun r => ((L.documents s).contents r.key).any (!·.degraded)) ∧
      (full ++ [last]).flatten =
        (rs.filterMap fun r => (L.documents s).contents r.key).filter (·.degraded) := by
  refine ⟨?_, ?_, ?_⟩
  · apply Collection.eq_of_contents_eq
    rw [h.reviseAll htext hwalk hitems hkeys]
    refine (Contents.eq_reviseAll hkeys (fun r hr => ?_) fun _ _ => rfl).symm
    obtain ⟨d, hd, hsame, -⟩ := hrevised r hr
    rw [hd, hsame]
  · rw [h.skipped]
    exact List.countP_congr fun r hr => by rw [hrevised.isCurrent_eq hr]
  · rw [h.made.eq_filterMap htext hwalk hitems hrevised, hrevised.filterMap_stale]

/--
Attempts to rebuild a space, whatever comes of them, leave each listed document as it was or as it
is to become, and what stands under other keys as it was.  One that succeeds behind them ends with
what one from the beginning ends with that nothing interrupts.  The next one leaves the index; it
skips every resource whose document is not degraded, and writes exactly the degraded documents once
more.
-/
theorem rebuild_resumes (hs : L.Settled s) (hwalk : (L.storage s).walkSpace space = .ok rs)
    (hspace : ∀ r ∈ rs, r.space = space) (hitems : (rs.map (·.item)).Nodup)
    (h : L.Attempts text space s t) :
    let final := (L.documents s).contents.reviseAll (textsOf text rs) rs
    (∀ r ∈ rs, (L.documents t).contents r.key = (L.documents s).contents r.key ∨
      (L.documents t).contents r.key = final r.key) ∧
    (∀ key, key ∉ rs.map Resource.key →
      (L.documents t).contents key = (L.documents s).contents key) ∧
    ∀ ctx stats u, L.Unobtrusive ctx → L.Deterministic text ctx (L.storage s) space →
      (L.noting.indexSpace ctx space).perform t = (.ok stats, u) →
      (L.documents u).contents = final ∧
      ∀ ctx' stats' v, L.Unobtrusive ctx' → L.Deterministic text ctx' (L.storage s) space →
        (L.noting.indexSpace ctx' space).perform u = (.ok stats', v) →
        L.documents v = L.documents u ∧
        stats'.skipped = rs.countP (fun r => (final r.key).any (!·.degraded)) ∧
        ∃ full last, L.journal.get v = L.journal.get u ++ (full ++ [last]) ∧
          (full ++ [last]).flatten =
            (rs.filterMap fun r => final r.key).filter (·.degraded) := by
  intro final
  have hkeys := Resource.nodup_keys_of_items hspace hitems
  obtain ⟨ht, hpartly⟩ := h.partlyRevised hs hwalk hitems hkeys
  refine ⟨?_, hpartly.unlisted, ?_⟩
  · intro r hr
    have hrevised : final r.key = _ := Contents.reviseAll_apply _ hkeys hr
    rw [hrevised]
    exact hpartly.listed r hr
  · intro ctx stats u hctx htext hrun
    rw [← ht.storage] at hwalk htext
    obtain ⟨full, last, haccounts⟩ := accounts_of_indexSpace hctx ht.settled hwalk hkeys hrun
    have hu := haccounts.notes.becomes
    have hfinal : (L.documents u).contents = final := by
      rw [haccounts.reviseAll htext hwalk hitems hkeys, hpartly.reviseAll_eq hkeys]
    refine ⟨hfinal, ?_⟩
    intro ctx' stats' v hctx' htext' hrun'
    rw [← hu.storage] at hwalk
    rw [← ht.storage, ← hu.storage] at htext'
    obtain ⟨full', last', haccounts'⟩ := accounts_of_indexSpace hctx' hu.settled hwalk hkeys hrun'
    have hrevised : IsRevised (textsOf text rs) rs (L.documents u).contents :=
      hfinal ▸ isRevised_reviseAll hkeys _
    obtain ⟨hsame, hskipped, hwritten⟩ :=
      haccounts'.of_revised htext' hwalk hitems hkeys hrevised
    rw [hfinal] at hskipped hwritten
    exact ⟨hsame, hskipped, full', last', haccounts'.notes.journal, hwritten⟩

/-! ## An extractor that gives up on one file -/

/-- What can be made of files: nothing of the second one. -/
def readable (r : Resource) : Option String := if r.item = "2" then none else some "hello"

/-- An extractor that gives up on the second file. -/
def halting : Extractor LedgerShelf where
  name := "halting"
  tryExtract _ r := Op.ofExcept <|
    match readable r with
    | some text => .ok text
    | none => .error (.internal "converter down")

theorem deterministic_halting (ctx : Context LedgerShelf)
    (hcheck : Op.Within (LedgerShelf.ledger halting).Still ctx.check) (S : Storage)
    (space : String) : (LedgerShelf.ledger halting).Deterministic readable ctx S space where
  quiet s := (hcheck s).calm
  extract s _ r _ _ _ _ := by
    refine ⟨_, s, rfl, Installation.Calm.refl s, ?_⟩
    cases readable r <;> rfl

theorem unobtrusive_halting (ctx : Context LedgerShelf)
    (hcheck : Op.Within (LedgerShelf.ledger halting).Still ctx.check) :
    (LedgerShelf.ledger halting).Unobtrusive ctx where
  check := hcheck
  extract _ s := Ledger.Still.refl s

/-- A rebuild of the space of alice. -/
def rebuildAlice (ctx : Context LedgerShelf) : Op LedgerShelf IndexStats :=
  (LedgerShelf.ledger halting).noting.indexSpace ctx "alice"

/-- The index after a rebuild that is interrupted at a lookup. -/
def interrupted : LedgerShelf :=
  ((rebuildAlice (LedgerShelf.untilCheck 4)).perform (LedgerShelf.holding [] threeResources)).2

/-- The index after the rebuild that takes it up. -/
def resumed : LedgerShelf := ((rebuildAlice .background).perform interrupted).2

/--
A rebuild of three resources is interrupted, taken up again, and done once more.  The last one
writes only the document of the file that no text can be made of.
-/
theorem rebuild_resumes_threeResources :
    (rebuildAlice (LedgerShelf.untilCheck 4)).perform (LedgerShelf.holding [] threeResources) =
        (.error (.cancelled .deadline), interrupted) ∧
      (rebuildAlice .background).perform interrupted =
        (.ok { scanned := 3, indexed := 3, degraded := 1 }, resumed) ∧
      ∃ v, (rebuildAlice .background).perform resumed =
          (.ok { scanned := 3, indexed := 1, skipped := 2, degraded := 1 }, v) ∧
        v.view = resumed.view ∧
        ∃ full last, v.journal = resumed.journal ++ (full ++ [last]) ∧
          (full ++ [last]).flatten.map (·.item) = ["2"] := by
  have hstill : Op.Within (LedgerShelf.ledger halting).Still Context.background.check :=
    fun s => Ledger.Still.refl s
  have hstill' := LedgerShelf.still_untilCheck halting 4
  have hbroken : (rebuildAlice (LedgerShelf.untilCheck 4)).perform
      (LedgerShelf.holding [] threeResources) =
        (.error (.cancelled .deadline), interrupted) := rfl
  have hrun : (rebuildAlice .background).perform interrupted =
      (.ok { scanned := 3, indexed := 3, degraded := 1 }, resumed) :=
    Op.perform_eq_of_toOption (by decide +kernel)
  obtain ⟨v, hagain⟩ : ∃ v, (rebuildAlice .background).perform resumed =
      (.ok { scanned := 3, indexed := 1, skipped := 2, degraded := 1 }, v) :=
    ⟨_, Op.perform_eq_of_toOption (by decide +kernel)⟩
  have hattempts : (LedgerShelf.ledger halting).Attempts readable "alice"
      (LedgerShelf.holding [] threeResources) interrupted :=
    Attempts.none.more (unobtrusive_halting _ hstill') (deterministic_halting _ hstill' _ _) hbroken
  have hwalk : (LedgerShelf.holding [] threeResources).storage.walkSpace "alice" =
      .ok threeResources := rfl
  obtain ⟨-, -, hresumes⟩ := rebuild_resumes (LedgerShelf.settled_holding halting _ _) hwalk
    (by decide) (by decide) hattempts
  obtain ⟨-, hnext⟩ := hresumes _ _ _ (unobtrusive_halting _ hstill)
    (deterministic_halting _ hstill _ _) hrun
  obtain ⟨hsame, -, full, last, hjournal, hwritten⟩ := hnext _ _ _ (unobtrusive_halting _ hstill)
    (deterministic_halting _ hstill _ _) hagain
  refine ⟨hbroken, hrun, v, hagain, hsame, full, last, hjournal, ?_⟩
  rw [hwritten]
  decide +kernel

/-- Directories of the space `a`; the item of the first one is `b!c`. -/
def crossedListing : List Resource :=
  (List.range 65).map fun i =>
    { plainFile with
      space := "a"
      item := if i = 0 then "b!c" else toString (99 - i)
      isDir := true }

/-- An index of an item `c` of the space `a!b`, and storage with these directories. -/
def crossedShelf : LedgerShelf := LedgerShelf.holding [bareDocument ⟨"a!b", "c"⟩] crossedListing

/-- A rebuild of the space `a` that is interrupted behind its first write. -/
def crossedRun : Except Fault IndexStats × LedgerShelf :=
  ((LedgerShelf.ledger halting).noting.indexSpace (LedgerShelf.untilCheck 130) "a").perform
    crossedShelf

/-- A rebuild that fails has put a document of its own in the place of one of another space. -/
theorem not_attempt_leaves_crossed :
    (∀ r ∈ crossedListing, r.space = "a") ∧ (crossedListing.map (·.item)).Nodup ∧
      bareDocument ⟨"a!b", "c"⟩ ∈ crossedShelf.view.toList ∧
      ⟨"a!b", "c"⟩ ∉ crossedListing.map Resource.identity ∧
      (LedgerShelf.ledger halting).Attempts readable "a" crossedShelf crossedRun.2 ∧
      crossedRun.1.toOption = none ∧ bareDocument ⟨"a!b", "c"⟩ ∉ crossedRun.2.view.toList := by
  have hstill := LedgerShelf.still_untilCheck halting 130
  have hrun : crossedRun.1.toOption = none ∧
      crossedRun.2.view.find? "a!b!c" ≠ some (bareDocument ⟨"a!b", "c"⟩) := by decide +kernel
  refine ⟨by decide +kernel, by decide +kernel, by decide +kernel, by decide +kernel, ?_, hrun.1,
    ?_⟩
  · exact Attempts.none.more (unobtrusive_halting _ hstill) (deterministic_halting _ hstill _ _)
      (Prod.mk.eta (p := crossedRun)).symm
  · rw [Collection.mem_toList_iff]
    exact hrun.2

end Ledger

end ScopedSearch
