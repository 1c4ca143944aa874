import ScopedSearch.Extraction

/-!
# Watching a context end

A context ends at some point, and from then on each of its checks fails.  Nobody is told when that
happens: an operation finds out at its next check, and may have done things in between.  So a watch
is kept.  It knows whether the context has ended, it looks at whatever writing would change, and
when the end is noticed first it marks what there is to see.

An operation heeds the context when it checks before it does anything that could be seen.  Rows of
operations obey it in a weaker sense: an extractor turns a failed check into a poorer text, so what
follows it has to run into another check before it writes.  Who has yet to do so owes a write, and
this is what is handed on from one operation to the next.

## Main results

* `ends_before`, `ends_untilCheck`: contexts with a deadline, and those that end with some check.
* `heeds_check`, `Heeds.bind`: to check first is to heed the context.
* `Obeys.bind`: operations in a row obey a context.
-/

namespace ScopedSearch

/-- The outcome says that the context has ended. -/
def IsCancelled {β : Type} (r : Except Fault β) : Prop := ∃ cause, r = .error (.cancelled cause)

/-- Watches a context end. -/
structure Watch (σ α : Type) where
  /-- The context has ended. -/
  ended : σ → Bool
  /-- What there is to see of the documents. -/
  look : σ → α
  /-- What there was to see when the end was first noticed. -/
  mark : Part σ (Option α)
  ended_put_mark : ∀ x s, ended (mark.put x s) = ended s
  look_put_mark : ∀ x s, look (mark.put x s) = look s

namespace Watch

variable {σ α β γ : Type} (W : Watch σ α)

/-- The state after the end has been noticed in it. -/
def noticed (s : σ) : σ :=
  match W.mark.get s with
  | none => W.mark.put (some (W.look s)) s
  | some _ => s

/-- The context; a check that fails is noticed. -/
def context (ctx : Context σ) : Context σ :=
  { ctx with
    check := Op.make fun s =>
      match ctx.check.perform s with
      | (.ok (), t) => (.ok (), t)
      | (.error f, t) => (.error f, W.noticed t) }

/-- The extractor; it is noticed when the context has ended by the end of an extraction. -/
def extractor (x : Extractor σ) : Extractor σ where
  name := x.name
  tryExtract ctx r := Op.make fun s =>
    let (text, t) := (x.tryExtract ctx r).perform s
    (text, if W.ended t then W.noticed t else t)

/-! ## States one after the other -/

/-- From `s` to `t` nothing is noticed, and the context does not come back. -/
structure Keeps (s t : σ) : Prop where
  mark : W.mark.get t = W.mark.get s
  ended : W.ended s = true → W.ended t = true

/-- From `s` to `t` nothing changes that can be seen either. -/
structure Still (s t : σ) : Prop extends W.Keeps s t where
  look : W.look t = W.look s

/-- From `s` to `t` nothing changes that can be seen, and only the end is noticed. -/
structure Minds (s t : σ) : Prop where
  look : W.look t = W.look s
  ended : W.ended s = true → W.ended t = true
  mark : W.mark.get t = W.mark.get s ∨
    W.mark.get s = none ∧ W.mark.get t = some (W.look t) ∧ W.ended t = true

/-- Since the end was noticed nothing has changed that can be seen. -/
def Intact (s : σ) : Prop := ∀ seen, W.mark.get s = some seen → W.look s = seen ∧ W.ended s = true

variable {W} {s t u : σ} {ctx : Context σ}

theorem Keeps.refl (s : σ) : W.Keeps s s := ⟨rfl, id⟩

theorem Keeps.trans (h : W.Keeps s t) (h' : W.Keeps t u) : W.Keeps s u :=
  ⟨h'.mark.trans h.mark, h'.ended ∘ h.ended⟩

theorem Still.refl (s : σ) : W.Still s s := ⟨Keeps.refl s, rfl⟩

theorem Still.trans (h : W.Still s t) (h' : W.Still t u) : W.Still s u :=
  ⟨h.toKeeps.trans h'.toKeeps, h'.look.trans h.look⟩

theorem Still.minds (h : W.Still s t) : W.Minds s t := ⟨h.look, h.ended, .inl h.mark⟩

theorem Minds.refl (s : σ) : W.Minds s s := (Still.refl s).minds

theorem Minds.trans (h : W.Minds s t) (h' : W.Minds t u) : W.Minds s u where
  look := h'.look.trans h.look
  ended := h'.ended ∘ h.ended
  mark := by
    rcases h'.mark with hsame | ⟨hnone, hmark, hended⟩
    · rcases h.mark with hsame' | ⟨hnone, hmark, hended⟩
      · exact .inl (hsame.trans hsame')
      · exact .inr ⟨hnone, by rw [hsame, hmark, h'.look], h'.ended hended⟩
    · rcases h.mark with hsame' | ⟨-, hmark', -⟩
      · exact .inr ⟨hsame' ▸ hnone, hmark, hended⟩
      · rw [hmark'] at hnone
        cases hnone

/-- What was noticed stays noticed. -/
theorem Minds.stays (h : W.Minds s t) {seen : α} (hs : W.mark.get s = some seen) :
    W.mark.get t = some seen := by
  rcases h.mark with hsame | ⟨hnone, -, -⟩
  · rw [hsame, hs]
  · rw [hs] at hnone
    cases hnone

theorem Minds.intact (h : W.Minds s t) (hs : W.Intact s) : W.Intact t := by
  intro seen hseen
  rcases h.mark with hsame | ⟨-, hmark, hended⟩
  · obtain ⟨hlook, hended⟩ := hs seen (hsame ▸ hseen)
    exact ⟨h.look.trans hlook, h.ended hended⟩
  · rw [hmark] at hseen
    exact ⟨Option.some.inj hseen, hended⟩

/-- In a state that is intact nothing has been noticed before the end. -/
theorem Intact.mark_eq_none (hs : W.Intact s) (h : W.ended s = false) : W.mark.get s = none := by
  cases hmark : W.mark.get s with
  | none => rfl
  | some seen => exact absurd (hs seen hmark).2 (by rw [h]; decide)

/-- To notice the end changes nothing that can be seen. -/
theorem noticed_minds (h : W.ended s = true) :
    W.Minds s (W.noticed s) ∧ W.mark.get (W.noticed s) ≠ none := by
  rw [noticed]
  cases hmark : W.mark.get s with
  | none =>
    refine ⟨⟨W.look_put_mark _ s, fun _ => ?_, .inr ⟨hmark, ?_, ?_⟩⟩, ?_⟩
    · rw [W.ended_put_mark, h]
    · rw [W.mark.get_put, W.look_put_mark]
    · rw [W.ended_put_mark, h]
    · rw [W.mark.get_put]
      exact nofun
  | some seen =>
    dsimp only
    exact ⟨Minds.refl s, by rw [hmark]; exact nofun⟩

theorem within_keeps {op : Op σ β} (h : Op.Within W.Still op) : Op.Within W.Keeps op :=
  fun s => (h s).toKeeps

theorem within_minds {op : Op σ β} (h : Op.Within W.Still op) : Op.Within W.Minds op :=
  fun s => (h s).minds

/-! ## Contexts that end -/

variable (W) in
/-- The checks of a context succeed until it has ended and fail from then on. -/
structure Ends (ctx : Context σ) : Prop where
  holds : ∀ s, W.ended s = false → ∃ t, ctx.check.perform s = (.ok (), t) ∧ W.Still s t
  fails : ∀ s, W.ended s = true →
    ∃ cause t, ctx.check.perform s = (.error (.cancelled cause), t) ∧ W.Still s t
  remaining : Op.Within W.Still ctx.remaining

/-- A context with a deadline ends when the clock reaches it. -/
theorem ends_before {now : σ → Nat} {deadline : Nat}
    (hended : ∀ s, W.ended s = decide (deadline ≤ now s)) :
    W.Ends (Context.before now deadline) where
  holds s hs := by
    have hlater : ¬ deadline ≤ now s := by simpa [hended] using hs
    refine ⟨s, ?_, Still.refl s⟩
    rw [Context.before, Op.perform_bind_of_ok (Op.perform_read now s), if_neg hlater]
    rfl
  fails s hs := by
    have hreached : deadline ≤ now s := by simpa [hended] using hs
    refine ⟨.deadline, s, ?_, Still.refl s⟩
    rw [Context.before, Op.perform_bind_of_ok (Op.perform_read now s), if_pos hreached]
    rfl
  remaining s := Still.refl s

/-- A context that ends with a check: the ones before it succeed, and those after it fail too. -/
theorem ends_untilCheck {counter : Part σ Nat} {n : Nat} {cause : CancelCause}
    (hended : ∀ s, W.ended s = decide (n ≤ counter.get s))
    (hlook : ∀ k s, W.look (counter.put k s) = W.look s)
    (hmark : ∀ k s, W.mark.get (counter.put k s) = W.mark.get s) :
    W.Ends (Context.untilCheck counter n cause) := by
  have hcheck : ∀ s, (Context.untilCheck counter n cause).check.perform s =
      (if counter.get s < n then .ok () else .error (.cancelled cause),
        counter.put (counter.get s + 1) s) := by
    intro s
    simp only [Context.untilCheck, Part.modify, Op.perform_bind, Op.perform_read,
      Op.perform_change]
    split <;> rfl
  -- a check counts itself, so the last one that succeeds ends the context for the next one
  have hstill : ∀ s, W.Still s (counter.put (counter.get s + 1) s) := by
    refine fun s => ⟨⟨hmark _ s, fun h => ?_⟩, hlook _ s⟩
    rw [hended, decide_eq_true_eq] at h
    rw [hended, counter.get_put, decide_eq_true_eq]
    exact Nat.le_succ_of_le h
  refine ⟨fun s hs => ⟨_, ?_, hstill s⟩, fun s hs => ⟨cause, _, ?_, hstill s⟩,
    fun s => Still.refl s⟩
  · have hbefore : counter.get s < n := by simpa [hended] using hs
    rw [hcheck, if_pos hbefore]
  · have hafter : ¬ counter.get s < n := by simpa [hended] using hs
    rw [hcheck, if_neg hafter]

/-! ## Heeding a context -/

variable (W) in
/-- The operation is cancelled, and then nothing has changed that can be seen and the end has been
noticed; or it began before the end and does not notice it. -/
def Heeds (op : Op σ β) : Prop := ∀ s r t, op.perform s = (r, t) →
  IsCancelled r ∧ W.Minds s t ∧ W.mark.get t ≠ none ∨ W.ended s = false ∧ W.Keeps s t

/-- A check succeeds before the end; after it the check is cancelled and the end is noticed. -/
theorem perform_check (hctx : W.Ends ctx) (s : σ) :
    (W.ended s = false ∧
      ∃ t, (W.context ctx).check.perform s = (.ok (), t) ∧ W.Still s t) ∨
    ∃ cause t, (W.context ctx).check.perform s = (.error (.cancelled cause), t) ∧ W.Minds s t ∧
      W.mark.get t ≠ none := by
  cases hended : W.ended s with
  | false =>
    obtain ⟨t, hcheck, hstill⟩ := hctx.holds s hended
    refine .inl ⟨rfl, t, ?_, hstill⟩
    rw [context, Op.perform_make, hcheck]
  | true =>
    obtain ⟨cause, t, hcheck, hstill⟩ := hctx.fails s hended
    obtain ⟨hminds, hmark⟩ := noticed_minds (hstill.ended hended)
    refine .inr ⟨cause, W.noticed t, ?_, hstill.minds.trans hminds, hmark⟩
    rw [context, Op.perform_make, hcheck]

/-- A check heeds the context. -/
theorem heeds_check (hctx : W.Ends ctx) : W.Heeds (W.context ctx).check := by
  intro s r u hrun
  rcases perform_check hctx s with ⟨hended, t, hok, hstill⟩ | ⟨cause, t, hcheck, hminds, hmark⟩
  · rw [hok] at hrun
    cases hrun
    exact .inr ⟨hended, hstill.toKeeps⟩
  · rw [hcheck] at hrun
    cases hrun
    exact .inl ⟨⟨cause, rfl⟩, hminds, hmark⟩

/-- A check changes nothing that can be seen. -/
theorem check_minds (hctx : W.Ends ctx) : Op.Within W.Minds (W.context ctx).check := by
  intro s
  rcases perform_check hctx s with ⟨-, t, hok, hstill⟩ | ⟨cause, t, hcheck, hminds, -⟩
  · rw [hok]
    exact hstill.minds
  · rw [hcheck]
    exact hminds

/-- After a context has been heeded anything may be done, as long as it does not undo the end. -/
theorem Heeds.bind {op : Op σ β} {next : β → Op σ γ} (h : W.Heeds op)
    (hnext : ∀ b, Op.Within W.Keeps (next b)) : W.Heeds (op >>= next) := by
  intro s r u hrun
  rcases hop : op.perform s with ⟨f | b, t⟩
  · rw [Op.perform_bind_of_error hop] at hrun
    cases hrun
    rcases h s _ _ hop with ⟨⟨cause, hcause⟩, hrest⟩ | hrest
    · cases hcause
      exact .inl ⟨⟨cause, rfl⟩, hrest⟩
    · exact .inr hrest
  · rw [Op.perform_bind_of_ok hop] at hrun
    rcases h s _ t hop with ⟨⟨cause, hcause⟩, -⟩ | ⟨hended, hkeeps⟩
    · cases hcause
    · have hafter := hnext b t
      rw [hrun] at hafter
      exact .inr ⟨hended, hkeeps.trans hafter⟩

/-- Before a context is heeded, what cannot be seen may be done. -/
theorem heeds_bind_of_still {op : Op σ β} {next : β → Op σ γ}
    (hop : ∀ s, ∃ b t, op.perform s = (.ok b, t) ∧ W.Still s t) (h : ∀ b, W.Heeds (next b)) :
    W.Heeds (op >>= next) := by
  intro s r u hrun
  obtain ⟨b, t, hb, hstill⟩ := hop s
  rw [Op.perform_bind_of_ok hb] at hrun
  rcases h b t r u hrun with ⟨hcancelled, hminds, hmark⟩ | ⟨hended, hkeeps⟩
  · exact .inl ⟨hcancelled, hstill.minds.trans hminds, hmark⟩
  · refine .inr ⟨?_, hstill.toKeeps.trans hkeeps⟩
    cases hs : W.ended s with
    | false => rfl
    | true => exact absurd (hstill.ended hs) (by rw [hended]; decide)

/-! ## Obeying a context -/

variable (W) in
/-- What an outcome and the state with it say: nothing that can be seen has changed since the end
was noticed, which stays noticed, and then the operation was cancelled or its value owes a write. -/
structure Settles (owes : β → Prop) (s : σ) (r : Except Fault β) (t : σ) : Prop where
  intact : W.Intact t
  stays : ∀ seen, W.mark.get s = some seen → W.mark.get t = some seen
  outcome : W.mark.get t ≠ none → IsCancelled r ∨ ∃ b, r = .ok b ∧ owes b

variable (W) in
/-- The operation obeys a context: started where the end has been noticed only if a write is owed,
it ends where it has been noticed only if the operation was cancelled or its value owes a write. -/
def Obeys (owed : Prop) (op : Op σ β) (owes : β → Prop) : Prop :=
  ∀ s r t, W.Intact s → (W.mark.get s ≠ none → owed) → op.perform s = (r, t) →
    W.Settles owes s r t

variable {owed : Prop} {owes : β → Prop} {op : Op σ β}

/-- Who heeds a context owes nothing. -/
theorem Heeds.obeys (h : W.Heeds op) : W.Obeys owed op fun _ => False := by
  intro s r t hs _ hrun
  rcases h s r t hrun with ⟨hcancelled, hminds, -⟩ | ⟨hended, hkeeps⟩
  · exact ⟨hminds.intact hs, fun seen => hminds.stays, fun _ => .inl hcancelled⟩
  · -- whoever began before the end has noticed nothing, so nothing can be said to have changed
    have hnone := hs.mark_eq_none hended
    have hnone' : W.mark.get t = none := hkeeps.mark.trans hnone
    refine ⟨fun seen h => ?_, fun seen h => ?_, fun h => absurd hnone' h⟩
    · rw [hnone'] at h
      cases h
    · rw [hnone] at h
      cases h

/-- What cannot be seen may be done while a write is owed. -/
theorem obeys_of_minds (h : Op.Within W.Minds op)
    (howes : ∀ s r t, op.perform s = (r, t) → W.mark.get t ≠ none →
      IsCancelled r ∨ ∃ b, r = .ok b ∧ owes b) : W.Obeys owed op owes := by
  intro s r t hs _ hrun
  have hminds := h s
  rw [hrun] at hminds
  exact ⟨hminds.intact hs, fun seen => hminds.stays, howes s r t hrun⟩

theorem obeys_pure {b : β} (h : owed → owes b) : W.Obeys owed (pure b : Op σ β) owes := by
  intro s r t hs howed hrun
  cases hrun
  exact ⟨hs, fun seen => id, fun hmark => .inr ⟨b, rfl, h (howed hmark)⟩⟩

/-- What leaves the state as it is and begins with nothing owed owes nothing. -/
theorem obeys_read (f : σ → β) : W.Obeys False (Op.read f) fun _ => False := by
  intro s r t hs howed hrun
  cases hrun
  exact ⟨hs, fun seen => id, fun hmark => (howed hmark).elim⟩

theorem obeys_ofExcept (x : Except Fault β) :
    W.Obeys False (Op.ofExcept x : Op σ β) fun _ => False := by
  intro s r t hs howed hrun
  cases hrun
  exact ⟨hs, fun seen => id, fun hmark => (howed hmark).elim⟩

/-- What the first one of two operations owes, the second one takes over. -/
theorem Obeys.bind {next : β → Op σ γ} {owes' : γ → Prop} (h : W.Obeys owed op owes)
    (hnext : ∀ b, W.Obeys (owes b) (next b) owes') : W.Obeys owed (op >>= next) owes' := by
  intro s r u hs howed hrun
  rcases hop : op.perform s with ⟨f | b, t⟩
  · rw [Op.perform_bind_of_error hop] at hrun
    cases hrun
    have hfirst := h s _ _ hs howed hop
    refine ⟨hfirst.intact, hfirst.stays, fun hmark => .inl ?_⟩
    rcases hfirst.outcome hmark with ⟨cause, hcause⟩ | ⟨b, hb, -⟩
    · cases hcause
      exact ⟨cause, rfl⟩
    · cases hb
  · rw [Op.perform_bind_of_ok hop] at hrun
    have hfirst := h s _ t hs howed hop
    have hlast := hnext b t r u hfirst.intact (fun hmark => by
      rcases hfirst.outcome hmark with ⟨cause, hcause⟩ | ⟨b', hb, hb'⟩
      · cases hcause
      · cases hb
        exact hb') hrun
    exact ⟨hlast.intact, fun seen hseen => hlast.stays seen (hfirst.stays seen hseen),
      hlast.outcome⟩

/-- More may be owed at the start, and less be said of the end. -/
theorem Obeys.imp {owed' : Prop} {owes' : β → Prop} (h : W.Obeys owed op owes)
    (howed : owed' → owed) (howes : ∀ b, owes b → owes' b) : W.Obeys owed' op owes' := by
  intro s r t hs hmark hrun
  have hrest := h s r t hs (howed ∘ hmark) hrun
  exact ⟨hrest.intact, hrest.stays, fun hmark => (hrest.outcome hmark).imp_right
    fun ⟨b, hb, howes'⟩ => ⟨b, hb, howes b howes'⟩⟩

end Watch

end ScopedSearch
