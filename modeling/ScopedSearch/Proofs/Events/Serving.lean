import ScopedSearch.Proofs.Events.Pipeline
import ScopedSearch.Search.Recording

/-!
# What a pipeline asks of the engine

Events reach the worker of a pipeline in the order in which they were published, so the engine is
asked the same, and the same events are acknowledged, in whatever order the parties take their
steps.

## Main results

* `Run.serves_published`: what a run to the end has asked of the engine and acknowledged.
* `Run.agrees_with_serve`: `Engine.serve` is one way to go through the pipeline.
-/

namespace ScopedSearch.Pipeline

variable {σ : Type}

/-- What the worker does: it asks the engine, or is done with an event. -/
inductive Deed
  | asked (x : Exchange)
  | done (e : Event)

/-- What the worker does in a move. -/
@[simp] def Move.deed? : Move → Option Deed
  | ask x => some (.asked x)
  | acknowledge e => some (.done e)
  | _ => none

/--
Events handled one after the other from a state, with what the worker does and the state that comes
of it.  For each of them the engine is asked what its plan says, and what handling it answers is the
number of calls that failed; then it is acknowledged.
-/
inductive Serves (engine : Engine σ) (options : ReindexOptions) (ctx : Context σ) (s : σ) :
    List Event → List Deed → σ → Prop
  | nil : Serves engine options ctx s [] [] s
  | snoc {es ds t e xs failed u} (hserves : Serves engine options ctx s es ds t)
      (hhandle : (engine.handle options ctx e).perform t = (.ok failed, u))
      (hanswered : e.Answered options xs failed) :
      Serves engine options ctx s (es ++ [e]) (ds ++ (xs.map .asked ++ [.done e])) u

variable {engine : Engine σ} {options : ReindexOptions} {ctx : Context σ} {capacity : Nat}
  {moves : List Move} {m : Move} {p q : Pipeline σ} {s : σ}

/-! ## What the worker does -/

/-- How far the worker has come: it has served the events that it is done with, and for the one in
hand, doing the duties that are left completes what it has asked so far. -/
def Served (engine : Engine σ) (options : ReindexOptions) (ctx : Context σ) (s : σ)
    (moves : List Move) (p : Pipeline σ) : Prop :=
  match p.worker with
  | .handling e duties => ∃ ds t xs,
    Serves engine options ctx s (moves.filterMap Move.finished?) ds t ∧
      moves.filterMap Move.deed? = ds ++ xs.map .asked ∧
      ∀ ys u, engine.Works ctx duties p.state ys u →
        engine.Works ctx ((plan options e).map .call) t (xs ++ ys) u
  | _ => Serves engine options ctx s (moves.filterMap Move.finished?)
    (moves.filterMap Move.deed?) p.state

/-- Where the worker does nothing, it stays as far as it has come. -/
theorem Served.still (hp : Served engine options ctx s moves p) (hfinished : m.finished? = none)
    (hdeed : m.deed? = none) (hworker : q.worker = p.worker) (hstate : q.state = p.state) :
    Served engine options ctx s (moves ++ [m]) q := by
  have hmoves : (moves ++ [m]).filterMap Move.finished? = moves.filterMap Move.finished? := by
    rw [List.filterMap_append, List.filterMap_cons_none hfinished, List.filterMap_nil,
      List.append_nil]
  have hdeeds : (moves ++ [m]).filterMap Move.deed? = moves.filterMap Move.deed? := by
    rw [List.filterMap_append, List.filterMap_cons_none hdeed, List.filterMap_nil,
      List.append_nil]
  rw [Served, hworker, hstate, hmoves, hdeeds]
  exact hp

theorem Served.serves (hp : Served engine options ctx s moves p)
    (hworker : p.worker = .idle ∨ p.worker = .ended) :
    Serves engine options ctx s (moves.filterMap Move.finished?) (moves.filterMap Move.deed?)
      p.state := by
  rcases hworker with h | h <;>
  · rw [Served, h] at hp
    exact hp

theorem Step.served (h : Step engine options ctx capacity p m q)
    (hp : Served engine options ctx s moves p) : Served engine options ctx s (moves ++ [m]) q := by
  cases h with
  | publish _ _ => exact hp.still rfl rfl rfl rfl
  | close _ => exact hp.still rfl rfl rfl rfl
  | take _ _ => exact hp.still rfl rfl rfl rfl
  | forward _ _ _ => exact hp.still rfl rfl rfl rfl
  | dismiss _ _ => exact hp.still rfl rfl rfl rfl
  | filterEnds _ _ _ => exact hp.still rfl rfl rfl rfl
  | receive hworker hinbox =>
    refine ⟨moves.filterMap Move.deed?, p.state, [], ?_, ?_, fun ys u h => h⟩
    · simpa [List.filterMap_cons] using hp.serves (.inl hworker)
    · simp [List.filterMap_cons]
  | @ask e d ds r t hhandling hreply =>
    rw [Served, hhandling] at hp
    obtain ⟨deeds, u, xs, hserves, hdeeds, hworks⟩ := hp
    refine ⟨deeds, u, xs ++ [⟨d.request, r⟩], ?_, ?_, fun ys v hys => ?_⟩
    · simpa [List.filterMap_cons] using hserves
    · simp [hdeeds]
    · rw [List.append_assoc]
      exact hworks _ _ (.cons hreply hys)
  | @acknowledge e hhandling =>
    rw [Served, hhandling] at hp
    obtain ⟨deeds, t, xs, hserves, hdeeds, hworks⟩ := hp
    obtain ⟨failed, hhandle, hanswered⟩ := Engine.handle_of_works (hworks [] p.state .nil)
    rw [List.append_nil] at hanswered
    show Serves _ _ _ _ _ _ _
    rw [List.filterMap_append, List.filterMap_append, hdeeds, List.append_assoc]
    exact hserves.snoc hhandle hanswered
  | workerEnds hworker _ _ =>
    show Serves _ _ _ _ _ _ _
    simpa [List.filterMap_cons] using hp.serves (.inl hworker)

theorem Run.served (h : Run engine options ctx capacity p moves q)
    (hp : Served engine options ctx s [] p) : Served engine options ctx s moves q := by
  induction h with
  | nil => exact hp
  | snoc _ hstep ih => exact hstep.served ih

/-! ## What comes of a run -/

section

variable (h : Run engine options ctx capacity { state := s } moves p)
  (hstuck : ∀ m q, ¬ Step engine options ctx capacity p m q)

include h hstuck

/-- In the end nothing is on its way: what is published is sorted, and what is wanted finished. -/
theorem Run.nothing_left :
    moves.filterMap Move.sorted? = moves.filterMap Move.published? ∧
      moves.filterMap Move.finished? = wanted (moves.filterMap Move.published?) := by
  have hstart : Orderly ({ state := s } : Pipeline σ) := ⟨rfl, nofun, nofun⟩
  have hend := h.orderly hstart
  have hflow := h.flow hstart
  obtain ⟨-, hfilter, hworker⟩ := ended_of_stuck hend hstuck
  have hunsorted : p.unsorted = [] := by simp [unsorted, hfilter, (hend.filterEnded hfilter).2]
  have hunfinished : p.unfinished = [] := by
    simp [unfinished, hworker, (hend.workerEnded hworker).2]
  have hsorted := hflow.sorted
  rw [hunsorted, List.append_nil] at hsorted
  have hfinished := hflow.finished
  rw [hunfinished, List.append_nil, hflow.forwarded] at hfinished
  exact ⟨hsorted.symm, by rw [← hfinished, ← hsorted]; rfl⟩

/-- In the end every published event has been acknowledged once. -/
theorem Run.acked_perm : p.channel.acked = moves.filterMap Move.acknowledged? ∧
    p.channel.acked.Perm (moves.filterMap Move.published?) := by
  have hflow := h.flow ⟨rfl, nofun, nofun⟩
  have hacked : p.channel.acked = moves.filterMap Move.acknowledged? := by
    simpa using hflow.acked
  obtain ⟨hsorted, hfinished⟩ := h.nothing_left hstuck
  refine ⟨hacked, ?_⟩
  rw [hacked]
  refine (acknowledged_perm moves).trans ?_
  rw [hfinished, hflow.dismissed, hsorted]
  exact List.filter_append_perm _ _

/-- In the end the worker has served the wanted events. -/
theorem Run.serves_wanted : Serves engine options ctx s
    (wanted (moves.filterMap Move.published?)) (moves.filterMap Move.deed?) p.state := by
  have hserved : Served engine options ctx s moves p := h.served .nil
  obtain ⟨-, -, hworker⟩ := ended_of_stuck (h.orderly ⟨rfl, nofun, nofun⟩) hstuck
  have hserves := hserved.serves (.inr hworker)
  rwa [(h.nothing_left hstuck).2] at hserves

end

/--
Whatever the engine and however its calls end, whatever the options and the room in the channel, and
in whatever order the publisher, the filter and the worker take their steps: a run is bounded by the
events that are published.  It only stops with the channel closed and both threads ended, and then
every published event has been acknowledged once.  What the worker has done by then is to serve the
subscribed events in the order in which they were published: it has asked the engine what the plan
of the event says, every call of it whatever became of the others, acknowledged the event once the
last reply was there, and only then gone on to the next one.
-/
theorem Run.serves_published (h : Run engine options ctx capacity { state := s } moves p) :
    moves.length ≤ 8 * (moves.filterMap Move.published?).length + 3 ∧
    ((∀ m q, ¬ Step engine options ctx capacity p m q) →
      p.channel.isClosed = true ∧ p.filter = .ended ∧ p.worker = .ended ∧
      p.channel.acked = moves.filterMap Move.acknowledged? ∧
      p.channel.acked.Perm (moves.filterMap Move.published?) ∧
      Serves engine options ctx s
        ((moves.filterMap Move.published?).filter (·.isWanted subscribedSubjects))
        (moves.filterMap Move.deed?) p.state) := by
  have hstart : Orderly ({ state := s } : Pipeline σ) := ⟨rfl, nofun, nofun⟩
  refine ⟨?_, fun hstuck => ?_⟩
  · have hbound := h.length_add_weight_le hstart
    have hweight : weight ({ state := s } : Pipeline σ) = 3 := rfl
    omega
  · obtain ⟨hclosed, hfilter, hworker⟩ := ended_of_stuck (h.orderly hstart) hstuck
    obtain ⟨hacked, hperm⟩ := h.acked_perm hstuck
    exact ⟨hclosed, hfilter, hworker, hacked, hperm, h.serves_wanted hstuck⟩

/-! ## One party after the other -/

/-- The engine neither looks at the channel nor touches it. -/
def Apart (engine : Engine σ) (ctx : Context σ) (channel : Part σ EventChannel) : Prop :=
  ∀ q c s, (engine.answer ctx q).perform (channel.put c s) =
    (((engine.answer ctx q).perform s).1, channel.put c ((engine.answer ctx q).perform s).2)

variable {channel : Part σ EventChannel} {t u : σ} {es : List Event} {ds : List Deed}

theorem Apart.works (h : Apart engine ctx channel) {duties : List Duty} {xs : List Exchange}
    (hworks : engine.Works ctx duties s xs t) (c : EventChannel) :
    engine.Works ctx duties (channel.put c s) xs (channel.put c t) := by
  induction hworks with
  | nil => exact .nil
  | cons hreply _ ih => exact .cons (by rw [h, hreply]) ih

/-- Handling an event does not depend on the channel. -/
theorem Apart.handle (h : Apart engine ctx channel) {e : Event} {failed : Nat}
    (hhandle : (engine.handle options ctx e).perform s = (.ok failed, t)) (c : EventChannel) :
    ∃ failed, (engine.handle options ctx e).perform (channel.put c s) =
      (.ok failed, channel.put c t) := by
  obtain ⟨parts, u, hworks, -, hrun⟩ :=
    Engine.exists_works_calls engine ctx (plan options e) s
  obtain ⟨rfl⟩ : u = t := congrArg Prod.snd (hrun.symm.trans hhandle)
  obtain ⟨failed, hput, -⟩ := Engine.handle_of_works (h.works hworks c)
  exact ⟨failed, hput⟩

theorem Serves.cons {e : Event} {xs : List Exchange} {failed : Nat}
    (hhandle : (engine.handle options ctx e).perform s = (.ok failed, t))
    (hanswered : e.Answered options xs failed) (h : Serves engine options ctx t es ds u) :
    Serves engine options ctx s (e :: es) (xs.map .asked ++ [.done e] ++ ds) u := by
  induction h with
  | nil => simpa using Serves.nil.snoc hhandle hanswered
  | snoc _ hhandle' hanswered' ih =>
    rw [← List.append_assoc, ← List.cons_append]
    exact ih.snoc hhandle' hanswered'

/-- Events served from one state lead to one state. -/
theorem Serves.unique {ds' : List Deed} (h : Serves engine options ctx s es ds t)
    (h' : Serves engine options ctx s es ds' u) : t = u := by
  generalize hes : es = es' at h'
  induction h generalizing es' ds' u with
  | nil =>
    cases h' with
    | nil => rfl
    | snoc => simp at hes
  | snoc _ hhandle _ ih =>
    cases h' with
    | nil => simp at hes
    | snoc hserves hhandle' _ =>
      obtain ⟨rfl, he⟩ := List.append_inj' hes rfl
      obtain rfl := List.singleton_inj.1 he
      obtain rfl := ih _ rfl hserves
      exact congrArg Prod.snd (hhandle.symm.trans hhandle')

/-- Events that wait in a channel are served as a worker serves them. -/
theorem serveAll_serves (options : ReindexOptions) (h : Apart engine ctx channel)
    {more : List Event} {c : EventChannel} (hwaiting : c.waiting = es ++ more) (s : σ) :
    ∃ ds t, Serves engine options ctx s es ds t ∧
      (engine.serveAll options ctx channel es).perform (channel.put c s) =
        (.ok (), channel.put { c with waiting := more, acked := c.acked ++ es } t) := by
  induction es generalizing c s with
  | nil =>
    refine ⟨[], s, .nil, ?_⟩
    have hc : { c with waiting := more, acked := c.acked ++ [] } = c := by
      rw [List.append_nil]
      subst hwaiting
      rfl
    rw [hc]
    rfl
  | cons e es ih =>
    obtain ⟨parts, t, hworks, -, hhandle⟩ :=
      Engine.exists_works_calls engine ctx (plan options e) s
    obtain ⟨failed, hrun, hanswered⟩ := Engine.handle_of_works hworks
    obtain ⟨_, hput⟩ := h.handle hrun c
    have hfinish : c.finish = { c with waiting := es ++ more, acked := c.acked ++ [e] } := by
      rw [EventChannel.finish, hwaiting]
      rfl
    obtain ⟨ds, u, hserves, hrest⟩ := ih (c := c.finish) (by rw [hfinish]) t
    refine ⟨_, u, hserves.cons hrun hanswered, ?_⟩
    have hmodify : (channel.modify EventChannel.finish).perform (channel.put c t) =
        (.ok (), channel.put c.finish t) := by
      rw [Part.modify, Op.perform_change, Part.get_put, Part.put_put]
    rw [Engine.serveAll, Op.perform_bind_of_ok hput, Op.perform_bind_of_ok hmodify, hrest, hfinish]
    simp

/-- What is published before a consumer that has named its subjects is sorted at once. -/
theorem foldl_sortIn (es : List Event) {c : EventChannel}
    (hsubjects : c.subjects = some subscribedSubjects) :
    es.foldl EventChannel.sortIn c =
      { c with waiting := c.waiting ++ wanted es, acked := c.acked ++ unwanted es } := by
  induction es generalizing c with
  | nil => simp [wanted, unwanted]
  | cons e es ih =>
    cases hwanted : e.isWanted subscribedSubjects <;>
    · have hc : (c.sortIn e).subjects = some subscribedSubjects := by
        simp [EventChannel.sortIn, hsubjects, hwanted]
      rw [List.foldl_cons, ih hc]
      simp [EventChannel.sortIn, hsubjects, hwanted, wanted, unwanted]

/--
A consumer that comes first, then the events, then the worker: serving a channel in one go is one
way to go through the pipeline, and every other way leads to the same state of the engine and
acknowledges the same events.
-/
theorem Run.agrees_with_serve (h : Run engine options ctx capacity { state := s } moves p)
    (hstuck : ∀ m q, ¬ Step engine options ctx capacity p m q) (hapart : Apart engine ctx channel) :
    ∃ c : EventChannel, c.acked.Perm p.channel.acked ∧
      (engine.serve options ctx channel).perform (channel.put
        ((moves.filterMap Move.published?).foldl EventChannel.sortIn
          (({} : EventChannel).consume subscribedSubjects)).close s) =
        (.ok (), channel.put c p.state) := by
  obtain ⟨-, hacked⟩ := h.acked_perm hstuck
  have hserves := h.serves_wanted hstuck
  have hsorted := foldl_sortIn (moves.filterMap Move.published?)
    (c := ({} : EventChannel).consume subscribedSubjects) rfl
  rw [hsorted]
  generalize hc : EventChannel.close _ = c
  have hwaiting : c.waiting = wanted (moves.filterMap Move.published?) ++ [] := by
    rw [← hc, List.append_nil]
    rfl
  have hdismissed : c.acked = unwanted (moves.filterMap Move.published?) := by
    rw [← hc]
    rfl
  obtain ⟨ds, t, hserves', hrun⟩ := serveAll_serves options hapart hwaiting s
  obtain rfl := hserves.unique hserves'
  have hserve : (engine.serve options ctx channel).perform (channel.put c s) =
      (engine.serveAll options ctx channel (wanted (moves.filterMap Move.published?))).perform
        (channel.put c s) := by
    rw [Engine.serve, Op.perform_bind_of_ok (Op.perform_read _ _), Part.get_put, hwaiting,
      List.append_nil]
  refine ⟨_, ?_, hserve.trans hrun⟩
  rw [hdismissed]
  exact (List.perm_append_comm.trans (List.filter_append_perm _ _)).trans hacked.symm

/-! ## A run to the end -/

/-- A document without tags. -/
def untagged : Document where
  space := "alice"
  item := "1"
  path := "/a.txt"
  name := "a.txt"
  mimeType := "text/plain"
  size := 1
  mtime := 1

/-- An engine that notes what it is asked; it knows one document, and trashing fails. -/
def noted : Recording where
  faults := [("trash_item", .internal "down")]
  documents := ⟨[untagged]⟩

/-- Tags are added to the document. -/
def tagging : Event := { space := "alice", item := "1", change := .tagsAdded (.ofList ["x"]) }

/-- Something happened that is not subscribed to. -/
def other : Event := { space := "alice", item := "2", change := .unknown }

/-- The document is trashed. -/
def trashing : Event := { space := "alice", item := "1", change := .itemTrashed }

/-- Rebuilds are left out. -/
abbrev pointsOnly : ReindexOptions := { rebuildAfterMutation := false }

/-- Runs on the engine that notes what it is asked, behind a channel with room for one event. -/
abbrev NotedRun (p : Pipeline Recording) : List Move → Pipeline Recording → Prop :=
  Run (Recording.engine (.whole Recording)) pointsOnly .background 1 p

/-- Three events go through while the parties take turns, and each of the two that are subscribed to
is handled; the call that fails keeps nobody from going on. -/
theorem exists_notedRun : ∃ moves p, NotedRun { state := noted } moves p ∧
    moves.filterMap Move.published? = [tagging, other, trashing] ∧ p.channel.isClosed = true ∧
    p.filter = .ended ∧ p.worker = .ended ∧
    p.state.uses =
      [.document "alice" "1", .upsertItem "alice" "1", .trashItem "alice" "1"] := by
  have h0 : NotedRun { state := noted } [] _ := .nil
  have h1 := h0.snoc (.publish (e := tagging) (by decide) rfl)
  have h2 := h1.snoc (.take rfl rfl)
  have h3 := h2.snoc (.publish (e := other) (by decide) rfl)
  have h4 := h3.snoc (.forward rfl (by decide) (by decide))
  have h5 := h4.snoc (.receive rfl rfl)
  have h6 := h5.snoc (.take rfl rfl)
  have h7 := h6.snoc (.ask rfl rfl)
  have h8 := h7.snoc (.dismiss rfl (by decide))
  have h9 := h8.snoc (.publish (e := trashing) (by decide) rfl)
  have h10 := h9.snoc (.close rfl)
  have h11 := h10.snoc (.ask rfl rfl)
  have h12 := h11.snoc (.acknowledge rfl)
  have h13 := h12.snoc (.take rfl rfl)
  have h14 := h13.snoc (.forward rfl (by decide) (by decide))
  have h15 := h14.snoc (.filterEnds rfl rfl rfl)
  have h16 := h15.snoc (.receive rfl rfl)
  have h17 := h16.snoc (.ask rfl rfl)
  have h18 := h17.snoc (.acknowledge rfl)
  have h19 := h18.snoc (.workerEnds rfl rfl rfl)
  exact ⟨_, _, h19, rfl, rfl, rfl, rfl, rfl⟩

/-- The run has come to its end, and has served the two events that are subscribed to. -/
theorem noted_served : ∃ moves p,
    NotedRun { state := noted } moves p ∧
      (∀ m q, ¬ Step (Recording.engine (.whole Recording)) pointsOnly .background 1 p m q) ∧
      p.state.uses =
        [.document "alice" "1", .upsertItem "alice" "1", .trashItem "alice" "1"] ∧
      p.channel.acked.Perm [tagging, other, trashing] ∧
      Serves (Recording.engine (.whole Recording)) pointsOnly .background noted
        [tagging, trashing] (moves.filterMap Move.deed?) p.state := by
  obtain ⟨moves, p, hrun, hpublished, hclosed, hfilter, hworker, huses⟩ := exists_notedRun
  have hstuck : ∀ m q,
      ¬ Step (Recording.engine (.whole Recording)) pointsOnly .background 1 p m q :=
    stuck_of_ended hclosed hfilter hworker
  obtain ⟨-, -, -, -, hacked, hserves⟩ := (Run.serves_published hrun).2 hstuck
  rw [hpublished] at hacked hserves
  exact ⟨moves, p, hrun, hstuck, huses, hacked, hserves⟩

end ScopedSearch.Pipeline
