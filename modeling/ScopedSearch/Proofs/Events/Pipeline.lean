import ScopedSearch.Proofs.Events.Exchanges

/-!
# Events on their way through a channel

A publisher puts events in a channel with room for some.  A filter takes them out one by one; what
is not subscribed to it acknowledges on the spot, and the rest it hands on to the inbox of a worker,
which has room for some as well.  The worker asks the engine what handling the event takes, request
by request, and acknowledges it then.  The three go at their own pace, in any order of steps.

However they go, no event gets lost or overtakes another one on its way to the worker, and they come
to an end.

## Main results

* `Run.flow`: what has become of every event that was published.
* `Run.length_add_weight_le`: the steps of a run are bounded by the events that are published.
* `ended_of_stuck`: the parties only stop when the channel is closed and nothing is left to do.
-/

namespace ScopedSearch

/-- The consumer is done with an event. -/
def EventChannel.acknowledge (c : EventChannel) (e : Event) : EventChannel :=
  { c with acked := c.acked ++ [e] }

@[simp] theorem EventChannel.waiting_acknowledge (c : EventChannel) (e : Event) :
    (c.acknowledge e).waiting = c.waiting := rfl

@[simp] theorem EventChannel.acked_acknowledge (c : EventChannel) (e : Event) :
    (c.acknowledge e).acked = c.acked ++ [e] := rfl

@[simp] theorem EventChannel.isClosed_acknowledge (c : EventChannel) (e : Event) :
    (c.acknowledge e).isClosed = c.isClosed := rfl

@[simp] theorem EventChannel.waiting_close (c : EventChannel) : c.close.waiting = c.waiting := rfl

@[simp] theorem EventChannel.acked_close (c : EventChannel) : c.close.acked = c.acked := rfl

/-- What the filter is at. -/
inductive Filtering
  | idle
  | holding (e : Event)
  | ended
  deriving DecidableEq, Repr

/-- What the worker is at. -/
inductive Working
  | idle
  | handling (e : Event) (duties : List Duty)
  | ended
  deriving DecidableEq, Repr

/-- A channel, what stands between it and the engine, and the state of the engine. -/
structure Pipeline (σ : Type) where
  channel : EventChannel := {}
  filter : Filtering := .idle
  inbox : List Event := []
  worker : Working := .idle
  state : σ

namespace Pipeline

variable {σ : Type}

/-- What one of the parties does. -/
inductive Move
  | publish (e : Event)
  | close
  /-- The filter takes an event out of the channel. -/
  | take (e : Event)
  | forward (e : Event)
  /-- The filter acknowledges an event that is not subscribed to. -/
  | dismiss (e : Event)
  | filterEnds
  /-- The worker takes an event out of its inbox. -/
  | receive (e : Event)
  /-- The worker asks the engine. -/
  | ask (x : Exchange)
  /-- The worker acknowledges an event. -/
  | acknowledge (e : Event)
  | workerEnds

/-- The events that the inbox of a worker has room for. -/
def inboxSize : Nat := 32

section

variable (engine : Engine σ) (options : ReindexOptions) (ctx : Context σ) (capacity : Nat)

/--
A step of one of the parties.  A channel has room for one event at least.  Who finds no room, or
nothing to take, waits; the filter ends when the channel is closed and empty, and the worker when
the filter has ended and the inbox is empty.
-/
inductive Step : Pipeline σ → Move → Pipeline σ → Prop
  | publish {p e c} (hroom : p.channel.waiting.length < max capacity 1)
      (hpublish : p.channel.publish e = .ok c) :
      Step p (.publish e) { p with channel := c }
  | close {p} (hopen : p.channel.isClosed = false) :
      Step p .close { p with channel := p.channel.close }
  | take {p e rest} (hidle : p.filter = .idle) (hwaiting : p.channel.waiting = e :: rest) :
      Step p (.take e)
        { p with channel := { p.channel with waiting := rest }, filter := .holding e }
  | forward {p e} (hholding : p.filter = .holding e)
      (hwanted : e.isWanted subscribedSubjects = true) (hroom : p.inbox.length < inboxSize) :
      Step p (.forward e) { p with filter := .idle, inbox := p.inbox ++ [e] }
  | dismiss {p e} (hholding : p.filter = .holding e)
      (hwanted : e.isWanted subscribedSubjects = false) :
      Step p (.dismiss e) { p with filter := .idle, channel := p.channel.acknowledge e }
  | filterEnds {p} (hidle : p.filter = .idle) (hclosed : p.channel.isClosed = true)
      (hempty : p.channel.waiting = []) :
      Step p .filterEnds { p with filter := .ended }
  | receive {p e rest} (hidle : p.worker = .idle) (hinbox : p.inbox = e :: rest) :
      Step p (.receive e)
        { p with inbox := rest, worker := .handling e ((plan options e).map .call) }
  | ask {p e d ds r s} (hhandling : p.worker = .handling e (d :: ds))
      (hreply : (engine.answer ctx d.request).perform p.state = (r, s)) :
      Step p (.ask ⟨d.request, r⟩) { p with worker := .handling e (d.rest r ++ ds), state := s }
  | acknowledge {p e} (hhandling : p.worker = .handling e []) :
      Step p (.acknowledge e) { p with worker := .idle, channel := p.channel.acknowledge e }
  | workerEnds {p} (hidle : p.worker = .idle) (hended : p.filter = .ended)
      (hempty : p.inbox = []) :
      Step p .workerEnds { p with worker := .ended }

/-- Steps one after the other, and what was done in them. -/
inductive Run (p : Pipeline σ) : List Move → Pipeline σ → Prop
  | nil : Run p [] p
  | snoc {moves m q r} (hrun : Run p moves q) (hstep : Step engine options ctx capacity q m r) :
      Run p (moves ++ [m]) r

end

/-! ## What has been done -/

namespace Move

/-- The event that is published. -/
@[simp] def published? : Move → Option Event
  | publish e => some e
  | _ => none

/-- The event that the filter sorts: it hands it on or acknowledges it. -/
@[simp] def sorted? : Move → Option Event
  | forward e | dismiss e => some e
  | _ => none

/-- The event that is handed on to the worker. -/
@[simp] def forwarded? : Move → Option Event
  | forward e => some e
  | _ => none

/-- The event that the filter acknowledges. -/
@[simp] def dismissed? : Move → Option Event
  | dismiss e => some e
  | _ => none

/-- The event that the worker is done with. -/
@[simp] def finished? : Move → Option Event
  | acknowledge e => some e
  | _ => none

/-- The event that is acknowledged, by whomever. -/
@[simp] def acknowledged? : Move → Option Event
  | dismiss e | acknowledge e => some e
  | _ => none

end Move

/-- What is acknowledged is acknowledged by the worker or by the filter. -/
theorem acknowledged_perm (moves : List Move) :
    (moves.filterMap Move.acknowledged?).Perm
      (moves.filterMap Move.finished? ++ moves.filterMap Move.dismissed?) := by
  induction moves with
  | nil => exact .refl []
  | cons m moves ih =>
    cases m with
    | dismiss e => exact (ih.cons e).trans List.perm_middle.symm
    | acknowledge e => exact ih.cons e
    | _ => exact ih

/-! ## One step -/

/-- The events that the filter has not sorted yet, the oldest one first. -/
def unsorted (p : Pipeline σ) : List Event :=
  (match p.filter with | .holding e => [e] | _ => []) ++ p.channel.waiting

/-- The events that the worker is not done with, the oldest one first. -/
def unfinished (p : Pipeline σ) : List Event :=
  (match p.worker with | .handling e _ => [e] | _ => []) ++ p.inbox

/-- The events that the filter hands on to the worker. -/
def wanted (es : List Event) : List Event := es.filter (·.isWanted subscribedSubjects)

/-- The events that the filter acknowledges itself. -/
def unwanted (es : List Event) : List Event := es.filter (!·.isWanted subscribedSubjects)

theorem wanted_append (es es' : List Event) : wanted (es ++ es') = wanted es ++ wanted es' :=
  List.filter_append es es'

theorem unwanted_append (es es' : List Event) :
    unwanted (es ++ es') = unwanted es ++ unwanted es' := List.filter_append es es'

/-- How moves bring events from one place to the next, and from one state to another. -/
structure Flow (p : Pipeline σ) (moves : List Move) (q : Pipeline σ) : Prop where
  sorted : p.unsorted ++ moves.filterMap Move.published? =
    moves.filterMap Move.sorted? ++ q.unsorted
  finished : p.unfinished ++ moves.filterMap Move.forwarded? =
    moves.filterMap Move.finished? ++ q.unfinished
  forwarded : moves.filterMap Move.forwarded? = wanted (moves.filterMap Move.sorted?)
  dismissed : moves.filterMap Move.dismissed? = unwanted (moves.filterMap Move.sorted?)
  acked : q.channel.acked = p.channel.acked ++ moves.filterMap Move.acknowledged?

theorem Flow.refl (p : Pipeline σ) : Flow p [] p :=
  ⟨List.append_nil _, List.append_nil _, rfl, rfl, (List.append_nil _).symm⟩

theorem Flow.trans {moves more : List Move} {p q r : Pipeline σ} (h : Flow p moves q)
    (h' : Flow q more r) : Flow p (moves ++ more) r where
  sorted := by
    rw [List.filterMap_append, List.filterMap_append, ← List.append_assoc, h.sorted,
      List.append_assoc, h'.sorted, List.append_assoc]
  finished := by
    rw [List.filterMap_append, List.filterMap_append, ← List.append_assoc, h.finished,
      List.append_assoc, h'.finished, List.append_assoc]
  forwarded := by
    rw [List.filterMap_append, List.filterMap_append, wanted_append, h.forwarded, h'.forwarded]
  dismissed := by
    rw [List.filterMap_append, List.filterMap_append, unwanted_append, h.dismissed, h'.dismissed]
  acked := by rw [List.filterMap_append, ← List.append_assoc, ← h.acked, h'.acked]

/-- Nobody sorts the events before the filter, and the parties only end when nothing can come. -/
structure Orderly (p : Pipeline σ) : Prop where
  subjects : p.channel.subjects = none
  filterEnded : p.filter = .ended → p.channel.isClosed = true ∧ p.channel.waiting = []
  workerEnded : p.worker = .ended → p.filter = .ended ∧ p.inbox = []

variable {engine : Engine σ} {options : ReindexOptions} {ctx : Context σ} {capacity : Nat}
  {moves : List Move} {m : Move} {p q : Pipeline σ} {s : σ}

/-- What is published waits at the end. -/
theorem publish_eq_ok {c c' : EventChannel} {e : Event} (hc : c.subjects = none)
    (h : c.publish e = .ok c') :
    c' = { c with waiting := c.waiting ++ [e] } ∧ c.isClosed = false := by
  rw [EventChannel.publish] at h
  split at h
  · cases h
  · next hclosed =>
    cases h
    refine ⟨?_, Bool.eq_false_iff.2 hclosed⟩
    rw [EventChannel.sortIn, hc]

theorem Step.orderly (h : Step engine options ctx capacity p m q) (hp : p.Orderly) :
    q.Orderly := by
  obtain ⟨hsubjects, hfilter, hworker⟩ := hp
  cases h with
  | publish hroom hpublish =>
    obtain ⟨rfl, hopen⟩ := publish_eq_ok hsubjects hpublish
    exact ⟨hsubjects, fun h => by simp [hopen] at hfilter; exact absurd h hfilter, hworker⟩
  | close hopen => exact ⟨hsubjects, fun h => ⟨rfl, (hfilter h).2⟩, hworker⟩
  | take hidle hwaiting =>
    exact ⟨hsubjects, nofun, fun h => absurd ((hworker h).1) (by simp [hidle])⟩
  | forward hholding _ _ =>
    exact ⟨hsubjects, nofun, fun h => absurd ((hworker h).1) (by simp [hholding])⟩
  | dismiss hholding _ =>
    exact ⟨hsubjects, nofun, fun h => absurd ((hworker h).1) (by simp [hholding])⟩
  | filterEnds hidle hclosed hempty =>
    exact ⟨hsubjects, fun _ => ⟨hclosed, hempty⟩, fun h => ⟨rfl, (hworker h).2⟩⟩
  | receive _ _ => exact ⟨hsubjects, hfilter, nofun⟩
  | ask _ _ => exact ⟨hsubjects, hfilter, nofun⟩
  | acknowledge _ => exact ⟨hsubjects, hfilter, nofun⟩
  | workerEnds _ hended hempty => exact ⟨hsubjects, hfilter, fun _ => ⟨hended, hempty⟩⟩

theorem Step.flow (h : Step engine options ctx capacity p m q) (hp : p.Orderly) :
    Flow p [m] q := by
  cases h with
  | publish _ hpublish =>
    obtain ⟨rfl, -⟩ := publish_eq_ok hp.subjects hpublish
    constructor <;> simp [List.filterMap_cons, unsorted, unfinished, wanted, unwanted]
  | close _ => constructor <;> simp [List.filterMap_cons, unsorted, unfinished, wanted, unwanted]
  | take hidle hwaiting =>
    constructor <;>
      simp [List.filterMap_cons, unsorted, unfinished, wanted, unwanted, hidle, hwaiting]
  | forward hholding hwanted _ | dismiss hholding hwanted =>
    constructor <;>
      simp [List.filterMap_cons, unsorted, unfinished, wanted, unwanted, hholding, hwanted]
  | filterEnds hidle _ _ =>
    constructor <;> simp [List.filterMap_cons, unsorted, unfinished, wanted, unwanted, hidle]
  | receive hidle hinbox =>
    constructor <;>
      simp [List.filterMap_cons, unsorted, unfinished, wanted, unwanted, hidle, hinbox]
  | ask hhandling _ | acknowledge hhandling =>
    constructor <;> simp [List.filterMap_cons, unsorted, unfinished, wanted, unwanted, hhandling]
  | workerEnds hidle _ _ =>
    constructor <;> simp [List.filterMap_cons, unsorted, unfinished, wanted, unwanted, hidle]

/-! ## How long it takes -/

/-- The steps that the filter takes before it ends, with what it has in hand. -/
def filterWeight : Filtering → Nat
  | .idle => 1
  | .holding _ => 7
  | .ended => 0

/-- The steps that the worker takes before it ends, with what it has in hand. -/
def workerWeight : Working → Nat
  | .idle => 1
  | .handling _ duties => Duty.load duties + 2
  | .ended => 0

/-- The steps that are left to all of them at most, if nothing more is published. -/
def weight (p : Pipeline σ) : Nat :=
  (!p.channel.isClosed).toNat + 7 * p.channel.waiting.length + filterWeight p.filter +
    5 * p.inbox.length + workerWeight p.worker

/-- A step is one less to go, unless it publishes an event. -/
theorem Step.weight_lt (h : Step engine options ctx capacity p m q) (hp : p.Orderly) :
    q.weight + 1 ≤ p.weight + 8 * m.published?.toList.length := by
  cases h with
  | publish _ hpublish =>
    obtain ⟨rfl, -⟩ := publish_eq_ok hp.subjects hpublish
    simp [weight]
    omega
  | close hopen =>
    simp only [weight, hopen, EventChannel.close, Bool.not_false, Bool.not_true, Bool.toNat_true,
      Bool.toNat_false]
    omega
  | take hidle hwaiting =>
    simp only [weight, hidle, hwaiting, filterWeight, List.length_cons]
    omega
  | forward hholding _ _ =>
    simp only [weight, hholding, filterWeight, List.length_append, List.length_singleton]
    omega
  | dismiss hholding _ =>
    simp only [weight, hholding, filterWeight, EventChannel.isClosed_acknowledge,
      EventChannel.waiting_acknowledge]
    omega
  | filterEnds hidle _ _ =>
    simp only [weight, hidle, filterWeight]
    omega
  | @receive e _ hidle hinbox =>
    have := Duty.load_plan_le options e
    simp only [weight, hidle, hinbox, workerWeight, List.length_cons]
    omega
  | @ask _ d ds r _ hhandling _ =>
    have := d.load_rest_lt r
    simp only [weight, hhandling, workerWeight, Duty.load, Duty.load_append]
    omega
  | acknowledge hhandling =>
    simp only [weight, hhandling, workerWeight, EventChannel.isClosed_acknowledge,
      EventChannel.waiting_acknowledge]
    omega
  | workerEnds hidle _ _ => simp [weight, hidle, workerWeight]

theorem Run.orderly (h : Run engine options ctx capacity p moves q) (hp : p.Orderly) :
    q.Orderly := by
  induction h with
  | nil => exact hp
  | snoc _ hstep ih => exact hstep.orderly ih

theorem Run.flow (h : Run engine options ctx capacity p moves q) (hp : p.Orderly) :
    Flow p moves q := by
  induction h with
  | nil => exact .refl p
  | snoc hrun hstep ih => exact ih.trans (hstep.flow (hrun.orderly hp))

/-- The steps of a run are bounded by the events that are published in it. -/
theorem Run.length_add_weight_le (h : Run engine options ctx capacity p moves q) (hp : p.Orderly) :
    moves.length + q.weight ≤ p.weight + 8 * (moves.filterMap Move.published?).length := by
  induction h with
  | nil => simp
  | @snoc moves m q r hrun hstep ih =>
    have hless := hstep.weight_lt (hrun.orderly hp)
    have hone : [m].filterMap Move.published? = m.published?.toList := by
      cases hm : m.published? <;> simp only [List.filterMap_cons, hm] <;> rfl
    rw [List.filterMap_append, List.length_append, List.length_append, List.length_singleton, hone]
    omega

/-! ## How it ends -/

/-- The parties only stop when the channel is closed and the filter and the worker have ended. -/
theorem ended_of_stuck (hp : p.Orderly) (hstuck : ∀ m q, ¬ Step engine options ctx capacity p m q) :
    p.channel.isClosed = true ∧ p.filter = .ended ∧ p.worker = .ended := by
  have hclosed : p.channel.isClosed = true := by
    by_contra hopen
    exact hstuck _ _ (.close (Bool.eq_false_iff.2 hopen))
  -- the worker always finds something to do, unless its inbox is empty or it has ended
  have hworker : p.worker = .ended ∨ p.worker = .idle ∧ p.inbox = [] := by
    cases hworker : p.worker with
    | ended => exact .inl rfl
    | idle =>
      cases hinbox : p.inbox with
      | nil => exact .inr ⟨rfl, rfl⟩
      | cons e rest => exact absurd (.receive hworker hinbox) (hstuck _ _)
    | handling e duties =>
      cases duties with
      | nil => exact absurd (.acknowledge hworker) (hstuck _ _)
      | cons d ds => exact absurd (.ask hworker rfl) (hstuck _ _)
  have hfilter : p.filter = .ended := by
    cases hfilter : p.filter with
    | ended => rfl
    | idle =>
      cases hwaiting : p.channel.waiting with
      | nil => exact absurd (.filterEnds hfilter hclosed hwaiting) (hstuck _ _)
      | cons e rest => exact absurd (.take hfilter hwaiting) (hstuck _ _)
    | holding e =>
      cases hwanted : e.isWanted subscribedSubjects with
      | false => exact absurd (.dismiss hfilter hwanted) (hstuck _ _)
      | true =>
        have hinbox : p.inbox = [] := hworker.elim (fun h => (hp.workerEnded h).2) And.right
        refine absurd (.forward hfilter hwanted ?_) (hstuck _ _)
        simp [hinbox, inboxSize]
  refine ⟨hclosed, hfilter, hworker.resolve_right fun h => ?_⟩
  exact hstuck _ _ (.workerEnds h.1 hfilter h.2)

/-- With the channel closed and both of them ended, nobody takes a step any more. -/
theorem stuck_of_ended (hclosed : p.channel.isClosed = true) (hfilter : p.filter = .ended)
    (hworker : p.worker = .ended) (m : Move) (q : Pipeline σ) :
    ¬ Step engine options ctx capacity p m q := by
  rintro (⟨_, hpublish⟩ | hopen | hidle | hholding | hholding | hidle | hidle | hhandling |
    hhandling | hidle)
  · rw [EventChannel.publish, if_pos hclosed] at hpublish
    cases hpublish
  · simp [hclosed] at hopen
  all_goals simp_all

end Pipeline

end ScopedSearch
