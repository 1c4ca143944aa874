import ScopedSearch.Proofs.Index.Installation
import ScopedSearch.Proofs.Rebuild.Frame
import ScopedSearch.Service
import ScopedSearch.Storage.Memory

/-!
# What a rebuild of all spaces reports

A service that rebuilds all spaces goes through a listing and asks the engine for one space after
the other.  Its report is what it says of that, so the calls themselves are noted here, beside the
report: each space that the engine was asked for, with what came of it.

The two policies part only where a space fails.  One goes on, and the report says of each space of
the listing where it has ended up; the other one ends there, and says which space it was.

## Main results

* `rebuildAll_spec`: what has been called and what is reported at the end of a listing.
* `Reports.perm`: a report has each space of the listing once.
* `rebuild_reports_calls`: what a rebuild of all spaces does, whoever may see them and whatever
  comes of them.
-/

namespace ScopedSearch

variable {σ : Type}

/-- One space that an engine was asked to rebuild, and what came of it. -/
structure RebuildCall where
  space : String
  outcome : Except Fault IndexStats

namespace RebuildCall

/-- The space has been rebuilt. -/
def succeeds (c : RebuildCall) : Bool := c.outcome.isOk

/-- The space with what was wrong, where the call has failed. -/
def failure? (c : RebuildCall) : Option (String × String) :=
  match c.outcome with
  | .ok _ => none
  | .error f => some (c.space, f.message)

/-- The spaces that have been rebuilt, in the order of the calls. -/
def rebuilt (calls : List RebuildCall) : List String := (calls.filter succeeds).map space

/-- The spaces that have failed with what was wrong, in the order of the calls. -/
def failures (calls : List RebuildCall) : List (String × String) := calls.filterMap failure?

theorem rebuilt_cons_ok {space : String} {stats : IndexStats} {calls : List RebuildCall} :
    rebuilt (⟨space, .ok stats⟩ :: calls) = space :: rebuilt calls := rfl

theorem rebuilt_cons_error {space : String} {f : Fault} {calls : List RebuildCall} :
    rebuilt (⟨space, .error f⟩ :: calls) = rebuilt calls := rfl

theorem failures_cons_ok {space : String} {stats : IndexStats} {calls : List RebuildCall} :
    failures (⟨space, .ok stats⟩ :: calls) = failures calls := rfl

theorem failures_cons_error {space : String} {f : Fault} {calls : List RebuildCall} :
    failures (⟨space, .error f⟩ :: calls) = (space, f.message) :: failures calls := rfl

/-- Every call is either among those that have succeeded or among those that have failed. -/
theorem perm_rebuilt_failures (calls : List RebuildCall) :
    (rebuilt calls ++ (failures calls).map (·.1)).Perm (calls.map space) := by
  induction calls with
  | nil => exact .nil
  | cons c calls ih =>
    obtain ⟨space, f | stats⟩ := c
    · rw [rebuilt_cons_error, failures_cons_error]
      exact List.perm_middle.trans (ih.cons space)
    · rw [rebuilt_cons_ok, failures_cons_ok]
      exact ih.cons space

end RebuildCall

/-- The engine with the rebuilds that it is asked for noted in a piece of the state. -/
def Engine.notingRebuilds (e : Engine σ) (calls : Part σ (List RebuildCall)) : Engine σ :=
  { e with
    indexSpace := fun ctx space => do
      let outcome ← (e.indexSpace ctx space).outcome
      calls.modify (· ++ [⟨space, outcome⟩])
      Op.ofExcept outcome }

namespace Service

/-- The service over the engine that notes the rebuilds that it is asked for. -/
def notingRebuilds (S : Service σ) (calls : Part σ (List RebuildCall)) : Service σ :=
  { S with engine := S.engine.notingRebuilds calls }

/-- What is said of a space that has ended a rebuild of all spaces. -/
def abortFault (space : String) (f : Fault) : ServiceFault where
  faultClass := .internal
  message := "indexing space " ++ space ++ " failed: " ++ f.message

/--
The calls that a policy makes for a listing, and the reply that it gives then.  A policy that goes
on makes a call for each space of the listing and reports all of them.  One that aborts does the
same while nothing fails; the first space that does fail is the last one called, and it is named.
-/
inductive Reports : RebuildPolicy → List String → List RebuildCall →
    Except ServiceFault RebuildReport → Prop
  | proceeded (calls : List RebuildCall) :
    Reports .proceed (calls.map RebuildCall.space) calls
      (.ok { indexed := RebuildCall.rebuilt calls, failed := RebuildCall.failures calls })
  | completed (calls : List RebuildCall) (hall : ∀ c ∈ calls, c.succeeds = true) :
    Reports .abortOnFirst (calls.map RebuildCall.space) calls
      (.ok { indexed := calls.map RebuildCall.space, failed := [] })
  | aborted (done : List RebuildCall) (hdone : ∀ c ∈ done, c.succeeds = true) (space : String)
    (f : Fault) (rest : List String) :
    Reports .abortOnFirst (done.map RebuildCall.space ++ space :: rest)
      (done ++ [⟨space, .error f⟩]) (.error (abortFault space f))

/-- A report has each space of the listing once, rebuilt or failed. -/
theorem Reports.perm {policy : RebuildPolicy} {spaces : List String} {made : List RebuildCall}
    {report : RebuildReport} (h : Reports policy spaces made (.ok report)) :
    (report.indexed ++ report.failed.map (·.1)).Perm spaces := by
  cases h with
  | proceeded => exact RebuildCall.perm_rebuilt_failures made
  | completed _ hall => rw [List.map_nil, List.append_nil]

/-- The reply to a rebuild that has reported something before, when the rest of it replies so. -/
def resumed (report : RebuildReport) :
    Except ServiceFault RebuildReport → Except ServiceFault RebuildReport :=
  Except.map fun more =>
    { indexed := report.indexed ++ more.indexed, failed := report.failed ++ more.failed }

/-- What has been reported before that is kept as well. -/
theorem resumed_resumed (first more : RebuildReport) (reply : Except ServiceFault RebuildReport) :
    resumed first (resumed more reply) =
      resumed { indexed := first.indexed ++ more.indexed, failed := first.failed ++ more.failed }
        reply := by
  cases reply with
  | error f => rfl
  | ok last => simp [resumed, Except.map]

/-- A space that has been rebuilt, and then the rest of the listing. -/
theorem Reports.cons_ok {policy : RebuildPolicy} {spaces : List String} {made : List RebuildCall}
    {reply : Except ServiceFault RebuildReport} (h : Reports policy spaces made reply)
    (space : String) (stats : IndexStats) :
    Reports policy (space :: spaces) (⟨space, .ok stats⟩ :: made)
      (resumed { indexed := [space] } reply) := by
  have hfirst : ∀ {done : List RebuildCall}, (∀ c ∈ done, c.succeeds = true) →
      ∀ c ∈ (⟨space, .ok stats⟩ :: done : List RebuildCall), c.succeeds = true :=
    fun hdone => List.forall_mem_cons.2 ⟨rfl, hdone⟩
  cases h with
  | proceeded => exact .proceeded (⟨space, .ok stats⟩ :: made)
  | completed _ hall => exact .completed (⟨space, .ok stats⟩ :: made) (hfirst hall)
  | aborted done hdone last f rest =>
    exact .aborted (⟨space, .ok stats⟩ :: done) (hfirst hdone) last f rest

/-- A space that has failed, and then the rest of the listing, where the rebuild goes on. -/
theorem Reports.cons_error {spaces : List String} {made : List RebuildCall}
    {reply : Except ServiceFault RebuildReport} (h : Reports .proceed spaces made reply)
    (space : String) (f : Fault) :
    Reports .proceed (space :: spaces) (⟨space, .error f⟩ :: made)
      (resumed { failed := [(space, f.message)] } reply) := by
  cases h with
  | proceeded => exact .proceeded (⟨space, .error f⟩ :: made)

variable {S : Service σ} {calls : Part σ (List RebuildCall)} {ctx : Context σ} {s t : σ}

/-! ## One space -/

section

variable {space : String} {rest : List String} {report : RebuildReport} {f : Fault}

/-- A space that has been rebuilt is reported, and the next one is next. -/
theorem rebuildAll_of_ok {stats : IndexStats}
    (h : (S.engine.indexSpace ctx space).outcome.perform s = (.ok (.ok stats), t)) :
    (S.rebuildAll ctx report (space :: rest)).perform s =
      (S.rebuildAll ctx { report with indexed := report.indexed ++ [space] } rest).perform t := by
  rw [rebuildAll, Op.perform_bind_of_ok h]

/-- A policy that goes on reports a space that has failed, and the next one is next. -/
theorem rebuildAll_of_error (hpolicy : S.policy = .proceed)
    (h : (S.engine.indexSpace ctx space).outcome.perform s = (.ok (.error f), t)) :
    (S.rebuildAll ctx report (space :: rest)).perform s =
      (S.rebuildAll ctx
        { report with failed := report.failed ++ [(space, f.message)] } rest).perform t := by
  rw [rebuildAll, Op.perform_bind_of_ok h]
  simp only [hpolicy]

/-- A policy that aborts ends with the space that has failed. -/
theorem rebuildAll_of_abort (hpolicy : S.policy = .abortOnFirst)
    (h : (S.engine.indexSpace ctx space).outcome.perform s = (.ok (.error f), t)) :
    (S.rebuildAll ctx report (space :: rest)).perform s = (.ok (.error (abortFault space f)), t) := by
  rw [rebuildAll, Op.perform_bind_of_ok h]
  simp only [hpolicy]
  rfl

end

/-- A rebuild that the engine is asked for is noted with what comes of it. -/
theorem outcome_noting {space : String} {outcome : Except Fault IndexStats}
    (hkept : calls.get t = calls.get s)
    (h : (S.engine.indexSpace ctx space).perform s = (outcome, t)) :
    ∃ u, ((S.notingRebuilds calls).engine.indexSpace ctx space).outcome.perform s =
        (.ok outcome, u) ∧ calls.get u = calls.get s ++ [⟨space, outcome⟩] := by
  refine ⟨calls.put (calls.get t ++ [⟨space, outcome⟩]) t, ?_, ?_⟩
  · simp only [notingRebuilds, Engine.notingRebuilds, Op.perform_bind, Op.perform_outcome, h,
      Part.modify, Op.perform_change, Op.perform_ofExcept]
  · rw [Part.get_put, hkept]

/--
Along a listing, the calls and the reply are those of the policy, whatever has been reported before.
-/
theorem rebuildAll_spec
    (hcalls : ∀ space u, calls.get ((S.engine.indexSpace ctx space).perform u).2 = calls.get u)
    (spaces : List String) (report : RebuildReport) (s : σ) :
    ∃ made reply t,
      ((S.notingRebuilds calls).rebuildAll ctx report spaces).perform s =
        (.ok (resumed report reply), t) ∧
      calls.get t = calls.get s ++ made ∧ Reports S.policy spaces made reply := by
  induction spaces generalizing report s with
  | nil =>
    refine ⟨[], .ok {}, s, ?_, (List.append_nil _).symm, ?_⟩
    · simp [rebuildAll, resumed, Except.map]
    · cases S.policy with
      | proceed => exact .proceeded []
      | abortOnFirst => exact .completed [] fun c hc => nomatch hc
  | cons space rest ih =>
    have hkept := hcalls space s
    rcases hrun : (S.engine.indexSpace ctx space).perform s with ⟨outcome, u⟩
    rw [hrun] at hkept
    obtain ⟨v, hnoted, hlog⟩ := outcome_noting hkept hrun
    have hgo : ∀ (more : RebuildReport) (call : RebuildCall), calls.get v = calls.get s ++ [call] →
        ∃ made reply t, ((S.notingRebuilds calls).rebuildAll ctx
            { indexed := report.indexed ++ more.indexed, failed := report.failed ++ more.failed }
            rest).perform v = (.ok (resumed report (resumed more reply)), t) ∧
          calls.get t = calls.get s ++ call :: made ∧ Reports S.policy rest made reply := by
      intro more call hcall
      obtain ⟨made, reply, t, hrest, hmade, hreports⟩ := ih _ v
      refine ⟨made, reply, t, ?_, ?_, hreports⟩
      · rw [hrest, resumed_resumed]
      · rw [hmade, hcall, List.append_assoc]
        rfl
    cases outcome with
    | ok stats =>
      obtain ⟨made, reply, t, hrest, hmade, hreports⟩ := hgo { indexed := [space] } _ hlog
      rw [List.append_nil] at hrest
      exact ⟨_, _, t, (rebuildAll_of_ok hnoted).trans hrest, hmade, hreports.cons_ok space stats⟩
    | error f =>
      cases hpolicy : (S.notingRebuilds calls).policy with
      | abortOnFirst =>
        rw [show S.policy = .abortOnFirst from hpolicy]
        exact ⟨_, _, v, rebuildAll_of_abort hpolicy hnoted, hlog, .aborted [] nofun space f rest⟩
      | proceed =>
        obtain ⟨made, reply, t, hrest, hmade, hreports⟩ :=
          hgo { failed := [(space, f.message)] } _ hlog
        rw [List.append_nil] at hrest
        rw [show S.policy = .proceed from hpolicy] at hreports ⊢
        exact ⟨_, _, t, (rebuildAll_of_error hpolicy hnoted).trans hrest, hmade,
          hreports.cons_error space f⟩

/-! ## All spaces -/

variable {space : Option String}

/-- No space is named: by nothing or by the empty text. -/
theorem filter_eq_none (hspace : space = none ∨ space = some "") :
    space.filter (· ≠ "") = none := by
  rcases hspace with rfl | rfl <;> rfl

/-- Where the spaces cannot be listed, nothing is done. -/
theorem indexSpace_of_unlisted (hspace : space = none ∨ space = some "") {f : Fault}
    (hlisting : S.allSpaces s = .error f) :
    (S.indexSpace ctx space).perform s = (.ok (.error f.toServiceFault), s) := by
  rw [indexSpace, filter_eq_none hspace, Op.perform_bind_of_ok (Op.perform_read _ s), hlisting]
  rfl

/-- Where they can be listed, the listing is gone through. -/
theorem indexSpace_of_listed (hspace : space = none ∨ space = some "") {spaces : List String}
    (hlisting : S.allSpaces s = .ok spaces) :
    (S.indexSpace ctx space).perform s = (S.rebuildAll ctx {} spaces).perform s := by
  rw [indexSpace, filter_eq_none hspace, Op.perform_bind_of_ok (Op.perform_read _ s), hlisting]

/-- Nothing is listed where there is no service actor, or storage lists nothing for it. -/
theorem allSpaces_of_fault {f : Fault}
    (h : S.serviceActor = .error f ∨
      ∃ a, S.serviceActor = .ok a ∧ (S.storage s).listSpaces a = .error f) :
    S.allSpaces s = .error (.enumerationFailed f.message) := by
  rcases h with hactor | ⟨a, hactor, hlist⟩
  · rw [allSpaces, hactor]
    rfl
  · rw [allSpaces, hactor]
    show ((S.storage s).listSpaces a).mapError _ = _
    rw [hlist]
    rfl

theorem allSpaces_of_listSpaces {a : Actor} {spaces : List String}
    (hactor : S.serviceActor = .ok a) (hlist : (S.storage s).listSpaces a = .ok spaces) :
    S.allSpaces s = .ok spaces := by
  rw [allSpaces, hactor]
  show ((S.storage s).listSpaces a).mapError _ = _
  rw [hlist]
  rfl

/--
A rebuild that names no space.  Where there is no service actor, or storage does not list the spaces
that it may see, the engine is not called and nothing else is done; the fault is an internal one.
Otherwise the engine is called for spaces of the listing in its order, and the calls and the reply
are as the policy has them.  A report has each space of the listing once.
-/
theorem rebuild_reports_calls (S : Service σ) (calls : Part σ (List RebuildCall)) (ctx : Context σ)
    (hcalls : ∀ space u, calls.get ((S.engine.indexSpace ctx space).perform u).2 = calls.get u)
    (hspace : space = none ∨ space = some "") (s : σ) :
    (∀ f, (S.serviceActor = .error f ∨
        ∃ a, S.serviceActor = .ok a ∧ (S.storage s).listSpaces a = .error f) →
      ((S.notingRebuilds calls).indexSpace ctx space).perform s =
        (.ok (.error ⟨.internal, "space enumeration failed: " ++ f.message⟩), s)) ∧
    ∀ a spaces, S.serviceActor = .ok a → (S.storage s).listSpaces a = .ok spaces →
      ∃ made reply t,
        ((S.notingRebuilds calls).indexSpace ctx space).perform s = (.ok reply, t) ∧
        calls.get t = calls.get s ++ made ∧ Reports S.policy spaces made reply ∧
        ∀ report, reply = .ok report →
          (report.indexed ++ report.failed.map (·.1)).Perm spaces := by
  constructor
  · intro f hfault
    have hlisting : (S.notingRebuilds calls).allSpaces s = _ := allSpaces_of_fault hfault
    exact indexSpace_of_unlisted hspace hlisting
  · intro a spaces hactor hlist
    have hlisting : (S.notingRebuilds calls).allSpaces s = _ :=
      allSpaces_of_listSpaces hactor hlist
    obtain ⟨made, reply, t, hrun, hmade, hreports⟩ :=
      rebuildAll_spec hcalls spaces {} s
    have hreply : resumed {} reply = reply := by
      cases reply <;> rfl
    rw [hreply] at hrun
    refine ⟨made, reply, t, (indexSpace_of_listed hspace hlisting).trans hrun, hmade, hreports, ?_⟩
    rintro report rfl
    exact hreports.perm

end Service

/-! ## Three spaces, one of them broken -/

/-- The pieces of a state that a service works on, and the rebuilds that have been noted. -/
structure RebuildDesk where
  files : IndexFiles := {}
  view : Collection := ∅
  storage : MemoryStorage := {}
  cache : ResultCache := .empty 1000 16
  clock : Nat := 0
  calls : List RebuildCall := []

namespace RebuildDesk

/-- The installation on the desk. -/
def installation : Installation RebuildDesk where
  handle := 1
  heap := Embedded.defaultHeap
  files := { get := files, put := fun f s => { s with files := f } }
  view := { get := view, put := fun c s => { s with view := c } }
  storage s := s.storage.toStorage
  extractor := .basic
  files_put_view _ _ := rfl
  view_put_files _ _ := rfl
  storage_put_files _ _ := rfl
  storage_put_view _ _ := rfl

/-- The service on the desk, with an account of its own. -/
def service (policy : RebuildPolicy) : Service RebuildDesk where
  engine := installation.engine.toEngine
  identify _ := Op.fail (.unauthenticated .missing)
  serviceActor := .ok { id := "svc", username := "svc", service := true }
  storage s := s.storage.toStorage
  cache := { get := cache, put := fun c s => { s with cache := c } }
  now := clock
  policy := policy

/-- The place for the calls. -/
def noted : Part RebuildDesk (List RebuildCall) where
  get := calls
  put c s := { s with calls := c }

/-- From `s` to `t` no call is noted. -/
def Silent (s t : RebuildDesk) : Prop := t.calls = s.calls

/-- A rebuild leaves the calls to the one who notes them. -/
theorem indexSpace_silent (policy : RebuildPolicy) (space : String) :
    Op.Within Silent ((service policy).engine.indexSpace .background space) := by
  have hrefl : ∀ s, Silent s s := fun _ => rfl
  have htrans : ∀ {s t u}, Silent s t → Silent t u → Silent s u := fun h h' => h'.trans h
  have hcheck : Op.Within Silent Context.background.check := hrefl
  have hextract : ∀ r, Op.Within Silent (installation.engine.extractor.tryExtract .background r) :=
    fun _ => hrefl
  have hfiles : ∀ f s, Silent s (installation.files.put f s) := fun _ => hrefl
  have hview : ∀ c s, Silent s (installation.view.put c s) := fun _ => hrefl
  exact IndexEngine.indexSpace_within hrefl htrans hcheck
    (Embedded.get_within hrefl htrans hcheck)
    (Embedded.upsert_within hrefl htrans hcheck hfiles hview) hextract space

/-- Three spaces with nothing in them; the second one cannot be walked. -/
def threeSpaces : RebuildDesk where
  storage := { spaces := [("a", {}), ("b", { broken := true }), ("c", {})] }

/-- A rebuild of all spaces on that desk. -/
def rebuildThree (policy : RebuildPolicy) (space : Option String) :
    Except Fault (Except ServiceFault RebuildReport) × RebuildDesk :=
  (((service policy).notingRebuilds noted).indexSpace .background space).perform threeSpaces

end RebuildDesk

open RebuildDesk in
/--
With three spaces of which the second one fails, a policy that goes on reports two and one, and a
policy that aborts says which one it was; the calls are those of the policy.
-/
theorem rebuild_reports_threeSpaces :
    (∃ made t, rebuildThree .proceed (some "") =
        (.ok (.ok ⟨["a", "c"], [("b", "storage error: space b unavailable")]⟩), t) ∧
      t.calls = made ∧ Service.Reports .proceed ["a", "b", "c"] made
        (.ok ⟨["a", "c"], [("b", "storage error: space b unavailable")]⟩) ∧
      (["a", "c"] ++ ["b"]).Perm ["a", "b", "c"]) ∧
    ∃ made t, rebuildThree .abortOnFirst none =
        (.ok (.error (Service.abortFault "b" (.storage (.unavailableSpace "b")))), t) ∧
      t.calls = made ∧ Service.Reports .abortOnFirst ["a", "b", "c"] made
        (.error (Service.abortFault "b" (.storage (.unavailableSpace "b")))) := by
  have hlist : ∀ policy, ((service policy).storage threeSpaces).listSpaces
      { id := "svc", username := "svc", service := true } = .ok ["a", "b", "c"] := fun _ => rfl
  constructor
  · obtain ⟨made, reply, t, hrun, hmade, hreports, hperm⟩ :=
      (Service.rebuild_reports_calls (service .proceed) noted .background
        (indexSpace_silent .proceed) (.inr rfl) threeSpaces).2 _ _ rfl (hlist .proceed)
    have hreply : (rebuildThree .proceed (some "")).1 =
        .ok (.ok ⟨["a", "c"], [("b", "storage error: space b unavailable")]⟩) := rfl
    rw [rebuildThree, hrun] at hreply
    cases hreply
    exact ⟨made, t, hrun, hmade, hreports, hperm _ rfl⟩
  · obtain ⟨made, reply, t, hrun, hmade, hreports, -⟩ :=
      (Service.rebuild_reports_calls (service .abortOnFirst) noted .background
        (indexSpace_silent .abortOnFirst) (.inl rfl) threeSpaces).2 _ _ rfl (hlist .abortOnFirst)
    have hreply : (rebuildThree .abortOnFirst none).1 =
        .ok (.error (Service.abortFault "b" (.storage (.unavailableSpace "b")))) := rfl
    rw [rebuildThree, hrun] at hreply
    cases hreply
    exact ⟨made, t, hrun, hmade, hreports⟩

end ScopedSearch
