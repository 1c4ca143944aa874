import ScopedSearch.Fault

/-!
# Operations

An operation reads and changes a state and may fail; when it fails, the changes made before the
failure stay.  The state is a parameter: whoever runs the library decides what it is made of, and
each part of the library reaches its own piece of it through a `Part`.

A `Context` travels with the operations done on behalf of one caller.  Its check fails once the
caller has cancelled or the deadline has passed.  How that is decided is up to the state, so a
check may read a clock or follow a schedule.

## Main results

* `perform_bind`, `perform_bind_eq_ok`: how two operations in a row run.
* `Within.bind`: what two operations in a row may do to the state.
* `Context.check_background`: the background context never ends.
-/

namespace ScopedSearch

/-- An outcome whose fault is put otherwise succeeds where it did. -/
theorem mapError_eq_ok_iff {ε ε' α : Type} {f : ε → ε'} {r : Except ε α} {a : α} :
    r.mapError f = .ok a ↔ r = .ok a := by
  cases r with
  | error e => exact ⟨nofun, nofun⟩
  | ok b =>
    show (Except.ok b : Except ε' α) = .ok a ↔ _
    rw [Except.ok.injEq, Except.ok.injEq]

/-- An operation on a state that may fail. -/
abbrev Op (σ : Type) := ExceptT Fault (StateM σ)

namespace Op

variable {σ α β : Type}

/-- The outcome of an operation and the state after it. -/
def perform (op : Op σ α) (s : σ) : Except Fault α × σ := op.run.run s

/-- An operation given by its outcome and the state after it. -/
def make (f : σ → Except Fault α × σ) : Op σ α := ExceptT.mk f

/-- Fails. -/
def fail (e : Fault) : Op σ α := throw e

/-- An outcome that does not touch the state. -/
def ofExcept (r : Except Fault α) : Op σ α := make fun s => (r, s)

/-- Reads something off the state. -/
def read (f : σ → α) : Op σ α := make fun s => (.ok (f s), s)

/-- Changes the state. -/
def change (f : σ → σ) : Op σ Unit := make fun s => (.ok (), f s)

/-- The outcome as a value: this operation never fails. -/
def outcome (op : Op σ α) : Op σ (Except Fault α) := make fun s =>
  let (r, s) := op.perform s
  (.ok r, s)

@[simp] theorem perform_make (f : σ → Except Fault α × σ) (s : σ) : (make f).perform s = f s := rfl

@[simp] theorem perform_pure (a : α) (s : σ) : (pure a : Op σ α).perform s = (.ok a, s) := rfl

@[simp] theorem perform_fail (e : Fault) (s : σ) :
    (fail e : Op σ α).perform s = (.error e, s) := rfl

@[simp] theorem perform_throw (e : Fault) (s : σ) :
    (throw e : Op σ α).perform s = (.error e, s) := rfl

@[simp] theorem perform_ofExcept (r : Except Fault α) (s : σ) :
    (ofExcept r : Op σ α).perform s = (r, s) := rfl

@[simp] theorem perform_read (f : σ → α) (s : σ) : (read f).perform s = (.ok (f s), s) := rfl

@[simp] theorem perform_change (f : σ → σ) (s : σ) : (change f).perform s = (.ok (), f s) := rfl

@[simp] theorem perform_outcome (op : Op σ α) (s : σ) :
    op.outcome.perform s = (.ok (op.perform s).1, (op.perform s).2) := rfl

/-- Two operations in a row: the second one runs where the first one succeeds. -/
theorem perform_bind (op : Op σ α) (next : α → Op σ β) (s : σ) :
    (op >>= next).perform s =
      match op.perform s with
      | (.ok a, s') => (next a).perform s'
      | (.error e, s') => (.error e, s') := by
  show StateT.run (ExceptT.run (op >>= next)) s = _
  simp only [bind, ExceptT.bind, ExceptT.run, ExceptT.mk, StateT.run, StateT.bind, perform]
  generalize h : (op : σ → Except Fault α × σ) s = r
  obtain ⟨r, s'⟩ := r
  cases r <;> rfl

/-- After a success the second operation runs. -/
theorem perform_bind_of_ok {op : Op σ α} {next : α → Op σ β} {s t : σ} {a : α}
    (h : op.perform s = (.ok a, t)) : (op >>= next).perform s = (next a).perform t := by
  rw [perform_bind, h]

/-- After a failure the second operation does not run. -/
theorem perform_bind_of_error {op : Op σ α} {next : α → Op σ β} {s t : σ} {e : Fault}
    (h : op.perform s = (.error e, t)) : (op >>= next).perform s = (.error e, t) := by
  rw [perform_bind, h]

/-- What runs second may be exchanged for what runs alike wherever the first one succeeds. -/
theorem perform_bind_congr {op : Op σ α} {next other : α → Op σ β} {s : σ}
    (h : ∀ a t, op.perform s = (.ok a, t) → (next a).perform t = (other a).perform t) :
    (op >>= next).perform s = (op >>= other).perform s := by
  rw [perform_bind, perform_bind]
  rcases hrun : op.perform s with ⟨e | a, t⟩
  · rfl
  · exact h a t hrun

/-- An operation whose outcome is a success with a value runs to that value. -/
theorem perform_eq_of_toOption {op : Op σ α} {s : σ} {a : α}
    (h : (op.perform s).1.toOption = some a) : op.perform s = (.ok a, (op.perform s).2) := by
  rcases hrun : op.perform s with ⟨e | b, t⟩
  · rw [hrun] at h
    cases h
  · rw [hrun] at h
    cases h
    rfl

/-- Two operations in a row succeed when both do. -/
theorem perform_bind_eq_ok {op : Op σ α} {next : α → Op σ β} {s u : σ} {b : β} :
    (op >>= next).perform s = (.ok b, u) ↔
      ∃ a t, op.perform s = (.ok a, t) ∧ (next a).perform t = (.ok b, u) := by
  rw [perform_bind]
  obtain ⟨r, t⟩ := op.perform s
  cases r with
  | error e => simp
  | ok a =>
    constructor
    · intro h
      exact ⟨a, t, rfl, h⟩
    · rintro ⟨a', t', heq, h⟩
      cases heq
      exact h

/-! ### What an operation may do to the state -/

/-- However it ends, the operation ends in a state that the relation allows. -/
def Within (R : σ → σ → Prop) (op : Op σ α) : Prop := ∀ s, R s (op.perform s).2

theorem within_pure {R : σ → σ → Prop} (hrefl : ∀ s, R s s) (a : α) :
    Within R (pure a : Op σ α) := hrefl

theorem within_read {R : σ → σ → Prop} (hrefl : ∀ s, R s s) (f : σ → α) :
    Within R (read f) := hrefl

theorem within_ofExcept {R : σ → σ → Prop} (hrefl : ∀ s, R s s) (r : Except Fault α) :
    Within R (ofExcept r) := hrefl

/-- Two operations in a row do no more than both of them may. -/
theorem Within.bind {R : σ → σ → Prop} (htrans : ∀ {s t u}, R s t → R t u → R s u)
    {op : Op σ α} {next : α → Op σ β} (hop : Within R op) (hnext : ∀ a, Within R (next a)) :
    Within R (op >>= next) := by
  intro s
  have hs := hop s
  rw [perform_bind]
  rcases hrun : op.perform s with ⟨e | a, t⟩
  · rw [hrun] at hs
    exact hs
  · rw [hrun] at hs
    exact htrans hs (hnext a t)

end Op

/-- A piece of a state: how to look at it and how to put another in its place. -/
structure Part (σ α : Type) where
  get : σ → α
  put : α → σ → σ
  /-- What was put is found. -/
  get_put : ∀ a s, get (put a s) = a := by intros; rfl
  /-- Putting what is there changes nothing. -/
  put_get : ∀ s, put (get s) s = s := by intros; rfl
  /-- Of two things put one after the other, the second one stays. -/
  put_put : ∀ a b s, put a (put b s) = put a s := by intros; rfl

attribute [simp] Part.get_put Part.put_get Part.put_put

/-- The whole state as a piece of itself. -/
def Part.whole (σ : Type) : Part σ σ := { get := id, put := fun a _ => a }

/-- Changes a piece of the state. -/
def Part.modify {σ α : Type} (p : Part σ α) (f : α → α) : Op σ Unit :=
  Op.change fun s => p.put (f (p.get s)) s

/-! ## Contexts -/

/-- What travels with the operations done on behalf of one caller. -/
structure Context (σ : Type) where
  /-- Fails once the caller has cancelled or the deadline has passed. -/
  check : Op σ Unit
  /-- Milliseconds left before the deadline; nothing without a deadline. -/
  remaining : Op σ (Option Nat)

namespace Context

variable {σ : Type}

/-- A context without deadline that nobody cancels. -/
def background : Context σ := ⟨pure (), pure none⟩

/-- A context that ends when a clock, in milliseconds, reaches its deadline. -/
def before (now : σ → Nat) (deadline : Nat) : Context σ where
  check := do
    if deadline ≤ (← Op.read now) then Op.fail (.cancelled .deadline)
  remaining := return some (deadline - (← Op.read now))

/-- The context after its caller has cancelled it. -/
def cancel (ctx : Context σ) : Context σ := { ctx with check := Op.fail (.cancelled .cancelled) }

/-- The shorter one of a configured time and the time left. -/
def clamp (ctx : Context σ) (millis : Nat) : Op σ Nat := do
  match ← ctx.remaining with
  | none => return millis
  | some left => return min millis left

/--
A context that ends with the `n`-th check, counted in a piece of the state from the start of the
program.
-/
def untilCheck (counter : Part σ Nat) (n : Nat) (cause : CancelCause) : Context σ where
  check := do
    let k ← Op.read counter.get
    counter.modify (· + 1)
    if k < n then pure () else Op.fail (.cancelled cause)
  remaining := pure none

@[simp] theorem check_background : (background : Context σ).check = pure () := rfl

end Context

end ScopedSearch
