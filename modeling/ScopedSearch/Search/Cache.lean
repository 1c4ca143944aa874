import ScopedSearch.Request

/-!
# The cache of answers

A short-lived memo of answers, by everything an answer depends on.  An entry is good for a fixed
time after it was stored, reading does not prolong that, and an entry past its time goes away when
it is asked for.  The entries are kept in the order of use, the last one used first; one too many
drives out the one at the end.

## Main results

* `CacheKey.of_eq_iff`: what a key tells.
* `length_entries_le`: there are never more entries than the capacity.
* `get?_eq_none_of_zero`: without time to live nothing is ever found.
-/

namespace ScopedSearch

/-- Everything that tells two answers apart. -/
structure CacheKey where
  query : String
  pageSize : Int32
  reference : Reference
  pageToken : String
  includeTrashed : Bool
  actorId : String
  deriving DecidableEq, Repr

/-- The key of what an actor asks. -/
def CacheKey.of (r : Request) (a : Actor) : CacheKey where
  query := r.query
  pageSize := r.pageSize
  reference := r.reference
  pageToken := r.pageToken
  includeTrashed := r.includeTrashed
  actorId := a.id

/-- A key tells what is asked, and the identity of who asks. -/
theorem CacheKey.of_eq_iff {r r' : Request} {a a' : Actor} :
    CacheKey.of r a = CacheKey.of r' a' ↔ r = r' ∧ a.id = a'.id := by
  cases r
  cases r'
  simp only [CacheKey.of, CacheKey.mk.injEq, Request.mk.injEq, and_assoc]

/-- A value stored under a key at a time, in milliseconds. -/
structure CacheEntry (κ α : Type) where
  key : κ
  storedAt : Nat
  value : α

/-- A memo with room for `capacity` entries, each good for `lifetime` milliseconds. -/
structure Memo (κ α : Type) where
  lifetime : Nat
  capacity : Nat
  /-- The last one used first. -/
  entries : List (CacheEntry κ α) := []
  capacity_pos : 0 < capacity
  length_entries_le : entries.length ≤ capacity

namespace Memo

variable {κ α : Type} [DecidableEq κ]

/-- An empty memo; there is room for at least one entry. -/
def empty (lifetime capacity : Nat) : Memo κ α where
  lifetime := lifetime
  capacity := max capacity 1
  capacity_pos := by omega
  length_entries_le := by simp

/-- The number of entries, those past their time included. -/
def size (m : Memo κ α) : Nat := m.entries.length

/-- The entry of a key. -/
def entry? (m : Memo κ α) (k : κ) : Option (CacheEntry κ α) := m.entries.find? (·.key = k)

/-- The entries of all other keys. -/
def others (m : Memo κ α) (k : κ) : List (CacheEntry κ α) := m.entries.filter (·.key ≠ k)

theorem length_others_le (m : Memo κ α) (k : κ) : (m.others k).length ≤ m.entries.length :=
  List.length_filter_le _ _

theorem length_others_lt {m : Memo κ α} {k : κ} {e : CacheEntry κ α} (h : m.entry? k = some e) :
    (m.others k).length < m.entries.length := by
  have hmem := List.mem_of_find?_eq_some h
  have hkey : e.key = k := by simpa using List.find?_some h
  exact List.length_filter_lt_length_iff_exists.2 ⟨e, hmem, by simp [hkey]⟩

/-- The entry is still good at a time. -/
def isFresh (m : Memo κ α) (now : Nat) (e : CacheEntry κ α) : Bool := now - e.storedAt < m.lifetime

/-- The value of a key at a time.  A good entry counts as used; one past its time goes away. -/
def get? (m : Memo κ α) (now : Nat) (k : κ) : Option α × Memo κ α :=
  match h : m.entry? k with
  | none => (none, m)
  | some e =>
    if m.isFresh now e then
      (some e.value, { m with
        entries := e :: m.others k
        length_entries_le :=
          Nat.le_trans (Nat.succ_le_of_lt (length_others_lt h)) m.length_entries_le })
    else
      (none, { m with
        entries := m.others k
        length_entries_le := Nat.le_trans (m.length_others_le k) m.length_entries_le })

/-- Stores a value at a time; without time to live nothing is stored. -/
def put (m : Memo κ α) (now : Nat) (k : κ) (a : α) : Memo κ α :=
  if m.lifetime = 0 then m
  else { m with
    entries := (⟨k, now, a⟩ :: m.others k).take m.capacity
    length_entries_le := List.length_take_le _ _ }

theorem get?_eq_none_of_zero (m : Memo κ α) (h : m.lifetime = 0) (now : Nat) (k : κ) :
    (m.get? now k).1 = none := by
  unfold get?
  split
  · rfl
  · simp [isFresh, h]

end Memo

/-- The cache of the answers to searches. -/
abbrev ResultCache := Memo CacheKey Response

end ScopedSearch
