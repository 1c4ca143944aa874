import ScopedSearch.Search.Cache

/-!
# The entries of a memo

Asking a memo for a key takes entries away and puts none in, and what it finds is the value of an
entry that is still good.  Storing a value puts one entry in, with the time at which it was stored.
So every entry is what a single store made it, however often it has been asked for since.

## Main results

* `mem_entries_of_get?`, `exists_entry_of_get?`: what asking leaves, and what it finds.
* `entries_get?_of_found`, `entries_get?_of_not_found`: the entries after asking.
* `mem_entries_of_put`, `get?_put`: what storing leaves, and that it is found.
-/

namespace ScopedSearch.Memo

variable {κ α : Type} {m : Memo κ α} {now : Nat} {k : κ} {a : α} {e : CacheEntry κ α}

/-- An entry is good when less than the time to live has passed since it was stored. -/
theorem isFresh_iff (hlifetime : 0 < m.lifetime) :
    m.isFresh now e = true ↔ now < e.storedAt + m.lifetime := by
  rw [isFresh, decide_eq_true_iff]
  omega

variable [DecidableEq κ]

theorem mem_of_entry? (h : m.entry? k = some e) : e ∈ m.entries := List.mem_of_find?_eq_some h

theorem key_of_entry? (h : m.entry? k = some e) : e.key = k := by simpa using List.find?_some h

theorem mem_others : e ∈ m.others k ↔ e ∈ m.entries ∧ e.key ≠ k := by simp [others]

theorem mem_of_mem_others (h : e ∈ m.others k) : e ∈ m.entries := (mem_others.1 h).1

/-- Asking puts no entry in. -/
theorem mem_entries_of_get? (h : e ∈ (m.get? now k).2.entries) : e ∈ m.entries := by
  unfold get? at h
  split at h
  · exact h
  · next e' he' =>
    split at h
    · rcases List.mem_cons.1 h with rfl | hothers
      · exact mem_of_entry? he'
      · exact mem_of_mem_others hothers
    · exact mem_of_mem_others h

/-- What is found is the value of an entry of the key that is still good. -/
theorem exists_entry_of_get? (h : (m.get? now k).1 = some a) :
    ∃ e ∈ m.entries, e.key = k ∧ e.value = a ∧ now < e.storedAt + m.lifetime := by
  unfold get? at h
  split at h
  · cases h
  · next e he =>
    split at h
    · next hfresh =>
      have hlifetime : 0 < m.lifetime :=
        Nat.lt_of_le_of_lt (Nat.zero_le _) (of_decide_eq_true hfresh)
      exact ⟨e, mem_of_entry? he, key_of_entry? he, Option.some.inj h,
        (isFresh_iff hlifetime).1 hfresh⟩
    · cases h

/-- A good entry of a key is found. -/
theorem get?_of_entry? (he : m.entry? k = some e) (hfresh : m.isFresh now e = true) :
    (m.get? now k).1 = some e.value := by
  unfold get?
  split
  · next hnone =>
    rw [hnone] at he
    cases he
  · next e' he' =>
    rw [he', Option.some.injEq] at he
    subst he
    rw [if_pos hfresh]

/-- What is found is the entry of the key, which comes to the front. -/
theorem entries_get?_of_found (h : (m.get? now k).1 = some a) :
    ∃ e, m.entry? k = some e ∧ e.value = a ∧ (m.get? now k).2.entries = e :: m.others k := by
  unfold get? at h ⊢
  split at h
  · cases h
  · next e he =>
    split at h
    · next hfresh =>
      refine ⟨e, he, Option.some.inj h, ?_⟩
      rw [if_pos hfresh]
    · cases h

/-- What is not found has no entry afterwards, past its time or not. -/
theorem entries_get?_of_not_found (h : (m.get? now k).1 = none) :
    (m.get? now k).2.entries = m.others k := by
  unfold get? at h ⊢
  split at h
  · next hnone =>
    refine (List.filter_eq_self.2 ?_).symm
    intro e he
    simpa using List.find?_eq_none.1 hnone e he
  · split at h
    · cases h
    · next hstale =>
      rw [if_neg hstale]

/-- Storing puts in one entry, with the time at which it was stored. -/
theorem mem_entries_of_put (h : e ∈ (m.put now k a).entries) : e = ⟨k, now, a⟩ ∨ e ∈ m.entries := by
  unfold put at h
  split at h
  · exact .inr h
  · rcases List.mem_cons.1 (List.mem_of_mem_take h) with heq | hothers
    · exact .inl heq
    · exact .inr (mem_of_mem_others hothers)

@[simp] theorem lifetime_get? : (m.get? now k).2.lifetime = m.lifetime := by
  unfold get?
  split
  · rfl
  · split <;> rfl

@[simp] theorem lifetime_put : (m.put now k a).lifetime = m.lifetime := by
  unfold put
  split <;> rfl

@[simp] theorem capacity_get? : (m.get? now k).2.capacity = m.capacity := by
  unfold get?
  split
  · rfl
  · split <;> rfl

@[simp] theorem capacity_put : (m.put now k a).capacity = m.capacity := by
  unfold put
  split <;> rfl

/-- With time to live, what is stored comes to the front, and one entry too many goes. -/
theorem entries_put (h : m.lifetime ≠ 0) :
    (m.put now k a).entries = (⟨k, now, a⟩ :: m.others k).take m.capacity := by
  rw [put, if_neg h]

/-- Without time to live, nothing is stored. -/
theorem put_of_zero (h : m.lifetime = 0) : m.put now k a = m := if_pos h

end ScopedSearch.Memo
