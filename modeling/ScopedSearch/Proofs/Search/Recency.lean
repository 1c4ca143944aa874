import Mathlib.Data.Finset.Card
import ScopedSearch.Proofs.Search.Memo

/-!
# A memo and its past

A memo is told what it holds by its past alone: by what was stored and asked for, and when.  An
entry is what was stored last under its key.  It makes way to others only when as many other keys as
there is room for have been used since its own was, and it goes when it is asked for too late.

The entries stand in the order of use.  So each key before an entry has been used since the key of
the entry was, and the keys before it are all different; this bounds its place, and the place
decides whether it stays.

## Main results

* `mem_take_of_recent`: an entry stays where fewer keys than there is room for are more recent.
* `Recalls.use`: a use keeps what a memo knows of its past.
* `recalls_after`: what a memo knows after any uses.
* `remembers_recent_uses`: what a memo answers, and how much it holds, by its past.
-/

namespace ScopedSearch.Memo

variable {κ α : Type}

/-! ## The order of use -/

section Order

variable {since : κ → Finset κ} {es : List (CacheEntry κ α)}

/-- Entries whose keys are more recent than one another have different keys. -/
theorem nodup_keys_of_recent (hsince : ∀ k, k ∉ since k)
    (hrecent : es.Pairwise fun e f => e.key ∈ since f.key) : (es.map (·.key)).Nodup := by
  rw [List.nodup_iff_pairwise_ne, List.pairwise_map]
  refine hrecent.imp ?_
  intro e f hmem heq
  rw [heq] at hmem
  exact hsince f.key hmem

/-- In the order of use, an entry stays where fewer keys than there is room for are more recent. -/
theorem mem_take_of_recent [DecidableEq κ] {n : Nat} {e : CacheEntry κ α}
    (hsince : ∀ k, k ∉ since k) (hrecent : es.Pairwise fun e f => e.key ∈ since f.key) (he : e ∈ es)
    (hfew : (since e.key).card < n) : e ∈ es.take n := by
  obtain ⟨before, behind, rfl⟩ := List.append_of_mem he
  obtain ⟨hbefore, -, hmore⟩ := List.pairwise_append.1 hrecent
  have hsubset : (before.map (·.key)).toFinset ⊆ since e.key := by
    intro k hk
    obtain ⟨f, hf, rfl⟩ := List.mem_map.1 (List.mem_toFinset.1 hk)
    exact hmore f hf e List.mem_cons_self
  have hplace : before.length ≤ (since e.key).card := by
    have hcard := Finset.card_le_card hsubset
    rwa [List.toFinset_card_of_nodup (nodup_keys_of_recent hsince hbefore), List.length_map]
      at hcard
  obtain ⟨room, hroom⟩ : ∃ room, n - before.length = room + 1 := ⟨n - before.length - 1, by omega⟩
  rw [List.take_append, hroom, List.take_succ_cons]
  exact List.mem_append_right _ List.mem_cons_self

end Order

/-! ## Uses -/

/-- Something done with a memo at a time: a value is stored under a key, or a key is asked for. -/
inductive Use (κ α : Type)
  | put (now : Nat) (key : κ) (value : α)
  | get (now : Nat) (key : κ)
  deriving DecidableEq, Repr

namespace Use

/-- When it was done. -/
def time : Use κ α → Nat
  | put now _ _ | get now _ => now

/-- The key that it was about. -/
def key : Use κ α → κ
  | put _ k _ | get _ k => k

end Use

variable [DecidableEq κ]

/-- The memo after a use. -/
def use (m : Memo κ α) : Use κ α → Memo κ α
  | .put now k a => m.put now k a
  | .get now k => (m.get? now k).2

/-- The use makes its key the most recent one: it stores a value, or finds one. -/
def refreshes (m : Memo κ α) : Use κ α → Bool
  | .put _ _ _ => true
  | .get now k => (m.get? now k).1.isSome

/-- When a value was stored last under a key, and which one.  The newest use comes first. -/
def lastStored? (k : κ) : List (Use κ α) → Option (Nat × α)
  | [] => none
  | .put now k' a :: earlier => if k' = k then some (now, a) else lastStored? k earlier
  | .get _ _ :: earlier => lastStored? k earlier

section Past

variable (lifetime capacity : Nat)

/-- A new memo after uses, the newest one first. -/
def after : List (Use κ α) → Memo κ α
  | [] => empty lifetime capacity
  | u :: earlier => (after earlier).use u

/-- The other keys under which a value was stored or found since one was stored or found last under
this key.  The newest use comes first. -/
def usedSince (k : κ) : List (Use κ α) → Finset κ
  | [] => ∅
  | u :: earlier =>
    if refreshes (after lifetime capacity earlier) u then
      if u.key = k then ∅ else insert u.key (usedSince k earlier)
    else usedSince k earlier

end Past

variable {lifetime capacity : Nat} {uses : List (Use κ α)} {u : Use κ α} {m : Memo κ α}
  {now : Nat} {k : κ} {a : α} {e : CacheEntry κ α}

theorem notMem_usedSince (k : κ) (uses : List (Use κ α)) :
    k ∉ usedSince lifetime capacity k uses := by
  induction uses with
  | nil => exact Finset.notMem_empty k
  | cons u earlier ih =>
    unfold usedSince
    split
    · split
      · exact Finset.notMem_empty k
      · next hkey =>
        rw [Finset.mem_insert, not_or]
        exact ⟨Ne.symm hkey, ih⟩
    · exact ih

/-! ## What a memo knows -/

/-- What a memo knows of the uses that made it, the newest one first. -/
structure Recalls (lifetime capacity : Nat) (uses : List (Use κ α)) (m : Memo κ α) : Prop where
  lifetime_eq : m.lifetime = lifetime
  capacity_eq : m.capacity = max capacity 1
  /-- Without time to live nothing is stored. -/
  idle : lifetime = 0 → m.entries = []
  /-- An entry is what was stored last under its key. -/
  stored : ∀ e ∈ m.entries, lastStored? e.key uses = some (e.storedAt, e.value)
  /-- The entries stand in the order of use. -/
  recent : m.entries.Pairwise fun e f => e.key ∈ usedSince lifetime capacity f.key uses
  /-- What was stored last under a key is there as long as it is good and there is room for it. -/
  kept : ∀ now k t a, (∀ u ∈ uses, u.time ≤ now) → lastStored? k uses = some (t, a) →
    now - t < lifetime → (usedSince lifetime capacity k uses).card < m.capacity →
    ⟨k, t, a⟩ ∈ m.entries

theorem recalls_empty (lifetime capacity : Nat) :
    Recalls lifetime capacity [] (empty lifetime capacity : Memo κ α) where
  lifetime_eq := rfl
  capacity_eq := rfl
  idle _ := rfl
  stored _ he := nomatch he
  recent := List.Pairwise.nil
  kept _ _ _ _ _ hstored := nomatch hstored

namespace Recalls

/-- The entry of a key is the only one with it. -/
theorem entry?_eq (h : Recalls lifetime capacity uses m) (he : e ∈ m.entries) :
    m.entry? e.key = some e := by
  have hnodup := nodup_keys_of_recent (fun k => notMem_usedSince k uses) h.recent
  cases hfind : m.entry? e.key with
  | none => exact absurd (List.find?_eq_none.1 hfind e he) (by simp)
  | some f =>
    have hkey : f.key = e.key := key_of_entry? hfind
    have hf : f ∈ m.entries := mem_of_entry? hfind
    rw [List.inj_on_of_nodup_map hnodup hf he hkey]

/-- What was stored last under a key is found as long as it is good and there is room for it. -/
theorem get?_eq (h : Recalls lifetime capacity uses m) (hclock : ∀ u ∈ uses, u.time ≤ now)
    {t : Nat} (hstored : lastStored? k uses = some (t, a)) (hgood : now - t < lifetime)
    (hfew : (usedSince lifetime capacity k uses).card < m.capacity) :
    (m.get? now k).1 = some a := by
  have hentry := h.entry?_eq (h.kept now k t a hclock hstored hgood hfew)
  refine get?_of_entry? (e := ⟨k, t, a⟩) hentry ?_
  rw [isFresh, h.lifetime_eq, decide_eq_true_iff]
  exact hgood

/-- What is found is what was stored last under the key, and it is good. -/
theorem of_get? (h : Recalls lifetime capacity uses m) (hfound : (m.get? now k).1 = some a) :
    ∃ t, lastStored? k uses = some (t, a) ∧ now - t < lifetime := by
  obtain ⟨e, he, rfl, rfl, hgood⟩ := exists_entry_of_get? hfound
  rw [h.lifetime_eq] at hgood
  have hpositive : 0 < lifetime := by
    by_contra hzero
    rw [h.idle (by omega)] at he
    cases he
  exact ⟨e.storedAt, h.stored e he, by omega⟩

/-! ### After one more use -/

section Step

variable {earlier : List (Use κ α)}

theorem usedSince_of_refreshes (hu : refreshes (after lifetime capacity earlier) u = true) (k : κ) :
    usedSince lifetime capacity k (u :: earlier) =
      if u.key = k then ∅ else insert u.key (usedSince lifetime capacity k earlier) := by
  rw [usedSince, if_pos hu]

/-- What has been used since a key was, has been so still after the use of another one. -/
theorem usedSince_subset (u : Use κ α) (earlier : List (Use κ α)) (hkey : u.key ≠ k) :
    usedSince lifetime capacity k earlier ⊆ usedSince lifetime capacity k (u :: earlier) := by
  rw [usedSince, if_neg hkey]
  split
  · exact Finset.subset_insert _ _
  · exact Finset.Subset.refl _

/-- The entries of the other keys stay in the order of use. -/
theorem recent_others (h : Recalls lifetime capacity earlier m) (u : Use κ α) :
    (m.others u.key).Pairwise
      fun e f => e.key ∈ usedSince lifetime capacity f.key (u :: earlier) := by
  refine (h.recent.filter _).imp_of_mem ?_
  intro e f _ hf hmem
  exact usedSince_subset u earlier (Ne.symm (mem_others.1 hf).2) hmem

/-- The entry of the key that has just been used comes before them. -/
theorem recent_cons (h : Recalls lifetime capacity earlier m)
    (hu : refreshes (after lifetime capacity earlier) u = true) (he : e.key = u.key) :
    (e :: m.others u.key).Pairwise
      fun e f => e.key ∈ usedSince lifetime capacity f.key (u :: earlier) := by
  refine List.pairwise_cons.2 ⟨?_, h.recent_others u⟩
  intro f hf
  rw [usedSince_of_refreshes hu, if_neg (Ne.symm (mem_others.1 hf).2), he]
  exact Finset.mem_insert_self _ _

/-- An entry of another key that was there before the use is among the others. -/
theorem mem_others_of_kept (h : Recalls lifetime capacity earlier m) {t : Nat}
    (hkey : u.key ≠ k) (hclock : ∀ v ∈ u :: earlier, v.time ≤ now)
    (hstored : lastStored? k earlier = some (t, a)) (hgood : now - t < lifetime)
    (hfew : (usedSince lifetime capacity k (u :: earlier)).card < m.capacity) :
    ⟨k, t, a⟩ ∈ m.others u.key := by
  have hsubset : usedSince lifetime capacity k earlier ⊆
      usedSince lifetime capacity k (u :: earlier) := usedSince_subset u earlier hkey
  have hcard := Finset.card_le_card hsubset
  have hmem := h.kept now k t a (fun v hv => hclock v (List.mem_cons_of_mem _ hv)) hstored hgood
    (Nat.lt_of_le_of_lt hcard hfew)
  exact mem_others.2 ⟨hmem, Ne.symm hkey⟩

/-- A value is stored. -/
theorem put (h : Recalls lifetime capacity earlier m) (now : Nat) (k : κ) (a : α) :
    Recalls lifetime capacity (.put now k a :: earlier) (m.put now k a) := by
  by_cases hzero : lifetime = 0
  · -- nothing is stored, and nothing was
    have hnothing : m.entries = [] := h.idle hzero
    rw [put_of_zero (h.lifetime_eq.trans hzero)]
    refine ⟨h.lifetime_eq, h.capacity_eq, h.idle, ?_, ?_, ?_⟩
    · rw [hnothing]
      exact nofun
    · rw [hnothing]
      exact List.Pairwise.nil
    · intro now k t a _ _ hgood
      omega
  · have hentries : (m.put now k a).entries = (⟨k, now, a⟩ :: m.others k).take m.capacity :=
      entries_put (h.lifetime_eq.symm ▸ hzero)
    have hrecent := h.recent_cons (u := .put now k a) (e := ⟨k, now, a⟩) rfl rfl
    refine ⟨lifetime_put.trans h.lifetime_eq, capacity_put.trans h.capacity_eq,
      fun hzero' => absurd hzero' hzero, ?_, ?_, ?_⟩
    · intro e he
      rw [hentries] at he
      rcases List.mem_cons.1 (List.mem_of_mem_take he) with rfl | hother
      · exact if_pos rfl
      · obtain ⟨hmem, hkey⟩ := mem_others.1 hother
        exact (if_neg (Ne.symm hkey)).trans (h.stored e hmem)
    · rw [hentries]
      exact hrecent.sublist (List.take_sublist _ _)
    · intro now' k' t a' hclock hstored hgood hfew
      rw [capacity_put] at hfew
      rw [hentries]
      -- fewer keys are more recent than there is room for, so the place of the entry is kept
      refine mem_take_of_recent (fun k => notMem_usedSince k _) hrecent ?_ hfew
      by_cases hkey : k = k'
      · subst hkey
        have hlast : some (now, a) = some (t, a') := (if_pos rfl).symm.trans hstored
        cases hlast
        exact List.mem_cons_self
      · have hlast : lastStored? k' earlier = some (t, a') := (if_neg hkey).symm.trans hstored
        exact List.mem_cons_of_mem _
          (h.mem_others_of_kept (u := .put now k a) hkey hclock hlast hgood hfew)

/-- A key is asked for, and found. -/
theorem get_of_found (h : Recalls lifetime capacity earlier m)
    (hm : after lifetime capacity earlier = m) (hfound : (m.get? now k).1 = some a) :
    Recalls lifetime capacity (.get now k :: earlier) (m.get? now k).2 := by
  obtain ⟨e, he, -, hentries⟩ := entries_get?_of_found hfound
  have hkey : e.key = k := key_of_entry? he
  have hu : refreshes (after lifetime capacity earlier) (.get now k) = true := by
    rw [hm, refreshes, hfound]
    rfl
  have hmem : ∀ f ∈ e :: m.others k, f ∈ m.entries := by
    intro f hf
    rcases List.mem_cons.1 hf with rfl | hother
    · exact mem_of_entry? he
    · exact mem_of_mem_others hother
  refine ⟨lifetime_get?.trans h.lifetime_eq, capacity_get?.trans h.capacity_eq, ?_, ?_, ?_, ?_⟩
  · intro hzero
    have hentry := mem_of_entry? he
    rw [h.idle hzero] at hentry
    cases hentry
  · intro f hf
    rw [hentries] at hf
    exact h.stored f (hmem f hf)
  · rw [hentries]
    exact h.recent_cons (u := .get now k) hu hkey
  · intro now' k' t a' hclock hstored hgood hfew
    rw [capacity_get?] at hfew
    rw [hentries]
    by_cases hkey' : k = k'
    · -- the entry of the key is what was stored last under it
      have hmem : e ∈ m.entries := mem_of_entry? he
      have hlast := h.stored e hmem
      rw [hkey, hkey'] at hlast
      have heq : e = ⟨k', t, a'⟩ := by
        have hpair := Option.some.inj (hlast.symm.trans hstored)
        rw [Prod.mk.injEq] at hpair
        cases e
        simp_all
      exact heq ▸ List.mem_cons_self
    · exact List.mem_cons_of_mem _
        (h.mem_others_of_kept (u := .get now k) hkey' hclock hstored hgood hfew)

/-- A key is asked for, and not found. -/
theorem get_of_not_found (h : Recalls lifetime capacity earlier m)
    (hm : after lifetime capacity earlier = m) (hnone : (m.get? now k).1 = none) :
    Recalls lifetime capacity (.get now k :: earlier) (m.get? now k).2 := by
  have hentries := entries_get?_of_not_found hnone
  have hu : ¬ refreshes (after lifetime capacity earlier) (.get now k) = true := by
    rw [hm, refreshes, hnone]
    exact Bool.false_ne_true
  refine ⟨lifetime_get?.trans h.lifetime_eq, capacity_get?.trans h.capacity_eq, ?_, ?_, ?_, ?_⟩
  · intro hzero
    rw [hentries, others, h.idle hzero]
    rfl
  · intro f hf
    rw [hentries] at hf
    exact h.stored f (mem_of_mem_others hf)
  · rw [hentries]
    exact h.recent_others (.get now k)
  · intro now' k' t a' hclock hstored hgood hfew
    rw [capacity_get?] at hfew
    rw [hentries]
    refine h.mem_others_of_kept (u := .get now k) ?_ hclock hstored hgood hfew
    -- an entry of the key that will be good then would be good now, and would have been found
    rintro rfl
    rw [usedSince, if_neg hu] at hfew
    have hmem := h.kept now' k t a' (fun v hv => hclock v (List.mem_cons_of_mem _ hv)) hstored
      hgood hfew
    have hnow : now ≤ now' := hclock (.get now k) List.mem_cons_self
    have hfresh : m.isFresh now ⟨k, t, a'⟩ = true := by
      rw [isFresh, h.lifetime_eq, decide_eq_true_iff]
      exact Nat.lt_of_le_of_lt (Nat.sub_le_sub_right hnow t) hgood
    have hfound := get?_of_entry? (h.entry?_eq hmem) hfresh
    rw [hnone] at hfound
    cases hfound

/-- A use keeps what a memo knows of its past. -/
theorem use (h : Recalls lifetime capacity earlier m) (hm : after lifetime capacity earlier = m)
    (u : Use κ α) : Recalls lifetime capacity (u :: earlier) (m.use u) := by
  cases u with
  | put now k a => exact h.put now k a
  | get now k =>
    cases hanswer : (m.get? now k).1 with
    | some a => exact h.get_of_found hm hanswer
    | none => exact h.get_of_not_found hm hanswer

end Step

end Recalls

/-! ## After any uses -/

/-- What a new memo knows after any uses. -/
theorem recalls_after (lifetime capacity : Nat) (uses : List (Use κ α)) :
    Recalls lifetime capacity uses (after lifetime capacity uses) := by
  induction uses with
  | nil => exact recalls_empty lifetime capacity
  | cons u earlier ih => exact ih.use rfl u

/-- A new memo that has been used over time, and is asked for a key no earlier than it was used.  It
holds no more than there is room for, and nothing without time to live.  It answers only with what
was stored last under the key, less than one time to live ago, and it does so as long as fewer other
keys than there is room for have been stored or found since the key was.  A key that is not found
has no entry afterwards. -/
theorem remembers_recent_uses (lifetime capacity now : Nat) (k : κ) (uses : List (Use κ α))
    (hclock : ∀ u ∈ uses, u.time ≤ now) :
    let m := after lifetime capacity uses
    m.size ≤ max capacity 1 ∧ (lifetime = 0 → m.entries = []) ∧
      (∀ a, (m.get? now k).1 = some a →
        ∃ t, lastStored? k uses = some (t, a) ∧ now - t < lifetime) ∧
      ((m.get? now k).1 = none → ∀ e ∈ (m.get? now k).2.entries, e.key ≠ k) ∧
      ∀ t a, lastStored? k uses = some (t, a) → now - t < lifetime →
        (usedSince lifetime capacity k uses).card < max capacity 1 →
        (m.get? now k).1 = some a := by
  intro m
  have h : Recalls lifetime capacity uses m := recalls_after lifetime capacity uses
  refine ⟨?_, h.idle, ?_, ?_, ?_⟩
  · rw [← h.capacity_eq]
    exact m.length_entries_le
  · intro a hfound
    exact h.of_get? hfound
  · intro hnone e he
    rw [entries_get?_of_not_found hnone] at he
    exact (mem_others.1 he).2
  · intro t a hstored hgood hfew
    exact h.get?_eq hclock hstored hgood (h.capacity_eq.symm ▸ hfew)

/-- With room for two, reading the first key keeps it when a third one drives out the second. -/
theorem remembers_after_eviction :
    let uses : List (Use Nat String) :=
      [.put 3 3 "third", .get 2 1, .put 1 2 "second", .put 0 1 "first"]
    (∀ u ∈ uses, u.time ≤ 5) ∧ ((after 10 2 uses).get? 5 1).1 = some "first" ∧
      (after 10 2 uses).size ≤ 2 := by
  intro uses
  have hclock : ∀ u ∈ uses, u.time ≤ 5 := by decide
  obtain ⟨hsize, -, -, -, hfound⟩ := remembers_recent_uses 10 2 5 1 uses hclock
  exact ⟨hclock, hfound 0 "first" rfl (by decide) (by decide), hsize⟩

end ScopedSearch.Memo
