import ScopedSearch.Proofs.Index.Contents
import ScopedSearch.Proofs.Index.Identity
import ScopedSearch.Search.Engine

/-!
# What a rebuild makes of a listing

A rebuild takes one resource after the other and decides by the document that the index has of it:
a current one stays, one whose text still belongs to the file lends its text to a new one, and in
all other cases a document is made from scratch.  Here that is said of what stands under the keys of
an index, without batches, contexts or faults.

The text of a file is taken to depend on its item, its modification time and its size, and on
nothing else.  This is what lets a rebuild reuse a text at all.

## Main results

* `reviseAll_apply`: what stands under the key of a listed resource afterwards.
* `revised_eq_fresh_iff`: when it is the document made from scratch.
* `agrees_revised`: what it has in common with that document as long as the text may stay.
-/

namespace ScopedSearch

/--
The texts of files by item, modification time and size; nothing where extraction gives up.
-/
abbrev Texts := Identity → Int64 → UInt64 → Option String

namespace Resource

/-- The key of the document of a resource. -/
def key (r : Resource) : String := documentKey r.space r.item

/-- The identity of a resource. -/
def identity (r : Resource) : Identity := ⟨r.space, r.item⟩

@[simp] theorem key_toDocument (r : Resource) (content : String) (degraded : Bool) :
    (r.toDocument content degraded).key = r.key := rfl

/-- Resources of one space with different items have different keys. -/
theorem nodup_keys_of_items {space : String} {rs : List Resource}
    (hspace : ∀ r ∈ rs, r.space = space) (hitems : (rs.map (·.item)).Nodup) :
    (rs.map key).Nodup := by
  have hkey : rs.map key = (rs.map (·.item)).map (documentKey space) := by
    rw [List.map_map]
    refine List.map_congr_left fun r hr => ?_
    rw [key, hspace r hr]
    rfl
  rw [hkey]
  refine List.Pairwise.map _ (fun a b hne heq => hne ?_) hitems
  simpa [documentKey] using heq

variable (texts : Texts)

/-- The text of a resource: a directory has an empty one, and no extraction gives up on it. -/
def text? (r : Resource) : Option String :=
  if r.isDir then some "" else texts r.identity r.mtime r.size

/-- The document that is made of a resource from scratch. -/
def fresh (r : Resource) : Document :=
  r.toDocument ((r.text? texts).getD "") (r.text? texts).isNone

/-- The document of a resource after a rebuild, by the one that the index had of it. -/
def revised (r : Resource) : Option Document → Document
  | none => r.fresh texts
  | some d =>
    if d.isCurrentFor r then d
    else if d.isReusableFor r then r.toDocument d.content
    else r.fresh texts

/-- What a rebuild does about a resource, by the document that the index has of it. -/
def revise (r : Resource) (old : Option Document) : IndexEngine.Prepared :=
  if old.any (·.isCurrentFor r) then .skip else .write (r.revised texts old)

/--
What a rebuild does about a resource, as far as that follows from the document that the index has of
it; nothing where the file has to be extracted.
-/
def decided? (r : Resource) (old : Option Document) : Option IndexEngine.Prepared :=
  let unread := if r.isDir then some (.write (r.toDocument "")) else none
  match old with
  | none => unread
  | some d =>
    if d.isCurrentFor r then some .skip
    else if d.isReusableFor r then some (.write (r.toDocument d.content))
    else unread

/-- Only files are extracted. -/
theorem isDir_of_undecided {r : Resource} {old : Option Document} (h : r.decided? old = none) :
    r.isDir = false := by
  unfold decided? at h
  grind

/-- Without extraction, a document is written of a directory or of a text that is reused. -/
theorem of_decided_write {r : Resource} {old : Option Document} {d : Document}
    (h : r.decided? old = some (.write d)) :
    r.isDir = true ∧ d = r.toDocument "" ∨
      ∃ e, old = some e ∧ e.isReusableFor r = true ∧ d = r.toDocument e.content := by
  have hunread : (if r.isDir then some (.write (r.toDocument "")) else none :
      Option IndexEngine.Prepared) = some (.write d) → r.isDir = true ∧ d = r.toDocument "" := by
    intro hwrite
    split at hwrite
    · next hdir =>
      cases hwrite
      exact ⟨hdir, rfl⟩
    · cases hwrite
  unfold decided? at h
  cases old with
  | none => exact .inl (hunread h)
  | some e =>
    dsimp only at h
    split at h
    · cases h
    · split at h
      · next hreusable =>
        cases h
        exact .inr ⟨e, rfl, hreusable, rfl⟩
      · exact .inl (hunread h)

/-- Where nothing is decided yet, the document is made from scratch. -/
theorem revise_eq_decided (r : Resource) (old : Option Document) :
    r.revise texts old = (r.decided? old).getD (.write (r.fresh texts)) := by
  have hdir : r.isDir = true → r.fresh texts = r.toDocument "" := by
    intro hdir
    simp [fresh, text?, hdir]
  cases old with
  | none =>
    by_cases h : r.isDir = true <;> simp [decided?, revise, revised, h, hdir]
  | some d =>
    simp only [decided?, revise, revised, Option.any_some]
    split
    · rfl
    · split
      · rfl
      · split
        · next h => rw [hdir h]; rfl
        · rfl

@[simp] theorem key_fresh (r : Resource) : (r.fresh texts).key = r.key := rfl

theorem revised_of_isCurrentFor {r : Resource} {d : Document} (h : d.isCurrentFor r = true) :
    r.revised texts (some d) = d := if_pos h

theorem revised_of_isReusableFor {r : Resource} {d : Document} (h : d.isCurrentFor r = false)
    (hreusable : d.isReusableFor r = true) :
    r.revised texts (some d) = r.toDocument d.content := by
  simp [revised, h, hreusable]

theorem revised_of_not_isReusableFor {r : Resource} {d : Document}
    (h : d.isCurrentFor r = false) (hreusable : d.isReusableFor r = false) :
    r.revised texts (some d) = r.fresh texts := by
  simp [revised, h, hreusable]

/-- What stands under the key of a resource keeps that key. -/
theorem key_revised {r : Resource} {old : Option Document} (hold : ∀ d ∈ old, d.key = r.key) :
    (r.revised texts old).key = r.key := by
  cases old with
  | none => exact key_fresh texts r
  | some d =>
    simp only [revised]
    split
    · exact hold d rfl
    · split
      · exact key_toDocument r d.content false
      · exact key_fresh texts r

/-- What is written of a resource is written under its key. -/
theorem key_of_revise {r : Resource} {old : Option Document} {d : Document}
    (hold : ∀ e ∈ old, e.key = r.key) (h : r.revise texts old = .write d) : d.key = r.key := by
  unfold revise at h
  split at h
  · cases h
  · cases h
    exact key_revised texts hold

end Resource

/-! ## Listings -/

namespace Contents

/-- What stands in an index after a prepared resource has been dealt with. -/
def take (m : Contents) : IndexEngine.Prepared → Contents
  | .skip => m
  | .write d => m.write d

variable (texts : Texts)

/-- What stands in an index after a resource has been taken in. -/
def revise (m : Contents) (r : Resource) : Contents :=
  fun key => if key = r.key then some (r.revised texts (m r.key)) else m key

/-- What stands in an index after a listing has been taken in. -/
def reviseAll (m : Contents) (rs : List Resource) : Contents := rs.foldl (revise texts) m

@[simp] theorem revise_self (m : Contents) (r : Resource) :
    m.revise texts r r.key = some (r.revised texts (m r.key)) := by
  simp [revise]

theorem revise_of_ne (m : Contents) {r : Resource} {key : String} (h : key ≠ r.key) :
    m.revise texts r key = m key := by
  simp [revise, h]

/-- Where a resource is skipped, everything stays; else its document is written. -/
theorem revise_eq {m : Contents} {r : Resource} (hkey : ∀ d ∈ m r.key, d.key = r.key) :
    m.revise texts r = m.take (r.revise texts (m r.key)) := by
  unfold Resource.revise
  by_cases hcurrent : (m r.key).any (·.isCurrentFor r) = true
  · rw [if_pos hcurrent]
    obtain ⟨d, hd, hcurrent⟩ := (Option.any_eq_true _ _).1 hcurrent
    funext key
    by_cases hsame : key = r.key
    · rw [hsame, revise_self, take, hd, Resource.revised_of_isCurrentFor texts hcurrent]
    · exact revise_of_ne texts m hsame
  · rw [if_neg hcurrent]
    funext key
    simp only [revise, take, write, Resource.key_revised texts hkey]

theorem reviseAll_of_not_mem {m : Contents} {rs : List Resource} {key : String}
    (h : key ∉ rs.map Resource.key) : m.reviseAll texts rs key = m key := by
  induction rs generalizing m with
  | nil => rfl
  | cons r rs ih =>
    rw [List.map_cons, List.mem_cons, not_or] at h
    show (m.revise texts r).reviseAll texts rs key = _
    rw [ih h.2, revise_of_ne texts m h.1]

/-- Where no key is listed twice, every listed resource is revised on its own. -/
theorem reviseAll_apply {m : Contents} {rs : List Resource} (hkeys : (rs.map Resource.key).Nodup)
    {r : Resource} (hr : r ∈ rs) :
    m.reviseAll texts rs r.key = some (r.revised texts (m r.key)) := by
  induction rs generalizing m with
  | nil => cases hr
  | cons x rs ih =>
    rw [List.map_cons, List.nodup_cons] at hkeys
    show (m.revise texts x).reviseAll texts rs r.key = _
    rcases List.mem_cons.1 hr with rfl | hr
    · rw [reviseAll_of_not_mem texts hkeys.1, revise_self]
    · have hne : r.key ≠ x.key := by
        intro heq
        exact hkeys.1 (heq ▸ List.mem_map_of_mem hr)
      rw [ih hkeys.2 hr, revise_of_ne texts m hne]

end Contents

/-! ## Beside a document made from scratch -/

namespace Document

theorem isCurrentFor_iff {d : Document} {r : Resource} :
    d.isCurrentFor r = true ↔ d.trashed = false ∧ d.degraded = false ∧ d.mtime = r.mtime ∧
      d.path = Path.normalize r.path ∧ d.tags = r.tags ∧ d.size = r.size := by
  simp [isCurrentFor, and_assoc]

theorem isReusableFor_iff {d : Document} {r : Resource} :
    d.isReusableFor r = true ↔ d.degraded = false ∧ r.isDir = false ∧ d.mtime = r.mtime ∧
      d.size = r.size := by
  simp [isReusableFor, and_assoc]

/-- The documents say the same of everything but the name and the MIME type. -/
structure Agrees (d e : Document) : Prop where
  space : d.space = e.space
  item : d.item = e.item
  path : d.path = e.path
  size : d.size = e.size
  mtime : d.mtime = e.mtime
  tags : d.tags = e.tags
  content : d.content = e.content
  trashed : d.trashed = e.trashed
  degraded : d.degraded = e.degraded

theorem Agrees.refl (d : Document) : d.Agrees d := ⟨rfl, rfl, rfl, rfl, rfl, rfl, rfl, rfl, rfl⟩

/-- Documents that agree are the same when name and MIME type are. -/
theorem Agrees.eq_iff {d e : Document} (h : d.Agrees e) :
    d = e ↔ d.name = e.name ∧ d.mimeType = e.mimeType := by
  constructor
  · rintro rfl
    exact ⟨rfl, rfl⟩
  · rintro ⟨hname, hmime⟩
    obtain ⟨hspace, hitem, hpath, hsize, hmtime, htags, hcontent, htrashed, hdegraded⟩ := h
    cases d
    cases e
    simp_all

/-- Where a rebuild keeps the text of the document, it is the text of the resource. -/
def KeepsText (texts : Texts) (d : Document) (r : Resource) : Prop :=
  d.isCurrentFor r = true ∨ d.isReusableFor r = true → r.text? texts = some d.content

/-- Where a rebuild keeps the document, it has the name and the MIME type of the resource. -/
def KeepsLabels (d : Document) (r : Resource) : Prop :=
  d.isCurrentFor r = true → d.name = r.name ∧ d.mimeType = r.mimeType

end Document

namespace Resource

variable {texts : Texts} {r : Resource} {d : Document}

/-- A current document with the text of the resource agrees with the one made from scratch. -/
theorem agrees_of_isCurrentFor (hd : d.identity = r.identity)
    (hcurrent : d.isCurrentFor r = true) (htext : r.text? texts = some d.content) :
    d.Agrees (r.fresh texts) := by
  obtain ⟨htrashed, hdegraded, hmtime, hpath, htags, hsize⟩ :=
    Document.isCurrentFor_iff.1 hcurrent
  obtain ⟨hspace, hitem⟩ := Identity.mk.inj hd
  refine ⟨hspace, hitem, hpath, hsize, hmtime, htags, ?_, htrashed, ?_⟩
  · simp [fresh, toDocument, htext]
  · simp [fresh, toDocument, htext, hdegraded]

/-- A text that is not degraded is the one of the resource when it stands in its document. -/
theorem text?_of_content_eq (hcontent : d.content = (r.fresh texts).content)
    (hdegraded : d.degraded = (r.fresh texts).degraded) (hd : d.degraded = false) :
    r.text? texts = some d.content := by
  rw [hd] at hdegraded
  cases htext : r.text? texts with
  | none => simp [fresh, toDocument, htext] at hdegraded
  | some text =>
    rw [hcontent]
    simp [fresh, toDocument, htext]

/-- A current document is the one made from scratch when its text and its labels are. -/
theorem eq_fresh_iff_of_isCurrentFor (hd : d.identity = r.identity)
    (hcurrent : d.isCurrentFor r = true) :
    d = r.fresh texts ↔ r.text? texts = some d.content ∧ d.name = r.name ∧
      d.mimeType = r.mimeType := by
  constructor
  · intro h
    have hdegraded := (Document.isCurrentFor_iff.1 hcurrent).2.1
    exact ⟨text?_of_content_eq (h ▸ rfl) (h ▸ rfl) hdegraded, h ▸ rfl, h ▸ rfl⟩
  · rintro ⟨htext, hlabels⟩
    exact (agrees_of_isCurrentFor hd hcurrent htext).eq_iff.2 hlabels

/-- A reused text makes the document made from scratch when it is the text of the resource. -/
theorem toDocument_eq_fresh_iff {content : String} :
    r.toDocument content = r.fresh texts ↔ r.text? texts = some content := by
  constructor
  · intro h
    exact text?_of_content_eq (d := r.toDocument content) (h ▸ rfl) (h ▸ rfl) rfl
  · intro htext
    simp [fresh, htext]

/--
After a rebuild, a document is the one made from scratch exactly when what the rebuild kept of the
document before, if anything, belongs to the resource.
-/
theorem revised_eq_fresh_iff {old : Option Document} (hold : ∀ d ∈ old, d.identity = r.identity) :
    r.revised texts old = r.fresh texts ↔
      ∀ d ∈ old, d.KeepsText texts r ∧ d.KeepsLabels r := by
  cases old with
  | none =>
    constructor
    · intro _ d hd
      cases hd
    · exact fun _ => rfl
  | some d =>
    have hall : (∀ e ∈ some d, e.KeepsText texts r ∧ e.KeepsLabels r) ↔
        d.KeepsText texts r ∧ d.KeepsLabels r := by simp
    rw [hall]
    by_cases hcurrent : d.isCurrentFor r = true
    · rw [revised_of_isCurrentFor texts hcurrent,
        eq_fresh_iff_of_isCurrentFor (hold d rfl) hcurrent]
      simp [Document.KeepsText, Document.KeepsLabels, hcurrent]
    · have hstale : d.isCurrentFor r = false := Bool.eq_false_iff.2 hcurrent
      by_cases hreusable : d.isReusableFor r = true
      · rw [revised_of_isReusableFor texts hstale hreusable, toDocument_eq_fresh_iff]
        simp [Document.KeepsText, Document.KeepsLabels, hcurrent, hreusable]
      · rw [revised_of_not_isReusableFor texts hstale (Bool.eq_false_iff.2 hreusable)]
        simp [Document.KeepsText, Document.KeepsLabels, hcurrent, hreusable]

/-- Where texts may stay, a document agrees with the one made from scratch after a rebuild. -/
theorem agrees_revised {old : Option Document} (hold : ∀ d ∈ old, d.identity = r.identity)
    (htext : ∀ d ∈ old, d.KeepsText texts r) :
    (r.revised texts old).Agrees (r.fresh texts) := by
  cases old with
  | none => exact Document.Agrees.refl _
  | some d =>
    by_cases hcurrent : d.isCurrentFor r = true
    · rw [revised_of_isCurrentFor texts hcurrent]
      exact agrees_of_isCurrentFor (hold d rfl) hcurrent (htext d rfl (.inl hcurrent))
    · -- a document that is not kept leaves no labels behind
      have hfresh : r.revised texts (some d) = r.fresh texts := by
        refine (revised_eq_fresh_iff hold).2 fun e he => ⟨htext e he, fun hkept => ?_⟩
        cases he
        exact absurd hkept hcurrent
      rw [hfresh]
      exact Document.Agrees.refl _

end Resource

end ScopedSearch
