import Mathlib.Data.List.TakeWhile
import ScopedSearch.Http.Url
import ScopedSearch.Proofs.Encoding.Percent
import ScopedSearch.Proofs.Path.Prefix

/-!
# The segment at the end of an address

An address is read from the left: what is trimmed, the scheme, the host, the path and the query are
each scanned up to the first character that ends them.  A slash and a percent-encoded segment behind
an address have none of these in them, apart from the slash that they start with.  So they are not
looked into: whatever the segment, the rest of the address is read alike, and the segment stands
behind it as it was given.

## Main results

* `readPath_append`: the path, with a segment behind it.
* `read?_append_segment`: the address, with a segment and perhaps a query behind it.
-/

namespace ScopedSearch.Http.Url

open ScopedSearch.Text

/-! ## Scanning -/

section

variable {α : Type} {p : α → Bool}

/-- A scan stops where it is stopped, whatever follows. -/
theorem takeWhile_append_cons {x : α} (hx : p x = false) (xs ys : List α) :
    (xs ++ x :: ys).takeWhile p = xs.takeWhile p := by
  induction xs with
  | nil => simp [hx]
  | cons y xs ih =>
    rw [List.cons_append, List.takeWhile_cons, List.takeWhile_cons, ih]

theorem dropWhile_append_cons {x : α} (hx : p x = false) (xs ys : List α) :
    (xs ++ x :: ys).dropWhile p = xs.dropWhile p ++ x :: ys := by
  induction xs with
  | nil => simp [hx]
  | cons y xs ih =>
    rw [List.cons_append, List.dropWhile_cons, List.dropWhile_cons, ih]
    split <;> rfl

theorem takeWhile_ne_of_not_mem {c : Char} {cs : List Char} (h : c ∉ cs) :
    cs.takeWhile (· ≠ c) = cs :=
  List.takeWhile_eq_self_iff.2 fun _ hd => decide_eq_true fun hdc => h (hdc ▸ hd)

theorem takeWhile_ne_append {c : Char} {cs : List Char} (h : c ∉ cs) (ds : List Char) :
    (cs ++ ds).takeWhile (· ≠ c) = cs ++ ds.takeWhile (· ≠ c) :=
  List.takeWhile_append_of_pos fun _ hd => decide_eq_true fun hdc => h (hdc ▸ hd)

theorem dropWhile_ne_of_not_mem {c : Char} {cs : List Char} (h : c ∉ cs) :
    cs.dropWhile (· ≠ c) = [] :=
  List.dropWhile_eq_nil_iff.2 fun _ hd => decide_eq_true fun hdc => h (hdc ▸ hd)

/-- What is left behind a scan. -/
theorem drop_length_takeWhile (p : α → Bool) (xs ys : List α) :
    (xs ++ ys).drop (xs.takeWhile p).length = xs.dropWhile p ++ ys :=
  calc (xs ++ ys).drop (xs.takeWhile p).length
      = ((xs.takeWhile p ++ xs.dropWhile p) ++ ys).drop (xs.takeWhile p).length := by
        rw [List.takeWhile_append_dropWhile]
    _ = xs.dropWhile p ++ ys := by rw [List.append_assoc, List.drop_left]

end

/-! ## Characters that are left alone -/

/-- The character stands for itself wherever it stands in an address. -/
def isInert (c : Char) : Bool := c.isAlphanum || ['-', '.', '_', '~', '%', '='].contains c

theorem isInert_bounds {c : Char} (h : isInert c = true) : 0x20 < c.toNat ∧ c.toNat < 0x7F := by
  rw [isInert, Bool.or_eq_true] at h
  rcases h with h | h
  · have hranges : ((decide ('A'.val ≤ c.val ∧ c.val ≤ 'Z'.val) ||
        (decide ('a'.val ≤ c.val) && decide (c.val ≤ 'z'.val))) ||
        (decide ('0'.val ≤ c.val) && decide (c.val ≤ '9'.val))) = true := h
    have hbounds : 0x20 < 'A'.val.toNat ∧ 'Z'.val.toNat < 0x7F ∧ 0x20 < 'a'.val.toNat ∧
        'z'.val.toNat < 0x7F ∧ 0x20 < '0'.val.toNat ∧ '9'.val.toNat < 0x7F := by decide
    have hval : c.val.toNat = c.toNat := rfl
    simp only [Bool.or_eq_true, Bool.and_eq_true, decide_eq_true_eq,
      UInt32.le_iff_toNat_le] at hranges
    omega
  · have hmarks : ['-', '.', '_', '~', '%', '='].all
        fun d => decide (0x20 < d.toNat ∧ d.toNat < 0x7F) := by decide
    exact of_decide_eq_true (List.all_eq_true.1 hmarks c (List.contains_iff_mem.1 h))

/-- A character with a meaning of its own is none that is left alone. -/
theorem ne_of_isInert {c d : Char} (h : isInert c = true) (hd : isInert d = false) : c ≠ d := by
  rintro rfl
  exact absurd h (by rw [hd]; exact Bool.false_ne_true)

theorem isSlash_of_isInert {c : Char} (h : isInert c = true) : isSlash c = false := by
  simp [isSlash, ne_of_isInert h (d := '/') (by decide), ne_of_isInert h (d := '\\') (by decide)]

/-- Where nothing needs to be percent-encoded, nothing is. -/
theorem escape_of_inert {also cs : List Char} (halso : also.any isInert = false)
    (h : ∀ c ∈ cs, isInert c = true) : escape also cs = cs := by
  induction cs with
  | nil => rfl
  | cons c cs ih =>
    have hc := h c List.mem_cons_self
    obtain ⟨hlow, hhigh⟩ := isInert_bounds hc
    have hnot : also.contains c = false := by
      rw [Bool.eq_false_iff]
      intro hmem
      exact List.any_eq_false.1 halso c (List.contains_iff_mem.1 hmem) hc
    have hkept :
        ¬ (decide (c.toNat ≤ 0x20) || decide (0x7F ≤ c.toNat) || also.contains c) = true := by
      simp only [hnot, Bool.or_false, Bool.or_eq_true, decide_eq_true_eq]
      omega
    rw [escape, List.flatMap_cons, if_neg hkept]
    exact congrArg (c :: ·) (ih fun d hd => h d (List.mem_cons_of_mem c hd))

/-! ## Paths -/

/-- The text can stand between two slashes, and means nothing there but itself. -/
structure IsName (seg : List Char) : Prop where
  inert : ∀ c ∈ seg, isInert c = true
  notSingleDot : isSingleDot seg = false
  notDoubleDot : isDoubleDot seg = false

theorem IsName.not_mem {seg : List Char} (h : IsName seg) {d : Char} (hd : isInert d = false) :
    d ∉ seg :=
  fun hmem => ne_of_isInert (h.inert d hmem) hd rfl

/-- Dots resolve before a name as they do before any other one. -/
theorem resolve_append_name (above segs : List (List Char)) :
    ∃ resolved, ∀ seg, IsName seg → resolve above (segs ++ [seg]) = resolved ++ [seg] := by
  induction segs generalizing above with
  | nil =>
    refine ⟨above.reverse, fun seg hseg => ?_⟩
    simp [resolve, hseg.notSingleDot, hseg.notDoubleDot]
  | cons first segs ih =>
    have hmore : ∀ seg : List Char, (segs ++ [seg]).isEmpty = false := by simp
    simp only [List.cons_append, resolve, hmore, Bool.false_eq_true, if_false]
    split
    · exact ih above.tail
    split
    · exact ih above
    · exact ih (first :: above)

theorem join_append_singleton (sep : Char) (pieces : List (List Char)) (piece : List Char) :
    sep :: join sep (pieces ++ [piece]) = pieces.flatMap (sep :: ·) ++ sep :: piece := by
  induction pieces with
  | nil => rfl
  | cons first pieces ih =>
    have hjoin : join sep (first :: (pieces ++ [piece])) =
        first ++ sep :: join sep (pieces ++ [piece]) := by
      cases pieces <;> rfl
    rw [List.cons_append, hjoin, ih, List.flatMap_cons]
    simp

theorem readPath_of_head {path : List Char} (h : (slashed path).head? = some '/') :
    readPath path = '/' ::
      join '/' ((resolve [] (splitOn '/' (slashed path).tail)).map (escape pathEscapes)) := by
  rw [readPath, if_pos h]

theorem slashed_append_name (path : List Char) {seg : List Char} (h : IsName seg) :
    slashed (path ++ '/' :: seg) = slashed path ++ '/' :: seg := by
  have hseg : slashed seg = seg := by
    refine (List.map_congr_left fun c hc => ?_).trans (List.map_id seg)
    rw [isSlash_of_isInert (h.inert c hc), if_neg Bool.false_ne_true, id]
  rw [slashed, List.map_append, List.map_cons]
  exact congrArg (slashed path ++ '/' :: ·) hseg

/-- A path with a name behind it is asked for as the path before, and then the name. -/
theorem readPath_append {path : List Char} (hpath : ∀ c ∈ path.head?, isSlash c = true) :
    ∃ before, ∀ seg, IsName seg → readPath (path ++ '/' :: seg) = before ++ '/' :: seg := by
  obtain ⟨segs, hsegs⟩ : ∃ segs, ∀ seg, IsName seg →
      (slashed (path ++ '/' :: seg)).head? = some '/' ∧
        splitOn '/' (slashed (path ++ '/' :: seg)).tail = segs ++ [seg] := by
    cases path with
    | nil =>
      refine ⟨[], fun seg hseg => ?_⟩
      rw [slashed_append_name [] hseg]
      exact ⟨rfl, splitOn_of_not_mem '/' seg (hseg.not_mem (by decide))⟩
    | cons c cs =>
      refine ⟨splitOn '/' (slashed cs), fun seg hseg => ?_⟩
      have hc : isSlash c = true := hpath c rfl
      rw [slashed_append_name (c :: cs) hseg, slashed, List.map_cons, if_pos hc]
      refine ⟨rfl, ?_⟩
      rw [List.cons_append, List.tail_cons, Path.splitOn_append_sep,
        splitOn_of_not_mem '/' seg (hseg.not_mem (by decide))]
      rfl
  obtain ⟨resolved, hresolved⟩ := resolve_append_name [] segs
  refine ⟨(resolved.map (escape pathEscapes)).flatMap ('/' :: ·), fun seg hseg => ?_⟩
  obtain ⟨hhead, hsplit⟩ := hsegs seg hseg
  rw [readPath_of_head hhead, hsplit, hresolved seg hseg, List.map_append, List.map_singleton,
    escape_of_inert (by decide) hseg.inert, join_append_singleton]

/-! ## Queries -/

/-- The text can stand behind a path: it is empty or starts with a question mark. -/
def IsQuery (query : List Char) : Prop :=
  query = [] ∨ ∃ cs, query = '?' :: cs ∧ ∀ c ∈ cs, isInert c = true

theorem IsQuery.visible {query : List Char} (h : IsQuery query) : ∀ c ∈ query, 0x20 < c.toNat := by
  rcases h with rfl | ⟨cs, rfl, hcs⟩
  · exact fun _ h => absurd h List.not_mem_nil
  · exact List.forall_mem_cons.2 ⟨by decide, fun c hc => (isInert_bounds (hcs c hc)).1⟩

theorem IsQuery.takeWhile {query : List Char} (h : IsQuery query) :
    query.takeWhile (· ≠ '?') = [] := by
  rcases h with rfl | ⟨cs, rfl, -⟩
  · rfl
  · simp

theorem IsQuery.not_mem {query : List Char} (h : IsQuery query) {d : Char}
    (hd : isInert d = false) (hmark : d ≠ '?') : d ∉ query := by
  rcases h with rfl | ⟨cs, rfl, hcs⟩
  · exact List.not_mem_nil
  · exact List.not_mem_cons_of_ne_of_not_mem hmark fun h => ne_of_isInert (hcs d h) hd rfl

theorem readQuery_of_isQuery {query : List Char} (hquery : IsQuery query) :
    readQuery query = query := by
  rcases hquery with rfl | ⟨cs, rfl, hcs⟩
  · rfl
  · exact congrArg ('?' :: ·) (escape_of_inert (by decide) hcs)

/-! ## Addresses -/

/-- What stands behind a visible character is not trimmed away. -/
theorem trim_append {more : List Char} (hmore : more ≠ []) (hvisible : ∀ c ∈ more, 0x20 < c.toNat)
    (cs : List Char) : trim (cs ++ more) = trimFront cs ++ more := by
  have hkept : (more.filter fun c => c ≠ '\t' && c ≠ '\n' && c ≠ '\r') = more := by
    refine List.filter_eq_self.2 fun c hc => ?_
    have hlow := hvisible c hc
    have hne : ∀ d : Char, d.toNat ≤ 0x20 → c ≠ d := by
      rintro d hd rfl
      omega
    simp [hne '\t' (by decide), hne '\n' (by decide), hne '\r' (by decide)]
  have hstop : ∀ c ∈ more, decide (c.toNat ≤ 0x20) = false :=
    fun c hc => decide_eq_false (Nat.not_le.2 (hvisible c hc))
  -- the front is scanned up to the first character behind it, and the end not at all
  have hfront : trimFront (cs ++ more) = trimFront cs ++ more := by
    cases more with
    | nil => exact absurd rfl hmore
    | cons c more =>
      rw [trimFront, List.filter_append, hkept]
      exact dropWhile_append_cons (p := fun d : Char => decide (d.toNat ≤ 0x20))
        (hstop c List.mem_cons_self) _ more
  rw [trim, hfront, List.reverse_append]
  cases hback : more.reverse with
  | nil => exact absurd (List.reverse_eq_nil_iff.1 hback) hmore
  | cons c back =>
    have hc : c ∈ more := by
      rw [← List.mem_reverse, hback]
      exact List.mem_cons_self
    rw [List.cons_append, List.dropWhile_cons_of_neg (by simp [hstop c hc]), ← List.cons_append,
      ← hback, ← List.reverse_append, List.reverse_reverse]

/-- An address without a colon has no scheme. -/
theorem readTrimmed?_of_not_mem {cs : List Char} (hcolon : ':' ∉ cs) (hslash : '/' ∈ cs) :
    readTrimmed? cs = none := by
  have hlower : '/' ∈ cs.map Char.toLower := List.mem_map.2 ⟨'/', hslash, by decide⟩
  rw [readTrimmed?, takeWhile_ne_of_not_mem hcolon, if_pos]
  constructor <;> intro h <;> rw [h] at hlower <;> exact absurd hlower (by decide)

/-- A name is part of the path behind which it stands, and a query is not. -/
theorem takeWhile_path {path seg query : List Char} (hpath : '?' ∉ path) (hseg : IsName seg)
    (hquery : IsQuery query) :
    (path ++ '/' :: (seg ++ query)).takeWhile (· ≠ '?') = path ++ '/' :: seg := by
  have hnot : '?' ∉ path ++ '/' :: seg := by
    simp [hpath, hseg.not_mem (d := '?') (by decide)]
  rw [← List.cons_append, ← List.append_assoc, takeWhile_ne_append hnot, hquery.takeWhile,
    List.append_nil]

/-- Behind a path stand slashes, question marks and what stands for itself. -/
theorem not_mem_append_name {d : Char} (hd : isInert d = false) (hslash : d ≠ '/') (hmark : d ≠ '?')
    {path seg query : List Char} (hpath : d ∉ path) (hseg : IsName seg) (hquery : IsQuery query) :
    d ∉ path ++ '/' :: (seg ++ query) := by
  simp [hpath, hslash, hseg.not_mem hd, hquery.not_mem hd hmark]

/-- What ends the name of a host in an address without query and fragment is a slash. -/
theorem isSlash_of_mem_head?_dropWhile {cs : List Char} (hquery : '?' ∉ cs) (hfragment : '#' ∉ cs) :
    ∀ c ∈ (cs.dropWhile isInHost).head?, isSlash c = true := by
  intro c hc
  have hmem : c ∈ cs := List.dropWhile_subset _ (List.mem_of_mem_head? hc)
  have hend := List.head?_dropWhile_not isInHost cs
  rw [Option.mem_def.1 hc] at hend
  have hne : c ≠ '?' ∧ c ≠ '#' :=
    ⟨fun h => hquery (h ▸ hmem), fun h => hfragment (h ▸ hmem)⟩
  simpa [isInHost, hne.1, hne.2] using hend

/-- What is read of an address in front of a name, given in its parts. -/
def base? (scheme server before : List Char) : Option Url :=
  let scheme := scheme.map Char.toLower
  let host := server.takeWhile isInHost
  if scheme ≠ "http".toList ∧ scheme ≠ "https".toList then none
  else if host = [] ∨ host.any isForbiddenInHost then none
  else some ⟨String.ofList (scheme ++ "://".toList ++ host), String.ofList before⟩

/-- The address with something more at its end. -/
def append (u : Url) (more : List Char) : Url :=
  { u with target := u.target ++ String.ofList more }

/-- An address in its parts: the scheme, the server with a path, a name and perhaps a query. -/
theorem readTrimmed?_of_parts {scheme rest server before seg query : List Char}
    (hscheme : ':' ∉ scheme) (hrest : rest.dropWhile isSlash = server ++ '/' :: (seg ++ query))
    (hmark : '?' ∉ server) (hsharp : '#' ∉ server) (hseg : IsName seg) (hquery : IsQuery query)
    (hbefore : readPath (server.dropWhile isInHost ++ '/' :: seg) = before ++ '/' :: seg) :
    readTrimmed? (scheme ++ ':' :: rest) =
      (base? scheme server before).map (·.append ('/' :: (seg ++ query))) := by
  have hscheme_read : (scheme ++ ':' :: rest).takeWhile (· ≠ ':') = scheme := by
    rw [takeWhile_append_cons (by simp), takeWhile_ne_of_not_mem hscheme]
  have hrest_read : ((scheme ++ ':' :: rest).dropWhile (· ≠ ':')).tail.dropWhile isSlash =
      server ++ '/' :: (seg ++ query) := by
    rw [dropWhile_append_cons (by simp), dropWhile_ne_of_not_mem hscheme, List.nil_append,
      List.tail_cons, hrest]
  have hhost_read : (server ++ '/' :: (seg ++ query)).takeWhile isInHost =
      server.takeWhile isInHost := takeWhile_append_cons (by decide) server _
  have hsent := takeWhile_ne_of_not_mem (not_mem_append_name (d := '#') (by decide) (by decide)
    (by decide) (fun h => hsharp (List.dropWhile_subset isInHost h)) hseg hquery)
  have hpath_read := takeWhile_path
    (fun h => hmark (List.dropWhile_subset isInHost h)) hseg hquery
  have hquery_read : (server.dropWhile isInHost ++ '/' :: (seg ++ query)).drop
      (server.dropWhile isInHost ++ '/' :: seg).length = query := by
    rw [← List.cons_append, ← List.append_assoc, List.drop_left]
  rw [readTrimmed?, base?]
  simp only [hscheme_read, hrest_read, hhost_read, drop_length_takeWhile, hsent, hpath_read,
    hquery_read, hbefore, readQuery_of_isQuery hquery]
  split
  · rfl
  split
  · rfl
  · have htarget : String.ofList (before ++ '/' :: seg ++ query) =
        String.ofList before ++ String.ofList ('/' :: (seg ++ query)) := by
      rw [← String.ofList_append, ← List.cons_append, List.append_assoc]
    rw [htarget]
    rfl

/-- An address with a name behind its path, and perhaps a query behind that. -/
theorem readTrimmed?_append_name {front : List Char} {c : Char} (hc : isInert c = true)
    (hmark : '?' ∉ front) (hsharp : '#' ∉ front) :
    ∃ base : Option Url, ∀ seg query, IsName seg → IsQuery query →
      readTrimmed? (front ++ c :: '/' :: (seg ++ query)) =
        base.map (·.append ('/' :: (seg ++ query))) := by
  have hne : ∀ {d : Char}, isInert d = false → d ≠ c := fun hd => (ne_of_isInert hc hd).symm
  by_cases hcolon : ':' ∈ front
  · obtain ⟨scheme, rest, rfl, hscheme⟩ := List.eq_append_cons_of_mem hcolon
    have hserver : ∀ {d : Char}, isInert d = false → d ∉ scheme ++ ':' :: rest →
        d ∉ rest.dropWhile isSlash ++ [c] := by
      intro d hd hnot hmem
      rcases List.mem_append.1 hmem with hmem | hmem
      · exact hnot (List.mem_append_right _
          (List.mem_cons_of_mem _ (List.dropWhile_subset _ hmem)))
      · exact hne hd (List.mem_singleton.1 hmem)
    have hserver_mark := hserver (by decide) hmark
    have hserver_sharp := hserver (by decide) hsharp
    obtain ⟨before, hbefore⟩ :=
      readPath_append (isSlash_of_mem_head?_dropWhile hserver_mark hserver_sharp)
    refine ⟨base? scheme (rest.dropWhile isSlash ++ [c]) before, fun seg query hseg hquery => ?_⟩
    have haddress : scheme ++ ':' :: rest ++ c :: '/' :: (seg ++ query) =
      scheme ++ ':' :: (rest ++ c :: '/' :: (seg ++ query)) := by simp
    rw [haddress]
    refine readTrimmed?_of_parts hscheme ?_ hserver_mark hserver_sharp hseg hquery
      (hbefore seg hseg)
    rw [dropWhile_append_cons (isSlash_of_isInert hc), List.append_assoc, List.singleton_append]
  · refine ⟨none, fun seg query hseg hquery => readTrimmed?_of_not_mem ?_ (by simp)⟩
    have hfront : ':' ∉ front ++ [c] := by
      simp [hcolon, hne (d := ':') (by decide)]
    have hall := not_mem_append_name (by decide) (by decide) (by decide) hfront hseg hquery
    rwa [List.append_assoc, List.singleton_append] at hall

/--
Behind a server without query and fragment, an address is read alike whatever name stands at the end
of its path: either not at all, or with the name, and a query behind it, at the end of what is sent.
-/
theorem read?_append_name {server : String} {c : Char} (hc : isInert c = true)
    (hmark : '?' ∉ server.toList) (hsharp : '#' ∉ server.toList) :
    ∃ base : Option Url, ∀ seg query : List Char, IsName seg → IsQuery query →
      read? (server ++ String.singleton c ++ "/" ++ String.ofList seg ++ String.ofList query) =
        base.map (·.append ('/' :: (seg ++ query))) := by
  have hfront : ∀ d, d ∉ server.toList → d ∉ trimFront server.toList :=
    fun d hd h => hd (List.mem_filter.1 (List.dropWhile_subset _ h)).1
  obtain ⟨base, hbase⟩ :=
    readTrimmed?_append_name hc (hfront '?' hmark) (hfront '#' hsharp)
  refine ⟨base, fun seg query hseg hquery => ?_⟩
  have htext : (server ++ String.singleton c ++ "/" ++ String.ofList seg ++
      String.ofList query).toList = server.toList ++ c :: '/' :: (seg ++ query) := by simp
  have hvisible : ∀ d ∈ c :: '/' :: (seg ++ query), 0x20 < d.toNat := by
    rw [List.forall_mem_cons, List.forall_mem_cons]
    refine ⟨(isInert_bounds hc).1, by decide, fun d hd => ?_⟩
    rcases List.mem_append.1 hd with hd | hd
    · exact (isInert_bounds (hseg.inert d hd)).1
    · exact hquery.visible d hd
  rw [read?, htext, trim_append (by simp) hvisible, hbase seg query hseg hquery]

end ScopedSearch.Http.Url
