import ScopedSearch.Proofs.Text.Numerals
import ScopedSearch.Settings.Reader

/-!
# Overrides, field by field

Each variable of the environment has a field of its own, and the fields are apart from each other:
what is put into one of them is not seen in another, and they may be filled in any order.  So what
the environment makes of settings is told field by field.  A field is what its own variable says, or
what it was where that variable says nothing, whatever the other variables are.

A variable says nothing when it is not set, and also when its field has no use for the value: a word
that names nothing, or a numeral that is none or too large.  The switches are different.  They know
the words for truth, and take all else for falsehood.

## Main results

* `override_eq_putAll`: all variables at once, each field by what was there before.
* `numberOf?_eq_some_iff`, `isSome_read_iff`: the values that a field has a use for.
* `load_eq_ok_iff`: when there are settings.
* `override_field_by_field`: what the environment makes of settings.
-/

namespace ScopedSearch

/-! ## Pieces that are apart -/

namespace Part

variable {σ α β : Type} {p : Part σ α} {q : Part σ β}

/-- The pieces may be put in either order. -/
def Apart (p : Part σ α) (q : Part σ β) : Prop :=
  ∀ a b s, p.put a (q.put b s) = q.put b (p.put a s)

theorem Apart.symm (h : p.Apart q) : q.Apart p := fun b a s => (h a b s).symm

/-- What is put into one piece is not seen in the other. -/
theorem Apart.get_put (h : p.Apart q) (b : β) (s : σ) : p.get (q.put b s) = p.get s := by
  have hput : q.put b s = p.put (p.get s) (q.put b s) := by rw [h, Part.put_get]
  rw [hput, Part.get_put]

end Part

/-! ## Words -/

/-- Where each of several things has a word of its own, the word finds the thing. -/
theorem find?_word_eq_some_iff {α : Type} {word : α → String} {as : List α}
    (hall : ∀ a, a ∈ as) (hword : ∀ a b, word a = word b → a = b) {w : String} {a : α} :
    as.find? (word · == w) = some a ↔ word a = w := by
  constructor
  · intro h
    simpa using List.find?_some h
  · rintro rfl
    have hsome : (as.find? (word · == word a)).isSome :=
      List.find?_isSome.2 ⟨a, hall a, by simp⟩
    obtain ⟨b, hb⟩ := Option.isSome_iff_exists.1 hsome
    have hsame : word b = word a := by simpa using List.find?_some hb
    rwa [hword b a hsame] at hb

theorem isSome_find?_word_iff {α : Type} (word : α → String) (as : List α) (w : String) :
    (as.find? (word · == w)).isSome = true ↔ w ∈ as.map word := by
  simp [List.find?_isSome]

theorem EngineKind.ofWord?_eq_some_iff {w : String} {k : EngineKind} :
    ofWord? w = some k ↔ k.word = w :=
  find?_word_eq_some_iff (fun a => by cases a <;> decide)
    (fun a b => by cases a <;> cases b <;> decide)

theorem ExtractorKind.ofWord?_eq_some_iff {w : String} {k : ExtractorKind} :
    ofWord? w = some k ↔ k.word = w :=
  find?_word_eq_some_iff (fun a => by cases a <;> decide)
    (fun a b => by cases a <;> cases b <;> decide)

theorem RebuildPolicy.ofWord?_eq_some_iff {w : String} {p : RebuildPolicy} :
    ofWord? w = some p ↔ p.word = w :=
  find?_word_eq_some_iff (fun a => by cases a <;> decide)
    (fun a b => by cases a <;> cases b <;> decide)

namespace Settings

open ScopedSearch.Text

/-! ## Rows of fields -/

/-- What the field of a variable is due to be: what it reads in the value, or what it is. -/
def Override.due (o : Override) (env : Environment) (s : Settings) : o.α :=
  ((env.lookup o.name).bind o.read).getD (o.field.get s)

theorem applyOverride_eq (env : Environment) (s : Settings) (o : Override) :
    applyOverride env s o = o.field.put (o.due env s) s := by
  unfold applyOverride Override.due
  cases (env.lookup o.name).bind o.read with
  | none => exact (o.field.put_get s).symm
  | some a => rfl

/-- Puts a value into the field of each variable. -/
def putAll (os : List Override) (value : (o : Override) → o.α) (s : Settings) : Settings :=
  os.foldl (fun s o => o.field.put (value o) s) s

section Rows

variable {os : List Override} {value value' : (o : Override) → o.α} {s : Settings}

theorem putAll_cons (o : Override) :
    putAll (o :: os) value s = putAll os value (o.field.put (value o) s) := rfl

theorem putAll_congr (h : ∀ o ∈ os, value o = value' o) :
    putAll os value s = putAll os value' s := by
  induction os generalizing s with
  | nil => rfl
  | cons o os ih =>
    rw [putAll_cons, putAll_cons, h o List.mem_cons_self]
    exact ih fun w hw => h w (List.mem_cons_of_mem o hw)

/-- A piece that is apart from all fields may be put before them or after them. -/
theorem putAll_put {α : Type} {p : Part Settings α} (h : ∀ o ∈ os, p.Apart o.field) (a : α) :
    putAll os value (p.put a s) = p.put a (putAll os value s) := by
  induction os generalizing s with
  | nil => rfl
  | cons o os ih =>
    rw [putAll_cons, putAll_cons, ← h o List.mem_cons_self]
    exact ih fun w hw => h w (List.mem_cons_of_mem o hw)

/-- A piece that is apart from all fields stays. -/
theorem get_putAll_of_apart {α : Type} {p : Part Settings α} (h : ∀ o ∈ os, p.Apart o.field) :
    p.get (putAll os value s) = p.get s := by
  induction os generalizing s with
  | nil => rfl
  | cons o os ih =>
    rw [putAll_cons, ih fun w hw => h w (List.mem_cons_of_mem o hw),
      (h o List.mem_cons_self).get_put]

/-- Fields that have their values already are not changed. -/
theorem putAll_of_get (h : ∀ o ∈ os, o.field.get s = value o) : putAll os value s = s := by
  induction os with
  | nil => rfl
  | cons o os ih =>
    rw [putAll_cons, ← h o List.mem_cons_self, Part.put_get]
    exact ih fun w hw => h w (List.mem_cons_of_mem o hw)

variable (hos : os.Pairwise fun o w => o.name ≠ w.name ∧ o.field.Apart w.field)

include hos

/-- Each field has its value afterwards. -/
theorem get_putAll {o : Override} (ho : o ∈ os) : o.field.get (putAll os value s) = value o := by
  induction os generalizing s with
  | nil => cases ho
  | cons w os ih =>
    obtain ⟨hw, hos⟩ := List.pairwise_cons.1 hos
    rw [putAll_cons]
    rcases List.mem_cons.1 ho with rfl | ho
    · rw [get_putAll_of_apart fun v hv => (hw v hv).2, Part.get_put]
    · exact ih hos ho

/-- Where the value for one field is another, that field is another and nothing else. -/
theorem putAll_of_eq_off {o : Override} (ho : o ∈ os)
    (h : ∀ w ∈ os, w.name ≠ o.name → value' w = value w) :
    putAll os value' s = o.field.put (value' o) (putAll os value s) := by
  induction os generalizing s with
  | nil => cases ho
  | cons w os ih =>
    obtain ⟨hw, hos⟩ := List.pairwise_cons.1 hos
    rw [putAll_cons, putAll_cons]
    rcases List.mem_cons.1 ho with rfl | ho
    · have hrest : ∀ v ∈ os, value' v = value v :=
        fun v hv => h v (List.mem_cons_of_mem o hv) (hw v hv).1.symm
      have hapart : ∀ v ∈ os, o.field.Apart v.field := fun v hv => (hw v hv).2
      rw [putAll_congr hrest, putAll_put hapart, putAll_put hapart, Part.put_put]
    · rw [h w List.mem_cons_self (hw o ho).1]
      exact ih hos ho fun v hv => h v (List.mem_cons_of_mem w hv)

/-- Variables one after the other do what all of them do at once: none sees what another did. -/
theorem foldl_applyOverride (env : Environment) :
    os.foldl (applyOverride env) s = putAll os (fun o => o.due env s) s := by
  induction os generalizing s with
  | nil => rfl
  | cons w os ih =>
    obtain ⟨hw, hos⟩ := List.pairwise_cons.1 hos
    rw [List.foldl_cons, applyOverride_eq, ih hos, putAll_cons]
    refine putAll_congr fun o ho => ?_
    rw [Override.due, (hw o ho).2.symm.get_put]
    rfl

end Rows

/-! ## The variables -/

/-- The variables have names of their own, and fields that are apart. -/
theorem pairwise_overrides :
    overrides.Pairwise fun o w => o.name ≠ w.name ∧ o.field.Apart w.field := by
  have hnames : overrides.Pairwise fun o w => o.name ≠ w.name :=
    List.pairwise_map.1 (by decide +kernel : (overrides.map (·.name)).Nodup)
  have hfields : overrides.Pairwise fun o w => o.field.Apart w.field := by
    simp only [overrides, List.pairwise_cons, List.forall_mem_cons, List.not_mem_nil,
      false_imp_iff, implies_true, List.Pairwise.nil, and_true]
    and_intros <;> exact fun _ _ _ => rfl
  exact hnames.and hfields

/-- All variables at once, each field by what was there before. -/
theorem override_eq_putAll (env : Environment) (s : Settings) :
    s.override env = putAll overrides (fun o => o.due env s) s :=
  foldl_applyOverride pairwise_overrides env

/-! ## Values -/

theorem numberOf?_eq_some_iff {value : String} {n : Nat} :
    numberOf? value = some n ↔ IsNumeral value.toList n ∧ n ≤ maxWord := by
  rw [← readWord_eq_ok_iff, numberOf?]
  cases readWord value.toList with
  | error e => exact ⟨nofun, nofun⟩
  | ok m => simp [Except.toOption]

/-- The values that the field of a variable has a use for. -/
def IsUsable (key value : String) : Prop :=
  match key with
  | "ENGINE" => value ∈ ["tantivy", "remote"]
  | "EXTRACTOR" => value ∈ ["basic", "tika"]
  | "REINDEX_POLICY" => value ∈ ["continue", "abort-on-first"]
  | "EXTRACTOR_TIMEOUT_SECS" | "EVENT_WORKERS" | "CACHE_TTL_MS" =>
    ∃ n ≤ maxWord, IsNumeral value.toList n
  | _ => True

theorem isSome_numberOf?_iff (value : String) :
    (numberOf? value).isSome = true ↔ ∃ n ≤ maxWord, IsNumeral value.toList n := by
  simp only [Option.isSome_iff_exists, numberOf?_eq_some_iff, and_comm]

/-- A field reads something in the values that it has a use for, and in no others. -/
theorem isSome_read_iff {o : Override} (ho : o ∈ overrides) (value : String) :
    (o.read value).isSome = true ↔ IsUsable o.key value := by
  have hengine := isSome_find?_word_iff EngineKind.word [.embedded, .remote] value
  have hextractor := isSome_find?_word_iff ExtractorKind.word [.basic, .converter] value
  have hpolicy := isSome_find?_word_iff RebuildPolicy.word [.proceed, .abortOnFirst] value
  have hnumber := isSome_numberOf?_iff value
  have hany : ∀ {α : Type} (a : α), (some a).isSome = true ↔ True :=
    fun _ => iff_of_true rfl trivial
  revert o
  simp only [overrides, List.forall_mem_cons, List.not_mem_nil, false_imp_iff, implies_true,
    and_true]
  exact ⟨hengine, hany _, hany _, hany _, hany _, hany _, hextractor, hany _, hnumber, hany _,
    hany _, hnumber, hnumber, hpolicy, hany _, hany _, hany _, hany _⟩

/-! ## Loading -/

/-- The settings before the environment has its say: those of a file, or the defaults. -/
def stored? (env : Environment) : Option ByteArray → Option Settings
  | none => some (default env.dataDirectory)
  | some bytes =>
    ((String.fromUTF8? bytes).bind Toml.parse?).bind (default env.dataDirectory).ofFields?

theorem load_of_not_stored {env : Environment} {contents : Option ByteArray}
    (h : stored? env contents = none) : load env contents = .error .unreadable := by
  cases contents with
  | none => cases h
  | some bytes =>
    rw [stored?] at h
    simp only [load, h]
    rfl

theorem load_of_stored {env : Environment} {contents : Option ByteArray} {s : Settings}
    (h : stored? env contents = some s) :
    load env contents =
      (s.override env).fault?.elim (.ok (s.override env)) fun flaw => .error (.flawed flaw) := by
  cases contents with
  | none =>
    cases h
    rw [load]
    cases hfault : ((default env.dataDirectory).override env).fault? <;> simp [hfault] <;> rfl
  | some bytes =>
    rw [stored?] at h
    simp only [load, h]
    cases hfault : (s.override env).fault? <;> simp [hfault] <;> rfl

/-- There are settings when the file holds some and they have no flaw after all overrides. -/
theorem load_eq_ok_iff {env : Environment} {contents : Option ByteArray} {t : Settings} :
    load env contents = .ok t ↔
      (∃ s, stored? env contents = some s ∧ s.override env = t) ∧
        (t.engine.kind = .remote → t.engine.remote.addresses ≠ []) ∧ 0 < t.events.workers ∧
        0 < t.cache.capacity := by
  rw [← fault?_eq_none_iff]
  cases hstored : stored? env contents with
  | none =>
    rw [load_of_not_stored hstored]
    simp
  | some s =>
    rw [load_of_stored hstored]
    cases hfault : (s.override env).fault? with
    | none =>
      constructor
      · rintro ⟨⟩
        exact ⟨⟨s, rfl, rfl⟩, hfault⟩
      · rintro ⟨⟨_, ⟨⟩, rfl⟩, -⟩
        rfl
    | some flaw =>
      constructor
      · nofun
      · rintro ⟨⟨_, ⟨⟩, rfl⟩, hnone⟩
        rw [hfault] at hnone
        cases hnone

/-! ## Settings in an environment -/

/-- What is read in values. -/
structure ReadsValues : Prop where
  usable : ∀ o ∈ overrides, ∀ value, (o.read value).isSome = true ↔ IsUsable o.key value
  engine : ∀ value kind, EngineKind.ofWord? value = some kind ↔ kind.word = value
  extractor : ∀ value kind, ExtractorKind.ofWord? value = some kind ↔ kind.word = value
  policy : ∀ value policy, RebuildPolicy.ofWord? value = some policy ↔ policy.word = value
  number : ∀ value n, numberOf? value = some n ↔ IsNumeral value.toList n ∧ n ≤ maxWord
  /-- A switch is on for three words in any case of their letters, and off for all else. -/
  switch : ∀ value, truthOf value = true ↔
    String.ofList (value.toList.map Char.toLower) ∈ ["1", "true", "yes"]

theorem readsValues : ReadsValues where
  usable _ ho := isSome_read_iff ho
  engine _ _ := EngineKind.ofWord?_eq_some_iff
  extractor _ _ := ExtractorKind.ofWord?_eq_some_iff
  policy _ _ := RebuildPolicy.ofWord?_eq_some_iff
  number _ _ := numberOf?_eq_some_iff
  switch value := by rw [truthOf, List.contains_iff_mem]

/-- What settings have become in an environment. -/
structure Overridden (env : Environment) (s t : Settings) : Prop where
  /-- A field is what it reads in the value of its variable, or what it was. -/
  own : ∀ o ∈ overrides,
    o.field.get t = ((env.lookup o.name).bind o.read).getD (o.field.get s)
  /-- What is apart from these fields is what it was. -/
  rest : ∀ {α : Type} (p : Part Settings α), (∀ o ∈ overrides, p.Apart o.field) →
    p.get t = p.get s

theorem overridden_override (env : Environment) (s : Settings) :
    Overridden env s (s.override env) where
  own o ho := by
    rw [override_eq_putAll, get_putAll pairwise_overrides ho]
    rfl
  rest p hp := by rw [override_eq_putAll, get_putAll_of_apart hp]

/-- A variable that is set otherwise changes its own field and nothing else. -/
theorem override_of_eq_off {env env' : Environment} {o : Override} (ho : o ∈ overrides)
    (henv : ∀ name, name ≠ o.name → env'.lookup name = env.lookup name) (s : Settings) :
    s.override env' = o.field.put (o.field.get (s.override env')) (s.override env) := by
  have hdue : ∀ w ∈ overrides, w.name ≠ o.name → w.due env' s = w.due env s := by
    intro w _ hw
    rw [Override.due, henv w.name hw]
    rfl
  rw [override_eq_putAll env, override_eq_putAll env',
    putAll_of_eq_off pairwise_overrides ho hdue, Part.get_put]

/-- What is due a second time is what is there. -/
theorem override_override (env : Environment) (s : Settings) :
    (s.override env).override env = s.override env := by
  rw [override_eq_putAll env (s.override env)]
  refine putAll_of_get fun o ho => ?_
  rw [Override.due, (overridden_override env s).own o ho, ← Option.getD_or, Option.or_self]

/--
What the environment makes of settings.  Each variable has a field of its own, which comes to be
what it reads in the value of the variable, and stays where it reads nothing there or the variable
is not set.  To set a variable otherwise, or not at all, changes its own field at most, whatever the
others are, and to apply all of them once more changes nothing.  Settings are had exactly when the
file holds some and, after all overrides, there are a worker, room in the cache, and an address to
go to if one is wanted.
-/
theorem override_field_by_field (env : Environment) (s : Settings) :
    Overridden env s (s.override env) ∧ ReadsValues ∧
    overrides.Pairwise (fun o w => o.name ≠ w.name ∧ o.field.Apart w.field) ∧
    (∀ o ∈ overrides, ∀ env' : Environment,
      (∀ name, name ≠ o.name → env'.lookup name = env.lookup name) →
      s.override env' = o.field.put (o.field.get (s.override env')) (s.override env)) ∧
    (s.override env).override env = s.override env ∧
    ∀ contents t, load env contents = .ok t ↔
      (∃ s, stored? env contents = some s ∧ s.override env = t) ∧
        (t.engine.kind = .remote → t.engine.remote.addresses ≠ []) ∧ 0 < t.events.workers ∧
        0 < t.cache.capacity :=
  ⟨overridden_override env s, readsValues, pairwise_overrides,
    fun _ ho _ henv => override_of_eq_off ho henv s, override_override env s,
    fun _ _ => load_eq_ok_iff⟩

/-- A number with a sign, a number that is none, a switch, and a word that names nothing. -/
def untidyEnvironment : Environment := [
  ("SPACE_SEARCH_CACHE_TTL_MS", "+250"), ("SPACE_SEARCH_EVENT_WORKERS", "many"),
  ("SPACE_SEARCH_ASYNC_UPLOADS", "Yes"), ("SPACE_SEARCH_ENGINE", "Remote")]

/--
The number and the switch are read, and the others let be.  With the switch set otherwise its own
field is another and nothing else, and settings are had without a file.
-/
theorem override_untidyEnvironment :
    let s := (default ".space-search").override untidyEnvironment
    s.cache.lifetime = 250 ∧ s.events.workers = 1 ∧ s.events.asyncUploads = true ∧
      s.engine.kind = .embedded ∧
      (default ".space-search").override
          (("SPACE_SEARCH_ASYNC_UPLOADS", "no") :: untidyEnvironment) =
        { s with events := { s.events with asyncUploads := false } } ∧
      load untidyEnvironment none = .ok s := by
  intro s
  obtain ⟨h, -, -, hoff, -, hload⟩ :=
    override_field_by_field untidyEnvironment (default ".space-search")
  have hmem : ∀ (i : Nat) (hi : i < overrides.length), overrides[i] ∈ overrides :=
    fun i hi => List.getElem_mem hi
  have hlifetime : s.cache.lifetime = 250 := (h.own _ (hmem 12 (by decide))).trans <| by
    show ((untidyEnvironment.lookup "SPACE_SEARCH_CACHE_TTL_MS").bind numberOf?).getD 1000 = 250
    decide +kernel
  have hworkers : s.events.workers = 1 := (h.own _ (hmem 11 (by decide))).trans <| by
    show ((untidyEnvironment.lookup "SPACE_SEARCH_EVENT_WORKERS").bind numberOf?).getD 1 = 1
    decide +kernel
  have hkind : s.engine.kind = .embedded := (h.own _ (hmem 0 (by decide))).trans rfl
  refine ⟨hlifetime, hworkers, (h.own _ (hmem 9 (by decide))).trans rfl, hkind, ?_, ?_⟩
  · have hothers : ∀ name, name ≠ "SPACE_SEARCH_ASYNC_UPLOADS" →
        List.lookup name (("SPACE_SEARCH_ASYNC_UPLOADS", "no") :: untidyEnvironment) =
          untidyEnvironment.lookup name := by
      intro name hname
      rw [List.lookup_cons, beq_eq_false_iff_ne.2 hname]
    exact hoff _ (hmem 9 (by decide)) _ hothers
  · -- no variable has the capacity of the cache as its field
    let capacity : Part Settings Nat :=
      { get := (·.cache.capacity)
        put := fun capacity s => { s with cache := { s.cache with capacity } } }
    have hapart : ∀ o ∈ overrides, capacity.Apart o.field := by
      simp only [overrides, List.forall_mem_cons, List.not_mem_nil, false_imp_iff, implies_true,
        and_true]
      and_intros <;> exact fun _ _ _ => rfl
    have hcapacity : s.cache.capacity = 1024 := h.rest capacity hapart
    refine (hload none s).2 ⟨⟨_, rfl, rfl⟩, ?_, ?_, ?_⟩
    · rw [hkind]
      exact nofun
    · rw [hworkers]
      decide
    · rw [hcapacity]
      decide

/-- The words for the two sides of a switch, in any case of their letters. -/
def IsSwitchWord (value : String) : Prop :=
  String.ofList (value.toList.map Char.toLower) ∈ ["1", "true", "yes", "0", "false", "no"]

/-- A word for neither side of a switch does not leave the switch where the file has set it. -/
theorem not_switch_kept :
    ¬ ∀ (env : Environment) (s : Settings) (value : String),
      env.lookup "SPACE_SEARCH_REBUILD_AFTER_MUTATION" = some value → ¬ IsSwitchWord value →
      (s.override env).events.rebuildAfterMutation = s.events.rebuildAfterMutation := by
  intro hkept
  have hword : ¬ IsSwitchWord "on" := by unfold IsSwitchWord; decide +kernel
  have hon := hkept [("SPACE_SEARCH_REBUILD_AFTER_MUTATION", "on")] (default "/data") "on" rfl hword
  exact absurd hon (by decide +kernel)

end Settings

end ScopedSearch
