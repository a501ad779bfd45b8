import MessageBus.Proofs.Config.Overlay

namespace MessageBus.Toml.Value

variable {v w root : Value} {key : String} {path path' : List String}

theorem not_hides_nil (v : Value) : ¬ v.Hides [] := by
  rintro ⟨front, w, initial, ne, -, -⟩
  exact ne (List.prefix_nil.mp initial)

theorem not_hides_empty (path : List String) : ¬ (table []).Hides path := by
  cases path with
  | nil => exact not_hides_nil _
  | cons key path =>
    rw [hides_table_iff]
    rintro ⟨next, here, -⟩
    simp [Shelf.get?] at here

theorem isTable_of_not_hides (h : ¬ root.Hides (key :: path)) : root.IsTable :=
  (table_or_not root).resolve_right fun none => h (hides_of_no_table none)

theorem not_hides_childAt (h : ¬ root.Hides (key :: path)) : ¬ (root.childAt key).Hides path := by
  obtain ⟨entries, rfl⟩ := isTable_of_not_hides h
  rw [childAt, get?_table]
  cases here : Shelf.get? entries key with
  | none => exact not_hides_empty _
  | some next => exact fun below => h (hides_table_iff.mpr ⟨next, here, below⟩)

theorem Ordered.table_put_self {entries : Shelf Value} (h : (table entries).Ordered)
    (hk : Shelf.get? entries key = some w) : table (Shelf.put entries key w) = table entries := by
  have still (other : String) : Shelf.get? (Shelf.put entries key w) other =
      Shelf.get? entries other := by
    rw [Shelf.get?_put]
    by_cases same : other = key
    · rw [if_pos same, same, hk]
    · rw [if_neg same]
  have ordered : (table (Shelf.put entries key w)).Ordered :=
    ordered_table (h.sorted.put key w) fun other x hx => h.child ((still other).symm.trans hx)
  exact ordered.ext h ⟨_, rfl⟩ ⟨_, rfl⟩ still

/-- What is put behind something that is in the way is lost. -/
theorem putAt_of_hides (ho : root.Ordered) (h : root.Hides path) (v : Value) :
    putAt v path root = root := by
  induction path generalizing root with
  | nil => rfl
  | cons key path ih =>
    rcases table_or_not root with ⟨entries, rfl⟩ | none
    · obtain ⟨next, here, below⟩ := hides_table_iff.mp h
      have child : (table entries).childAt key = next := by
        rw [childAt, get?_table, here]
        rfl
      rw [putAt_table, child]
      cases path with
      | nil => exact absurd below (not_hides_nil next)
      | cons second path =>
        rw [fill, ih (ho.child (v := table entries) here) below]
        exact ho.table_put_self here
    · exact putAt_of_no_table v _ none

/-- What is put where nothing is in the way is there. -/
theorem lookup_putAt_self (h : ¬ root.Hides path) (hp : path ≠ []) (v : Value) :
    (putAt v path root).lookup path = some v := by
  induction path generalizing root with
  | nil => exact absurd rfl hp
  | cons key path ih =>
    obtain ⟨entries, rfl⟩ := isTable_of_not_hides h
    rw [lookup_cons, get?_putAt v key path ⟨entries, rfl⟩, if_pos rfl, Option.bind_some]
    cases path with
    | nil => rfl
    | cons second path => exact ih (not_hides_childAt h) (by simp)

/-- What is put in one place changes nothing about a place apart from it, nor about what is in the
way to it. -/
theorem putAt_apart (apart : Apart path path') (v root : Value) :
    (putAt v path root).lookup path' = root.lookup path' ∧
      ((putAt v path root).Hides path' ↔ root.Hides path') := by
  induction path generalizing root path' with
  | nil => exact absurd List.nil_prefix apart.1
  | cons key path ih =>
    cases path' with
    | nil => exact absurd List.nil_prefix apart.2
    | cons key' path' =>
      rcases table_or_not root with ⟨entries, rfl⟩ | none
      · have put := get?_putAt v key path ⟨entries, rfl⟩ key'
        rw [putAt_table, get?_table, get?_table] at put
        rw [putAt_table, lookup_cons, get?_table, lookup_cons, get?_table, hides_table_iff,
          hides_table_iff, put]
        by_cases same : key' = key
        · -- Both places lie below one entry, which may have to be made.
          subst same
          have below : Apart path path' := by
            simpa [Apart, List.cons_prefix_cons] using apart
          have further : path ≠ [] := by
            rintro rfl
            exact below.1 List.nil_prefix
          have filled := fill_of_ne_nil further v ((table entries).childAt key')
          obtain ⟨same_lookup, same_hides⟩ := ih below ((table entries).childAt key')
          rw [if_pos rfl, filled, Option.bind_some, same_lookup]
          simp only [Option.some.injEq, exists_eq_left', same_hides]
          rw [childAt, get?_table]
          cases Shelf.get? entries key' with
          | none =>
            have ne : path' ≠ [] := fun e => below.2 (e ▸ List.nil_prefix)
            obtain ⟨second, rest, rfl⟩ := List.exists_cons_of_ne_nil ne
            exact ⟨rfl, by simp [not_hides_empty]⟩
          | some next => exact ⟨rfl, by simp⟩
        · rw [if_neg same]
          exact ⟨rfl, Iff.rfl⟩
      · rw [putAt_of_no_table v _ none]
        exact ⟨rfl, Iff.rfl⟩

end MessageBus.Toml.Value

namespace MessageBus.Config

open Toml (Value)

/-- Whether the file leaves the field of a fallback unset, and its variable is set. -/
def Fallback.isNeeded (f : Fallback) (file : Option Value) (env : Environment) : Bool :=
  f.isOpen file && (env.get? f.name).isSome

/-- Whether there is room for the fields of logging: nothing but a table is in the place of the tree
and, if there is anything, of its section for logging. -/
def HoldsLogging (root : Value) : Prop :=
  root.IsTable ∧ ∀ v, root.get? "logging" = some v → v.IsTable

variable {file : Option Value} {env : Environment} {f : Fallback} {fs : List Fallback}
  {root result : Value} {count n : Nat}

/-- All fallbacks are for fields of the same section. -/
theorem hides_field_iff (hf : f ∈ fallbacks) (root : Value) :
    root.Hides (Value.keysOf f.field) ↔ ¬ HoldsLogging root := by
  have sectioned : ∀ g ∈ fallbacks, (Value.keysOf g.field).dropLast = ["logging"] := by
    decide +kernel
  rw [← List.dropLast_append_getLast (keysOf_ne_nil f.field), sectioned f hf, List.singleton_append]
  constructor
  · rintro hidden ⟨⟨entries, rfl⟩, tables⟩
    obtain ⟨next, here, below⟩ := Value.hides_table_iff.mp hidden
    obtain ⟨inner, rfl⟩ := tables next here
    obtain ⟨last, -, beyond⟩ := Value.hides_table_iff.mp below
    exact Value.not_hides_nil last beyond
  · intro full
    by_contra clear
    obtain ⟨entries, rfl⟩ := Value.isTable_of_not_hides clear
    refine full ⟨⟨entries, rfl⟩, fun next here => ?_⟩
    exact Value.isTable_of_not_hides fun below =>
      clear (Value.hides_table_iff.mpr ⟨next, here, below⟩)

/-- Fallbacks that are applied without an error are counted and put in, one after the other, where
they are needed. -/
theorem applyEach_ok (h : applyEach file env fs root count = (result, .ok n)) :
    n = count + (fs.filter (·.isNeeded file env)).length ∧
      result = (fs.filter (·.isNeeded file env)).foldl (Fallback.putInto env) root ∧
      ∀ f ∈ fs, f.isNeeded file env = true → f.given? env = (env.get? f.name).map Text.trim := by
  induction fs generalizing root count with
  | nil =>
    obtain ⟨same, counted⟩ := Prod.mk.inj h
    refine ⟨(Except.ok.inj counted).symm, same.symm, by simp⟩
  | cons f fs ih =>
    rw [applyEach, text?_eq] at h
    cases blank : f.isBlank file env with
    | true => simp [blank] at h
    | false =>
      rw [blank, if_neg Bool.false_ne_true] at h
      have given : f.isNeeded file env = true → f.given? env = (env.get? f.name).map Text.trim := by
        intro needed
        obtain ⟨isOpen, set⟩ := Bool.and_eq_true_iff.mp needed
        obtain ⟨text, ht⟩ := Option.isSome_iff_exists.mp set
        have filled : Text.trim text ≠ "" := by
          simpa [Fallback.isBlank, isOpen, ht] using blank
        simp [Fallback.given?, ht, Option.filter, filled]
      cases needed : f.isNeeded file env with
      | true =>
        obtain ⟨isOpen, set⟩ := Bool.and_eq_true_iff.mp needed
        obtain ⟨text, ht⟩ := Option.isSome_iff_exists.mp set
        have said : f.given? env = some (Text.trim text) := by
          rw [given needed, ht, Option.map_some]
        rw [isOpen, if_pos rfl, said] at h
        obtain ⟨counted, put, rest⟩ := ih h
        rw [List.filter_cons, needed, if_pos rfl, List.foldl_cons, Fallback.putInto, said]
        refine ⟨?_, put, List.forall_mem_cons.mpr ⟨given, rest⟩⟩
        rw [List.length_cons]
        omega
      | false =>
        have nothing : (if f.isOpen file then f.given? env else none) = none := by
          rcases Bool.and_eq_false_iff.mp needed with closed | unset
          · rw [closed, if_neg Bool.false_ne_true]
          · have absent : env.get? f.name = none := by simpa using unset
            simp [Fallback.given?, absent]
        rw [nothing] at h
        obtain ⟨counted, put, rest⟩ := ih h
        rw [List.filter_cons, needed, if_neg Bool.false_ne_true]
        exact ⟨counted, put, List.forall_mem_cons.mpr ⟨given, rest⟩⟩

theorem putInto_apart {path : List String} (apart : Value.Apart (Value.keysOf f.field) path)
    (env : Environment) (root : Value) : (f.putInto env root).lookup path = root.lookup path ∧
      ((f.putInto env root).Hides path ↔ root.Hides path) := by
  rw [Fallback.putInto_eq]
  cases f.given? env with
  | none => exact ⟨rfl, Iff.rfl⟩
  | some text => exact Value.putAt_apart apart (.string text) root

/-- Texts that are put in change nothing apart from their fields. -/
theorem foldl_putInto_apart {path : List String}
    (apart : ∀ f ∈ fs, Value.Apart (Value.keysOf f.field) path) (env : Environment) (root : Value) :
    (fs.foldl (Fallback.putInto env) root).lookup path = root.lookup path := by
  induction fs generalizing root with
  | nil => rfl
  | cons f fs ih =>
    rw [List.foldl_cons, ih (fun g hg => apart g (List.mem_cons_of_mem _ hg))]
    exact (putInto_apart (apart f List.mem_cons_self) env root).1

/-- Each text is there when nothing is in the way of its field. -/
theorem lookup_foldl_putInto_self (separate : Separate fs) {text : String} (hf : f ∈ fs)
    (given : f.given? env = some text) (clear : ¬ root.Hides (Value.keysOf f.field)) :
    (fs.foldl (Fallback.putInto env) root).lookup (Value.keysOf f.field) = some (.string text) := by
  induction fs generalizing root with
  | nil => simp at hf
  | cons g fs ih =>
    obtain ⟨first, rest⟩ := List.pairwise_cons.mp separate
    rw [List.foldl_cons]
    rcases List.mem_cons.mp hf with rfl | later
    · have away : ∀ g ∈ fs, Value.Apart (Value.keysOf g.field) (Value.keysOf f.field) :=
        fun g hg => ⟨(first g hg).2, (first g hg).1⟩
      rw [foldl_putInto_apart away, Fallback.putInto_eq, given]
      exact Value.lookup_putAt_self clear (keysOf_ne_nil f.field) _
    · apply ih rest later
      rwa [(putInto_apart (first f later) env root).2]

/-- Texts whose fields are out of reach are lost, all of them. -/
theorem foldl_putInto_hidden (ho : root.Ordered)
    (hidden : ∀ f ∈ fs, root.Hides (Value.keysOf f.field)) (env : Environment) :
    fs.foldl (Fallback.putInto env) root = root := by
  induction fs with
  | nil => rfl
  | cons f fs ih =>
    have lost : f.putInto env root = root := by
      rw [Fallback.putInto_eq]
      cases f.given? env with
      | none => rfl
      | some text => exact Value.putAt_of_hides ho (hidden f List.mem_cons_self) _
    rw [List.foldl_cons, lost]
    exact ih fun g hg => hidden g (List.mem_cons_of_mem _ hg)

/-- What is counted, when fallbacks are applied without an error, are the fields that the file
leaves unset and whose variables are set. All these variables are put into the tree when it has
room for logging, and none of them when it has not. Nothing else changes. -/
theorem applyFallbacks_counts_needed {merged : Value} (ordered : merged.Ordered)
    (applied : applyFallbacks merged file env = (result, .ok n)) :
    n = (fallbacks.filter fun f => f.isOpen file && (env.get? f.name).isSome).length ∧
      (HoldsLogging merged → ∀ f ∈ fallbacks, f.isOpen file = true → ∀ text,
        env.get? f.name = some text →
          result.lookup (Value.keysOf f.field) = some (.string (Text.trim text))) ∧
      (¬ HoldsLogging merged → result = merged) ∧
      ∀ path, (∀ f ∈ fallbacks, f.isOpen file = true → (env.get? f.name).isSome = true →
        Value.Apart (Value.keysOf f.field) path) → result.lookup path = merged.lookup path := by
  obtain ⟨counted, put, given⟩ := applyEach_ok applied
  refine ⟨counted.trans (Nat.zero_add _), fun room f hf isOpen text set => ?_, fun full => ?_,
    fun path apart => ?_⟩
  · have needed : f.isNeeded file env = true := by rw [Fallback.isNeeded, isOpen, set]; rfl
    have said : f.given? env = some (Text.trim text) := by rw [given f hf needed, set]; rfl
    rw [put]
    apply lookup_foldl_putInto_self (separate_fallbacks.filter _)
      (List.mem_filter.mpr ⟨hf, needed⟩) said
    rw [hides_field_iff hf]
    exact not_not.mpr room
  · rw [put]
    apply foldl_putInto_hidden ordered
    intro f hf
    exact (hides_field_iff (List.mem_filter.mp hf).1 merged).mpr full
  · rw [put]
    apply foldl_putInto_apart
    intro f hf
    obtain ⟨listed, needed⟩ := List.mem_filter.mp hf
    obtain ⟨isOpen, set⟩ := Bool.and_eq_true_iff.mp needed
    exact apart f listed isOpen set

/-- A level is put into a section that has none, and a format that the file has is left alone. -/
theorem applyFallbacks_counts_needed_level :
    let merged := Value.putAt (.string "json") ["logging", "format"] (.table [])
    let env : Environment := [("POSTAL_LOG_FORMAT", "pretty"), ("POSTAL_LOG_LEVEL", " debug ")]
    ∃ result, applyFallbacks merged (some merged) env = (result, .ok 1) ∧
      result.lookup ["logging", "level"] = some (.string "debug") ∧
      result.lookup ["logging", "format"] = some (.string "json") := by
  intro merged env
  have ordered : merged.Ordered := Value.ordered_empty.putAt (Value.ordered_of_no_table rfl) _
  have applied : applyFallbacks merged (some merged) env =
      ((applyFallbacks merged (some merged) env).1, .ok 1) := by
    apply Prod.ext rfl
    decide +kernel
  have room : HoldsLogging merged := by
    refine ⟨⟨_, rfl⟩, fun v hv => ?_⟩
    rw [← Option.some.inj hv]
    exact ⟨_, rfl⟩
  obtain ⟨-, put, -, others⟩ := applyFallbacks_counts_needed ordered applied
  have keys : Value.keysOf "logging.level" = ["logging", "level"] := by decide +kernel
  refine ⟨_, applied, ?_, ?_⟩
  · have trimmed : Text.trim " debug " = "debug" := by decide +kernel
    rw [← keys, ← trimmed]
    exact put room { name := "POSTAL_LOG_LEVEL", field := "logging.level" } (by decide)
      (by decide +kernel) " debug " (by decide +kernel)
  · apply others
    have only_level : ∀ f ∈ fallbacks, f.isOpen (some merged) = true →
        ¬ Value.keysOf f.field <+: ["logging", "format"] ∧
          ¬ ["logging", "format"] <+: Value.keysOf f.field := by
      decide +kernel
    exact fun f hf isOpen _ => only_level f hf isOpen

/-- A variable is counted also when the section of its field is a number, and then its text is
lost. -/
theorem applyFallbacks_counts_lost :
    let merged := Value.putAt (.integer 3) ["logging"] (.table [])
    let env : Environment := [("POSTAL_LOG_LEVEL", "debug")]
    merged.Ordered ∧ applyFallbacks merged none env = (merged, .ok 1) ∧
      merged.lookup (Value.keysOf "logging.level") ≠ some (.string (Text.trim "debug")) := by
  intro merged env
  have keys : Value.keysOf "logging.level" = ["logging", "level"] := by decide +kernel
  have ordered : merged.Ordered := Value.ordered_empty.putAt (Value.ordered_of_no_table rfl) _
  refine ⟨ordered, Prod.ext ?_ (by decide +kernel), ?_⟩
  · show Value.putAt _ (Value.keysOf "logging.level") merged = merged
    rw [keys]
    rfl
  · rw [keys]
    intro found
    cases found

end MessageBus.Config
