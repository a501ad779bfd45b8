import MessageBus.Proofs.Config.Layers

namespace MessageBus.Toml.Value

/-- Whether something other than a table stands on the way along some keys, short of their end. -/
def Hides (v : Value) (path : List String) : Prop :=
  ∃ front w, front <+: path ∧ front ≠ path ∧ v.lookup front = some w ∧ ¬ w.IsTable

variable {v w base overlay : Value} {key : String} {path : List String}

theorem not_isTable (h : v.entries? = none) : ¬ v.IsTable := by
  rintro ⟨entries, rfl⟩
  simp [entries?] at h

theorem hides_of_no_table (h : v.entries? = none) : v.Hides (key :: path) :=
  ⟨[], v, List.nil_prefix, by simp, rfl, not_isTable h⟩

/-- What is in the way in a table is in the way below its entry. -/
theorem hides_table_iff {entries : Shelf Value} : (table entries).Hides (key :: path) ↔
    ∃ next, Shelf.get? entries key = some next ∧ next.Hides path := by
  constructor
  · rintro ⟨front, w, initial, ne, found, other⟩
    cases front with
    | nil => exact absurd ⟨entries, (Option.some.inj found).symm⟩ other
    | cons first front =>
      obtain ⟨rfl, shorter⟩ := List.cons_prefix_cons.mp initial
      obtain ⟨next, here, found⟩ := Option.bind_eq_some_iff.mp found
      exact ⟨next, here, front, w, shorter, fun e => ne (e ▸ rfl), found, other⟩
  · rintro ⟨next, here, front, w, initial, ne, found, other⟩
    refine ⟨key :: front, w, List.cons_prefix_cons.mpr ⟨rfl, initial⟩, ?_, ?_, other⟩
    · exact fun e => ne (List.cons.inj e).2
    · exact (lookup_cons_of_get? (v := table entries) here).trans found

theorem lookup_of_no_table (h : v.entries? = none) (key : String) (path : List String) :
    v.lookup (key :: path) = none := by
  rw [lookup_cons, get?_of_no_table h, Option.bind_none]

/-- Where the upper tree has something, the merged tree has it, laid over what the lower tree has
there. -/
theorem lookup_merge_of_some (ho : overlay.Ordered) (base : Value)
    (found : overlay.lookup path = some v) :
    (merge base overlay).lookup path = some (layOver (base.lookup path) v) := by
  induction path generalizing base overlay with
  | nil =>
    rw [lookup_nil, Option.some.injEq] at found
    rw [← found]
    rfl
  | cons key path ih =>
    rcases table_or_not base with ⟨lower, rfl⟩ | hb
    · rcases table_or_not overlay with ⟨upper, rfl⟩ | hu
      · obtain ⟨next, above, found⟩ := Option.bind_eq_some_iff.mp found
        rw [get?_table] at above
        rw [lookup_cons, get?_merge_table _ _ ho, lookup_cons, get?_table, above]
        cases Shelf.get? lower key with
        | none => exact found
        | some below => exact ih (ho.child above) below found
      · rw [lookup_of_no_table hu] at found
        simp at found
    · rw [merge_of_base hb, lookup_of_no_table hb]
      exact found

/-- Where the upper tree has nothing, the merged tree has what the lower one has, unless something
in the upper tree is in the way. -/
theorem lookup_merge_of_none (ho : overlay.Ordered) (tb : base.IsTable)
    (absent : overlay.lookup path = none) :
    (overlay.Hides path → (merge base overlay).lookup path = none) ∧
      (¬ overlay.Hides path → (merge base overlay).lookup path = base.lookup path) := by
  induction path generalizing base overlay with
  | nil => simp at absent
  | cons key path ih =>
    obtain ⟨lower, rfl⟩ := tb
    rcases table_or_not overlay with ⟨upper, rfl⟩ | hu
    · rw [lookup_cons, get?_table] at absent
      rw [hides_table_iff, lookup_cons, get?_merge_table _ _ ho, lookup_cons, get?_table]
      cases above : Shelf.get? upper key with
      | none => simp
      | some next =>
        rw [above, Option.bind_some] at absent
        simp only [Option.some.injEq, exists_eq_left', Option.map_some, Option.some_or,
          Option.bind_some]
        cases Shelf.get? lower key with
        | none => exact ⟨fun _ => absent, fun _ => absent⟩
        | some below =>
          rw [Option.bind_some, layOver, Option.elim_some]
          rcases table_or_not below with tb | hb
          · exact ih (ho.child above) tb absent
          · -- What the upper tree has here takes the place of a value that leads nowhere.
            rw [merge_of_base hb, absent]
            cases path with
            | nil => simp at absent
            | cons key path => simp [lookup_of_no_table hb]
    · rw [merge_of_no_table _ hu, lookup_of_no_table hu]
      exact ⟨fun _ => rfl, fun clear => absurd (hides_of_no_table hu) clear⟩

/-- Whether a place leads somewhere in a tree that is laid over another one. -/
theorem isSome_lookup_merge (ho : overlay.Ordered) (hp : path ≠ []) :
    ((merge base overlay).lookup path).isSome = true ↔ (overlay.lookup path).isSome = true ∨
      (base.lookup path).isSome = true ∧ ¬ overlay.Hides path := by
  cases above : overlay.lookup path with
  | some v => simp [lookup_merge_of_some ho base above]
  | none =>
    rcases table_or_not base with tb | hb
    · obtain ⟨hidden, clear⟩ := lookup_merge_of_none ho tb above
      by_cases hh : overlay.Hides path
      · simp [hidden hh, hh]
      · simp [clear hh, hh]
    · cases path with
      | nil => exact absurd rfl hp
      | cons key path => simp [merge_of_base hb, above, lookup_of_no_table hb]

/-- What a tree laid over another one has in every place. Something other than a table comes from
the upper tree as it is; a table of the upper tree is laid over the one below it, if there is one
there; where the upper tree has nothing, the lower one shows through, unless something in the upper
tree is in the way. A dotted path leads somewhere accordingly. -/
theorem merge_shows (base overlay : Value) (ho : overlay.Ordered) :
    (¬ (base.IsTable ∧ overlay.IsTable) → merge base overlay = overlay) ∧
    (base.IsTable → overlay.IsTable → ∀ path,
      (∀ v, overlay.lookup path = some v → ¬ v.IsTable →
        (merge base overlay).lookup path = some v) ∧
      (∀ t, overlay.lookup path = some t → t.IsTable →
        (∀ b, base.lookup path = some b → b.IsTable →
          (merge base overlay).lookup path = some (merge b t)) ∧
        ((∀ b, base.lookup path = some b → ¬ b.IsTable) →
          (merge base overlay).lookup path = some t)) ∧
      (overlay.lookup path = none → overlay.Hides path →
        (merge base overlay).lookup path = none) ∧
      (overlay.lookup path = none → ¬ overlay.Hides path →
        (merge base overlay).lookup path = base.lookup path)) ∧
    ∀ p : String,
      (['.'].intercalate ((keysOf p).map String.toList) = p.toList ∧
        ∀ key ∈ keysOf p, '.' ∉ key.toList) ∧
      ((merge base overlay).hasPath p = true ↔
        overlay.hasPath p = true ∨ base.hasPath p = true ∧ ¬ overlay.Hides (keysOf p)) := by
  have no_table {v : Value} (h : ¬ v.IsTable) : v.entries? = none := (table_or_not v).resolve_left h
  refine ⟨fun mixed => ?_, fun tb tu path => ⟨?_, ?_, ?_, ?_⟩, fun p => ⟨?_, ?_⟩⟩
  · rcases not_and_or.mp mixed with hb | hu
    · exact merge_of_base (no_table hb) overlay
    · exact merge_of_no_table base (no_table hu)
  · intro v above other
    rw [lookup_merge_of_some ho base above, layOver]
    cases base.lookup path with
    | none => rfl
    | some b => rw [Option.elim_some, merge_of_no_table b (no_table other)]
  · intro t above tt
    rw [lookup_merge_of_some ho base above]
    refine ⟨fun b below tb => by rw [below, layOver, Option.elim_some], fun other => ?_⟩
    cases below : base.lookup path with
    | none => rfl
    | some b => rw [layOver, Option.elim_some, merge_of_base (no_table (other b below))]
  · exact fun absent hidden => (lookup_merge_of_none ho tb absent).1 hidden
  · exact fun absent clear => (lookup_merge_of_none ho tb absent).2 clear
  · obtain ⟨joined, clean⟩ := Text.splitOn_spec '.' p.toList
    refine ⟨?_, ?_⟩
    · simpa [keysOf, Text.parts, Function.comp_def] using joined
    · simpa [keysOf, Text.parts] using clean
  · exact isSome_lookup_merge ho (Config.keysOf_ne_nil p)

/-- A text takes the place of a whole section, and a section that stays gets a second entry. -/
theorem merge_shows_covered :
    let base := putAt (integer 1) ["sinks", "depth"]
      (putAt (string "info") ["logging", "level"] (table []))
    let overlay := putAt (string "box") ["sinks", "name"]
      (putAt (string "off") ["logging"] (table []))
    overlay.Ordered ∧ base.hasPath "logging.level" = true ∧
      (merge base overlay).lookup ["logging"] = some (string "off") ∧
      (merge base overlay).lookup ["logging", "level"] = none ∧
      (merge base overlay).lookup ["sinks", "depth"] = some (integer 1) ∧
      (merge base overlay).hasPath "sinks.depth" = true := by
  intro base overlay
  have ordered : overlay.Ordered :=
    (ordered_empty.putAt (ordered_of_no_table rfl) _).putAt (ordered_of_no_table rfl) _
  have tb : base.IsTable := ⟨_, rfl⟩
  have tables : overlay.IsTable := ⟨_, rfl⟩
  obtain ⟨-, places, paths⟩ := merge_shows base overlay ordered
  have text : ¬ (string "off").IsTable := not_isTable rfl
  have hidden : overlay.Hides ["logging", "level"] :=
    ⟨["logging"], string "off", ⟨["level"], rfl⟩, by simp, rfl, text⟩
  have clear : ¬ overlay.Hides ["sinks", "depth"] := by
    intro hidden
    obtain ⟨next, here, hidden⟩ := hides_table_iff.mp hidden
    have entries : next = table [("name", string "box")] := (Option.some.inj here).symm
    rw [entries] at hidden
    obtain ⟨next, here, -⟩ := hides_table_iff.mp hidden
    simp [Shelf.get?] at here
  have keys : keysOf "sinks.depth" = ["sinks", "depth"] := by decide +kernel
  have depth : (merge base overlay).lookup ["sinks", "depth"] = some (integer 1) :=
    (places tb tables ["sinks", "depth"]).2.2.2 rfl clear
  refine ⟨ordered, by decide +kernel, ?_, ?_, depth, ?_⟩
  · exact (places tb tables ["logging"]).1 _ rfl text
  · exact (places tb tables ["logging", "level"]).2.2.1 rfl hidden
  · exact (paths "sinks.depth").2.mpr (.inr ⟨by decide +kernel, keys ▸ clear⟩)

end MessageBus.Toml.Value
