import MessageBus.Config.Layer
import MessageBus.Proofs.Config.Shelf

namespace MessageBus.Toml.Value

/-- The entries of every table that keys lead to stand in ascending order. -/
def Ordered (v : Value) : Prop :=
  ∀ path entries, v.lookup path = some (.table entries) → Shelf.Sorted entries

def IsTable (v : Value) : Prop := ∃ entries, v = table entries

variable {v w : Value} {key : String} {path : List String}

@[simp]
theorem lookup_nil (v : Value) : v.lookup [] = some v := rfl

@[simp]
theorem get?_table (entries : Shelf Value) (key : String) :
    (table entries).get? key = entries.get? key := rfl

theorem get?_of_no_table (h : v.entries? = none) (key : String) : v.get? key = none := by
  simp [Value.get?, h]

theorem lookup_cons (v : Value) (key : String) (path : List String) :
    v.lookup (key :: path) = (v.get? key).bind fun next => next.lookup path := by
  rw [lookup]

theorem lookup_cons_of_get? (h : v.get? key = some w) : v.lookup (key :: path) = w.lookup path := by
  simp [lookup, h]

theorem table_or_not (v : Value) : v.IsTable ∨ v.entries? = none := by
  cases v with
  | table entries => exact .inl ⟨entries, rfl⟩
  | _ => exact .inr rfl

/-- What is no table has no tables below it either. -/
theorem ordered_of_no_table (h : v.entries? = none) : v.Ordered := by
  intro path entries found
  cases path with
  | nil =>
    rw [lookup_nil, Option.some.injEq] at found
    rw [found] at h
    simp [entries?] at h
  | cons key path => simp [lookup, get?_of_no_table h] at found

theorem Ordered.child (h : v.Ordered) (hk : v.get? key = some w) : w.Ordered := by
  intro path entries found
  exact h (key :: path) entries ((lookup_cons_of_get? hk).trans found)

theorem ordered_table {entries : Shelf Value} (sorted : entries.Sorted)
    (children : ∀ key w, entries.get? key = some w → w.Ordered) : (table entries).Ordered := by
  intro path inner found
  cases path with
  | nil =>
    rw [lookup_nil, Option.some.injEq, table.injEq] at found
    exact found ▸ sorted
  | cons key path =>
    obtain ⟨w, hw, found⟩ := Option.bind_eq_some_iff.mp found
    exact children key w hw path inner found

theorem Ordered.sorted {entries : Shelf Value} (h : (table entries).Ordered) : entries.Sorted :=
  h [] entries rfl

theorem ordered_empty : (table []).Ordered :=
  ordered_table Shelf.sorted_nil (by simp [Shelf.get?])

/-- A value laid over what may stand below it. -/
def layOver (below : Option Value) (v : Value) : Value := below.elim v (merge · v)

theorem merge_of_no_table (base : Value) (h : v.entries? = none) : merge base v = v := by
  cases v with
  | table entries => simp [entries?] at h
  | _ => cases base <;> simp [merge]

theorem merge_of_base (h : w.entries? = none) (v : Value) : merge w v = v := by
  cases w with
  | table entries => simp [entries?] at h
  | _ => simp [merge]

theorem merge_table (base overlay : Shelf Value) :
    merge (table base) (table overlay) = table (mergeEntries base overlay) := by
  rw [merge]

theorem sorted_mergeEntries {base : Shelf Value} (h : base.Sorted) (overlay : Shelf Value) :
    (mergeEntries base overlay).Sorted := by
  induction overlay generalizing base with
  | nil => rwa [mergeEntries]
  | cons entry rest ih =>
    obtain ⟨key, v⟩ := entry
    rw [mergeEntries]
    exact ih (h.put key _)

/-- Each entry of a table that is laid over another one is laid over the entry below it. -/
theorem get?_mergeEntries (base : Shelf Value) {overlay : Shelf Value} (h : overlay.Sorted)
    (key : String) : (mergeEntries base overlay).get? key =
      ((overlay.get? key).map (layOver (base.get? key))).or (base.get? key) := by
  induction overlay generalizing base with
  | nil => simp [mergeEntries, Shelf.get?]
  | cons entry rest ih =>
    obtain ⟨k, v⟩ := entry
    obtain ⟨above, tail⟩ := List.pairwise_cons.mp h
    rw [mergeEntries, ih _ tail, Shelf.get?_put, Shelf.get?]
    by_cases hk : key = k
    · -- The key comes once, so the rest of the overlay does not have it.
      have absent : Shelf.get? rest key = none := by
        rw [hk]
        exact Shelf.get?_eq_none_of_lt above
      rw [absent, if_pos hk, if_pos hk, hk]
      cases base.get? k <;> rfl
    · rw [if_neg hk, if_neg hk]

theorem get?_merge_table (base overlay : Shelf Value) (h : (table overlay).Ordered) (key : String) :
    (merge (table base) (table overlay)).get? key =
      ((overlay.get? key).map (layOver (base.get? key))).or (base.get? key) := by
  rw [merge_table, get?_table, get?_mergeEntries base h.sorted]

theorem Ordered.merge (hw : w.Ordered) (hv : v.Ordered) : (merge w v).Ordered := by
  intro path
  -- Along a path each value of the merged tree comes from one of the trees or is merged itself.
  induction path generalizing w v with
  | nil =>
    intro entries found
    rcases table_or_not w with ⟨base, rfl⟩ | hb
    · rcases table_or_not v with ⟨overlay, rfl⟩ | ho
      · rw [merge_table, lookup_nil, Option.some.injEq, table.injEq] at found
        exact found ▸ sorted_mergeEntries hw.sorted _
      · rw [merge_of_no_table _ ho] at found
        exact hv [] entries found
    · rw [merge_of_base hb] at found
      exact hv [] entries found
  | cons key path ih =>
    intro entries found
    rcases table_or_not w with ⟨base, rfl⟩ | hb
    · rcases table_or_not v with ⟨overlay, rfl⟩ | ho
      · rw [lookup, get?_merge_table _ _ hv] at found
        cases above : Shelf.get? overlay key with
        | none =>
          rw [above, Option.map_none, Option.none_or] at found
          exact hw (key :: path) entries found
        | some y =>
          rw [above, Option.map_some, Option.some_or, Option.bind_some] at found
          have upper : y.Ordered := hv.child above
          cases below : Shelf.get? base key with
          | none =>
            rw [below] at found
            exact upper path entries found
          | some x =>
            rw [below] at found
            exact ih (hw.child below) upper entries found
      · rw [merge_of_no_table _ ho] at found
        exact hv (key :: path) entries found
    · rw [merge_of_base hb] at found
      exact hv (key :: path) entries found

theorem isTable_merge (hw : w.IsTable) (hv : v.IsTable) : (merge w v).IsTable := by
  obtain ⟨base, rfl⟩ := hw
  obtain ⟨overlay, rfl⟩ := hv
  exact ⟨_, merge_table base overlay⟩

/-- Two tables are the same when they have the same under every key. -/
theorem Ordered.ext (hv : v.Ordered) (hw : w.Ordered) (tv : v.IsTable) (tw : w.IsTable)
    (same : ∀ key, v.get? key = w.get? key) : v = w := by
  obtain ⟨entries, rfl⟩ := tv
  obtain ⟨entries', rfl⟩ := tw
  exact congrArg table (hv.sorted.ext hw.sorted same)

/-- Laying a tree over an empty table gives the tree. -/
theorem merge_empty (h : v.Ordered) : merge (table []) v = v := by
  rcases table_or_not v with ⟨entries, rfl⟩ | hv
  · rw [merge_table, table.injEq]
    refine (sorted_mergeEntries Shelf.sorted_nil _).ext h.sorted fun key => ?_
    rw [get?_mergeEntries [] h.sorted, Shelf.get?]
    cases Shelf.get? entries key <;> rfl
  · exact merge_of_no_table _ hv

/-- Laying an empty table over a table leaves it as it is. -/
theorem merge_table_empty (base : Shelf Value) : merge (table base) (table []) = table base := by
  rw [merge_table, mergeEntries]

end MessageBus.Toml.Value
