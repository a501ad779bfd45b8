import MessageBus.Proofs.Config.Tree
import MessageBus.Proofs.Text.Parts

namespace MessageBus.Toml.Value

/-- What stands in the place that keys lead to once a value was put there: the value itself where no
keys are left. -/
def fill (v : Value) : List String → Value → Value
  | [], _ => v
  | key :: path, root => putAt v (key :: path) root

/-- What stands under a key, or an empty table to be made there. -/
def childAt (root : Value) (key : String) : Value := (root.get? key).getD (table [])

/-- Whether a value can be put where keys lead to in place of something else than a table: as far as
they lead at all, they lead through tables, and not to a table. -/
def Ready : Value → List String → Prop
  | v, [] => v.entries? = none
  | v, key :: path => v.entries?.isSome = true ∧ ∀ w, v.get? key = some w → Ready w path

/-- Whether neither of two places is on the way to the other one. -/
def Apart (path path' : List String) : Prop := ¬ path <+: path' ∧ ¬ path' <+: path

variable {v w root base overlay : Value} {key : String} {path path' : List String}

/-- Taking the last key off a dotted path first makes no difference. -/
theorem fieldKeys_eq (path : String) : fieldKeys path = keysOf path := by
  rw [fieldKeys, keysOf]
  cases cut : Text.lastPart? '.' path with
  | none => exact (Text.parts_of_lastPart?_eq_none cut).2.symm
  | some pieces => exact (Text.parts_of_lastPart? cut).2.2.symm

theorem setField_eq (root : Value) (path : String) (v : Value) :
    root.setField path v = putAt v (keysOf path) root := by
  rw [setField, fieldKeys_eq]

theorem ready_empty (hp : path ≠ []) : (table []).Ready path := by
  cases path with
  | nil => exact absurd rfl hp
  | cons key path => exact ⟨rfl, by simp [Shelf.get?]⟩

theorem Ready.table (h : root.Ready (key :: path)) : root.IsTable := by
  rcases table_or_not root with table | none
  · exact table
  · simp [none, Ready] at h

theorem ready_of_lookup (h : root.lookup path = some v)
    (hv : v.entries? = none) : root.Ready path := by
  induction path generalizing root with
  | nil => exact Option.some.inj h ▸ hv
  | cons key path ih =>
    obtain ⟨w, hw, found⟩ := Option.bind_eq_some_iff.mp h
    refine ⟨?_, fun w' hw' => ih (Option.some.inj (hw'.symm.trans hw) ▸ found)⟩
    rcases table_or_not root with ⟨entries, rfl⟩ | none
    · rfl
    · simp [get?_of_no_table none] at hw

/-- One that is not there yet is made ready. -/
theorem Ready.child (h : root.Ready (key :: path)) (hp : path ≠ []) :
    (root.childAt key).Ready path := by
  rw [childAt]
  cases hk : root.get? key with
  | none => exact ready_empty hp
  | some w => exact h.2 w hk

theorem Ordered.childAt (h : root.Ordered) (key : String) : (root.childAt key).Ordered := by
  rw [Value.childAt]
  cases hk : root.get? key with
  | none => exact ordered_empty
  | some w => exact h.child hk

theorem putAt_table (v : Value) (key : String) (path : List String) (entries : Shelf Value) :
    putAt v (key :: path) (table entries) =
      table (entries.put key (fill v path ((table entries).childAt key))) := by
  cases path with
  | nil => rfl
  | cons next path => rfl

theorem putAt_of_no_table (v : Value) (path : List String) (h : root.entries? = none) :
    putAt v path root = root := by
  cases root with
  | table entries => simp [entries?] at h
  | _ =>
    cases path with
    | nil => rfl
    | cons key path => cases path <;> rfl

theorem fill_of_ne_nil (hp : path ≠ []) (v root : Value) :
    fill v path root = putAt v path root := by
  obtain ⟨key, path, rfl⟩ := List.exists_cons_of_ne_nil hp
  rfl

theorem get?_putAt (v : Value) (key : String) (path : List String) (h : root.IsTable)
    (other : String) : (putAt v (key :: path) root).get? other =
      if other = key then some (fill v path (root.childAt key)) else root.get? other := by
  obtain ⟨entries, rfl⟩ := h
  rw [putAt_table, get?_table, Shelf.get?_put, get?_table]

theorem Ordered.putAt (h : root.Ordered) (hv : v.Ordered) (path : List String) :
    (putAt v path root).Ordered := by
  induction path generalizing root with
  | nil => exact h
  | cons key path ih =>
    rcases table_or_not root with ⟨entries, rfl⟩ | none
    · rw [putAt_table]
      refine ordered_table (h.sorted.put key _) fun other w hw => ?_
      rw [Shelf.get?_put] at hw
      split at hw
      · rw [← Option.some.inj hw]
        cases path with
        | nil => exact hv
        | cons next path => exact ih (h.childAt key)
      · exact h.child hw
    · rw [putAt_of_no_table v _ none]
      exact h

theorem lookup_empty (path : List String) (hu : w.entries? = none) :
    (table []).lookup path ≠ some w := by
  intro found
  cases path with
  | nil => simp [← Option.some.inj found, entries?] at hu
  | cons key path => simp [lookup, Value.get?, entries?, Shelf.get?] at found

theorem lookup_childAt_iff (hw : w.entries? = none) :
    (root.childAt key).lookup path = some w ↔ root.lookup (key :: path) = some w := by
  rw [childAt, lookup_cons]
  cases root.get? key with
  | none => simpa using lookup_empty path hw
  | some x => rfl

/-- Of what is no table there is the value that was put into a tree and what was there before, but
for what the value took the place of. -/
theorem lookup_putAt_iff (h : root.Ready path) (hp : path ≠ []) (hv : v.entries? = none)
    (hw : w.entries? = none) (place : List String) :
    (putAt v path root).lookup place = some w ↔
      if place = path then v = w else root.lookup place = some w := by
  induction path generalizing root place with
  | nil => exact absurd rfl hp
  | cons key path ih =>
    obtain ⟨entries, rfl⟩ := h.table
    cases place with
    | nil =>
      rw [putAt_table]
      have no_table (es : Shelf Value) : table es ≠ w := fun e => by simp [← e, entries?] at hw
      simp [no_table]
    | cons key' place =>
      rw [lookup_cons, get?_putAt v key path ⟨entries, rfl⟩]
      by_cases same : key' = key
      · subst same
        rw [if_pos rfl, Option.bind_some]
        cases path with
        | nil =>
          cases place with
          | nil => simp [fill]
          | cons next place =>
            have old : (table entries).lookup (key' :: next :: place) = none := by
              rw [lookup_cons]
              cases hk : (table entries).get? key' with
              | none => rfl
              | some x => simp [lookup_cons, get?_of_no_table (h.2 x hk)]
            simp [fill, lookup_cons v, get?_of_no_table hv, old]
        | cons next path =>
          rw [fill, ih (h.child (by simp)) (by simp), lookup_childAt_iff hw]
          simp
      · rw [if_neg same, ← lookup_cons]
        simp [same]

theorem Ready.putAt (h : root.Ready path') (apart : Apart path path') :
    (putAt v path root).Ready path' := by
  induction path generalizing root path' with
  | nil => exact absurd List.nil_prefix apart.1
  | cons key path ih =>
    cases path' with
    | nil => exact absurd List.nil_prefix apart.2
    | cons key' path' =>
      obtain ⟨entries, rfl⟩ := h.table
      refine ⟨by rw [putAt_table]; rfl, fun w hw => ?_⟩
      rw [get?_putAt v key path ⟨entries, rfl⟩] at hw
      split at hw
      · next same =>
        subst same
        have below : Apart path path' := by
          simpa [Apart, List.cons_prefix_cons] using apart
        have hp' : path' ≠ [] := fun e => below.2 (e ▸ List.nil_prefix)
        cases path with
        | nil => exact absurd List.nil_prefix below.1
        | cons next path =>
          rw [← Option.some.inj hw]
          exact ih (h.child hp') below
      · exact h.2 w hw

theorem isTable_putAt (h : root.IsTable) (v : Value) (path : List String) :
    (putAt v path root).IsTable := by
  obtain ⟨entries, rfl⟩ := h
  cases path with
  | nil => exact ⟨entries, rfl⟩
  | cons key path => exact ⟨_, putAt_table v key path entries⟩

theorem get?_merge_putAt (v : Value) (key : String) (path : List String) (base : Shelf Value)
    {overlay : Shelf Value} (ho : (table overlay).Ordered) (other : String) :
    (merge (putAt v (key :: path) (table base)) (table overlay)).get? other =
      if other = key then some ((overlay.get? key).elim
        (fill v path ((table base).childAt key)) (merge (fill v path ((table base).childAt key))))
      else ((overlay.get? other).map (layOver (base.get? other))).or (base.get? other) := by
  rw [putAt_table, get?_merge_table _ _ ho, Shelf.get?_put]
  by_cases same : other = key
  · rw [if_pos same, if_pos same, same]
    cases overlay.get? key <;> rfl
  · rw [if_neg same, if_neg same]

/-- The child of two trees laid over each other is made of their children. -/
theorem childAt_merge (base : Shelf Value) {overlay : Shelf Value}
    (ho : (table overlay).Ordered) {w : Value} (hw : overlay.get? key = some w) :
    (merge (table base) (table overlay)).childAt key = merge ((table base).childAt key) w := by
  rw [childAt, get?_merge_table _ _ ho, hw, childAt, get?_table]
  cases base.get? key with
  | none => exact (merge_empty (ho.child (v := table overlay) hw)).symm
  | some x => rfl

theorem childAt_merge_of_none (base : Shelf Value) {overlay : Shelf Value}
    (ho : (table overlay).Ordered) (hw : overlay.get? key = none) :
    (merge (table base) (table overlay)).childAt key = (table base).childAt key := by
  rw [childAt, get?_merge_table _ _ ho, hw, childAt, get?_table]
  rfl

theorem childAt_merge_childAt (base : Shelf Value) {overlay : Shelf Value}
    (ho : (table overlay).Ordered) (hb : ((table base).childAt key).IsTable) :
    (merge (table base) (table overlay)).childAt key =
      merge ((table base).childAt key) ((table overlay).childAt key) := by
  cases hk : overlay.get? key with
  | none =>
    obtain ⟨entries, same⟩ := hb
    have empty : (table overlay).childAt key = table [] := by
      rw [childAt, get?_table, hk]
      rfl
    rw [childAt_merge_of_none base ho hk, empty, same, merge_table_empty]
  | some w =>
    have child : (table overlay).childAt key = w := by
      rw [childAt, get?_table, hk]
      rfl
    rw [childAt_merge base ho hk, child]

theorem merge_childAt (base : Shelf Value) (hw : w.Ordered) :
    merge ((table base).childAt key) w = layOver (base.get? key) w := by
  rw [childAt, get?_table]
  cases base.get? key with
  | none => exact merge_empty hw
  | some x => rfl

/-- Putting a value where a tree has nothing is the same before and after the tree is laid over. -/
theorem putAt_merge (hb : base.Ordered) (ho : overlay.Ordered) (hv : v.Ordered)
    (ready : base.Ready path) (free : overlay.lookup path = none) :
    putAt v path (merge base overlay) = merge (putAt v path base) overlay := by
  induction path generalizing base overlay with
  | nil => simp at free
  | cons key path ih =>
    obtain ⟨b, rfl⟩ := ready.table
    rcases table_or_not overlay with ⟨o, rfl⟩ | none
    · refine Ordered.ext ((hb.merge ho).putAt hv _) ((hb.putAt hv _).merge ho)
        (isTable_putAt (isTable_merge ⟨b, rfl⟩ ⟨o, rfl⟩) v _)
        (isTable_merge (isTable_putAt ⟨b, rfl⟩ v _) ⟨o, rfl⟩) fun other => ?_
      rw [get?_merge_putAt v key path b ho, get?_putAt _ _ _ (isTable_merge ⟨b, rfl⟩ ⟨o, rfl⟩)]
      by_cases same : other = key
      · rw [if_pos same, if_pos same]
        cases hk : Shelf.get? o key with
        | none => rw [childAt_merge_of_none b ho hk, Option.elim]
        | some w =>
          -- The tree goes on below the key, but not as far as the path does.
          have below : w.lookup path = none :=
            (lookup_cons_of_get? (v := table o) hk).symm.trans free
          cases path with
          | nil => simp at below
          | cons next path =>
            rw [childAt_merge b ho hk, Option.elim, fill]
            exact congrArg some (ih (hb.childAt key) (ho.child hk) (ready.child (by simp)) below)
      · rw [if_neg same, if_neg same, get?_merge_table b o ho]
    · rw [merge_of_no_table _ none, merge_of_no_table _ none, putAt_of_no_table v _ none]

/-- What is put where a tree has something is lost when the tree is laid over. -/
theorem merge_putAt_of_lookup (hb : base.Ordered) (ho : overlay.Ordered) (hv : v.entries? = none)
    (ready : base.Ready path) (taken : (overlay.lookup path).isSome = true) :
    merge (putAt v path base) overlay = merge base overlay := by
  induction path generalizing base overlay with
  | nil => rfl
  | cons key path ih =>
    obtain ⟨b, rfl⟩ := ready.table
    obtain ⟨x, hx⟩ := Option.isSome_iff_exists.mp taken
    obtain ⟨w, hw, found⟩ := Option.bind_eq_some_iff.mp hx
    rcases table_or_not overlay with ⟨o, rfl⟩ | none
    · refine Ordered.ext ((hb.putAt (ordered_of_no_table hv) _).merge ho) (hb.merge ho)
        (isTable_merge (isTable_putAt ⟨b, rfl⟩ v _) ⟨o, rfl⟩)
        (isTable_merge ⟨b, rfl⟩ ⟨o, rfl⟩) fun other => ?_
      rw [get?_merge_putAt v key path b ho, get?_merge_table b o ho]
      by_cases same : other = key
      · subst same
        have above : Shelf.get? o other = some w := hw
        rw [if_pos rfl, above, Option.elim, Option.map_some, Option.some_or, Option.some.injEq]
        cases path with
        | nil =>
          -- The value is no table, and neither is what it takes the place of.
          rw [fill, merge_of_base hv]
          cases hk : Shelf.get? b other with
          | none => rfl
          | some y => exact (merge_of_base (ready.2 y hk) w).symm
        | cons next path =>
          have below := ih (hb.childAt other) (ho.child hw) (ready.child (by simp))
            (by rw [found]; rfl)
          rw [fill, below, merge_childAt b (ho.child hw)]
      · rw [if_neg same]
    · rw [get?_of_no_table none] at hw
      simp at hw

/-- Laying over a tree with a value put into it puts the value into what is laid over. -/
theorem merge_putAt (hb : base.Ordered) (ho : overlay.Ordered) (hv : v.entries? = none)
    (ready : base.Ready path) (ready' : overlay.Ready path) (hp : path ≠ []) :
    merge base (putAt v path overlay) = putAt v path (merge base overlay) := by
  induction path generalizing base overlay with
  | nil => exact absurd rfl hp
  | cons key path ih =>
    obtain ⟨b, rfl⟩ := ready.table
    obtain ⟨o, rfl⟩ := ready'.table
    have upper : (putAt v (key :: path) (table o)).Ordered := ho.putAt (ordered_of_no_table hv) _
    refine Ordered.ext (hb.merge upper) ((hb.merge ho).putAt (ordered_of_no_table hv) _)
      (isTable_merge ⟨b, rfl⟩ (isTable_putAt ⟨o, rfl⟩ v _))
      (isTable_putAt (isTable_merge ⟨b, rfl⟩ ⟨o, rfl⟩) v _) fun other => ?_
    rw [get?_putAt _ _ _ (isTable_merge ⟨b, rfl⟩ ⟨o, rfl⟩)]
    have put := putAt_table v key path o
    rw [put] at upper
    rw [put, get?_merge_table _ _ upper, Shelf.get?_put]
    by_cases same : other = key
    · subst same
      rw [if_pos rfl, if_pos rfl, Option.map_some, Option.some_or, Option.some.injEq]
      cases path with
      | nil =>
        rw [fill, fill]
        cases hk : Shelf.get? b other with
        | none => rfl
        | some y => exact merge_of_no_table y hv
      | cons next path =>
        have child := ih (hb.childAt other) (ho.childAt other) (ready.child (by simp))
          (ready'.child (by simp)) (by simp)
        have made : (putAt v (next :: path) ((table o).childAt other)).Ordered :=
          (ho.childAt other).putAt (ordered_of_no_table hv) _
        rw [fill, fill, ← merge_childAt b made, child, childAt_merge_childAt b ho]
        exact (ready.child (by simp)).table
    · rw [if_neg same, if_neg same, get?_merge_table b o ho]

end MessageBus.Toml.Value
