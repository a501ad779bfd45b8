import MessageBus.Proofs.Config.Applied

namespace MessageBus.Toml.Value

/-- What a tree is like when a value was put in a place of another one and nothing else was done:
all other places are as they were, and a table that was missing on the way has the entry that leads
on and no other. -/
structure Placed (path : List String) (v root after : Value) : Prop where
  there : after.lookup path = some v
  others : ∀ place, Apart path place → after.lookup place = root.lookup place
  made : ∀ front key rest, path = front ++ key :: rest → root.lookup front = none →
    ∃ w, after.lookup front = some (table [(key, w)])

variable {v w root a b : Value} {key : String} {path front rest : List String}

theorem lookup_append (v : Value) (front rest : List String) :
    v.lookup (front ++ rest) = (v.lookup front).bind fun w => w.lookup rest := by
  induction front generalizing v with
  | nil => rfl
  | cons key front ih =>
    rw [List.cons_append, lookup_cons, lookup_cons, Option.bind_assoc]
    simp only [ih]

/-- Nothing is found behind something that is in the way. -/
theorem lookup_of_hides (h : v.Hides path) : v.lookup path = none := by
  obtain ⟨front, w, ⟨rest, rfl⟩, ne, found, other⟩ := h
  have more : rest ≠ [] := fun e => ne (by rw [e, List.append_nil])
  obtain ⟨key, rest, rfl⟩ := List.exists_cons_of_ne_nil more
  rw [lookup_append, found, Option.bind_some]
  exact lookup_of_no_table ((table_or_not w).resolve_left other) key rest

theorem lookup_childAt (root : Value) (key next : String) (path : List String) :
    (root.childAt key).lookup (next :: path) = root.lookup (key :: next :: path) := by
  rw [childAt, lookup_cons root]
  cases root.get? key with
  | none => rfl
  | some w => rfl

/-- On the way to the place of a value stands what putting it there makes of the table that stood
there before, or of an empty one. -/
theorem lookup_putAt_front (v : Value) (clear : ¬ root.Hides (front ++ key :: rest)) :
    (putAt v (front ++ key :: rest) root).lookup front =
      some (putAt v (key :: rest) ((root.lookup front).getD (table []))) := by
  induction front generalizing root with
  | nil => rfl
  | cons first front ih =>
    have filled : fill v (front ++ key :: rest) (root.childAt first) =
        putAt v (front ++ key :: rest) (root.childAt first) :=
      fill_of_ne_nil (by simp) v _
    have same : ((root.childAt first).lookup front).getD (table []) =
        (root.lookup (first :: front)).getD (table []) := by
      cases front with
      | nil =>
        rw [lookup_cons, childAt]
        cases root.get? first <;> rfl
      | cons next front => rw [lookup_childAt]
    rw [List.cons_append, lookup_cons, get?_putAt v first _ (isTable_of_not_hides clear),
      if_pos rfl, Option.bind_some, filled, ih (not_hides_childAt clear), same]

/-- What is put where nothing is in the way is placed there. -/
theorem placed_putAt (clear : ¬ root.Hides path) (hp : path ≠ []) (v : Value) :
    Placed path v root (putAt v path root) where
  there := lookup_putAt_self clear hp v
  others place apart := (putAt_apart apart v root).1
  made front key rest split absent := by
    subst split
    refine ⟨fill v rest ((table []).childAt key), ?_⟩
    rw [lookup_putAt_front v clear, absent, Option.getD_none, putAt_table]
    rfl

/-- Below its first key a value is placed in what that key leads to. -/
theorem Placed.child (h : Placed (key :: path) v root a) (found : a.get? key = some w) :
    Placed path v (root.childAt key) w where
  there := (lookup_cons_of_get? found).symm.trans h.there
  others place apart := by
    cases place with
    | nil => exact absurd List.nil_prefix apart.2
    | cons next place =>
      rw [lookup_childAt, ← h.others, lookup_cons_of_get? found]
      simpa [Apart, List.cons_prefix_cons] using apart
  made front next rest split absent := by
    subst split
    cases front with
    | nil => simp at absent
    | cons first front =>
      rw [lookup_childAt] at absent
      rw [← lookup_cons_of_get? found]
      exact h.made (key :: first :: front) next rest rfl absent

theorem isTable_of_get? (h : v.get? key = some w) : v.IsTable := by
  rcases table_or_not v with table | none
  · exact table
  · simp [get?_of_no_table none] at h

/-- Under another key than its first one there is what was there before. -/
theorem Placed.get?_of_ne (h : Placed (key :: path) v root a) {other : String} (ne : other ≠ key) :
    a.get? other = root.get? other := by
  have apart : Apart (key :: path) [other] := by
    simp [Apart, List.cons_prefix_cons, ne, Ne.symm ne]
  simpa [lookup_cons] using h.others [other] apart

/-- There is one tree at most in which a value is placed. -/
theorem Placed.unique (ha : a.Ordered) (hb : b.Ordered) (pa : Placed path v root a)
    (pb : Placed path v root b) : a = b := by
  induction path generalizing root a b with
  | nil =>
    have left : a = v := Option.some.inj pa.there
    have right : b = v := Option.some.inj pb.there
    exact left.trans right.symm
  | cons key path ih =>
    obtain ⟨x, hx, -⟩ := Option.bind_eq_some_iff.mp pa.there
    obtain ⟨y, hy, -⟩ := Option.bind_eq_some_iff.mp pb.there
    -- Both were made from the same tree below the first key, if only from one that was missing.
    have children : x = y := ih (ha.child hx) (hb.child hy) (pa.child hx) (pb.child hy)
    apply ha.ext hb (isTable_of_get? hx) (isTable_of_get? hy)
    intro other
    by_cases same : other = key
    · rw [same, hx, hy, children]
    · rw [pa.get?_of_ne same, pb.get?_of_ne same]

/-- Setting a field is all or nothing. When nothing but tables is on the way, the value is placed
where the dotted path leads to, and nothing else is changed or made; otherwise the tree stays as it
is. The path leads to the field afterwards just when it was set: the keys taken from the end of the
path are those that it is split into. -/
theorem setField_all_or_nothing (root v : Value) (path : String) (ordered : root.Ordered) :
    (¬ root.Hides (keysOf path) → Placed (keysOf path) v root (root.setField path v) ∧
      (v.Ordered → (root.setField path v).Ordered ∧ ∀ after : Value, after.Ordered →
        Placed (keysOf path) v root after → after = root.setField path v)) ∧
    (root.Hides (keysOf path) → root.setField path v = root) ∧
    ((root.setField path v).hasPath path = true ↔ ¬ root.Hides (keysOf path)) ∧
    fieldKeys path = keysOf path ∧
    (∀ parents leaf, Text.lastPart? '.' path = some (parents, leaf) →
      path = parents ++ "." ++ leaf ∧ '.' ∉ leaf.toList) ∧
    (Text.lastPart? '.' path = none → '.' ∉ path.toList) := by
  have hp : keysOf path ≠ [] := Config.keysOf_ne_nil path
  rw [setField_eq]
  refine ⟨fun clear => ?_, fun hidden => putAt_of_hides ordered hidden v, ?_, fieldKeys_eq path,
    ?_, ?_⟩
  · have placed := placed_putAt clear hp v
    refine ⟨placed, fun hv => ?_⟩
    have result : (putAt v (keysOf path) root).Ordered := ordered.putAt hv _
    exact ⟨result, fun after ho same => same.unique ho result placed⟩
  · rw [hasPath]
    constructor
    · intro found hidden
      rw [putAt_of_hides ordered hidden, lookup_of_hides hidden] at found
      simp at found
    · intro clear
      rw [lookup_putAt_self clear hp v]
      rfl
  · intro parents leaf cut
    obtain ⟨joined, clean, -⟩ := Text.parts_of_lastPart? cut
    exact ⟨joined, clean⟩
  · exact fun uncut => (Text.parts_of_lastPart?_eq_none uncut).1

/-- A table without a name is made below a section, and below a number there is no room for one. -/
theorem setField_all_or_nothing_nameless :
    let root := putAt (integer 3) ["count"] (putAt (string "box") ["sinks", "name"] (table []))
    root.Ordered ∧ (root.setField "sinks..depth" (integer 1)).hasPath "sinks..depth" = true ∧
      (root.setField "sinks..depth" (integer 1)).lookup ["sinks", "name"] = some (string "box") ∧
      (∃ w, (root.setField "sinks..depth" (integer 1)).lookup ["sinks", ""] =
        some (table [("depth", w)])) ∧
      root.setField "count..depth" (integer 1) = root := by
  intro root
  have ordered : root.Ordered :=
    (ordered_empty.putAt (ordered_of_no_table rfl) _).putAt (ordered_of_no_table rfl) _
  have room : keysOf "sinks..depth" = ["sinks", "", "depth"] := by decide +kernel
  have full : keysOf "count..depth" = ["count", "", "depth"] := by decide +kernel
  have clear : ¬ root.Hides (keysOf "sinks..depth") := by
    rw [room]
    intro hidden
    obtain ⟨next, here, hidden⟩ := hides_table_iff.mp hidden
    obtain rfl : table [("name", string "box")] = next := Option.some.inj here
    obtain ⟨next, here, -⟩ := hides_table_iff.mp hidden
    simp [Shelf.get?] at here
  have hidden : root.Hides (keysOf "count..depth") := by
    rw [full]
    exact ⟨["count"], integer 3, ⟨["", "depth"], rfl⟩, by simp, rfl, not_isTable rfl⟩
  obtain ⟨set, -, leads, -⟩ := setField_all_or_nothing root (integer 1) "sinks..depth" ordered
  obtain ⟨placed, -⟩ := set clear
  rw [room] at placed
  refine ⟨ordered, leads.mpr clear, ?_, ?_, ?_⟩
  · exact placed.others ["sinks", "name"] (by simp [Apart, List.cons_prefix_cons])
  · exact placed.made ["sinks", ""] "depth" [] rfl rfl
  · exact (setField_all_or_nothing root (integer 1) "count..depth" ordered).2.1 hidden

end MessageBus.Toml.Value
