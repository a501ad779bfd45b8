import MessageBus.Proofs.Config.Applied

namespace MessageBus.Toml.Value

variable {a b c v w x y : Value} {key : String} {path : List String}

/-- What stands under a key of a table is smaller than the table. -/
theorem sizeOf_child (h : v.get? key = some w) : sizeOf w < sizeOf v := by
  rcases table_or_not v with ⟨entries, rfl⟩ | hv
  · have entry : (key, w) ∈ entries := Shelf.mem_of_get? h
    have smaller := List.sizeOf_lt_of_mem entry
    simp only [Prod.mk.sizeOf_spec] at smaller
    simp only [table.sizeOf_spec]
    omega
  · rw [get?_of_no_table hv] at h
    simp at h

/-- What holds of a tree as soon as it holds of all its children holds of every tree. -/
@[elab_as_elim]
theorem child_induction {P : Value → Prop}
    (tree : ∀ v, (∀ key w, v.get? key = some w → P w) → P v) (v : Value) : P v := by
  induction size : sizeOf v using Nat.strong_induction_on generalizing v with
  | h n ih =>
    apply tree v
    intro key w child
    exact ih (sizeOf w) (size ▸ sizeOf_child child) w rfl

/-- What two tables have together under a key, from what each of them has there. -/
def overlaid (below above : Option Value) : Option Value := (above.map (layOver below)).or below

@[simp]
theorem overlaid_none (below : Option Value) : overlaid below none = below := rfl

@[simp]
theorem overlaid_some (below : Option Value) (v : Value) :
    overlaid below (some v) = some (layOver below v) := rfl

theorem get?_merge (tv : v.IsTable) (tw : w.IsTable) (hw : w.Ordered) (key : String) :
    (merge v w).get? key = overlaid (v.get? key) (w.get? key) := by
  obtain ⟨lower, rfl⟩ := tv
  obtain ⟨upper, rfl⟩ := tw
  exact get?_merge_table lower upper hw key

/-- A table that has everything of another one already stays as it is when that is laid over it. -/
theorem merge_eq_left (hv : v.Ordered) (hw : w.Ordered) (tv : v.IsTable) (tw : w.IsTable)
    (has : ∀ key y, w.get? key = some y → ∃ x, v.get? key = some x ∧ merge x y = x) :
    merge v w = v := by
  apply (hv.merge hw).ext hv (isTable_merge tv tw) tv
  intro key
  rw [get?_merge tv tw hw]
  cases above : w.get? key with
  | none => rfl
  | some y =>
    obtain ⟨x, below, same⟩ := has key y above
    rw [below, overlaid_some, layOver, Option.elim_some, same]

/-- A tree laid a second time over what it is laid over already changes nothing. -/
theorem merge_layOver_self (below : Option Value) (hbelow : ∀ v ∈ below, v.Ordered)
    (hb : b.Ordered) : merge (layOver below b) b = layOver below b := by
  induction b using child_induction generalizing below with
  | tree b ih =>
    rcases table_or_not b with tb | leaf
    · -- A table that is laid over nothing, or over something other than a table, is itself.
      have itself : merge b b = b := by
        apply merge_eq_left hb hb tb tb
        intro key y child
        exact ⟨y, child, ih key y child none (by simp) (hb.child child)⟩
      cases below with
      | none => exact itself
      | some a =>
        rw [layOver, Option.elim_some]
        rcases table_or_not a with ta | leaf
        · have ha : a.Ordered := hbelow a rfl
          apply merge_eq_left (ha.merge hb) hb (isTable_merge ta tb) tb
          intro key y child
          refine ⟨layOver (a.get? key) y, ?_, ?_⟩
          · rw [get?_merge ta tb hb, child, overlaid_some]
          · exact ih key y child _ (fun v hv => ha.child hv) (hb.child child)
        · rw [merge_of_base leaf, itself]
    · have same : layOver below b = b := by
        cases below with
        | none => rfl
        | some a => exact merge_of_no_table a leaf
      rw [same, merge_of_no_table b leaf]

/-- Three layers can be stacked in either order under a key if they can where each has something. -/
theorem overlaid_assoc (lower middle upper : Option Value)
    (stack : ∀ x ∈ lower, ∀ z ∈ middle, ∀ y ∈ upper, merge (merge x z) y = merge x (merge z y)) :
    overlaid (overlaid lower middle) upper = overlaid lower (overlaid middle upper) := by
  cases upper with
  | none => rfl
  | some y =>
    cases middle with
    | none => rfl
    | some z =>
      cases lower with
      | none => rfl
      | some x => exact congrArg some (stack x rfl z rfl y rfl)

/-- Whether a tree cuts a table of the tree above it off from a table of the tree below it: at some
place those two have tables, and it has something else. -/
structure Severs (a b c : Value) (path : List String) (x y : Value) : Prop where
  below : a.lookup path = some x
  tableBelow : x.IsTable
  above : c.lookup path = some y
  tableAbove : y.IsTable
  between : ∃ z, b.lookup path = some z ∧ ¬ z.IsTable

theorem Severs.cons (ha : a.get? key = some v) (hb : b.get? key = some w) {u : Value}
    (hc : c.get? key = some u) (h : Severs v w u path x y) : Severs a b c (key :: path) x y := by
  obtain ⟨z, between, leaf⟩ := h.between
  exact ⟨(lookup_cons_of_get? ha).trans h.below, h.tableBelow,
    (lookup_cons_of_get? hc).trans h.above, h.tableAbove,
    z, (lookup_cons_of_get? hb).trans between, leaf⟩

/-- Layers that are laid one by one lose the lower table where it is cut off. -/
theorem Severs.lookup_left (h : Severs a b c path x y) (hb : b.Ordered) (hc : c.Ordered) :
    (merge (merge a b) c).lookup path = some y := by
  obtain ⟨z, between, leaf⟩ := h.between
  have leaf : z.entries? = none := (table_or_not z).resolve_left leaf
  have lower : (merge a b).lookup path = some z := by
    rw [lookup_merge_of_some hb a between, h.below, layOver, Option.elim_some,
      merge_of_no_table x leaf]
  rw [lookup_merge_of_some hc (merge a b) h.above, lower, layOver, Option.elim_some,
    merge_of_base leaf]

/-- When the upper layers are merged first, the upper table is laid over the lower one. -/
theorem Severs.lookup_right (h : Severs a b c path x y) (hb : b.Ordered) (hc : c.Ordered) :
    (merge a (merge b c)).lookup path = some (merge x y) := by
  obtain ⟨z, between, leaf⟩ := h.between
  have leaf : z.entries? = none := (table_or_not z).resolve_left leaf
  have upper : (merge b c).lookup path = some y := by
    rw [lookup_merge_of_some hc b h.above, between, layOver, Option.elim_some, merge_of_base leaf]
  rw [lookup_merge_of_some (hb.merge hc) a upper, h.below, layOver, Option.elim_some]

/-- Layers can be merged in either order exactly when no table that is cut off has something that
the table above it lacks. -/
theorem merge_assoc_iff (ha : a.Ordered) (hb : b.Ordered) (hc : c.Ordered) :
    merge (merge a b) c = merge a (merge b c) ↔
      ∀ path x y, Severs a b c path x y → merge x y = y := by
  constructor
  · intro same path x y h
    have sides := h.lookup_left hb hc
    rw [same, h.lookup_right hb hc, Option.some.injEq] at sides
    exact sides
  · intro clear
    induction c using child_induction generalizing a b with
    | tree c ih =>
      rcases table_or_not c with tc | leaf
      · rcases table_or_not b with tb | leaf
        · rcases table_or_not a with ta | leaf
          · apply ((ha.merge hb).merge hc).ext (ha.merge (hb.merge hc))
              (isTable_merge (isTable_merge ta tb) tc) (isTable_merge ta (isTable_merge tb tc))
            intro key
            rw [get?_merge (isTable_merge ta tb) tc hc, get?_merge ta tb hb,
              get?_merge ta (isTable_merge tb tc) (hb.merge hc), get?_merge tb tc hc]
            apply overlaid_assoc
            intro x hx z hz y hy
            have deeper : ∀ path u v, Severs x z y path u v → merge u v = v :=
              fun path u v h => clear (key :: path) u v (h.cons hx hz hy)
            exact ih key y hy (ha.child hx) (hb.child hz) (hc.child hy) deeper
          · rw [merge_of_base leaf, merge_of_base leaf]
        · -- The middle layer is cut away: all comes down to what the upper does to the lower one.
          have bare : merge a c = c := by
            rcases table_or_not a with ta | low
            · exact clear [] a c ⟨rfl, ta, rfl, tc, b, rfl, not_isTable leaf⟩
            · exact merge_of_base low c
          rw [merge_of_no_table a leaf, merge_of_base leaf, bare]
      · rw [merge_of_no_table _ leaf, merge_of_no_table _ leaf, merge_of_no_table _ leaf]

/-- A table keeps what another one that is laid over it lacks. -/
theorem merge_ne_right (tv : v.IsTable) (tw : w.IsTable) (hw : w.Ordered)
    (mine : (v.get? key).isSome = true) (lacks : w.get? key = none) : merge v w ≠ w := by
  intro same
  have kept : (merge v w).get? key = v.get? key := by
    rw [get?_merge tv tw hw, lacks, overlaid_none]
  rw [same, lacks] at kept
  rw [← kept] at mine
  simp at mine

theorem Ordered.of_lookup (h : v.Ordered) (found : v.lookup path = some w) : w.Ordered := by
  induction path generalizing v with
  | nil =>
    rw [lookup_nil, Option.some.injEq] at found
    exact found ▸ h
  | cons key path ih =>
    obtain ⟨next, child, found⟩ := Option.bind_eq_some_iff.mp found
    exact ih (h.child child) found

/-- Layers on top of each other. The same layer again changes nothing. Layers laid one by one give
what they give with the upper two merged first, unless the middle one cuts tables of the others off
from each other; where it does, and the lower table has something that the upper one lacks, the
results differ. -/
theorem merge_stacks (a b c : Value) (ha : a.Ordered) (hb : b.Ordered) (hc : c.Ordered) :
    merge (merge a b) b = merge a b ∧
    ((¬ ∃ path x y, Severs a b c path x y) → merge (merge a b) c = merge a (merge b c)) ∧
    ∀ path x y, Severs a b c path x y → ∀ key, (x.get? key).isSome = true → y.get? key = none →
      merge (merge a b) c ≠ merge a (merge b c) := by
  refine ⟨?_, ?_, ?_⟩
  · exact merge_layOver_self (some a) (fun v hv => Option.some.inj hv ▸ ha) hb
  · intro whole
    apply (merge_assoc_iff ha hb hc).mpr
    intro path x y h
    exact absurd ⟨path, x, y, h⟩ whole
  · intro path x y h key mine lacks same
    have bare : merge x y = y := (merge_assoc_iff ha hb hc).mp same path x y h
    exact merge_ne_right h.tableBelow h.tableAbove (hc.of_lookup h.above) mine lacks bare

/-- A section that a text stands in for in the middle: merged first, the upper layers bring back the
level of the lowest one. -/
theorem merge_stacks_severed :
    let a := putAt (string "info") ["logging", "level"] (table [])
    let b := putAt (string "off") ["logging"] (table [])
    let c := putAt (string "json") ["logging", "format"] (table [])
    a.Ordered ∧ b.Ordered ∧ c.Ordered ∧
      merge (merge a b) c ≠ merge a (merge b c) ∧
      (merge (merge a b) c).lookup ["logging", "level"] = none ∧
      (merge a (merge b c)).lookup ["logging", "level"] = some (string "info") := by
  intro a b c
  have ha : a.Ordered := ordered_empty.putAt (ordered_of_no_table rfl) _
  have hb : b.Ordered := ordered_empty.putAt (ordered_of_no_table rfl) _
  have hc : c.Ordered := ordered_empty.putAt (ordered_of_no_table rfl) _
  have severed : Severs a b c ["logging"] (table [("level", string "info")])
      (table [("format", string "json")]) :=
    ⟨rfl, ⟨_, rfl⟩, rfl, ⟨_, rfl⟩, string "off", rfl, not_isTable rfl⟩
  obtain ⟨-, -, differ⟩ := merge_stacks a b c ha hb hc
  refine ⟨ha, hb, hc, ?_, by rfl, by rfl⟩
  exact differ ["logging"] _ _ severed "level" rfl rfl

end MessageBus.Toml.Value
