import MessageBus.Datum
import MessageBus.Proofs.Config.Tree

namespace MessageBus.Datum

open Toml (Value)

variable {α β γ : Type} {fields : List (Field α)} {a : α}

/-- Whether fields leave each other alone: where a datum changes nothing, it changes nothing after
another field was set either. -/
def Apart (fields : List (Field α)) : Prop :=
  ∀ f ∈ fields, ∀ g ∈ fields, f.name ≠ g.name → ∀ d e a b,
    f.set d a = .ok a → g.set e a = .ok b → f.set d b = .ok b

/-- Fields that are put in either order with the same result leave each other alone. -/
theorem still_after_field {name name' : String} {read : Datum → Except Misfit β}
    {read' : Datum → Except Misfit γ} {put : β → α → α} {put' : γ → α → α} {d e : Datum} {a b : α}
    (still : (field name read put).set d a = .ok a)
    (changed : (field name' read' put').set e a = .ok b)
    (swap : ∀ x y a, put x (put' y a) = put' y (put x a)) :
    (field name read put).set d b = .ok b := by
  simp only [field] at still changed ⊢
  cases hx : read d with
  | error m => simp [hx, Except.map] at still
  | ok x =>
    cases hy : read' e with
    | error m => simp [hy, Except.map] at changed
    | ok y =>
      simp only [hx, Except.map, Except.ok.injEq] at still
      simp only [hy, Except.map, Except.ok.injEq] at changed
      rw [Except.map, ← changed, swap, still]

theorem get?_ofTomlEntries (entries : Shelf Value) (key : String) :
    Shelf.get? (ofTomlEntries entries) key = (Shelf.get? entries key).map ofToml := by
  induction entries with
  | nil => simp [ofTomlEntries, Shelf.get?]
  | cons entry rest ih =>
    obtain ⟨k, v⟩ := entry
    rw [ofTomlEntries, Shelf.get?, Shelf.get?]
    by_cases h : key = k <;> simp [h, ih]

theorem map_fst_ofTomlEntries (entries : List (String × Value)) :
    (ofTomlEntries entries).map (·.1) = entries.map (·.1) := by
  induction entries with
  | nil => simp [ofTomlEntries]
  | cons entry rest ih => simp [ofTomlEntries, ih]

theorem sorted_ofTomlEntries {entries : Shelf Value} (h : entries.Sorted) :
    Shelf.Sorted (ofTomlEntries entries) := by
  rw [Shelf.Sorted, ← List.pairwise_map (f := Prod.fst) (R := (· < ·))] at h ⊢
  rwa [map_fst_ofTomlEntries]

/-- Entries that have more keys than others, but none that would change anything, and read like them
where both have one. -/
structure Extends (fields : List (Field α)) (a : α) (s t : Shelf Datum) : Prop where
  lower : s.Sorted
  upper : t.Sorted
  alike : ∀ key d, s.get? key = some d → ∃ e, t.get? key = some e ∧
    ∀ f ∈ fields, f.name = key → ∀ c, f.set e c = f.set d c
  still : ∀ key e, t.get? key = some e → s.get? key = none →
    ∀ f ∈ fields, f.name = key → f.set e a = .ok a

section

variable {s t : Shelf Datum} {k : String} {d e : Datum}

/-- The first entry is one of those that are added. -/
theorem Extends.skip (h : Extends fields a s ((k, e) :: t)) (absent : s.get? k = none) :
    Extends fields a s t where
  lower := h.lower
  upper := (List.pairwise_cons.mp h.upper).2
  alike key d hd := by
    have ne : key ≠ k := fun same => by simp [same, absent] at hd
    obtain ⟨e', he', same⟩ := h.alike key d hd
    exact ⟨e', (Shelf.get?_cons_of_ne ne e t).symm.trans he', same⟩
  still key e' he' :=
    h.still key e' ((Shelf.get?_cons_of_ne (h.upper.ne_of_get? he') e t).trans he')

/-- Both begin with an entry for the same key, as each has the first key of the other. -/
theorem Extends.head (h : Extends fields a s ((k, e) :: t)) (found : s.get? k = some d) :
    ∃ rest, s = (k, d) :: rest := by
  cases s with
  | nil => simp [Shelf.get?] at found
  | cons first rest =>
    obtain ⟨k', d'⟩ := first
    obtain ⟨e', he', -⟩ := h.alike k' d' (Shelf.get?_cons_self k' d' rest)
    have same : k' = k := le_antisymm (h.lower.le_of_get? found) (h.upper.le_of_get? he')
    subst same
    rw [Shelf.get?_cons_self, Option.some.injEq] at found
    exact ⟨rest, by rw [found]⟩

theorem Extends.next (h : Extends fields a ((k, d) :: s) ((k, e) :: t)) {b : α}
    (hb : ∀ f ∈ fields, f.name ≠ k → ∀ c, f.set c a = .ok a → f.set c b = .ok b) :
    Extends fields b s t where
  lower := (List.pairwise_cons.mp h.lower).2
  upper := (List.pairwise_cons.mp h.upper).2
  alike key d' hd' := by
    have ne := h.lower.ne_of_get? hd'
    obtain ⟨e', he', same⟩ := h.alike key d' ((Shelf.get?_cons_of_ne ne d s).trans hd')
    exact ⟨e', (Shelf.get?_cons_of_ne ne e t).symm.trans he', same⟩
  still key e' he' hd' f hf named := by
    have ne := h.upper.ne_of_get? he'
    have before := h.still key e' ((Shelf.get?_cons_of_ne ne e t).trans he')
      ((Shelf.get?_cons_of_ne ne d s).trans hd') f hf named
    exact hb f hf (named ▸ ne) e' before

/-- Entries that add nothing are read like the entries they extend. -/
theorem Extends.setNamed_eq (apart : Apart fields) (h : Extends fields a s t) :
    setNamed fields a t = setNamed fields a s := by
  induction t generalizing s a with
  | nil =>
    cases s with
    | nil => rfl
    | cons first rest =>
      obtain ⟨e, he, -⟩ := h.alike first.1 first.2 (Shelf.get?_cons_self _ _ _)
      simp [Shelf.get?] at he
  | cons entry t ih =>
    obtain ⟨k, e⟩ := entry
    cases hk : s.get? k with
    | none =>
      have rest := ih (h.skip hk)
      rw [setNamed]
      split
      · exact rest
      · next f found =>
        have named : f.name = k := by simpa using List.find?_some found
        rw [h.still k e (Shelf.get?_cons_self k e t) hk f (List.mem_of_find?_eq_some found) named]
        exact rest
    | some d =>
      obtain ⟨rest, rfl⟩ := h.head hk
      rw [setNamed, setNamed]
      split
      · exact ih (h.next fun _ _ _ _ still => still)
      · next f found =>
        have named : f.name = k := by simpa using List.find?_some found
        have member := List.mem_of_find?_eq_some found
        obtain ⟨e', he', same⟩ := h.alike k d hk
        obtain rfl : e' = e := Option.some.inj (he'.symm.trans (Shelf.get?_cons_self k e t))
        rw [same f member named a]
        cases changed : f.set d a with
        | error m => rfl
        | ok b =>
          exact ih (h.next fun g hg ne c still =>
            apart g hg f member (named ▸ ne) c d a b still changed)

end

/-- Whether a value can stand below others unnoticed: what is laid over it is read as it is read
alone. -/
def Recedes (read : Datum → Except Misfit β) (below : Value) : Prop :=
  ∀ v : Value, v.Ordered → read (ofToml (below.merge v)) = read (ofToml v)

theorem recedes_of_no_table (read : Datum → Except Misfit β) {below : Value}
    (h : below.entries? = none) : Recedes read below := by
  intro v _
  rw [Value.merge_of_base h]

/-- Whether a value is the default of a field: alone it changes nothing, and below others it
recedes. -/
structure Field.IsDefault (f : Field α) (a : α) (v : Value) : Prop where
  still : f.set (ofToml v) a = .ok a
  recedes : ∀ c, Recedes (f.set · c) v

theorem isDefault_of_no_table {f : Field α} {v : Value} (h : v.entries? = none)
    (still : f.set (ofToml v) a = .ok a) : f.IsDefault a v :=
  ⟨still, fun _ => recedes_of_no_table _ h⟩

theorem isDefault_field {name : String} {read : Datum → Except Misfit β} {put : β → α → α} {b : β}
    {v : Value} (alone : read (ofToml v) = .ok b) (same : put b a = a) (recedes : Recedes read v) :
    (field name read put).IsDefault a v where
  still := by simp only [field, alone, Except.map, same]
  recedes c w hw := by simp only [field, recedes w hw]

/-- A table of defaults recedes below whatever is read as a structure. -/
theorem recedes_structure (name : String) (apart : Apart fields) {below : Value}
    (hb : below.Ordered)
    (defaults : ∀ f ∈ fields, ∀ w, below.get? f.name = some w → f.IsDefault a w) :
    Recedes (asStructure name fields a) below := by
  intro v hv
  rcases Value.table_or_not below with ⟨base, rfl⟩ | plain
  · rcases Value.table_or_not v with ⟨overlay, rfl⟩ | plain
    · rw [Value.merge_table]
      simp only [ofToml, asStructure]
      apply Extends.setNamed_eq apart
      refine ⟨sorted_ofTomlEntries hv.sorted,
        sorted_ofTomlEntries (Value.sorted_mergeEntries hb.sorted overlay), ?_, ?_⟩
      · intro key d hd
        rw [get?_ofTomlEntries] at hd
        obtain ⟨w, hw, rfl⟩ := Option.map_eq_some_iff.mp hd
        refine ⟨ofToml (Value.layOver (Shelf.get? base key) w), ?_, ?_⟩
        · simp [get?_ofTomlEntries, Value.get?_mergeEntries base hv.sorted, hw]
        · intro f hf named c
          cases under : Shelf.get? base key with
          | none => rfl
          | some x => exact (defaults f hf x (named ▸ under)).recedes c w (hv.child hw)
      · intro key e he hd f hf named
        rw [get?_ofTomlEntries, Option.map_eq_none_iff] at hd
        rw [get?_ofTomlEntries, Value.get?_mergeEntries base hv.sorted, hd, Option.map_none,
          Option.none_or] at he
        obtain ⟨x, hx, rfl⟩ := Option.map_eq_some_iff.mp he
        exact (defaults f hf x (named ▸ hx)).still
    · rw [Value.merge_of_no_table _ plain]
  · rw [Value.merge_of_base plain]

/-- A table that recedes is read as the default itself. -/
theorem Recedes.read_eq {name : String} {below : Value}
    (h : Recedes (asStructure name fields a) below) (table : below.IsTable) :
    asStructure name fields a (ofToml below) = .ok a := by
  obtain ⟨entries, rfl⟩ := table
  have alone := h (.table []) Value.ordered_empty
  rw [Value.merge_table_empty] at alone
  rw [alone]
  simp [ofToml, ofTomlEntries, asStructure, setNamed]

end MessageBus.Datum
