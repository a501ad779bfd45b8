import MessageBus.Proofs.Config.Tree
import MessageBus.Toml.Reader

namespace MessageBus.Toml

namespace Node

variable {key : String} {n : Node} {o : Origin} {entries : List (String × Node)}

/-- No table has two entries with one key. What is listed is not looked into, as no key leads
there. -/
inductive Tidy : Node → Prop
  | value {v : Value} (plain : v.entries? = none) : Tidy (.value v)
  | array (items : List Node) : Tidy (.array items)
  | tables (items : List (List (String × Node))) : Tidy (.tables items)
  | table (origin : Origin) {entries : List (String × Node)}
      (keys : (entries.map Prod.fst).Nodup) (each : ∀ entry ∈ entries, Tidy entry.2) :
      Tidy (.table origin entries)

structure TidyEntries (entries : List (String × Node)) : Prop where
  keys : (entries.map Prod.fst).Nodup
  each : ∀ entry ∈ entries, entry.2.Tidy

theorem tidy_table : (table o entries).Tidy ↔ TidyEntries entries := by
  constructor
  · rintro (_ | _ | _ | ⟨_, keys, each⟩)
    exact ⟨keys, each⟩
  · intro h
    exact .table o h.keys h.each

theorem tidyEntries_nil : TidyEntries [] := ⟨List.nodup_nil, by simp⟩

theorem mem_of_lookup (h : entries.lookup key = some n) : (key, n) ∈ entries := by
  induction entries with
  | nil => simp at h
  | cons entry rest ih =>
    obtain ⟨k, old⟩ := entry
    rw [List.lookup_cons] at h
    split at h
    · next same =>
      rw [eq_of_beq same, Option.some.inj h]
      exact List.mem_cons_self
    · exact List.mem_cons_of_mem _ (ih h)

theorem TidyEntries.of_lookup (h : TidyEntries entries) (hn : entries.lookup key = some n) :
    n.Tidy :=
  h.each _ (mem_of_lookup hn)

theorem mem_putEntry {entry : String × Node} (h : entry ∈ putEntry key n entries) :
    entry = (key, n) ∨ entry ∈ entries := by
  induction entries with
  | nil => exact .inl (List.mem_singleton.mp h)
  | cons first rest ih =>
    obtain ⟨k, old⟩ := first
    rw [putEntry] at h
    split at h
    · exact (List.mem_cons.mp h).imp_right (List.mem_cons_of_mem _)
    · rcases List.mem_cons.mp h with h | h
      · exact .inr (h ▸ List.mem_cons_self)
      · exact (ih h).imp_right (List.mem_cons_of_mem _)

theorem nodup_putEntry (key : String) (n : Node) (h : (entries.map Prod.fst).Nodup) :
    ((putEntry key n entries).map Prod.fst).Nodup := by
  induction entries with
  | nil => simp [putEntry]
  | cons first rest ih =>
    obtain ⟨k, old⟩ := first
    obtain ⟨fresh, tail⟩ := List.nodup_cons.mp h
    rw [putEntry]
    split
    · next same => exact same ▸ h
    · next other =>
      have still_fresh : k ∉ (putEntry key n rest).map Prod.fst := by
        intro again
        obtain ⟨entry, he, same⟩ := List.mem_map.mp again
        rcases mem_putEntry he with rfl | he
        · exact other same.symm
        · exact fresh (List.mem_map.mpr ⟨entry, he, same⟩)
      exact List.nodup_cons.mpr ⟨still_fresh, ih tail⟩

theorem TidyEntries.put (h : TidyEntries entries) (hn : n.Tidy) (key : String) :
    TidyEntries (putEntry key n entries) := by
  constructor
  · exact nodup_putEntry key n h.keys
  · intro entry he
    rcases mem_putEntry he with rfl | he
    · exact hn
    · exact h.each entry he

/-- A change makes no second entry with one key. -/
def Change.Tidy (change : Change) : Prop :=
  ∀ ⦃o entries o' entries'⦄, TidyEntries entries → change o entries = some (o', entries') →
    TidyEntries entries'

theorem tidy_alter {change : Change} (hc : change.Tidy) (dotted : Bool) (path : List String) :
    (alter dotted change path).Tidy := by
  induction path with
  | nil => exact hc
  | cons key path ih =>
    intro o entries o' entries' h done
    rw [alter] at done
    split at done
    · obtain ⟨⟨o₁, es⟩, below, e⟩ := Option.map_eq_some_iff.mp done
      obtain ⟨-, rfl⟩ := Prod.mk.inj e
      exact h.put (tidy_table.mpr (ih tidyEntries_nil below)) key
    · next o₀ es₀ found =>
      split at done
      · simp at done
      · obtain ⟨⟨o₁, es⟩, below, e⟩ := Option.map_eq_some_iff.mp done
        obtain ⟨-, rfl⟩ := Prod.mk.inj e
        exact h.put (tidy_table.mpr (ih (tidy_table.mp (h.of_lookup found)) below)) key
    · obtain ⟨⟨o₁, es⟩, -, e⟩ := Option.map_eq_some_iff.mp done
      obtain ⟨-, rfl⟩ := Prod.mk.inj e
      exact h.put (.tables _) key
    · simp at done

theorem tidy_enter (hn : n.Tidy) (direct : Bool) (key : String) :
    Change.Tidy (enter direct key n) := by
  intro o entries o' entries' h done
  rw [enter] at done
  split at done
  · simp at done
  · obtain ⟨-, rfl⟩ := Prod.mk.inj (Option.some.inj done)
    exact h.put hn key

theorem tidy_declareTable (key : String) : Change.Tidy (declareTable key) := by
  intro o entries o' entries' h done
  rw [declareTable] at done
  split at done
  · obtain ⟨-, rfl⟩ := Prod.mk.inj (Option.some.inj done)
    exact h.put (tidy_table.mpr tidyEntries_nil) key
  · next es found =>
    obtain ⟨-, rfl⟩ := Prod.mk.inj (Option.some.inj done)
    -- The table is taken out before it is put at the end.
    have others : TidyEntries (entries.filter (·.1 ≠ key)) :=
      ⟨h.keys.sublist (List.filter_sublist.map _),
        fun entry he => h.each entry (List.mem_of_mem_filter he)⟩
    exact others.put (tidy_table.mpr (tidy_table.mp (h.of_lookup found))) key
  · simp at done

theorem tidy_declareItem (key : String) : Change.Tidy (declareItem key) := by
  intro o entries o' entries' h done
  rw [declareItem] at done
  split at done
  · obtain ⟨-, rfl⟩ := Prod.mk.inj (Option.some.inj done)
    exact h.put (.tables _) key
  · obtain ⟨-, rfl⟩ := Prod.mk.inj (Option.some.inj done)
    exact h.put (.tables _) key
  · simp at done

theorem entriesOf?_some {values : List (String × Value)} (h : entriesOf? entries = some values) :
    values.map Prod.fst = entries.map Prod.fst ∧
      ∀ entry ∈ values, ∃ n, (entry.1, n) ∈ entries ∧ n.toValue? = some entry.2 := by
  induction entries generalizing values with
  | nil =>
    rw [entriesOf?] at h
    simp [← Option.some.inj h]
  | cons first rest ih =>
    obtain ⟨key, n⟩ := first
    rw [entriesOf?] at h
    obtain ⟨v, hv, hrest⟩ := Option.bind_eq_some_iff.mp h
    obtain ⟨vs, hvs, rfl⟩ := Option.map_eq_some_iff.mp hrest
    obtain ⟨keys, each⟩ := ih hvs
    refine ⟨by rw [List.map_cons, List.map_cons, keys], fun entry he => ?_⟩
    rcases List.mem_cons.mp he with rfl | he
    · exact ⟨n, List.mem_cons_self, hv⟩
    · obtain ⟨n', hn', hv'⟩ := each entry he
      exact ⟨n', List.mem_cons_of_mem _ hn', hv'⟩

theorem no_table_of_date {v : Value} (h : n.date? = some v) : v.entries? = none := by
  unfold date? at h
  split at h
  · obtain ⟨d, -, rfl⟩ := Option.map_eq_some_iff.mp h
    rfl
  · simp at h

theorem sorted_mergeSort {values : List (String × Value)} (h : (values.map Prod.fst).Nodup) :
    Shelf.Sorted (values.mergeSort fun a b => a.1 ≤ b.1) := by
  have ascending : (values.mergeSort fun a b => a.1 ≤ b.1).Pairwise fun a b => a.1 ≤ b.1 := by
    have sorted : (values.mergeSort fun a b => a.1 ≤ b.1).Pairwise
        fun a b => decide (a.1 ≤ b.1) = true :=
      List.pairwise_mergeSort
        (fun a b c hab hbc => by simpa using le_trans (by simpa using hab) (by simpa using hbc))
        (fun a b => by simpa using le_total a.1 b.1) values
    exact sorted.imp (by simp)
  have distinct : (values.mergeSort fun a b => a.1 ≤ b.1).Pairwise fun a b => a.1 ≠ b.1 := by
    have keys := ((List.mergeSort_perm values fun a b => a.1 ≤ b.1).map Prod.fst).nodup_iff.mpr h
    exact List.pairwise_map.mp keys
  exact ascending.and distinct |>.imp fun h => lt_of_le_of_ne h.1 h.2

/-- The value of a tidy part has all its tables in order. -/
theorem Tidy.ordered (h : n.Tidy) {v : Value} (hv : n.toValue? = some v) : v.Ordered := by
  induction h generalizing v with
  | value plain =>
    rw [toValue?] at hv
    exact Value.ordered_of_no_table (Option.some.inj hv ▸ plain)
  | array items =>
    rw [toValue?] at hv
    obtain ⟨vs, -, rfl⟩ := Option.map_eq_some_iff.mp hv
    exact Value.ordered_of_no_table rfl
  | tables items =>
    rw [toValue?] at hv
    obtain ⟨vs, -, rfl⟩ := Option.map_eq_some_iff.mp hv
    exact Value.ordered_of_no_table rfl
  | @table origin entries keys each ih =>
    rw [toValue?, tableOf?] at hv
    split at hv
    · exact Value.ordered_of_no_table (no_table_of_date hv)
    · obtain ⟨vs, hvs, rfl⟩ := Option.map_eq_some_iff.mp hv
      obtain ⟨same, each'⟩ := entriesOf?_some hvs
      refine Value.ordered_table (sorted_mergeSort (same ▸ keys)) fun key w hw => ?_
      obtain ⟨n, hn, hw⟩ := each' (key, w) (List.mem_mergeSort.mp (Shelf.mem_of_get? hw))
      exact ih _ hn hw

/-- The part of a document that some keys lead to, through tables that are not dates. -/
def lookup : Node → List String → Option Node
  | n, [] => some n
  | table _ entries, key :: path =>
    if (dated? entries).isSome then none
    else (entries.lookup key).bind fun next => lookup next path
  | _, _ => none

theorem mem_of_entriesOf? {values : List (String × Value)} (h : entriesOf? entries = some values)
    (found : (key, n) ∈ entries) : ∃ v, n.toValue? = some v ∧ (key, v) ∈ values := by
  induction entries generalizing values with
  | nil => simp at found
  | cons first rest ih =>
    obtain ⟨k, old⟩ := first
    rw [entriesOf?] at h
    obtain ⟨v, hv, hrest⟩ := Option.bind_eq_some_iff.mp h
    obtain ⟨vs, hvs, rfl⟩ := Option.map_eq_some_iff.mp hrest
    rcases List.mem_cons.mp found with e | found
    · obtain ⟨rfl, rfl⟩ := Prod.mk.inj e
      exact ⟨v, hv, List.mem_cons_self⟩
    · obtain ⟨w, hw, mem⟩ := ih hvs found
      exact ⟨w, hw, List.mem_cons_of_mem _ mem⟩

/-- Keys lead to the same part of a document before and after its values are made. -/
theorem Tidy.lookup_toValue? {m : Node} (h : n.Tidy) {v : Value} (hv : n.toValue? = some v)
    {path : List String} (found : n.lookup path = some m) : v.lookup path = m.toValue? := by
  induction path generalizing n v with
  | nil =>
    rw [lookup, Option.some.injEq] at found
    rw [← found, hv, Value.lookup_nil]
  | cons key path ih =>
    cases h with
    | @table o entries keys each =>
      rw [lookup] at found
      split at found
      · simp at found
      · next plain =>
        obtain ⟨next, there, found⟩ := Option.bind_eq_some_iff.mp found
        rw [toValue?, tableOf?, Option.not_isSome_iff_eq_none.mp plain] at hv
        obtain ⟨vs, hvs, rfl⟩ := Option.map_eq_some_iff.mp hv
        obtain ⟨w, hw, mem⟩ := mem_of_entriesOf? hvs (mem_of_lookup there)
        have sorted := sorted_mergeSort ((entriesOf?_some hvs).1 ▸ keys)
        have child := sorted.get?_of_mem (List.mem_mergeSort.mpr mem)
        rw [Value.lookup_cons_of_get? (v := .table _) child]
        exact ih (each _ (mem_of_lookup there)) hw found
    | _ => simp [lookup] at found

end Node

open Node (TidyEntries)

namespace Draft

variable {d d' : Draft}

theorem tidy_alter {change : Node.Change} (hc : change.Tidy) (h : TidyEntries d) {dotted : Bool}
    {path : List String} (done : d.alter dotted path change = some d') : TidyEntries d' := by
  obtain ⟨⟨o, es⟩, altered, rfl⟩ := Option.map_eq_some_iff.mp done
  exact Node.tidy_alter hc dotted path h altered

theorem tidy_enter {n : Node} (hn : n.Tidy) (h : TidyEntries d) {table keys : List String}
    (done : d.enter table keys n = some d') : TidyEntries d' :=
  tidy_alter (Node.tidy_alter (Node.tidy_enter hn _ _) true _) h done

theorem tidy_declareTable (h : TidyEntries d) {keys : List String}
    (done : d.declareTable keys = some d') : TidyEntries d' :=
  tidy_alter (Node.tidy_declareTable _) h done

theorem tidy_declareItem (h : TidyEntries d) {keys : List String}
    (done : d.declareItem keys = some d') : TidyEntries d' :=
  tidy_alter (Node.tidy_declareItem _) h done

end Draft

variable {text : Nat} {cs rest : List Char}

theorem no_table_of_ite {p : Prop} [Decidable p] {v w : Value} {left : List Char}
    (hw : w.entries? = none) (h : (if p then some (w, left) else none) = some (v, rest)) :
    v.entries? = none := by
  split at h
  · exact (Prod.mk.inj (Option.some.inj h)).1 ▸ hw
  · simp at h

theorem no_table_of_readBased {base : Nat} {v : Value} (h : readBased base cs = some (v, rest)) :
    v.entries? = none := by
  obtain ⟨⟨digits, left⟩, -, h⟩ := Option.bind_eq_some_iff.mp h
  exact no_table_of_ite rfl h

theorem no_table_of_readInteger {v : Value} (h : readInteger cs = some (v, rest)) :
    v.entries? = none := by
  unfold readInteger at h
  split at h
  · exact no_table_of_readBased h
  · exact no_table_of_readBased h
  · exact no_table_of_readBased h
  · generalize readSign cs = unsigned at h
    obtain ⟨negative, unsigned⟩ := unsigned
    obtain ⟨⟨digits, left⟩, -, h⟩ := Option.bind_eq_some_iff.mp h
    exact no_table_of_ite rfl h

theorem no_table_of_readFloat {v : Value} (h : readFloat cs = some (v, rest)) :
    v.entries? = none := by
  unfold readFloat at h
  dsimp only at h
  split at h
  · rw [← (Prod.mk.inj (Option.some.inj h)).1]
    rfl
  · rw [← (Prod.mk.inj (Option.some.inj h)).1]
    rfl
  · obtain ⟨⟨whole, rest₁⟩, -, h⟩ := Option.bind_eq_some_iff.mp h
    obtain ⟨⟨fraction, rest₂⟩, -, h⟩ := Option.bind_eq_some_iff.mp h
    obtain ⟨⟨exponent, rest₃⟩, -, h⟩ := Option.bind_eq_some_iff.mp h
    dsimp only at h
    split at h
    · simp at h
    · split at h
      · simp at h
      · rw [← (Prod.mk.inj (Option.some.inj h)).1]
        rfl

theorem no_table_of_readDatetime {v : Value} (h : readDatetime cs = some (v, rest)) :
    v.entries? = none := by
  unfold readDatetime at h
  split at h
  · obtain ⟨⟨t, rest'⟩, -, h⟩ := Option.map_eq_some_iff.mp h
    rw [← (Prod.mk.inj h).1]
    rfl
  · dsimp only at h
    split at h
    · rw [← (Prod.mk.inj (Option.some.inj h)).1]
      rfl
    · rw [← (Prod.mk.inj (Option.some.inj h)).1]
      rfl

theorem no_table_of_readNumber {v : Value} (h : readNumber cs = some (v, rest)) :
    v.entries? = none := by
  unfold readNumber at h
  cases date : readDatetime cs with
  | some found =>
    rw [date] at h
    exact no_table_of_readDatetime (date.trans h)
  | none =>
    cases float : readFloat cs with
    | some found =>
      rw [date, float] at h
      exact no_table_of_readFloat (float.trans h)
    | none =>
      rw [date, float] at h
      exact no_table_of_readInteger h

/-- Whether every value that is read is tidy. -/
def ValueReader.Tidy (read : ValueReader) : Prop := ∀ ⦃cs n rest⦄, read cs = some (n, rest) → n.Tidy

theorem tidy_readItems {read : ValueReader} {fuel : Nat} {acc : List Node} {n : Node}
    (h : readItems read text fuel acc cs = some (n, rest)) : n.Tidy := by
  induction fuel generalizing acc cs with
  | zero => simp [readItems] at h
  | succ fuel ih =>
    rw [readItems] at h
    split at h
    · simp at h
    · rw [← (Prod.mk.inj (Option.some.inj h)).1]
      exact .array _
    · split at h
      · simp at h
      · split at h
        · exact ih h
        · rw [← (Prod.mk.inj (Option.some.inj h)).1]
          exact .array _
        · simp at h

theorem tidy_readEntry {read : ValueReader} (hr : read.Tidy) {keys : List String} {n : Node}
    (h : readEntry read text cs = some ((keys, n), rest)) : n.Tidy := by
  unfold readEntry at h
  split at h
  · obtain ⟨⟨n', rest'⟩, found, h⟩ := Option.map_eq_some_iff.mp h
    obtain ⟨e, -⟩ := Prod.mk.inj h
    exact (Prod.mk.inj e).2 ▸ hr found
  · simp at h

theorem tidy_readEntries {read : ValueReader} (hr : read.Tidy) {fuel : Nat} {d : Draft} {n : Node}
    (hd : TidyEntries d) (h : readEntries read text fuel d cs = some (n, rest)) : n.Tidy := by
  induction fuel generalizing d cs with
  | zero => simp [readEntries] at h
  | succ fuel ih =>
    rw [readEntries] at h
    split at h
    · simp at h
    · next keys n' rest' entry =>
      have hn : n'.Tidy := tidy_readEntry hr entry
      split at h
      · next entered => exact ih (Draft.tidy_enter hn hd entered) h
      · next entered =>
        rw [← (Prod.mk.inj (Option.some.inj h)).1]
        exact Node.tidy_table.mpr (Draft.tidy_enter hn hd entered)
      · simp at h

theorem tidy_readText (text : Nat) : ValueReader.Tidy (readText text) := by
  intro cs n rest h
  obtain ⟨⟨s, rest'⟩, -, h⟩ := Option.map_eq_some_iff.mp h
  rw [← (Prod.mk.inj h).1]
  exact .value rfl

theorem tidy_readValue (text depth : Nat) : ValueReader.Tidy (readValue text depth) := by
  induction depth using Nat.strong_induction_on with
  | h depth ih =>
    intro cs n rest h
    unfold readValue at h
    split at h
    · exact tidy_readText text h
    · exact tidy_readText text h
    · simp at h
    · simp at h
    · exact tidy_readItems h
    · next inner _ =>
      split at h
      · rw [← (Prod.mk.inj (Option.some.inj h)).1]
        exact Node.tidy_table.mpr Node.tidyEntries_nil
      · exact tidy_readEntries (ih inner (by omega)) Node.tidyEntries_nil h
    · split at h
      · rw [← (Prod.mk.inj (Option.some.inj h)).1]
        exact .value rfl
      · rw [← (Prod.mk.inj (Option.some.inj h)).1]
        exact .value rfl
      · obtain ⟨⟨v, left⟩, number, h⟩ := Option.map_eq_some_iff.mp h
        rw [← (Prod.mk.inj h).1]
        exact .value (no_table_of_readNumber number)

theorem tidy_readDocument {fuel : Nat} {d d' : Draft} {table : List String} (h : TidyEntries d)
    (done : readDocument text fuel d table cs = some d') : TidyEntries d' := by
  induction fuel generalizing d table cs with
  | zero => simp [readDocument] at done
  | succ fuel ih =>
    unfold readDocument at done
    split at done
    · exact Option.some.inj done ▸ h
    · obtain ⟨rest, -, done⟩ := Option.bind_eq_some_iff.mp done
      exact ih h done
    · exact ih h done
    · exact ih h done
    · split at done
      · simp at done
      · split at done
        · next declared => exact ih (Draft.tidy_declareItem h declared) done
        · simp at done
    · split at done
      · simp at done
      · split at done
        · next declared => exact ih (Draft.tidy_declareTable h declared) done
        · simp at done
    · split at done
      · simp at done
      · next keys n rest entry =>
        have hn : n.Tidy := tidy_readEntry (tidy_readValue _ _) entry
        split at done
        · next entered => exact ih (Draft.tidy_enter hn h entered) done
        · simp at done

/-- A document before its values are made. -/
def Draft.ofText? (s : String) : Option Draft :=
  let cs := dropByteOrderMark s.toList
  readDocument (cs.length + 2) (cs.length + 2) [] [] cs

theorem Draft.tidy_ofText? {s : String} {d : Draft} (h : Draft.ofText? s = some d) :
    (Node.table .declared d).Tidy :=
  Node.tidy_table.mpr (tidy_readDocument Node.tidyEntries_nil h)

theorem parse_eq (s : String) : parse s = (Draft.ofText? s).bind Draft.toValue? := rfl

/-- The tables of every document that can be read stand in order. -/
theorem ordered_of_parse {s : String} {v : Value} (h : parse s = some v) : v.Ordered := by
  obtain ⟨d, read, hv⟩ := Option.bind_eq_some_iff.mp h
  exact (Draft.tidy_ofText? read).ordered hv

end MessageBus.Toml
