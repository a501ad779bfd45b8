import MessageBus.Proofs.Config.Layers
import MessageBus.Proofs.Config.Structure

namespace MessageBus.Config

open Datum (Recedes)
open Toml (Draft Node Value)

theorem Logging.apart_fields : Datum.Apart Logging.fields := by
  intro f hf g hg ne d e a b still changed
  simp only [Logging.fields, List.mem_cons, List.not_mem_nil, or_false] at hf hg
  rcases hf with rfl | rfl | rfl | rfl | rfl <;> rcases hg with rfl | rfl | rfl | rfl | rfl
  all_goals
    first
      | exact absurd rfl ne
      | exact Datum.still_after_field still changed fun _ _ _ => rfl

theorem Sinks.apart_fields : Datum.Apart Sinks.fields := by
  intro f hf g hg ne d e a b still changed
  simp only [Sinks.fields, List.mem_cons, List.not_mem_nil, or_false] at hf hg
  rcases hf with rfl | rfl | rfl <;> rcases hg with rfl | rfl | rfl
  all_goals
    first
      | exact absurd rfl ne
      | exact Datum.still_after_field still changed fun _ _ _ => rfl

theorem apart_fields : Datum.Apart fields := by
  intro f hf g hg ne d e a b still changed
  simp only [fields, List.mem_cons, List.not_mem_nil, or_false] at hf hg
  rcases hf with rfl | rfl <;> rcases hg with rfl | rfl
  all_goals
    first
      | exact absurd rfl ne
      | exact Datum.still_after_field still changed fun _ _ _ => rfl

/-- Whether a part of a document has a value for each of some fields, none of them a table, that
changes nothing. -/
def settles {α : Type} [DecidableEq α] (fields : List (Datum.Field α)) (a : α) (d : Draft)
    (part : String) : Bool :=
  fields.all fun f => ((Node.table .declared d).lookup [part, f.name]).any fun n =>
    n.toValue?.any fun v => v.entries?.isNone && f.set (.ofToml v) a = .ok a

/-- The defaults have the same value for every field as a configuration that nobody set. -/
theorem defaults_settle : ((Draft.ofText? defaultsText).any fun d =>
    (Node.table .declared d).toValue?.isSome && settles Logging.fields {} d "logging" &&
      settles Sinks.fields {} d "sinks") = true := by
  decide +kernel

/-- A part of a document that settles all fields of a structure is read as the default, and recedes
below what is read as that structure. -/
theorem recedes_of_settles {α : Type} [DecidableEq α] {fields : List (Datum.Field α)} {a : α}
    (apart : Datum.Apart fields) (some_field : fields ≠ []) (name : String) {text part : String}
    {d : Draft} {base w : Value} (read : Draft.ofText? text = some d)
    (parsed : Toml.parse text = some base) (settled : settles fields a d part = true)
    (found : base.get? part = some w) : Datum.asStructure name fields a (.ofToml w) = .ok a ∧
      Recedes (Datum.asStructure name fields a) w := by
  have ordered : base.Ordered := Toml.ordered_of_parse parsed
  have finished : (Node.table .declared d).toValue? = some base := by
    rw [Toml.parse_eq, read] at parsed
    exact parsed
  have each : ∀ f ∈ fields, ∃ v, w.get? f.name = some v ∧ f.IsDefault a v := by
    intro f hf
    obtain ⟨n, there, check⟩ := Option.any_eq_true _ _ |>.mp (List.all_eq_true.mp settled f hf)
    obtain ⟨v, made, check⟩ := Option.any_eq_true _ _ |>.mp check
    obtain ⟨plain, still⟩ := Bool.and_eq_true_iff.mp check
    have path : base.lookup [part, f.name] = some v :=
      ((Draft.tidy_ofText? read).lookup_toValue? finished there).trans made
    rw [Value.lookup_cons_of_get? found, Value.lookup_cons, Option.bind_eq_some_iff] at path
    obtain ⟨v', hv', same⟩ := path
    rw [Value.lookup_nil, Option.some.injEq] at same
    exact ⟨v, same ▸ hv',
      Datum.isDefault_of_no_table (Option.isNone_iff_eq_none.mp plain) (of_decide_eq_true still)⟩
  have recedes : Recedes (Datum.asStructure name fields a) w := by
    refine Datum.recedes_structure name apart (ordered.child found) fun f hf v hv => ?_
    obtain ⟨v', hv', default⟩ := each f hf
    rwa [← Option.some.inj (hv'.symm.trans hv)]
  have table : w.IsTable := by
    obtain ⟨f, hf⟩ := List.exists_mem_of_ne_nil fields some_field
    obtain ⟨v, hv, -⟩ := each f hf
    rcases Value.table_or_not w with table | plain
    · exact table
    · simp [Value.get?_of_no_table plain] at hv
  exact ⟨recedes.read_eq table, recedes⟩

/-- The defaults recede below whatever is read as a configuration. -/
theorem defaultLayer_recedes : ∃ base, defaultLayer = .ok base ∧ Recedes ofDatum base := by
  obtain ⟨d, read, check⟩ := Option.any_eq_true _ _ |>.mp defaults_settle
  obtain ⟨check, sinks⟩ := Bool.and_eq_true_iff.mp check
  obtain ⟨finished, logging⟩ := Bool.and_eq_true_iff.mp check
  obtain ⟨base, hbase⟩ := Option.isSome_iff_exists.mp finished
  have parsed : Toml.parse defaultsText = some base := by
    rw [Toml.parse_eq, read]
    exact hbase
  refine ⟨base, by rw [defaultLayer, parseLayer, parsed], ?_⟩
  refine Datum.recedes_structure "Config" apart_fields (Toml.ordered_of_parse parsed)
    fun f hf w hw => ?_
  simp only [fields, List.mem_cons, List.not_mem_nil, or_false] at hf
  rcases hf with rfl | rfl
  · obtain ⟨alone, recedes⟩ := recedes_of_settles Logging.apart_fields (by simp [Logging.fields])
      "LoggingSection" read parsed logging hw
    exact Datum.isDefault_field alone rfl recedes
  · obtain ⟨alone, recedes⟩ := recedes_of_settles Sinks.apart_fields (by simp [Sinks.fields])
      "SinksSection" read parsed sinks hw
    exact Datum.isDefault_field alone rfl recedes

theorem finish_merge {base : Value} (recedes : Recedes ofDatum base) {v : Value} (hv : v.Ordered)
    (origin : String) : finish (base.merge v) origin = finish v origin := by
  rw [finish, finish, recedes v hv]

/-- The defaults that are laid below a tree are those that its missing sections and fields have
anyway: with them and without them the same configuration is read and accepted, or the same is
found wrong. So a text is read as if there were no layer of defaults. -/
theorem defaults_recede : ∃ base, defaultLayer = .ok base ∧
    (∀ (v : Value) (origin : String), v.Ordered →
      finish (base.merge v) origin = finish v origin) ∧
    finish (.table []) "<string>" = .ok {} ∧
    ∀ text, ofToml text = (parseLayer text "<string>").bind fun v => finish v "<string>" := by
  obtain ⟨base, read, recedes⟩ := defaultLayer_recedes
  refine ⟨base, read, fun v origin hv => finish_merge recedes hv origin, by decide +kernel, ?_⟩
  intro text
  rw [ofToml, read]
  cases parsed : parseLayer text "<string>" with
  | error e => rfl
  | ok v => exact finish_merge recedes (ordered_of_parseLayer parsed) _

/-- A section in the order of its fields, and another one with one field only. -/
theorem defaults_recede_below_parts : ∃ base, defaultLayer = .ok base ∧
    let logging := Value.array [.string "debug", .string "json"]
    let v := ((Value.table []).setField "logging" logging).setField "sinks.include_message"
      (.boolean true)
    v.Ordered ∧ finish (base.merge v) "<string>" = .ok
      { logging := { level := "debug", format := "json" }
        sinks := { includeMessage := true } } := by
  obtain ⟨base, read, recedes, -⟩ := defaults_recede
  have ordered := (Value.ordered_empty.putAt
    (Value.ordered_of_no_table (v := .array [.string "debug", .string "json"]) rfl)
    (Value.keysOf "logging")).putAt (Value.ordered_of_no_table (v := .boolean true) rfl)
    (Value.keysOf "sinks.include_message")
  refine ⟨base, read, ordered, (recedes _ _ ordered).trans ?_⟩
  decide +kernel

end MessageBus.Config
