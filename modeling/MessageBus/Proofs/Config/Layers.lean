import MessageBus.Config.Load
import MessageBus.Proofs.Config.Field
import MessageBus.Proofs.Toml.Ordered

namespace MessageBus

theorem Text.isBlankText_iff (s : String) : Text.isBlankText s = true ↔ Text.trim s = "" := by
  constructor
  · exact Text.trim_eq_empty_of_isBlankText
  · intro h
    rw [Text.trim, String.ofList_eq_empty_iff] at h
    rw [Text.isBlankText, h]
    rfl

namespace Config

open Toml (Value)

/-- Whether the file, if there is one, leaves the field of a fallback unset. -/
def Fallback.isOpen (f : Fallback) (file : Option Value) : Bool :=
  !file.any fun v => v.hasPath f.field

/-- Whether a fallback is needed and its variable is set, but blank. -/
def Fallback.isBlank (f : Fallback) (file : Option Value) (env : Environment) : Bool :=
  f.isOpen file && (env.get? f.name).any fun text => Text.trim text = ""

/-- What the environment has for a field: the trimmed text of a variable that is not blank. -/
def Fallback.given? (f : Fallback) (env : Environment) : Option String :=
  ((env.get? f.name).map Text.trim).filter (· ≠ "")

/-- A tree with the text of a variable at its field. -/
def Fallback.putInto (env : Environment) (root : Value) (f : Fallback) : Value :=
  (f.given? env).elim root fun text => root.setField f.field (.string text)

/-- The environment as a layer of its own: a table with the texts of the variables at their
fields. -/
def Environment.layer (env : Environment) : Value :=
  fallbacks.foldl (Fallback.putInto env) (.table [])

/-- A file, if there is one, laid over a tree. -/
def withFile (file : Option Value) (base : Value) : Value := (file.map base.merge).getD base

variable {file : Option Value} {env : Environment} {f : Fallback} {fs : List Fallback}
  {base root : Value}

/-- A blank variable is an error where it is needed. -/
theorem text?_eq (f : Fallback) (file : Option Value) (env : Environment) :
    f.text? file env =
      if f.isBlank file env then .error (.blankVariable f.name)
      else .ok (if f.isOpen file then f.given? env else none) := by
  rw [Fallback.text?, Fallback.isBlank, Fallback.isOpen]
  cases file.any fun v => v.hasPath f.field with
  | true => simp
  | false =>
    cases set : env.get? f.name with
    | none => simp [Fallback.given?, set]
    | some text =>
      by_cases blank : Text.trim text = ""
      · simp [blank, (Text.isBlankText_iff text).mpr blank]
      · have filled : Text.isBlankText text = false := by
          rw [← Bool.not_eq_true, Text.isBlankText_iff]
          exact blank
        simp [Fallback.given?, set, blank, filled, Option.filter]

/-- Trees in which a text can be put into the field of every one of some fallbacks. -/
structure Open (fs : List Fallback) (root : Value) : Prop where
  ordered : root.Ordered
  ready : ∀ f ∈ fs, root.Ready (Value.keysOf f.field)

/-- Whether no field of some fallbacks lies within another one. -/
def Separate (fs : List Fallback) : Prop :=
  fs.Pairwise fun f g => Value.Apart (Value.keysOf f.field) (Value.keysOf g.field)

theorem Fallback.putInto_eq (env : Environment) (root : Value) (f : Fallback) :
    f.putInto env root = (f.given? env).elim root fun text =>
      Value.putAt (.string text) (Value.keysOf f.field) root := by
  simp only [Fallback.putInto, Value.setField_eq]

theorem Open.putInto (h : Open (f :: fs) root) (apart : Separate (f :: fs)) (env : Environment) :
    Open fs (f.putInto env root) := by
  rw [Fallback.putInto_eq]
  cases f.given? env with
  | none => exact ⟨h.ordered, fun g hg => h.ready g (List.mem_cons_of_mem _ hg)⟩
  | some text =>
    refine ⟨h.ordered.putAt (Value.ordered_of_no_table rfl) _, fun g hg => ?_⟩
    exact (h.ready g (List.mem_cons_of_mem _ hg)).putAt ((List.pairwise_cons.mp apart).1 g hg)

theorem keysOf_ne_nil (path : String) : Value.keysOf path ≠ [] :=
  fun h => Text.splitOn_ne_nil _ _ (List.map_eq_nil_iff.mp h)

/-- A layer with texts at some fields laid over a tree is the tree with the texts at these
fields. -/
theorem merge_putInto (hb : Open fs base) (hr : Open fs root) (apart : Separate fs)
    (env : Environment) : base.merge (fs.foldl (Fallback.putInto env) root) =
      fs.foldl (Fallback.putInto env) (base.merge root) := by
  induction fs generalizing root with
  | nil => rfl
  | cons f fs ih =>
    have step : base.merge (f.putInto env root) = f.putInto env (base.merge root) := by
      rw [Fallback.putInto_eq, Fallback.putInto_eq]
      cases f.given? env with
      | none => rfl
      | some text =>
        exact Value.merge_putAt hb.ordered hr.ordered rfl (hb.ready f List.mem_cons_self)
          (hr.ready f List.mem_cons_self) (keysOf_ne_nil _)
    have rest : Open fs base := ⟨hb.ordered, fun g hg => hb.ready g (List.mem_cons_of_mem _ hg)⟩
    rw [List.foldl_cons, ih rest (hr.putInto apart env) (List.pairwise_cons.mp apart).2, step,
      List.foldl_cons]

/-- A text put under a file is lost where the file has the field, and otherwise stands as if it had
been put into the file. -/
theorem withFile_putInto (hb : Open (f :: fs) base) (hf : ∀ v ∈ file, v.Ordered)
    (env : Environment) : withFile file (f.putInto env base) =
      if f.isOpen file then f.putInto env (withFile file base) else withFile file base := by
  have ready := hb.ready f List.mem_cons_self
  rw [Fallback.putInto_eq, Fallback.putInto_eq]
  cases f.given? env with
  | none => simp
  | some text =>
    cases file with
    | none => rfl
    | some v =>
      have hv : v.Ordered := hf v rfl
      cases has : v.hasPath f.field with
      | true =>
        have taken : f.isOpen (some v) = false := by simp [Fallback.isOpen, has]
        rw [taken, if_neg Bool.false_ne_true]
        exact Value.merge_putAt_of_lookup hb.ordered hv rfl ready has
      | false =>
        have free : f.isOpen (some v) = true := by simp [Fallback.isOpen, has]
        rw [free, if_pos rfl]
        exact (Value.putAt_merge hb.ordered hv (Value.ordered_of_no_table rfl) ready
          (Option.not_isSome_iff_eq_none.mp (by simpa [Value.hasPath] using has))).symm

/-- Without a blank variable that is needed, the fallbacks of a file lie below the file. -/
theorem applyEach_layered (hb : Open fs base) (apart : Separate fs) (hf : ∀ v ∈ file, v.Ordered)
    (clear : ∀ f ∈ fs, f.isBlank file env = false) (count : Nat) :
    applyEach file env fs (withFile file base) count =
      (withFile file (fs.foldl (Fallback.putInto env) base),
        .ok (count + fs.countP fun f => f.isOpen file && (f.given? env).isSome)) := by
  induction fs generalizing base count with
  | nil => rfl
  | cons f fs ih =>
    have next := ih (hb.putInto apart env) (List.pairwise_cons.mp apart).2
      fun g hg => clear g (List.mem_cons_of_mem _ hg)
    rw [withFile_putInto hb hf env] at next
    rw [applyEach, text?_eq, clear f List.mem_cons_self, if_neg Bool.false_ne_true,
      List.foldl_cons, List.countP_cons]
    cases needed : f.isOpen file with
    | false =>
      rw [needed] at next
      simpa using next count
    | true =>
      rw [needed] at next
      cases given : f.given? env with
      | none => simpa [Fallback.putInto, given] using next count
      | some text =>
        simpa [Fallback.putInto, given, Nat.add_assoc, Nat.add_comm 1] using next (count + 1)

/-- The first blank variable that is needed is the one that is reported. -/
theorem applyEach_blank (h : fs.find? (·.isBlank file env) = some f) (root : Value) (count : Nat) :
    (applyEach file env fs root count).2 = .error (.blankVariable f.name) := by
  induction fs generalizing root count with
  | nil => simp at h
  | cons g fs ih =>
    rw [List.find?_cons] at h
    rw [applyEach, text?_eq]
    cases blank : g.isBlank file env with
    | true =>
      rw [blank] at h
      rw [if_pos rfl, Option.some.inj h]
    | false =>
      rw [blank] at h
      rw [if_neg Bool.false_ne_true]
      cases (if g.isOpen file then g.given? env else none) with
      | none => exact ih h _ _
      | some text => exact ih h _ _

theorem separate_fallbacks : Separate fallbacks := by
  unfold Separate Value.Apart
  decide +kernel

/-- The defaults have a value that is no table at every field with a fallback. -/
theorem fallbacks_have_defaults : ((Toml.Draft.ofText? defaultsText).any fun d =>
    (Toml.Node.table .declared d).toValue?.isSome && fallbacks.all fun f =>
      ((Toml.Node.table .declared d).lookup (Value.keysOf f.field)).any fun n =>
        n.toValue?.any fun v => v.entries?.isNone) = true := by
  decide +kernel

theorem defaultLayer_open : ∃ base, defaultLayer = .ok base ∧ Open fallbacks base := by
  obtain ⟨d, read, check⟩ := Option.any_eq_true _ _ |>.mp fallbacks_have_defaults
  obtain ⟨finished, fields⟩ := Bool.and_eq_true_iff.mp check
  obtain ⟨base, hbase⟩ := Option.isSome_iff_exists.mp finished
  have parsed : Toml.parse defaultsText = some base := by
    rw [Toml.parse_eq, read]
    exact hbase
  refine ⟨base, by rw [defaultLayer, parseLayer, parsed], Toml.ordered_of_parse parsed, ?_⟩
  intro f hf
  obtain ⟨n, found, plain⟩ := Option.any_eq_true _ _ |>.mp (List.all_eq_true.mp fields f hf)
  obtain ⟨v, hv, plain⟩ := Option.any_eq_true _ _ |>.mp plain
  have there : base.lookup (Value.keysOf f.field) = some v :=
    ((Toml.Draft.tidy_ofText? read).lookup_toValue? hbase found).trans hv
  exact Value.ready_of_lookup there (Option.isNone_iff_eq_none.mp plain)

theorem open_empty (fs : List Fallback) : Open fs (.table []) :=
  ⟨Value.ordered_empty, fun f _ => Value.ready_empty (keysOf_ne_nil f.field)⟩

theorem Open.isTable (h : Open (f :: fs) root) : root.IsTable := by
  obtain ⟨key, path, e⟩ := List.exists_cons_of_ne_nil (keysOf_ne_nil f.field)
  have ready := h.ready f List.mem_cons_self
  rw [e] at ready
  exact ready.table

theorem lookup_putInto (h : Open (f :: fs) root) (env : Environment) {v : Value}
    (hv : v.entries? = none) (path : List String) : (f.putInto env root).lookup path = some v ↔
      if Value.keysOf f.field = path ∧ (f.given? env).isSome
      then (f.given? env).map .string = some v else root.lookup path = some v := by
  rw [Fallback.putInto_eq]
  cases f.given? env with
  | none => simp
  | some text =>
    rw [Option.elim, Value.lookup_putAt_iff (h.ready f List.mem_cons_self)
      (keysOf_ne_nil _) rfl hv]
    by_cases same : path = Value.keysOf f.field <;> simp [same, eq_comm]

/-- Putting the texts of some variables into a tree puts each of them at its field. -/
theorem lookup_foldl_putInto (h : Open fs root) (apart : Separate fs) {v : Value}
    (hv : v.entries? = none) (path : List String) :
    (fs.foldl (Fallback.putInto env) root).lookup path = some v ↔
      (∃ f ∈ fs, Value.keysOf f.field = path ∧ (f.given? env).map .string = some v) ∨
      ((∀ f ∈ fs, Value.keysOf f.field = path → f.given? env = none) ∧
        root.lookup path = some v) := by
  induction fs generalizing root with
  | nil => simp
  | cons f fs ih =>
    rw [List.foldl_cons, ih (h.putInto apart env) (List.pairwise_cons.mp apart).2,
      lookup_putInto h env hv path]
    by_cases here : Value.keysOf f.field = path
    · -- No other fallback has the same field.
      have others : ∀ g ∈ fs, Value.keysOf g.field ≠ path := fun g hg same =>
        ((List.pairwise_cons.mp apart).1 g hg).1 (by rw [here, same])
      have nowhere : ¬ ∃ g ∈ fs, Value.keysOf g.field = path ∧
          (g.given? env).map .string = some v := fun ⟨g, hg, same, _⟩ => others g hg same
      have vacuous : ∀ g ∈ fs, Value.keysOf g.field = path → g.given? env = none :=
        fun g hg same => absurd same (others g hg)
      rw [List.exists_mem_cons_iff, List.forall_mem_cons, iff_false_intro nowhere,
        iff_true_intro vacuous]
      cases f.given? env <;> simp [here]
    · simp [here]

theorem lookup_layer (env : Environment) {v : Value} (hv : v.entries? = none)
    (path : List String) : env.layer.lookup path = some v ↔
      ∃ f ∈ fallbacks, Value.keysOf f.field = path ∧ (f.given? env).map .string = some v := by
  rw [Environment.layer, lookup_foldl_putInto (open_empty _) separate_fallbacks hv]
  simp [Value.lookup_empty path hv]

/-- Fallbacks that are applied to a file over the defaults lie between the two. -/
theorem applyFallbacks_layered (h : Open fallbacks base) (hf : ∀ v ∈ file, v.Ordered)
    (clear : fallbacks.find? (·.isBlank file env) = none) :
    applyFallbacks (withFile file base) file env = (withFile file (base.merge env.layer),
      .ok (fallbacks.countP fun f => f.isOpen file && (f.given? env).isSome)) := by
  have below : base.merge env.layer = fallbacks.foldl (Fallback.putInto env) base := by
    obtain ⟨entries, rfl⟩ := h.isTable
    rw [Environment.layer, merge_putInto h (open_empty _) separate_fallbacks,
      Value.merge_table_empty]
  have clear' : ∀ f ∈ fallbacks, f.isBlank file env = false := fun f hf' => by
    simpa using List.find?_eq_none.mp clear f hf'
  rw [applyFallbacks, applyEach_layered h separate_fallbacks hf clear', Nat.zero_add, below]

/-- The file that a configuration is loaded from, if there is one. -/
def fileAt (disk : Disk) (path : Option String) : Except ConfigError (Option Value) :=
  path.elim (.ok none) (fileLayer disk)

theorem ordered_of_parseLayer {text origin : String} {v : Value}
    (h : parseLayer text origin = .ok v) : v.Ordered := by
  rw [parseLayer] at h
  split at h
  · next parsed => exact Except.ok.inj h ▸ Toml.ordered_of_parse parsed
  · simp at h

theorem ordered_of_fileAt {disk : Disk} {path : Option String} (h : fileAt disk path = .ok file) :
    ∀ v ∈ file, v.Ordered := by
  intro v hv
  rw [Option.mem_def.mp hv] at h
  cases path with
  | none => simp [fileAt] at h
  | some path =>
    rw [fileAt, Option.elim, fileLayer] at h
    split at h
    · simp at h
    · simp at h
    · split at h
      · simp at h
      · next text _ _ =>
        cases parsed : parseLayer text path with
        | error e => simp [parsed, Except.map] at h
        | ok w =>
          have same : w = v := by simpa [parsed, Except.map] using h
          exact ordered_of_parseLayer (same ▸ parsed)

theorem load_eq_apply (read : defaultLayer = .ok base) (disk : Disk) (path : Option String)
    (env : Environment) : load disk path env = (fileAt disk path).bind fun file =>
      (applyFallbacks (withFile file base) file env).2.bind fun _ =>
        finish (applyFallbacks (withFile file base) file env).1 "<merged config>" := by
  rw [load, read]
  cases path <;> rfl

/-- What is loaded when the fallbacks are put below the file. -/
theorem load_eq (disk : Disk) (path : Option String) (env : Environment) :
    load disk path env = (fileAt disk path).bind fun file =>
      match fallbacks.find? (·.isBlank file env) with
      | some f => .error (.blankVariable f.name)
      | none => defaultLayer.bind fun base =>
          finish (withFile file (base.merge env.layer)) "<merged config>" := by
  obtain ⟨base, read, fields⟩ := defaultLayer_open
  rw [load_eq_apply read, read]
  cases found : fileAt disk path with
  | error e => rfl
  | ok file =>
    cases blank : fallbacks.find? (·.isBlank file env) with
    | some f =>
      have refused : (applyFallbacks (withFile file base) file env).2 = _ :=
        applyEach_blank blank (withFile file base) 0
      simp only [Except.bind, refused, blank]
    | none =>
      simp only [Except.bind, applyFallbacks_layered fields (ordered_of_fileAt found) blank, blank]

/-- Whether two environments agree on the variables of all fields that a file leaves unset. -/
def Agree (file : Option Value) (env env' : Environment) : Prop :=
  ∀ f ∈ fallbacks, f.isOpen file = true → env.get? f.name = env'.get? f.name

theorem applyEach_congr {env' : Environment}
    (same : ∀ f ∈ fs, f.isOpen file = true → env.get? f.name = env'.get? f.name) (root : Value)
    (count : Nat) : applyEach file env fs root count = applyEach file env' fs root count := by
  induction fs generalizing root count with
  | nil => rfl
  | cons f fs ih =>
    have texts : f.text? file env = f.text? file env' := by
      rw [text?_eq, text?_eq, Fallback.isBlank, Fallback.isBlank]
      cases needed : f.isOpen file with
      | false => rfl
      | true => rw [Fallback.given?, Fallback.given?, same f List.mem_cons_self needed]
    have rest := ih fun g hg => same g (List.mem_cons_of_mem _ hg)
    rw [applyEach, applyEach, texts]
    split
    · rfl
    · exact rest _ _
    · exact rest _ _

/-- Variables of fields that the file sets, and those that stand for no field, change nothing. -/
theorem load_congr {disk : Disk} {path : Option String} {env' : Environment}
    (same : ∀ file, fileAt disk path = .ok file → Agree file env env') :
    load disk path env = load disk path env' := by
  obtain ⟨base, read, -⟩ := defaultLayer_open
  rw [load_eq_apply read, load_eq_apply read]
  cases found : fileAt disk path with
  | error e => rfl
  | ok file =>
    have applied : applyFallbacks (withFile file base) file env =
        applyFallbacks (withFile file base) file env' := applyEach_congr (same file found) _ 0
    simp only [Except.bind, applied]

/-- Applying fallbacks to a file over the defaults puts them into a layer between the two. The first
fallback that is needed and blank is refused, in the order of the fallbacks. So is what is loaded,
to which no variable adds whose field the file sets, or which stands for no field. -/
theorem fallbacks_lie_between_defaults_and_file :
    ∃ base, defaultLayer = .ok base ∧
      (∀ (file : Option Value) (env : Environment), (∀ v ∈ file, v.Ordered) →
        (∀ name, (applyFallbacks (withFile file base) file env).2 = .error (.blankVariable name) ↔
          ∃ f, fallbacks.find? (·.isBlank file env) = some f ∧ f.name = name) ∧
        ((∀ f ∈ fallbacks, f.isBlank file env = false) →
          applyFallbacks (withFile file base) file env = (withFile file (base.merge env.layer),
            .ok (fallbacks.countP fun f => f.isOpen file && (f.given? env).isSome)))) ∧
      (∀ (env : Environment) (v : Value), v.entries? = none → ∀ path,
        env.layer.lookup path = some v ↔
          ∃ f ∈ fallbacks, Value.keysOf f.field = path ∧ (f.given? env).map .string = some v) ∧
      (∀ (disk : Disk) (path : Option String) (env : Environment),
        load disk path env = (fileAt disk path).bind fun file =>
          match fallbacks.find? (·.isBlank file env) with
          | some f => .error (.blankVariable f.name)
          | none => finish (withFile file (base.merge env.layer)) "<merged config>") ∧
      ∀ (disk : Disk) (path : Option String) (env env' : Environment),
        (∀ file, fileAt disk path = .ok file → Agree file env env') →
          load disk path env = load disk path env' := by
  obtain ⟨base, read, fields⟩ := defaultLayer_open
  refine ⟨base, read, fun file env hf => ⟨?_, ?_⟩, fun env v hv path => lookup_layer env hv path,
    ?_, fun disk path env env' same => load_congr same⟩
  · intro name
    constructor
    · intro refused
      cases blank : fallbacks.find? (·.isBlank file env) with
      | none =>
        rw [applyFallbacks_layered fields hf blank] at refused
        simp at refused
      | some f =>
        rw [applyFallbacks, applyEach_blank blank] at refused
        exact ⟨f, rfl, by simpa using refused⟩
    · rintro ⟨f, blank, rfl⟩
      exact applyEach_blank blank _ 0
  · intro clear
    have none_blank : fallbacks.find? (·.isBlank file env) = none := by
      apply List.find?_eq_none.mpr
      intro f hf'
      rw [clear f hf']
      exact Bool.false_ne_true
    exact applyFallbacks_layered fields hf none_blank
  · intro disk path env
    rw [load_eq, read]
    rfl

/-- A file that sets the level hides a blank variable for it, and the format comes from the
environment; a variable for nothing changes nothing. -/
theorem fallbacks_lie_between_defaults_and_file_at_level :
    ∃ base, defaultLayer = .ok base ∧
      (let file := (Value.table []).setField "logging.level" (.string "debug")
      let env : Environment := [("POSTAL_LOG_FORMAT", " json "), ("POSTAL_LOG_LEVEL", " ")]
      applyFallbacks (base.merge file) (some file) env =
        ((base.merge env.layer).merge file, .ok 1)) ∧
      load {} none [("POSTAL_LOG_LEVEL", "warn")] =
        load {} none [("POSTAL_LOG_COLOR", ""), ("POSTAL_LOG_LEVEL", "warn")] := by
  obtain ⟨base, read, applied, -, -, loaded⟩ := fallbacks_lie_between_defaults_and_file
  refine ⟨base, read, ?_, ?_⟩
  · refine (applied (some _) _ fun v hv => ?_).2 (by decide +kernel)
    rw [← Option.some.inj hv]
    exact Value.ordered_empty.putAt (Value.ordered_of_no_table rfl) _
  · have same : ∀ f ∈ fallbacks, Shelf.get? [("POSTAL_LOG_LEVEL", "warn")] f.name =
        Shelf.get? [("POSTAL_LOG_COLOR", ""), ("POSTAL_LOG_LEVEL", "warn")] f.name := by
      decide +kernel
    exact loaded _ _ _ _ fun file _ f hf _ => same f hf

end Config

end MessageBus
