import MessageBus.Proofs.Config.Defaults

namespace MessageBus

/-- The error with other labels for where the text and where the data come from that it is about. -/
def ConfigError.relabel (text data : String) : ConfigError → ConfigError
  | .badSyntax _ t => .badSyntax text t
  | .wrongType _ m => .wrongType data m
  | e => e

namespace Config

open Toml (Value)

variable {disk : Disk} {env : Environment} {base : Value} {path text : String}
  {path? : Option String}

section Validation

/-- Whether a check that fails blames a field. -/
def BlamesField (check : Except ConfigError Unit) : Prop :=
  ∀ e, check = .error e → ∃ field detail, e = .invalidField field detail

theorem blamesField_checkOneOf (field value : String) (allowed : List String) (what : String) :
    BlamesField (checkOneOf field value allowed what) := by
  intro e h
  rw [checkOneOf] at h
  split at h
  · cases h
  · cases h
    exact ⟨_, _, rfl⟩

theorem blamesField_checkDirectory (c : Logging) : BlamesField (checkDirectory c) := by
  intro e h
  rw [checkDirectory] at h
  split at h
  · cases h
    exact ⟨_, _, rfl⟩
  · cases h

theorem blamesField_checkDirectives (c : Logging) : BlamesField (checkDirectives c) := by
  intro e h
  rw [checkDirectives] at h
  split at h
  · cases h
  · cases h
    exact ⟨_, _, rfl⟩

theorem BlamesField.bind {check rest : Except ConfigError Unit} (first : BlamesField check)
    (second : BlamesField rest) : BlamesField (check.bind fun _ => rest) := by
  intro e h
  cases check with
  | error e' => exact first e h
  | ok u => exact second e h

theorem blamesField_validate (c : Config) : BlamesField (validate c) :=
  (blamesField_checkOneOf _ _ _ _).bind <| (blamesField_checkOneOf _ _ _ _).bind <|
    (blamesField_checkOneOf _ _ _ _).bind <| (blamesField_checkDirectory _).bind <|
    (blamesField_checkDirectives _).bind <| (blamesField_checkOneOf _ _ _ _).bind <|
    blamesField_checkOneOf _ _ _ _

end Validation

/-- Where a tree comes from is said only when a value in it has the wrong type. -/
theorem finish_relabel (v : Value) (origin text data : String) :
    finish v data = (finish v origin).mapError (ConfigError.relabel text data) := by
  rw [finish, finish]
  cases ofDatum (.ofToml v) with
  | error misfit => rfl
  | ok c =>
    simp only
    cases checked : validate c with
    | ok u => rfl
    | error e =>
      obtain ⟨field, detail, rfl⟩ := blamesField_validate c e checked
      rfl

/-- Whether no variable is set that stands in for a field. -/
def Environment.Unset (env : Environment) : Prop := ∀ f ∈ fallbacks, env.get? f.name = none

instance : Decidable env.Unset := inferInstanceAs (Decidable (∀ f ∈ fallbacks, _ = _))

theorem applyEach_unset {file : Option Value} {fs : List Fallback}
    (h : ∀ f ∈ fs, env.get? f.name = none) (root : Value) (count : Nat) :
    applyEach file env fs root count = (root, .ok count) := by
  induction fs with
  | nil => rfl
  | cons f fs ih =>
    have nothing : f.text? file env = .ok none := by
      simp [Fallback.text?, h f List.mem_cons_self]
    rw [applyEach, nothing]
    exact ih fun g hg => h g (List.mem_cons_of_mem _ hg)

/-- Without variables a file is laid over the defaults, and that is all. -/
theorem load_unset (read : defaultLayer = .ok base) (h : env.Unset) (path : Option String) :
    load disk path env = (fileAt disk path).bind fun file =>
      finish (withFile file base) "<merged config>" := by
  rw [load_eq_apply read]
  cases fileAt disk path with
  | error e => rfl
  | ok file => rw [Except.bind, Except.bind, applyFallbacks, applyEach_unset h]; rfl

theorem fileAt_missing (h : ∀ p ∈ path?, disk.read p = .error .missing) :
    fileAt disk path? = .ok none := by
  cases path? with
  | none => rfl
  | some p => simp [fileAt, fileLayer, h p rfl]

theorem fileAt_read (h : disk.read path = .ok text) (size : text.utf8ByteSize ≤ sizeLimit) :
    fileAt disk (some path) = (parseLayer text path).map some := by
  have fits : ¬ sizeLimit < text.utf8ByteSize := Nat.not_lt.mpr size
  simp [fileAt, fileLayer, h, fits]

theorem fileAt_large (h : disk.read path = .ok text) (size : sizeLimit < text.utf8ByteSize) :
    fileAt disk (some path) = .error (.tooLarge path text.utf8ByteSize sizeLimit) := by
  simp [fileAt, fileLayer, h, size]

theorem ofToml_eq (read : defaultLayer = .ok base) (text : String) :
    ofToml text = (parseLayer text "<string>").bind fun v => finish (base.merge v) "<string>" := by
  rw [ofToml, read]
  rfl

theorem load_file (read : defaultLayer = .ok base) (h : disk.read path = .ok text)
    (size : text.utf8ByteSize ≤ sizeLimit) (unset : env.Unset) :
    load disk (some path) env =
      (ofToml text).mapError (ConfigError.relabel path "<merged config>") := by
  rw [load_unset read unset, fileAt_read h size, ofToml_eq read, parseLayer, parseLayer]
  cases Toml.parse text with
  | none => rfl
  | some v => exact finish_relabel (base.merge v) "<string>" path "<merged config>"

theorem ofToml_empty : ofToml "" = .ok {} := by
  obtain ⟨base, read, recedes⟩ := defaultLayer_recedes
  have parsed : Toml.parse "" = some (.table []) := by cbv
  rw [ofToml_eq read, parseLayer, parsed]
  refine (finish_merge recedes Value.ordered_empty _).trans ?_
  decide +kernel

theorem load_missing (h : ∀ p ∈ path?, disk.read p = .error .missing) (unset : env.Unset) :
    load disk path? env = .ok {} := by
  obtain ⟨base, read, recedes⟩ := defaultLayer_recedes
  obtain ⟨base', read', fields⟩ := defaultLayer_open
  obtain rfl : base = base' := Except.ok.inj (read.symm.trans read')
  obtain ⟨entries, rfl⟩ := fields.isTable
  rw [load_unset read unset, fileAt_missing h]
  calc finish (.table entries) "<merged config>"
    _ = finish (Value.merge (.table entries) (.table [])) "<merged config>" := by
      rw [Value.merge_table_empty]
    _ = finish (.table []) "<merged config>" := finish_merge recedes Value.ordered_empty _
    _ = .ok {} := by decide +kernel

/-- A file and a text are two ways to the same configuration: without variables that stand in for a
field, a file is read as its text is, or the same is found wrong with both and only the labels for
where it is differ; and without a file it is the empty text that is read. But a file that is too
large is refused, whatever is in it and whatever variables are set. -/
theorem load_agrees_with_ofToml :
    (∀ (disk : Disk) (path text : String) (env : Environment), disk.read path = .ok text →
      text.utf8ByteSize ≤ 1048576 → env.Unset →
        load disk (some path) env =
          (ofToml text).mapError (ConfigError.relabel path "<merged config>")) ∧
      (∀ (disk : Disk) (path? : Option String) (env : Environment),
        (∀ path ∈ path?, disk.read path = .error .missing) → env.Unset →
          load disk path? env = ofToml "" ∧ ofToml "" = .ok {}) ∧
      ∀ (disk : Disk) (path text : String) (env : Environment), disk.read path = .ok text →
        1048576 < text.utf8ByteSize →
          load disk (some path) env = .error (.tooLarge path text.utf8ByteSize 1048576) := by
  obtain ⟨base, read, -⟩ := defaultLayer_recedes
  refine ⟨?_, ?_, ?_⟩
  · intro disk path text env there size unset
    exact load_file read there size unset
  · intro disk path? env missing unset
    exact ⟨(load_missing missing unset).trans ofToml_empty.symm, ofToml_empty⟩
  · intro disk path text env there size
    rw [load_eq_apply read, fileAt_large there size]
    rfl

theorem utf8ByteSize_replicate (n : Nat) :
    (String.ofList (List.replicate n 'x')).utf8ByteSize = n := by
  induction n with
  | zero => rfl
  | succ n ih =>
    have one : "x".utf8ByteSize = 1 := rfl
    rw [List.replicate_succ, String.ofList_cons, String.utf8ByteSize_append, ih]
    simp [one, Nat.add_comm]

/-- A file with a level that there is not, no file, and a file of one byte too many while a variable
is blank. -/
theorem load_agrees_with_ofToml_loud :
    (let disk (text : String) : Disk := Disk.layDown {} "bus.toml" (.file (some text))
    let loud := "[logging]\nlevel = \"loud\"\n"
    let long := String.ofList (List.replicate 1048577 'x')
    load (disk loud) (some "bus.toml") [("HOME", "/root")] =
        (ofToml loud).mapError (ConfigError.relabel "bus.toml" "<merged config>") ∧
      load (disk loud) (some "other.toml") [] = .ok {} ∧
      load (disk long) (some "bus.toml") [("POSTAL_LOG_LEVEL", " ")] =
        .error (.tooLarge "bus.toml" 1048577 1048576)) := by
  obtain ⟨file, missing, large⟩ := load_agrees_with_ofToml
  refine ⟨?_, ?_, ?_⟩
  · exact file _ _ _ _ rfl (by decide) (by decide +kernel)
  · obtain ⟨same, empty⟩ := missing (Disk.layDown {} "bus.toml" (.file (some _)))
      (some "other.toml") [] (by rintro path ⟨⟩; rfl) (by decide +kernel)
    exact same.trans empty
  · have size := utf8ByteSize_replicate 1048577
    have beyond : 1048576 < (String.ofList (List.replicate 1048577 'x')).utf8ByteSize := by
      rw [size]
      decide
    have refused := large (Disk.layDown {} "bus.toml" (.file (some _))) "bus.toml" _
      [("POSTAL_LOG_LEVEL", " ")] rfl beyond
    rwa [size] at refused

end Config

end MessageBus
