import MessageBus.Proofs.Config.Accepted
import MessageBus.Proofs.Config.Loading

namespace MessageBus.Config

/-- What validation asks of a configuration, one thing after the other. -/
inductive Demand
  | level | format | target | directory | directive (i : Nat) | deadLetterLevel | failureLevel
  deriving DecidableEq

namespace Demand

/-- The field that a demand is made of. -/
def field : Demand → String
  | level => "logging.level"
  | format => "logging.format"
  | target => "logging.target"
  | directory => "logging.directory"
  | directive i => "logging.directives[" ++ toString i ++ "]"
  | deadLetterLevel => "sinks.dead_letter_level"
  | failureLevel => "sinks.failure_level"

/-- Whether a configuration does what a demand asks. -/
def Met (c : Config) : Demand → Prop
  | level => c.logging.level ∈ levelNames
  | format => c.logging.format ∈ formatNames
  | target => c.logging.target ∈ targetNames
  | directory => c.logging.target = "file" → Text.isBlankText c.logging.directory = false
  | directive i => ∀ d ∈ c.logging.directives[i]?, Text.isBlankText d = false
  | deadLetterLevel => c.sinks.deadLetterLevel ∈ levelNames
  | failureLevel => c.sinks.failureLevel ∈ levelNames

instance (c : Config) : (d : Demand) → Decidable (d.Met c)
  | level => inferInstanceAs (Decidable (_ ∈ _))
  | format => inferInstanceAs (Decidable (_ ∈ _))
  | target => inferInstanceAs (Decidable (_ ∈ _))
  | directory => inferInstanceAs (Decidable (_ → _))
  | directive i => inferInstanceAs (Decidable (∀ d ∈ c.logging.directives[i]?, _))
  | deadLetterLevel => inferInstanceAs (Decidable (_ ∈ _))
  | failureLevel => inferInstanceAs (Decidable (_ ∈ _))

/-- What is said of a value that is none of the accepted ones. -/
def unsupported (what value : String) (allowed : List String) : String :=
  "unsupported " ++ what ++ " '" ++ value ++ "'; expected one of: " ++ ", ".intercalate allowed

/-- What is said when a demand is not met. -/
def detail (c : Config) : Demand → String
  | level => unsupported "log level" c.logging.level levelNames
  | format => unsupported "log format" c.logging.format formatNames
  | target => unsupported "log target" c.logging.target targetNames
  | directory => "a directory is required when logging to a file"
  | directive _ => "directive must not be empty"
  | deadLetterLevel => unsupported "log level" c.sinks.deadLetterLevel levelNames
  | failureLevel => unsupported "log level" c.sinks.failureLevel levelNames

def complaint (c : Config) (d : Demand) : ConfigError := .invalidField d.field (d.detail c)

end Demand

variable {c : Config} {d : Demand}

/-- The demands in the order in which they are made. -/
def demands (c : Config) : List Demand :=
  [.level, .format, .target, .directory] ++
    (List.range c.logging.directives.length).map Demand.directive ++
    [.deadLetterLevel, .failureLevel]

/-- Whether a demand is not met while all before it are. -/
def FirstUnmet (c : Config) (d : Demand) : Prop :=
  ∃ before after, demands c = before ++ d :: after ∧ (∀ b ∈ before, b.Met c) ∧ ¬ d.Met c

/-- Makes some demands in order. -/
def inspect (c : Config) (ds : List Demand) : Except ConfigError Unit :=
  match ds.find? (fun d => !decide (d.Met c)) with
  | none => .ok ()
  | some d => .error (d.complaint c)

theorem inspect_append (c : Config) (ds es : List Demand) :
    inspect c (ds ++ es) = (inspect c ds).bind fun _ => inspect c es := by
  rw [inspect, List.find?_append, inspect]
  cases ds.find? (fun d => !decide (d.Met c)) with
  | none => rfl
  | some d => rfl

theorem inspect_one (c : Config) (d : Demand) :
    inspect c [d] = if d.Met c then .ok () else .error (d.complaint c) := by
  rw [inspect]
  by_cases met : d.Met c <;> simp [met]

theorem inspect_demands_eq_error_iff {e : ConfigError} :
    inspect c (demands c) = .error e ↔ ∃ d, FirstUnmet c d ∧ e = d.complaint c := by
  rw [inspect]
  constructor
  · intro failed
    cases found : (demands c).find? (fun d => !decide (d.Met c)) with
    | none =>
      rw [found] at failed
      cases failed
    | some d =>
      obtain ⟨unmet, before, after, split, met⟩ := List.find?_eq_some_iff_append.mp found
      refine ⟨d, ⟨before, after, split, by simpa using met, by simpa using unmet⟩, ?_⟩
      rw [found] at failed
      exact (Except.error.inj failed).symm
  · rintro ⟨d, ⟨before, after, split, met, unmet⟩, rfl⟩
    have found : (demands c).find? (fun d => !decide (d.Met c)) = some d :=
      List.find?_eq_some_iff_append.mpr
        ⟨by simpa using unmet, before, after, split, by simpa using met⟩
    rw [found]

/-- Whether a check makes some demands of a configuration in order. -/
def Makes (check : Except ConfigError Unit) (c : Config) (ds : List Demand) : Prop :=
  check = inspect c ds

theorem Makes.bind {check rest : Except ConfigError Unit} {ds es : List Demand}
    (first : Makes check c ds) (second : Makes rest c es) :
    Makes (check.bind fun _ => rest) c (ds ++ es) := by
  rw [Makes, inspect_append, ← first, ← second]

/-- A check of a value makes the demand that the value is one of the accepted ones. -/
theorem makes_checkOneOf {value : String} {allowed : List String} {what : String} (d : Demand)
    (asks : d.Met c ↔ value ∈ allowed)
    (text : d.detail c = Demand.unsupported what value allowed) :
    Makes (checkOneOf d.field value allowed what) c [d] := by
  rw [Makes, inspect_one, checkOneOf, Demand.complaint, text]
  by_cases met : value ∈ allowed
  · rw [if_pos (List.contains_iff_mem.mpr met), if_pos (asks.mpr met)]
  · rw [if_neg (mt List.contains_iff_mem.mp met), if_neg (mt asks.mp met)]
    rfl

theorem makes_checkDirectory (c : Config) : Makes (checkDirectory c.logging) c [.directory] := by
  have unmet : (c.logging.target = "file" && Text.isBlankText c.logging.directory) = true ↔
      ¬ Demand.directory.Met c := by
    rw [Demand.Met, Bool.and_eq_true, decide_eq_true_iff, Classical.not_imp, Bool.not_eq_false]
  rw [Makes, inspect_one, checkDirectory]
  by_cases met : Demand.directory.Met c
  · rw [if_neg (mt unmet.mp (not_not_intro met)), if_pos met]
  · rw [if_pos (unmet.mpr met), if_neg met]
    rfl

theorem makes_checkDirectives (c : Config) : Makes (checkDirectives c.logging) c
    ((List.range c.logging.directives.length).map Demand.directive) := by
  rw [Makes, inspect, List.find?_map, checkDirectives, firstBlank?]
  cases blank : c.logging.directives.findIdx? Text.isBlankText with
  | none =>
    have filled := List.findIdx?_eq_none_iff.mp blank
    have none_unmet : (List.range c.logging.directives.length).find?
        ((fun d : Demand => !decide (d.Met c)) ∘ Demand.directive) = none := by
      apply List.find?_eq_none.mpr
      intro i hi
      have met : (Demand.directive i).Met c := fun d hd => filled d (List.mem_of_getElem? hd)
      simpa using met
    rw [none_unmet]
    rfl
  | some i =>
    obtain ⟨hi, here, before⟩ := List.findIdx?_eq_some_iff_getElem.mp blank
    have first_unmet : (List.range c.logging.directives.length).find?
        ((fun d : Demand => !decide (d.Met c)) ∘ Demand.directive) = some i := by
      apply List.find?_range_eq_some.mpr
      refine ⟨?_, List.mem_range.mpr hi, fun j hj => ?_⟩
      · have unmet : ¬ (Demand.directive i).Met c := by
          intro met
          rw [met _ (List.getElem?_eq_getElem hi)] at here
          exact Bool.false_ne_true here
        simpa using unmet
      · have met : (Demand.directive j).Met c := by
          intro d hd
          rw [List.getElem?_eq_getElem (hj.trans hi)] at hd
          simpa [← Option.some.inj hd] using before j hj
        simpa using met
    rw [first_unmet]
    rfl

/-- Validation makes its demands in order. -/
theorem validate_eq (c : Config) : validate c = inspect c (demands c) :=
  (makes_checkOneOf .level .rfl rfl).bind <| (makes_checkOneOf .format .rfl rfl).bind <|
    (makes_checkOneOf .target .rfl rfl).bind <| (makes_checkDirectory c).bind <|
    (makes_checkDirectives c).bind <| (makes_checkOneOf .deadLetterLevel .rfl rfl).bind <|
    makes_checkOneOf .failureLevel .rfl rfl

theorem validate_eq_error_iff (c : Config) (e : ConfigError) :
    validate c = .error e ↔ ∃ d, FirstUnmet c d ∧ e = d.complaint c := by
  rw [validate_eq]
  exact inspect_demands_eq_error_iff

open Toml (Value)

variable {disk : Disk} {path? : Option String} {env : Environment} {file : Option Value}
  {merged : Value} {origin : String}

theorem valid_of_finish (h : finish merged origin = .ok c) : c.Valid := by
  rw [finish] at h
  split at h
  · cases h
  · next c' _ =>
    cases checked : validate c' with
    | error e =>
      rw [checked] at h
      cases h
    | ok u =>
      rw [checked] at h
      obtain rfl : c' = c := Except.ok.inj h
      exact (validate_eq_ok_iff c').mp checked

theorem finish_eq_error_iff {e : ConfigError} : finish merged origin = .error e ↔
    (∃ misfit, ofDatum (.ofToml merged) = .error misfit ∧ e = .wrongType origin misfit) ∨
      ∃ c d, ofDatum (.ofToml merged) = .ok c ∧ FirstUnmet c d ∧ e = d.complaint c := by
  rw [finish]
  cases ofDatum (.ofToml merged) with
  | error misfit => simp [eq_comm]
  | ok c =>
    have failed : (validate c).map (fun _ => c) = .error e ↔ validate c = .error e := by
      cases validate c <;> simp [Except.map]
    simp only [failed, validate_eq_error_iff, reduceCtorEq, false_and, exists_false, false_or,
      Except.ok.injEq, exists_eq_left', exists_and_left]

/-- The tree that a configuration is made of: the file over the variables over the defaults. There
is one when the file can be had and no variable that is needed is blank. -/
def Merged (disk : Disk) (path? : Option String) (env : Environment) (merged : Value) : Prop :=
  ∃ base file, defaultLayer = .ok base ∧ fileAt disk path? = .ok file ∧
    fallbacks.find? (·.isBlank file env) = none ∧
    merged = withFile file (base.merge env.layer)

/-- What is wrong when a configuration cannot be loaded, stage by stage: each stage is reached only
when nothing is wrong in the ones before it. -/
inductive Fault (disk : Disk) (path? : Option String) (env : Environment) : ConfigError → Prop
  | reading {path : String} {reason : DiskError} (given : path? = some path)
    (read : disk.read path = .error reason) (there : reason ≠ .missing) :
    Fault disk path? env (.unreadable path reason.message)
  | size {path text : String} (given : path? = some path) (read : disk.read path = .ok text)
    (large : sizeLimit < text.utf8ByteSize) :
    Fault disk path? env (.tooLarge path text.utf8ByteSize sizeLimit)
  | malformed {path text : String} (given : path? = some path) (read : disk.read path = .ok text)
    (fits : text.utf8ByteSize ≤ sizeLimit) (parsed : Toml.parse text = none) :
    Fault disk path? env (.badSyntax path text)
  | blank {file : Option Value} {f : Fallback} (found : fileAt disk path? = .ok file)
    (first : fallbacks.find? (·.isBlank file env) = some f) :
    Fault disk path? env (.blankVariable f.name)
  | wrongType {merged : Value} {misfit : Misfit} (tree : Merged disk path? env merged)
    (read : ofDatum (.ofToml merged) = .error misfit) :
    Fault disk path? env (.wrongType "<merged config>" misfit)
  | invalid {merged : Value} {c : Config} {d : Demand} (tree : Merged disk path? env merged)
    (read : ofDatum (.ofToml merged) = .ok c) (first : FirstUnmet c d) :
    Fault disk path? env (d.complaint c)

/-- A file that cannot be had is at fault for itself. -/
theorem Fault.of_fileAt {e : ConfigError} (failed : fileAt disk path? = .error e) :
    Fault disk path? env e := by
  cases path? with
  | none => cases failed
  | some path =>
    rw [fileAt, Option.elim_some, fileLayer] at failed
    split at failed
    · cases failed
    · next reason there read =>
      cases failed
      exact .reading rfl read fun missing => there (missing ▸ rfl)
    · next text read =>
      split at failed
      · next large =>
        cases failed
        exact .size rfl read large
      · next fits =>
        rw [parseLayer] at failed
        split at failed
        · cases failed
        · next parsed =>
          cases failed
          exact .malformed rfl read (Nat.not_lt.mp fits) parsed

theorem fileAt_unreadable {path : String} {reason : DiskError}
    (read : disk.read path = .error reason) (there : reason ≠ .missing) :
    fileAt disk (some path) = .error (.unreadable path reason.message) := by
  rw [fileAt, Option.elim_some, fileLayer, read]
  cases reason with
  | missing => exact absurd rfl there
  | _ => rfl

theorem load_of_fileAt {e : ConfigError} (failed : fileAt disk path? = .error e) :
    load disk path? env = .error e := by
  rw [load_eq, failed]
  rfl

theorem load_of_blank {f : Fallback} (found : fileAt disk path? = .ok file)
    (first : fallbacks.find? (·.isBlank file env) = some f) :
    load disk path? env = .error (.blankVariable f.name) := by
  rw [load_eq, found]
  simp only [Except.bind, first]

theorem load_of_merged (tree : Merged disk path? env merged) :
    load disk path? env = finish merged "<merged config>" := by
  obtain ⟨base, file, read, found, clear, rfl⟩ := tree
  rw [load_eq, found, read]
  simp only [Except.bind, clear]

/-- What can be loaded has its tree, and what cannot has a fault before that, or one of the tree. -/
theorem merged_or_fault (disk : Disk) (path? : Option String) (env : Environment) :
    (∃ merged, Merged disk path? env merged) ∨
      ∃ e, load disk path? env = .error e ∧ Fault disk path? env e := by
  cases found : fileAt disk path? with
  | error e => exact .inr ⟨e, load_of_fileAt found, .of_fileAt found⟩
  | ok file =>
    cases first : fallbacks.find? (·.isBlank file env) with
    | some f => exact .inr ⟨_, load_of_blank found first, .blank found first⟩
    | none =>
      obtain ⟨base, read, -⟩ := defaultLayer_open
      exact .inl ⟨_, base, file, read, found, first, rfl⟩

/-- Loading fails with what is wrong first, and with nothing else. -/
theorem load_eq_error_iff {e : ConfigError} :
    load disk path? env = .error e ↔ Fault disk path? env e := by
  constructor
  · intro failed
    rcases merged_or_fault disk path? env with ⟨merged, tree⟩ | ⟨e', failed', fault⟩
    · rw [load_of_merged tree, finish_eq_error_iff] at failed
      rcases failed with ⟨misfit, read, rfl⟩ | ⟨c, d, read, first, rfl⟩
      · exact .wrongType tree read
      · exact .invalid tree read first
    · rw [failed', Except.error.injEq] at failed
      exact failed ▸ fault
  · intro fault
    cases fault with
    | reading given read there =>
      subst given
      exact load_of_fileAt (fileAt_unreadable read there)
    | size given read large =>
      subst given
      exact load_of_fileAt (fileAt_large read large)
    | malformed given read fits parsed =>
      subst given
      have failed := fileAt_read read fits
      rw [parseLayer, parsed] at failed
      exact load_of_fileAt failed
    | blank found first => exact load_of_blank found first
    | wrongType tree read =>
      rw [load_of_merged tree, finish_eq_error_iff]
      exact .inl ⟨_, read, rfl⟩
    | invalid tree read first =>
      rw [load_of_merged tree, finish_eq_error_iff]
      exact .inr ⟨_, _, read, first, rfl⟩

theorem valid_of_load (loaded : load disk path? env = .ok c) : c.Valid := by
  rcases merged_or_fault disk path? env with ⟨merged, tree⟩ | ⟨e, failed, -⟩
  · rw [load_of_merged tree] at loaded
    exact valid_of_finish loaded
  · rw [failed] at loaded
    cases loaded

theorem valid_of_ofToml {text : String} (read : ofToml text = .ok c) : c.Valid := by
  obtain ⟨base, defaults, -⟩ := defaultLayer_open
  rw [ofToml_eq defaults] at read
  cases parsed : parseLayer text "<string>" with
  | error e =>
    rw [parsed] at read
    cases read
  | ok v =>
    rw [parsed] at read
    exact valid_of_finish read

/-- Validation accepts a configuration exactly when it has accepted levels, format and target, a
directory if it needs one and no blank directive; otherwise it reports the first field that is
wrong. So whatever is loaded or read from a text is as it should be, and what cannot be loaded is
refused for what is wrong first: reading, size, form, a blank variable, the type of a value, a
field. -/
theorem validation_in_order :
    (∀ c : Config, validate c = .ok () ↔ c.Valid) ∧
    (∀ (c : Config) (e : ConfigError), validate c = .error e ↔
      ∃ d, FirstUnmet c d ∧ e = .invalidField d.field (d.detail c)) ∧
    (∀ (disk : Disk) (path? : Option String) (env : Environment) (c : Config),
      load disk path? env = .ok c → c.Valid) ∧
    (∀ (text : String) (c : Config), ofToml text = .ok c → c.Valid) ∧
    ∀ (disk : Disk) (path? : Option String) (env : Environment) (e : ConfigError),
      load disk path? env = .error e ↔ Fault disk path? env e :=
  ⟨validate_eq_ok_iff, validate_eq_error_iff, fun _ _ _ _ => valid_of_load,
    fun _ _ => valid_of_ofToml, fun _ _ _ _ => load_eq_error_iff⟩

/-- The defaults are as they should be; a blank directive comes before an unknown level for
failures, and is named by where it is; a blank variable is found where there is no file. -/
theorem validation_in_order_blank :
    load {} none [] = .ok {} ∧ ofToml "" = .ok {} ∧ Valid {} ∧
      validate
          { logging := { directives := ["bus=debug", " ", ""] }
            sinks := { failureLevel := "loud" } } =
        .error (.invalidField "logging.directives[1]" "directive must not be empty") ∧
      load {} none [("POSTAL_LOG_LEVEL", " ")] = .error (.blankVariable "POSTAL_LOG_LEVEL") := by
  obtain ⟨-, failed, loaded, -, faults⟩ := validation_in_order
  have defaults : load {} none [] = .ok {} := load_missing (by simp) (by decide +kernel)
  refine ⟨defaults, ofToml_empty, loaded {} none [] {} defaults, ?_, ?_⟩
  · apply (failed _ _).mpr
    refine ⟨.directive 1, ⟨[.level, .format, .target, .directory, .directive 0],
      [.directive 2, .deadLetterLevel, .failureLevel], rfl, ?_, ?_⟩, by decide +kernel⟩
    · decide +kernel
    · decide +kernel
  · apply (faults _ _ _ _).mpr
    have first : fallbacks.find? (·.isBlank none [("POSTAL_LOG_LEVEL", " ")]) =
        some { name := "POSTAL_LOG_LEVEL", field := "logging.level" } := by decide +kernel
    have nothing : fileAt {} none = .ok none := rfl
    exact .blank nothing first

end MessageBus.Config
