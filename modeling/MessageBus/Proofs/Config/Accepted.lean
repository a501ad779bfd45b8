import MessageBus.Config.Validation
import Mathlib

namespace MessageBus.Config

/-- What validation asks of a configuration. -/
structure Valid (c : Config) : Prop where
  level : c.logging.level ∈ levelNames
  format : c.logging.format ∈ formatNames
  target : c.logging.target ∈ targetNames
  directory : c.logging.target = "file" → Text.isBlankText c.logging.directory = false
  directives : ∀ d ∈ c.logging.directives, Text.isBlankText d = false
  deadLetterLevel : c.sinks.deadLetterLevel ∈ levelNames
  failureLevel : c.sinks.failureLevel ∈ levelNames

theorem checkOneOf_eq_ok_iff {field value : String} {allowed : List String} {what : String} :
    checkOneOf field value allowed what = .ok () ↔ value ∈ allowed := by
  rw [checkOneOf]
  by_cases h : value ∈ allowed <;> simp [h]

theorem checkDirectory_eq_ok_iff {c : Logging} : checkDirectory c = .ok () ↔
    (c.target = "file" → Text.isBlankText c.directory = false) := by
  rw [checkDirectory]
  by_cases file : c.target = "file" <;> cases Text.isBlankText c.directory <;> simp [file]

theorem checkDirectives_eq_ok_iff {c : Logging} : checkDirectives c = .ok () ↔
    ∀ d ∈ c.directives, Text.isBlankText d = false := by
  rw [checkDirectives, firstBlank?]
  cases blank : c.directives.findIdx? Text.isBlankText with
  | none => simpa using List.findIdx?_eq_none_iff.mp blank
  | some i =>
    obtain ⟨h, there, -⟩ := List.findIdx?_eq_some_iff_getElem.mp blank
    simp only [reduceCtorEq, false_iff, not_forall]
    exact ⟨c.directives[i], List.getElem_mem h, by simp [there]⟩

/-- A check and the ones after it pass when each of them does. -/
theorem bind_eq_ok_iff {check rest : Except ConfigError Unit} :
    (check.bind fun _ => rest) = .ok () ↔ check = .ok () ∧ rest = .ok () := by
  cases check <;> simp [Except.bind]

/-- Validation accepts a configuration exactly when all that it asks holds. -/
theorem validate_eq_ok_iff (c : Config) : validate c = .ok () ↔ c.Valid := by
  simp only [validate, bind, bind_eq_ok_iff, checkOneOf_eq_ok_iff, checkDirectory_eq_ok_iff,
    checkDirectives_eq_ok_iff]
  constructor
  · rintro ⟨level, format, target, directory, directives, deadLetterLevel, failureLevel⟩
    exact ⟨level, format, target, directory, directives, deadLetterLevel, failureLevel⟩
  · rintro ⟨level, format, target, directory, directives, deadLetterLevel, failureLevel⟩
    exact ⟨level, format, target, directory, directives, deadLetterLevel, failureLevel⟩

theorem valid_default : Valid {} := (validate_eq_ok_iff {}).mp (by decide +kernel)

/-- A target is rejected in every configuration or it is one of the accepted ones. -/
theorem target_rejected_iff (target : String) :
    (∀ c : Config, c.logging.target = target → validate c ≠ .ok ()) ↔ target ∉ targetNames := by
  constructor
  · intro rejected accepted
    refine rejected { logging := { target } } rfl ((validate_eq_ok_iff _).mpr ?_)
    have filled : Text.isBlankText "logs" = false := by decide +kernel
    exact { valid_default with target := accepted, directory := fun _ => filled }
  · intro unknown c same valid
    exact unknown (same ▸ ((validate_eq_ok_iff c).mp valid).target)

theorem format_rejected_iff (format : String) :
    (∀ c : Config, c.logging.format = format → validate c ≠ .ok ()) ↔ format ∉ formatNames := by
  constructor
  · intro rejected accepted
    refine rejected { logging := { format } } rfl ((validate_eq_ok_iff _).mpr ?_)
    exact { valid_default with format := accepted }
  · intro unknown c same valid
    exact unknown (same ▸ ((validate_eq_ok_iff c).mp valid).format)

end MessageBus.Config
