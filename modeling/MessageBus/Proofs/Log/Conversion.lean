import MessageBus.Log.Section
import MessageBus.Proofs.Config.Accepted

namespace MessageBus.Log

open Config (Logging levelNames formatNames targetNames validate)

/-- Whether settings carry on what a section says. -/
structure Settings.Carries (s : Settings) (c : Logging) : Prop where
  level : s.level = c.level
  format : s.format.name = c.format
  directives : s.directives = c.directives
  stdout : s.target = .stdout ↔ c.target = "stdout"
  stderr : s.target = .stderr ↔ c.target = "stderr"
  file : s.target = .file c.directory ↔ c.target = "file"
  colours : s.ansi = false ↔ c.target = "file"

/-- Whether a sink carries on what a section says. -/
structure Sink.Carries (s : Sink) (c : Config.Sinks) : Prop where
  deadLetterLevel : s.deadLetterLevel.lower = c.deadLetterLevel
  failureLevel : s.failureLevel.lower = c.failureLevel
  includeMessage : s.includeMessage = c.includeMessage

theorem mem_formatNames_iff (name : String) : name ∈ formatNames ↔ ∃ f : Format, f.name = name := by
  constructor
  · intro h
    have listed : name ∈ Format.all.map Format.name := h
    obtain ⟨f, -, same⟩ := List.mem_map.mp listed
    exact ⟨f, same⟩
  · rintro ⟨f, rfl⟩
    cases f <;> decide

theorem mem_levelNames_iff (name : String) : name ∈ levelNames ↔ ∃ l : Level, l.lower = name := by
  constructor
  · intro h
    have listed : name ∈ Level.all.reverse.map Level.lower := h
    obtain ⟨l, -, same⟩ := List.mem_map.mp listed
    exact ⟨l, same⟩
  · rintro ⟨l, rfl⟩
    cases l <;> decide

/-- A format is read back from its name. -/
theorem Format.ofName_name (f : Format) : Format.ofName f.name = .ok f := by
  cases f <;> rfl

theorem Format.ofName_unknown {name : String} (h : name ∉ formatNames) :
    ∃ e, Format.ofName name = .error e := by
  have absent : Format.all.find? (·.name == name) = none := by
    rw [List.find?_eq_none]
    intro f _ same
    exact h ((mem_formatNames_iff name).mpr ⟨f, by simpa using same⟩)
  exact ⟨_, by rw [Format.ofName, absent]⟩

/-- A level is read back from its name. -/
theorem Level.ofText_lower (l : Level) : Level.ofText l.lower = .ok l := by
  cases l <;> decide +kernel

theorem Destination.ofSection_known {c : Logging} (h : c.target ∈ targetNames) :
    ∃ d, Destination.ofSection c = .ok d ∧ (d = .stdout ↔ c.target = "stdout") ∧
      (d = .stderr ↔ c.target = "stderr") ∧ (d = .file c.directory ↔ c.target = "file") ∧
      (d.isFile = true ↔ c.target = "file") := by
  simp only [targetNames, List.mem_cons, List.not_mem_nil, or_false] at h
  rcases h with h | h | h
  · exact ⟨.stdout, by simp [ofSection, h], by simp [h, isFile]⟩
  · exact ⟨.stderr, by simp [ofSection, h], by simp [h, isFile]⟩
  · exact ⟨.file c.directory, by simp [ofSection, h], by simp [h, isFile]⟩

theorem Destination.ofSection_unknown {c : Logging} (h : c.target ∉ targetNames) :
    ∃ e, Destination.ofSection c = .error e := by
  simp only [targetNames, List.mem_cons, List.not_mem_nil, or_false, not_or] at h
  refine ⟨.config ("unknown log target '" ++ c.target ++ "'"), ?_⟩
  simp [ofSection, h]

/-- The settings of a section whose target and format are known. -/
theorem Settings.ofSection_known {c : Logging} (target : c.target ∈ targetNames)
    (format : c.format ∈ formatNames) : ∃ s, Settings.ofSection c = .ok s ∧ s.Carries c := by
  obtain ⟨d, hd, stdout, stderr, file, isFile⟩ := Destination.ofSection_known target
  obtain ⟨f, named⟩ := (mem_formatNames_iff c.format).mp format
  have hf : Format.ofName c.format = .ok f := named ▸ f.ofName_name
  have made : Settings.ofSection c = .ok
      { level := c.level, format := f, target := d, ansi := !d.isFile
        directives := c.directives } := by
    rw [Settings.ofSection, hd, hf]
    rfl
  exact ⟨_, made, rfl, named, rfl, stdout, stderr, file, by simpa using isFile⟩

/-- The conversion of a section fails exactly at a target or a format that is not known. -/
theorem Settings.ofSection_fails_iff (c : Logging) : (∃ e, Settings.ofSection c = .error e) ↔
    c.target ∉ targetNames ∨ c.format ∉ formatNames := by
  constructor
  · rintro ⟨e, failed⟩
    by_contra both
    obtain ⟨target, format⟩ := not_or.mp both
    obtain ⟨s, hs, -⟩ := Settings.ofSection_known (not_not.mp target) (not_not.mp format)
    simp [hs] at failed
  · intro unknown
    by_cases target : c.target ∈ targetNames
    · obtain ⟨d, hd, -⟩ := Destination.ofSection_known target
      obtain ⟨e, he⟩ := Format.ofName_unknown (unknown.resolve_left (not_not.mpr target))
      exact ⟨e, by rw [Settings.ofSection, hd, he]; rfl⟩
    · obtain ⟨e, he⟩ := Destination.ofSection_unknown target
      exact ⟨e, by rw [Settings.ofSection, he]; rfl⟩

theorem Sink.ofSection_known {c : Config.Sinks} (deadLetter : c.deadLetterLevel ∈ levelNames)
    (failure : c.failureLevel ∈ levelNames) : ∃ s, Sink.ofSection c = .ok s ∧ s.Carries c := by
  obtain ⟨l, hl⟩ := (mem_levelNames_iff _).mp deadLetter
  obtain ⟨k, hk⟩ := (mem_levelNames_iff _).mp failure
  have made : Sink.ofSection c = .ok
      { deadLetterLevel := l, failureLevel := k, includeMessage := c.includeMessage } := by
    rw [Sink.ofSection, ← hl, ← hk, Level.ofText_lower, Level.ofText_lower]
    rfl
  exact ⟨_, made, hl, hk, rfl⟩

/-- Both sections of a configuration that passes validation can be converted, and lose nothing. Of
all sections for logging, those fail to convert whose target or format no valid configuration
has. -/
theorem valid_sections_convert :
    (∀ c : Config, validate c = .ok () →
      ∃ s k, Settings.ofSection c.logging = .ok s ∧ s.Carries c.logging ∧
        Sink.ofSection c.sinks = .ok k ∧ k.Carries c.sinks) ∧
    ∀ l : Logging, (∃ e, Settings.ofSection l = .error e) ↔
      (∀ c : Config, c.logging.target = l.target → validate c ≠ .ok ()) ∨
      (∀ c : Config, c.logging.format = l.format → validate c ≠ .ok ()) := by
  refine ⟨fun c accepted => ?_, fun l => ?_⟩
  · have valid := (Config.validate_eq_ok_iff c).mp accepted
    obtain ⟨s, hs, settings⟩ := Settings.ofSection_known valid.target valid.format
    obtain ⟨k, hk, sink⟩ := Sink.ofSection_known valid.deadLetterLevel valid.failureLevel
    exact ⟨s, k, hs, settings, hk, sink⟩
  · rw [Settings.ofSection_fails_iff, Config.target_rejected_iff, Config.format_rejected_iff]

/-- A configuration that logs to files as JSON, and a section with a target that is not known. -/
theorem valid_sections_convert_files :
    let c : Config :=
      { logging :=
          { level := "debug", format := "json", target := "file", directory := "/var/log/postal"
            directives := ["postal_bus=trace"] }
        sinks := { deadLetterLevel := "info", includeMessage := true } }
    validate c = .ok () ∧
      (∃ s k, Settings.ofSection c.logging = .ok s ∧ s.Carries c.logging ∧
        Sink.ofSection c.sinks = .ok k ∧ k.Carries c.sinks) ∧
      ∃ e, Settings.ofSection { target := "syslog" } = .error e := by
  have accepted : validate
      { logging :=
          { level := "debug", format := "json", target := "file", directory := "/var/log/postal"
            directives := ["postal_bus=trace"] }
        sinks := { deadLetterLevel := "info", includeMessage := true } } = .ok () := by
    decide +kernel
  refine ⟨accepted, valid_sections_convert.1 _ accepted, (valid_sections_convert.2 _).mpr (.inl ?_)⟩
  exact (Config.target_rejected_iff "syslog").mpr (by decide)

end MessageBus.Log
