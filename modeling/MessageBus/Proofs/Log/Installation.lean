import MessageBus.Proofs.Log.Conversion
import MessageBus.Session

namespace MessageBus.Session

open Config (validate)
open Log (Failure Settings Sink Subscriber)

/-- Whether a disk lets an outlet be prepared and a filter be built, as some settings ask. -/
structure Prepares (disk : Disk) (s : Settings) (disk' : Disk) (k : Subscriber) (outlet : Outlet) :
    Prop where
  outlet : prepareOutlet s disk = (disk', .ok outlet)
  filter : s.subscriber = .ok k

variable {p : Session} {c : Config} {s : Settings} {disk : Disk} {k : Subscriber} {outlet : Outlet}
  {e : Failure}

/-- What is prepared is installed where nothing is. -/
theorem Prepares.setUp_eq (h : Prepares p.disk s disk k outlet) (free : p.installed = none) :
    p.setUp s = ({ p with disk, installed := some (k, outlet) }, .ok ()) := by
  rw [setUp, h.outlet]
  simp only [h.filter, install]
  rw [free]

/-- Where something is installed, nothing else can be. -/
theorem setUp_of_installed (taken : p.installed ≠ none) (s : Settings) :
    ∃ e, (p.setUp s).2 = .error e := by
  obtain ⟨installed, there⟩ := Option.ne_none_iff_exists'.mp taken
  obtain ⟨⟨disk, outcome⟩, prepared⟩ : ∃ prepared, prepareOutlet s p.disk = prepared := ⟨_, rfl⟩
  rw [setUp, prepared]
  cases outcome with
  | error e => exact ⟨e, rfl⟩
  | ok outlet =>
    cases filter : s.subscriber with
    | error e => exact ⟨e, rfl⟩
    | ok k =>
      refine ⟨.init "a global default trace dispatcher has already been set", ?_⟩
      simp only [install, there]

/-- Setting up logging installs a subscriber as its last step, or fails and installs none. -/
theorem setUp_cases (p : Session) (s : Settings) :
    (∃ e, (p.setUp s).2 = .error e ∧ (p.setUp s).1.installed = p.installed) ∨
      p.installed = none ∧ ∃ disk k outlet, Prepares p.disk s disk k outlet ∧
        p.setUp s = ({ p with disk, installed := some (k, outlet) }, .ok ()) := by
  obtain ⟨⟨disk, outcome⟩, prepared⟩ : ∃ prepared, prepareOutlet s p.disk = prepared := ⟨_, rfl⟩
  cases outcome with
  | error e => exact .inl ⟨e, by simp [setUp, prepared]⟩
  | ok outlet =>
    cases filter : s.subscriber with
    | error e => exact .inl ⟨e, by simp [setUp, prepared, filter]⟩
    | ok k =>
      cases free : p.installed with
      | some installed =>
        refine .inl ⟨.init "a global default trace dispatcher has already been set", ?_⟩
        simp [setUp, prepared, filter, install, free]
      | none =>
        have ready : Prepares p.disk s disk k outlet := ⟨prepared, filter⟩
        exact .inr ⟨rfl, disk, k, outlet, ready, ready.setUp_eq free⟩

theorem Prepares.initialise_eq (h : Prepares p.disk s disk k outlet) (free : p.installed = none)
    (logging : Settings.ofSection c.logging = .ok s) : p.initialise c =
      match Sink.ofSection c.sinks with
      | .error e => ({ p with disk, installed := some (k, outlet) }, .error e)
      | .ok sink => ({ p with disk, installed := some (k, outlet), sink }, .ok sink) := by
  cases outlets : Sink.ofSection c.sinks <;>
    simp only [initialise, logging, h.setUp_eq free, outlets]

/-- A program that has a subscriber installed cannot be given another one. -/
theorem initialise_of_installed (taken : p.installed ≠ none) (c : Config) :
    ∃ e, (p.initialise c).2 = .error e := by
  rw [initialise]
  split
  · next e _ => exact ⟨e, rfl⟩
  · next s _ =>
    obtain ⟨e, failed⟩ := setUp_of_installed taken s
    split
    · next e _ => exact ⟨e, rfl⟩
    · next set => simp [set] at failed

/-- How a start can fail: with nothing installed, or over its sinks alone, when logging has been set
up. -/
theorem initialise_error_cases (failed : (p.initialise c).2 = .error e) :
    (p.initialise c).1.installed = p.installed ∧
        ¬ (p.installed = none ∧ ∃ s disk k outlet, Settings.ofSection c.logging = .ok s ∧
          Prepares p.disk s disk k outlet) ∨
      p.installed = none ∧ ∃ s disk k outlet, Settings.ofSection c.logging = .ok s ∧
        Prepares p.disk s disk k outlet ∧ Sink.ofSection c.sinks = .error e ∧
        (p.initialise c).1.installed = some (k, outlet) := by
  by_cases ready : p.installed = none ∧ ∃ s disk k outlet,
      Settings.ofSection c.logging = .ok s ∧ Prepares p.disk s disk k outlet
  · right
    obtain ⟨free, s, disk, k, outlet, logging, prepared⟩ := ready
    have start := prepared.initialise_eq free logging
    rw [start] at failed ⊢
    cases sinks : Sink.ofSection c.sinks with
    | ok sink => simp [sinks] at failed
    | error e' =>
      rw [sinks] at failed
      exact ⟨free, s, disk, k, outlet, logging, prepared, failed, rfl⟩
  · left
    refine ⟨?_, ready⟩
    rw [initialise]
    cases logging : Settings.ofSection c.logging with
    | error e => rfl
    | ok s =>
      rcases setUp_cases p s with ⟨e, refused, kept⟩ | ⟨free, disk, k, outlet, prepared, -⟩
      · simp only
        obtain ⟨⟨q, outcome⟩, set⟩ : ∃ set, p.setUp s = set := ⟨_, rfl⟩
        rw [set] at refused kept ⊢
        simp only at refused
        rw [refused]
        exact kept
      · exact absurd ⟨free, s, disk, k, outlet, logging, prepared⟩ ready

/-- A start that fails leaves what is installed as it was, unless all that fails is the conversion
of the sinks: that is tried last, when a subscriber has been installed already, and then no later
start succeeds. With nothing installed, a later start succeeds as soon as its sections convert, its
outlet can be prepared and its filter built. The sinks of a valid configuration do not fail. -/
theorem failed_initialise_installs (failed : (p.initialise c).2 = .error e) :
    let q := (p.initialise c).1
    (q.installed ≠ p.installed ↔ p.installed = none ∧ ∃ s disk k outlet,
        Settings.ofSection c.logging = .ok s ∧ Prepares p.disk s disk k outlet) ∧
      (q.installed ≠ p.installed → Sink.ofSection c.sinks = .error e ∧
        ∀ c', ∃ e', (q.initialise c').2 = .error e') ∧
      (q.installed = p.installed → p.installed = none → ∀ c' s disk k outlet sink,
        Settings.ofSection c'.logging = .ok s → Prepares q.disk s disk k outlet →
          Sink.ofSection c'.sinks = .ok sink → q.initialise c' =
            ({ q with disk, installed := some (k, outlet), sink }, .ok sink)) ∧
      (validate c = .ok () → q.installed = p.installed) := by
  intro q
  rcases initialise_error_cases failed with
    ⟨kept, unready⟩ | ⟨free, s, disk, k, outlet, logging, prepared, sinks, installed⟩
  · refine ⟨?_, fun changed => absurd kept changed, ?_, fun _ => kept⟩
    · exact ⟨fun changed => absurd kept changed, fun ready => absurd ready unready⟩
    · intro same free c' s disk k outlet sink logging prepared sinks
      rw [prepared.initialise_eq (same.trans free) logging, sinks]
  · have changed : q.installed ≠ p.installed := by
      rw [free, show q.installed = some (k, outlet) from installed]
      exact Option.some_ne_none _
    have taken : q.installed ≠ none := fun none => changed (none.trans free.symm)
    refine ⟨?_, fun _ => ⟨sinks, initialise_of_installed taken⟩, fun same => absurd same changed,
      fun accepted => ?_⟩
    · exact ⟨fun _ => ⟨free, s, disk, k, outlet, logging, prepared⟩, fun _ => changed⟩
    · have valid := (Config.validate_eq_ok_iff c).mp accepted
      obtain ⟨sink, converted, -⟩ := Sink.ofSection_known valid.deadLetterLevel valid.failureLevel
      simp [converted] at sinks

theorem default_filter_builds : ∃ k, ({} : Settings).subscriber = .ok k := by
  have builds : ({} : Settings).subscriber.isOk = true := by decide +kernel
  cases built : ({} : Settings).subscriber with
  | ok k => exact ⟨k, rfl⟩
  | error e =>
    rw [built] at builds
    cases builds

/-- A bad target is refused before anything is installed, and the program starts when it is
mended. -/
theorem failed_initialise_installs_target :
    let c : Config := { logging := { target := "syslog" } }
    (∃ e, (initialise {} c).2 = .error e) ∧ (initialise {} c).1.installed = none ∧
      ((initialise {} c).1.initialise {}).2 = .ok {} := by
  intro c
  have failed : (initialise {} c).2 = .error (.config "unknown log target 'syslog'") := by
    decide +kernel
  have kept : (initialise {} c).1.installed = none := rfl
  obtain ⟨-, -, later, -⟩ := failed_initialise_installs failed
  obtain ⟨k, built⟩ := default_filter_builds
  have start := later kept rfl {} {} (initialise {} c).1.disk k .stderr {} (by decide +kernel)
    ⟨rfl, built⟩ (by decide +kernel)
  exact ⟨⟨_, failed⟩, kept, congrArg Prod.snd start⟩

/-- A bad level for the sinks is refused when a subscriber is installed, and after that the program
does not start any more. -/
theorem failed_initialise_installs_loud :
    let c : Config := { sinks := { failureLevel := "loud" } }
    (initialise {} c).2 = .error (.config "unknown log level 'loud'") ∧
      (initialise {} c).1.installed ≠ none ∧
      ((initialise {} c).1.initialise {}).2 =
        .error (.init "a global default trace dispatcher has already been set") := by
  decide +kernel

end MessageBus.Session
