import MessageBus.Proofs.Exchange.Heard
import MessageBus.Proofs.Exchange.Unheard
import MessageBus.Proofs.Log.Plain
import MessageBus.Session

namespace MessageBus

/-- What was logged in some scenes, whether or not anybody listened. -/
def emitted (scenes : List Scene) : List Log.Event := scenes.flatMap (·.events)

namespace Exchange

/-- Whoever listens, the same scenes are played, and the same exchange is left. -/
theorem play_heardBy (w : Exchange) (listener : Option Log.Subscriber) (steps : List Step) :
    ((w.heardBy listener).play steps).2 = (w.play steps).2 ∧
      ((w.heardBy listener).play steps).1.unheard = (w.play steps).1.unheard := by
  have alone : (w.heardBy listener).unheard = w.unheard := rfl
  have heard := blind_play steps (w.heardBy listener)
  rw [alone, blind_play steps w] at heard
  obtain ⟨left, scenes⟩ := Prod.mk.inj heard
  exact ⟨scenes.symm, left.symm⟩

/-- A subscriber that listens lets through what passes its filter, in order. -/
theorem events_play_heardBy (w : Exchange) (k : Log.Subscriber) (steps : List Step) :
    ((w.heardBy (some k)).play steps).1.book =
      { subscriber := some k
        latest := ((emitted (w.play steps).2).filter k.filter.allows).reverse } := by
  rw [play_book, (play_heardBy w (some k) steps).1, Log.Book.foldl_note_of_some rfl]
  simp [heardBy, emitted]

end Exchange

namespace Log

/-- Logging only observes. Of two filters that can be built, neither changes what is done: the same
scenes are played, with the same replies, calls and events, and the same exchange is left but for
the book of what was let through. A filter that is plain lets through the events up to its
verbosity, in order, so that a stricter one lets through some of what a laxer one does. -/
theorem logging_only_observes {s s' : Settings} {k k' : Subscriber} (hs : s.subscriber = .ok k)
    (hs' : s'.subscriber = .ok k') (w : Exchange) (steps : List Step) :
    let run := (w.heardBy (some k)).play steps
    let run' := (w.heardBy (some k')).play steps
    run.2 = run'.2 ∧ run.1.unheard = run'.1.unheard ∧
      run.1.book.events = (emitted run.2).filter k.filter.allows ∧
      (∀ v, s.IsPlain v →
        run.1.book.events = (emitted run.2).filter fun e => e.level.rank ≤ v.rank) ∧
      ∀ v v', s.IsPlain v → s'.IsPlain v' → v.rank ≤ v'.rank →
        run.1.book.events.Sublist run'.1.book.events := by
  intro run run'
  obtain ⟨scenes, left⟩ := w.play_heardBy (some k) steps
  obtain ⟨scenes', left'⟩ := w.play_heardBy (some k') steps
  have written (k : Subscriber) : ((w.heardBy (some k)).play steps).1.book.events =
      (emitted (w.play steps).2).filter k.filter.allows := by
    rw [w.events_play_heardBy k steps, Book.events, List.reverse_reverse]
  have plainly {s : Settings} {k : Subscriber} {v : Verbosity} (hs : s.subscriber = .ok k)
      (plain : s.IsPlain v) : k.filter.allows = fun e => decide (e.level.rank ≤ v.rank) :=
    funext fun e => plain.allows_eq hs e
  refine ⟨scenes.trans scenes'.symm, left.trans left'.symm, ?_, fun v plain => ?_,
    fun v v' plain plain' stricter => ?_⟩
  · rw [written k, scenes]
  · rw [written k, scenes, plainly hs plain]
  · rw [written k, written k', plainly hs plain, plainly hs' plain']
    have lax : ∀ e : Event, decide (e.level.rank ≤ v.rank) = true →
        decide (e.level.rank ≤ v'.rank) = true := fun e he =>
      decide_eq_true (Nat.le_trans (of_decide_eq_true he) stricter)
    exact List.monotone_filter_right _ lax

/-- A note that no mailbox wants, on a bus with a sink that logs: of three events the stricter
filter lets only the warning through. -/
theorem logging_only_observes_unwanted :
    let s : Settings := { level := "warn" }
    let s' : Settings := { level := "TRACE", format := .json, timestamps := false }
    let steps : List Step :=
      [.openBus "bus" (.logging (.ok {})), .publish "bus" (.top "Note" (.word "Note")) 1]
    ∃ k k', s.subscriber = .ok k ∧ s'.subscriber = .ok k' ∧
      let run := (({} : Exchange).heardBy (some k)).play steps
      let run' := (({} : Exchange).heardBy (some k')).play steps
      run.2 = run'.2 ∧ run.1.unheard = run'.1.unheard ∧
        run.1.book.events.Sublist run'.1.book.events ∧
        (emitted run.2).map (·.level) = [.trace, .debug, .warn] ∧
        run.1.book.events.map (·.level) = [.warn] := by
  intro s s' steps
  have plain : s.IsPlain (.upTo .warn) := Settings.isPlain_lower rfl rfl
  have plain' : s'.IsPlain (.upTo .trace) :=
    ⟨rfl, by decide, by simp [s'], by decide +kernel⟩
  have made : s.subscriber = .ok
      { filter := .upTo .warn, format := .compact, ansi := true, timestamps := true } := by
    rw [Settings.subscriber, plain.filter_eq]
    rfl
  have made' : s'.subscriber = .ok
      { filter := .upTo .trace, format := .json, ansi := true, timestamps := false } := by
    rw [Settings.subscriber, plain'.filter_eq]
    rfl
  obtain ⟨scenes, left, -, plainly, stricter⟩ := logging_only_observes made made' {} steps
  refine ⟨_, _, made, made', scenes, left, stricter _ _ plain plain' (by decide), ?_, ?_⟩
  · decide +kernel
  · rw [plainly _ plain]
    decide +kernel

end Log

end MessageBus
