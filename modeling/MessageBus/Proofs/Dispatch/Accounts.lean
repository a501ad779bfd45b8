import MessageBus.Proofs.Dispatch.Agenda
import MessageBus.Proofs.Exchange.Tally

namespace MessageBus.Exchange

theorem isSome_taken_deadLetter (w : Exchange) (r : RecorderId) :
    (fun o => (w.taken .deadLetter r o).isSome) =
      Occurrence.isReturned fun b => w.returnedBox b = some r := by
  funext o
  cases o with
  | returned d x => exact Option.isSome_filter
  | _ => rfl

theorem isSome_taken_failure (w : Exchange) (r : RecorderId) :
    (fun o => (w.taken .failure r o).isSome) =
      Occurrence.isFailed fun b => w.failedBox b = some r := by
  funext o
  cases o with
  | failed d x => exact Option.isSome_filter
  | _ => rfl

/-- What a recorder tells that was never emptied. -/
theorem Tallied.counts {w : Exchange} (h : w.Tallied) (hb : Balanced w.history) {label : String}
    {r : RecorderId} (hr : w.desk.recorders.get? label = some r)
    (he : ∀ role, .emptied r role ∉ w.history) (depth : Nat) :
    (w.step depth (.recorder label .counts)).2 = .ok (.counts
      (w.history.countP (Occurrence.isUnmatched fun b => w.returnedBox b = some r))
      (w.history.countP (Occurrence.isRefused fun b => w.failedBox b = some r))) := by
  obtain ⟨c, there, kept⟩ := h.recorder hr
  have returned : c.returned.toList.length =
      w.history.countP (Occurrence.isUnmatched fun b => w.returnedBox b = some r) := by
    rw [Tray.toList_of_kept (kept .deadLetter (he .deadLetter)), List.length_filterMap_eq_countP,
      isSome_taken_deadLetter, hb.returned]
  have failed : c.failed.toList.length =
      w.history.countP (Occurrence.isRefused fun b => w.failedBox b = some r) := by
    rw [Tray.toList_of_kept (kept .failure (he .failure)), List.length_filterMap_eq_countP,
      isSome_taken_failure, hb.failed]
  simp only [Exchange.step, perform, hr, there, Option.getD_some, askRecorder, returned, failed]

/-- In every run, each publish during which no mailbox answers fatally and nothing panics ends well
in one of two ways. If no live subscription is to a type that the message belongs to, the message is
returned, once, and that is all. Otherwise every mailbox of the agenda has its turn, and each that
fails recoverably is reported at once, with the message as it was published. So a recorder that is
never emptied has been handed as many messages as publishes matched nothing, and as many failures as
there were recoverable refusals, on the buses that it serves. -/
theorem run_accounts (steps : List (Nat × Step)) :
    let w := run {} steps
    (∀ h₁ d plan h₂, w.history = h₁ ++ .published d plan :: h₂ → Calm d h₂ →
      let S := live d.bus h₁
      ((∀ s ∈ S, s.mailbox.tag ∉ d.message.ancestry) →
        own d.number h₂ =
          [.returned d d.unmatched, .heard d (.ok ()), .concluded d (.ok none)]) ∧
      ((∃ s ∈ S, s.mailbox.tag ∈ d.message.ancestry) →
        ∃ answers : List (Subscription × Option Cause),
          answers.map (·.1) = (S.agenda d.message).map (·.2) ∧
          own d.number h₂ = answers.flatMap d.turn ++
            [.released d (.ok ()), .concluded d (.ok none)])) ∧
    ∀ label r, w.desk.recorders.get? label = some r → (∀ role, .emptied r role ∉ w.history) →
      ∀ depth, (w.step depth (.recorder label .counts)).2 = .ok (.counts
        (w.history.countP (Occurrence.isUnmatched fun b => w.returnedBox b = some r))
        (w.history.countP (Occurrence.isRefused fun b => w.failedBox b = some r))) := by
  intro w
  have comes : w.Reachable := reachable_run steps
  have orderly : Orderly {} w := lawful_orderly.run {} steps
  refine ⟨fun h₁ d plan h₂ hist calm => ?_, fun label r hr he depth => ?_⟩
  · intro S
    have planned : plan = S.agenda d.message := comes.planned h₁ d plan h₂ hist
    obtain ⟨course, result, goes, same⟩ := orderly.course hist
    have calmly : Calm d (own d.number course) :=
      calm.mono fun o ho => (mem_own.mp (same ▸ ho)).1
    obtain ⟨-, unmatched, matched⟩ := goes.calm calmly
    rw [same, ← planned]
    refine ⟨fun nobody => unmatched ?_, fun ⟨s, hs, ht⟩ => matched ?_⟩
    · rw [planned]
      exact Roll.agenda_eq_nil.mpr nobody
    · rw [planned]
      exact fun empty => Roll.agenda_eq_nil.mp empty s hs ht
  · obtain ⟨-, new, hist, proper⟩ := orderly
    have all : w.history = new := hist
    exact comes.tallied.counts (all ▸ proper.balanced) hr he depth

/-- A bus that records in one tray, where a clerk refuses a note and nobody takes a memo. -/
def office : List (Nat × Step) :=
  [(1, .openBus "bus" (.recording "tray")),
    (1, .openMailbox "clerk" "clerk" { tag := .child "Note" .root }
      (.responding (fun _ _ => .mk [] (.refuse (.recoverable (.text "busy")))) false none) none),
    (1, .subscribe "bus" "clerk" false),
    (2, .publish "bus" (.top "Note" (.word "Note")) 1),
    (2, .publish "bus" (.top "Memo" (.word "Memo")) 1)]

theorem run_accounts_office :
    let w := run {} office
    let d : Dispatch := { number := 0, bus := 0, message := .top "Note" (.word "Note") }
    let s : Subscription :=
      { seq := 0, mailbox := ⟨0, "clerk", { tag := .child "Note" .root }⟩ }
    (Calm d (w.history.drop 4) ∧ ∃ answers : List (Subscription × Option Cause),
      answers.map (·.1) = [s] ∧ own 0 (w.history.drop 4) = answers.flatMap d.turn ++
        [.released d (.ok ()), .concluded d (.ok none)]) ∧
    (w.step 1 (.recorder "tray" .counts)).2 = .ok (.counts 1 1) := by
  intro w d s
  obtain ⟨each, counts⟩ := run_accounts office
  have unemptied : ∀ role, .emptied 0 role ∉ (run {} office).history := by
    intro role member
    have none_left : (run {} office).history.any (· matches .emptied ..) = false := by
      decide +kernel
    simpa using List.any_eq_false.mp none_left _ member
  have first : w.history = w.history.take 3 ++
      .published d [(.child "Note" .root, s)] :: w.history.drop 4 := by
    subst w d s
    cbv
  have undisturbed : (w.history.drop 4).any (·.disturbs d.number) = false := by
    subst w d
    cbv
  have alive : live d.bus (w.history.take 3) = [s] := by
    subst w d s
    cbv
  have tray : (run {} office).desk.recorders.get? "tray" = some 0 := by decide +kernel
  have unmatched : (run {} office).history.countP
      (Occurrence.isUnmatched fun b => (run {} office).returnedBox b = some 0) = 1 := by
    decide +kernel
  have refused : (run {} office).history.countP
      (Occurrence.isRefused fun b => (run {} office).failedBox b = some 0) = 1 := by
    decide +kernel
  have calm : Calm d (w.history.drop 4) := .of_undisturbed undisturbed
  refine ⟨⟨calm, ?_⟩, ?_⟩
  · obtain ⟨answers, entries, did⟩ := (each _ d _ _ first calm).2 ⟨s, by simp [alive], by decide⟩
    refine ⟨answers, entries.trans ?_, did⟩
    rw [alive]
    rfl
  · have counted := counts "tray" 0 tray unemptied 1
    rwa [unmatched, refused] at counted

end MessageBus.Exchange
