import MessageBus.Proofs.Dispatch.Routing
import MessageBus.Proofs.Exchange.Journals
import MessageBus.Proofs.Exchange.Tally

namespace MessageBus

/-- Who is invoked, and by which dispatch. -/
def Occurrence.asked? : Occurrence → Option (Dispatch × Subscription)
  | .invoked d s => some (d, s)
  | _ => none

theorem Occurrence.asked?_eq_none {o : Occurrence} (h : o.invocation? = none) :
    o.asked? = none := by
  cases o with
  | invoked d s => cases h
  | _ => rfl

/-- What belongs to no dispatch is no invocation. -/
theorem Occurrence.invocation?_eq_none {o : Occurrence} (h : o.dispatch? = none) :
    o.invocation? = none := by
  cases o with
  | invoked d s => cases h
  | _ => rfl

namespace Calls

/-- What is gathered on a walk through calls: something as each publish begins, as each invocation
begins, and as each invocation ends. -/
def walk {β : Type} (published : Dispatch → List (Tag × Subscription) → List β)
    (begun : Dispatch → Subscription → List β)
    (ended : Dispatch → Subscription → Outcome → List β) : Calls → List β
  | done => []
  | aside _ next => next.walk published begun ended
  | said _ next => next.walk published begun ended
  | publish d plan _ inside next =>
    published d plan ++ inside.walk published begun ended ++ next.walk published begun ended
  | invocation d s outcome inside next =>
    begun d s ++ inside.walk published begun ended ++ ended d s outcome ++
      next.walk published begun ended

/-- The publishes in the order in which they were made. -/
def published (calls : Calls) : List (Dispatch × List (Tag × Subscription)) :=
  calls.walk (fun d plan => [(d, plan)]) (fun _ _ => []) fun _ _ _ => []

/-- The invocations in the order in which they began, each before those inside of it. -/
def begun (calls : Calls) : List (Dispatch × Subscription) :=
  calls.walk (fun _ _ => []) (fun d s => [(d, s)]) fun _ _ _ => []

/-- The invocations in the order in which they ended, each after those inside of it. -/
def ended (calls : Calls) : List (Dispatch × Subscription × Outcome) :=
  calls.walk (fun _ _ => []) (fun _ _ => []) fun d s outcome => [(d, s, outcome)]

variable {β γ : Type} {w : Exchange} {scope : Option (Dispatch × List (Tag × Subscription))}

theorem filterMap_walk (g : β → Option γ)
    (published : Dispatch → List (Tag × Subscription) → List β)
    (begun : Dispatch → Subscription → List β)
    (ended : Dispatch → Subscription → Outcome → List β) (calls : Calls) :
    (calls.walk published begun ended).filterMap g =
      calls.walk (fun d plan => (published d plan).filterMap g)
        (fun d s => (begun d s).filterMap g)
        fun d s outcome => (ended d s outcome).filterMap g := by
  induction calls with
  | done => rfl
  | aside o next ih => exact ih
  | said e next ih => exact ih
  | publish d plan result inside next within later =>
    simp only [walk, List.filterMap_append, within, later]
  | invocation d s outcome inside next within later =>
    simp only [walk, List.filterMap_append, within, later]

/-- A reading of occurrences that passes over what happens aside and over the ends of publishes. -/
structure Overlooks (f : Occurrence → Option β) : Prop where
  free : ∀ o, o.dispatch? = none → f o = none
  heard : ∀ d result, f (.heard d result) = none
  released : ∀ d result, f (.released d result) = none
  concluded : ∀ d result, f (.concluded d result) = none

/-- What such a reading finds in the course of calls is found on the walk through them. -/
theorem Fits.filterMap_trace {f : Occurrence → Option β} (hf : Overlooks f) {calls : Calls}
    (fits : calls.Fits w scope) : (calls.trace w).filterMap f =
      calls.walk (fun d plan => (.published d plan :: w.unclaimed d plan).filterMap f)
        (fun d s => [Occurrence.invoked d s].filterMap f)
        fun d s outcome => (.answered d s outcome :: w.verdict d s outcome).filterMap f := by
  have line (e : Log.Event) : f (.logged e) = none := hf.free _ rfl
  induction calls generalizing scope with
  | done => rfl
  | aside o next ih =>
    have passed : f o = none := by
      rcases fits.1 with free | ⟨d, plan, result, -, rfl | rfl⟩
      · exact hf.free o free
      · exact hf.heard d result
      · exact hf.released d result
    rw [trace, List.filterMap_cons_none passed, ih fits.2]
    rfl
  | said e next ih =>
    rw [trace, List.filterMap_cons_none (line e), List.filterMap_cons_none (hf.free _ rfl), ih fits]
    rfl
  | publish d plan result inside next within later =>
    have parts : (publish d plan result inside next).trace w =
        (.published d plan :: w.unclaimed d plan) ++
          (inside.trace w ++ .concluded d result :: next.trace w) := rfl
    rw [parts, List.filterMap_append, List.filterMap_append,
      List.filterMap_cons_none (hf.concluded d result), within fits.2.1, later fits.2.2, walk,
      List.append_assoc]
  | invocation d s outcome inside next within later =>
    have parts : (invocation d s outcome inside next).trace w =
        .logged (.delivering d.message.tag s.mailbox.tag s.mailbox.name s.seq) ::
          ([.invoked d s] ++ (inside.trace w ++
            ((.answered d s outcome :: w.verdict d s outcome) ++ next.trace w))) := rfl
    rw [parts, List.filterMap_cons_none (line _), List.filterMap_append, List.filterMap_append,
      List.filterMap_append, within fits.2.2.1, later fits.2.2.2, walk, List.append_assoc,
      List.append_assoc]

/-- The invocations of calls are those that happen in their course. -/
theorem Fits.mem_begun {calls : Calls} (fits : calls.Fits w scope) {x : Dispatch × Subscription}
    (hx : x ∈ calls.begun) : .invoked x.1 x.2 ∈ calls.trace w := by
  have overlooks : Overlooks Occurrence.asked? :=
    ⟨fun _ free => Occurrence.asked?_eq_none (Occurrence.invocation?_eq_none free), fun _ _ => rfl,
      fun _ _ => rfl, fun _ _ => rfl⟩
  have uncalled {l : List Occurrence} (hl : ∀ o ∈ l, o.invocation? = none) :
      l.filterMap Occurrence.asked? = [] :=
    List.filterMap_eq_nil_iff.mpr fun o ho => Occurrence.asked?_eq_none (hl o ho)
  have all : (calls.trace w).filterMap Occurrence.asked? = calls.begun := by
    rw [fits.filterMap_trace overlooks, begun]
    congr 1
    · funext d plan
      rw [List.filterMap_cons_none rfl, uncalled (w.unclaimed_silent d plan)]
    · funext d s outcome
      rw [List.filterMap_cons_none rfl, uncalled (w.verdict_silent d s outcome)]
  rw [← all] at hx
  obtain ⟨o, ho, same⟩ := List.mem_filterMap.mp hx
  cases o with
  | invoked d s =>
    cases same
    exact ho
  | _ => cases same

end Calls

namespace Exchange

variable {w : Exchange}

/-- What a journal notes of an invocation. -/
def entryIn (w : Exchange) (j : JournalId) (x : Dispatch × Subscription) : Option DeliveryRecord :=
  if w.journalOf x.2.mailbox.id = some j then x.2.mailbox.entry? x.1.message else none

/-- What a recorder is handed when a mailbox has answered: the failure, if the mailbox refused the
message recoverably and the recorder serves the bus. -/
def failureIn (w : Exchange) (r : RecorderId) :
    Dispatch × Subscription × Outcome → Option FailedMessage
  | (d, s, .ok (some (.recoverable cause))) =>
    if w.failedBox d.bus = some r then some (d.failure s cause) else none
  | _ => none

/-- What a recorder is handed when a publish begins: the message, if it is for nobody and the
recorder serves the bus. -/
def returnIn (w : Exchange) (r : RecorderId) :
    Dispatch × List (Tag × Subscription) → Option ReturnedMessage
  | (d, []) => if w.returnedBox d.bus = some r then some d.unmatched else none
  | _ => none

theorem overlooks_noteOf (w : Exchange) (j : JournalId) : Calls.Overlooks (w.noteOf j) where
  free _ free := noteOf_eq_none (Occurrence.invocation?_eq_none free)
  heard _ _ := rfl
  released _ _ := rfl
  concluded _ _ := rfl

theorem overlooks_taken (w : Exchange) (role : SinkRole) (r : RecorderId) :
    Calls.Overlooks (w.taken role r) where
  free o free := by
    cases role <;> cases o <;> first | rfl | cases free
  heard _ _ := by cases role <;> rfl
  released _ _ := by cases role <;> rfl
  concluded _ _ := by cases role <;> rfl

/-- Journals note invocations in the order in which they began. -/
theorem filterMap_noteOf {calls : Calls} (fits : calls.Fits w none) (j : JournalId) :
    (calls.trace w).filterMap (w.noteOf j) = calls.begun.filterMap (w.entryIn j) := by
  have unnoted {l : List Occurrence} (hl : ∀ o ∈ l, o.invocation? = none) :
      l.filterMap (w.noteOf j) = [] :=
    List.filterMap_eq_nil_iff.mpr fun o ho => noteOf_eq_none (hl o ho)
  rw [fits.filterMap_trace (overlooks_noteOf w j), Calls.begun, Calls.filterMap_walk]
  congr 1
  · funext d plan
    rw [List.filterMap_cons_none rfl, unnoted (w.unclaimed_silent d plan)]
    rfl
  · funext d s outcome
    rw [List.filterMap_cons_none rfl, unnoted (w.verdict_silent d s outcome)]
    rfl

/-- Lines are handed to no recorder. -/
theorem filterMap_taken_lines (w : Exchange) (role : SinkRole) (r : RecorderId)
    (lines : List Log.Event) :
    (lines.map Occurrence.logged).filterMap (w.taken role r) = [] := by
  rw [List.filterMap_eq_nil_iff]
  intro o ho
  obtain ⟨e, -, rfl⟩ := List.mem_map.mp ho
  cases role <;> rfl

theorem filterMap_verdict_failure (w : Exchange) (r : RecorderId) (d : Dispatch) (s : Subscription)
    (outcome : Outcome) :
    (Occurrence.answered d s outcome :: w.verdict d s outcome).filterMap (w.taken .failure r) =
      [(d, s, outcome)].filterMap (w.failureIn r) := by
  match outcome with
  | .ok (some (.recoverable cause)) =>
    have one : w.taken .failure r (.failed d (d.failure s cause)) =
        w.failureIn r (d, s, .ok (some (.recoverable cause))) := by
      by_cases serves : w.failedBox d.bus = some r <;>
        simp [taken, Occurrence.handed?, failureIn, box, SinkRole.busOf, Dispatch.failure, serves]
    rw [verdict, List.filterMap_cons_none rfl, List.filterMap_cons_none rfl, List.filterMap_cons,
      List.filterMap_cons, one, filterMap_taken_lines, List.filterMap_nil]
  | .ok (some (.fatal cause)) => rfl
  | .ok none | .error _ => rfl

theorem filterMap_verdict_deadLetter (w : Exchange) (r : RecorderId) (d : Dispatch)
    (s : Subscription) (outcome : Outcome) :
    (Occurrence.answered d s outcome :: w.verdict d s outcome).filterMap (w.taken .deadLetter r) =
      [] := by
  match outcome with
  | .ok (some (.recoverable cause)) =>
    rw [verdict, List.filterMap_cons_none rfl, List.filterMap_cons_none rfl,
      List.filterMap_cons_none rfl, filterMap_taken_lines]
  | .ok (some (.fatal cause)) => rfl
  | .ok none | .error _ => rfl

theorem filterMap_unclaimed_failure (w : Exchange) (r : RecorderId) (d : Dispatch)
    (plan : List (Tag × Subscription)) :
    (Occurrence.published d plan :: w.unclaimed d plan).filterMap (w.taken .failure r) = [] := by
  cases plan with
  | nil =>
    rw [unclaimed, List.filterMap_cons_none rfl, List.filterMap_cons_none rfl,
      List.filterMap_cons_none rfl, filterMap_taken_lines]
  | cons => rfl

theorem filterMap_unclaimed_deadLetter (w : Exchange) (r : RecorderId) (d : Dispatch)
    (plan : List (Tag × Subscription)) :
    (Occurrence.published d plan :: w.unclaimed d plan).filterMap (w.taken .deadLetter r) =
      [(d, plan)].filterMap (w.returnIn r) := by
  cases plan with
  | nil =>
    have one : w.taken .deadLetter r (.returned d d.unmatched) = w.returnIn r (d, []) := by
      by_cases serves : w.returnedBox d.bus = some r <;>
        simp [taken, Occurrence.handed?, returnIn, box, SinkRole.busOf, Dispatch.unmatched, serves]
    rw [unclaimed, List.filterMap_cons_none rfl, List.filterMap_cons_none rfl, List.filterMap_cons,
      List.filterMap_cons, one, filterMap_taken_lines, List.filterMap_nil]
  | cons => rfl

/-- Recorders are handed failures in the order in which the invocations ended. -/
theorem filterMap_taken_failure {calls : Calls} (fits : calls.Fits w none) (r : RecorderId) :
    (calls.trace w).filterMap (w.taken .failure r) = calls.ended.filterMap (w.failureIn r) := by
  rw [fits.filterMap_trace (overlooks_taken w .failure r), Calls.ended, Calls.filterMap_walk]
  congr 1
  · funext d plan
    exact filterMap_unclaimed_failure w r d plan
  · funext d s outcome
    exact filterMap_verdict_failure w r d s outcome

/-- Recorders are handed messages that are for nobody in the order in which they were published. -/
theorem filterMap_taken_deadLetter {calls : Calls} (fits : calls.Fits w none) (r : RecorderId) :
    (calls.trace w).filterMap (w.taken .deadLetter r) =
      calls.published.filterMap (w.returnIn r) := by
  rw [fits.filterMap_trace (overlooks_taken w .deadLetter r), Calls.published, Calls.filterMap_walk]
  congr 1
  · funext d plan
    exact filterMap_unclaimed_deadLetter w r d plan
  · funext d s outcome
    exact filterMap_verdict_deadLetter w r d s outcome

/-- In a run whose mailboxes are not blind, whoever is invoked sees the message. -/
theorem sees_of_invoked {steps : List (Nat × Step)}
    (sighted : ∀ c ∈ (run {} steps).mailboxes, c.mailbox.target.blind = false) {d : Dispatch}
    {s : Subscription} (invoked : .invoked d s ∈ (run {} steps).history) :
    (s.mailbox.target.narrow d.message).isSome = true := by
  obtain ⟨h₁, plan, h₂, course, result, hist, goes, act, -⟩ :=
    (lawful_orderly.run {} steps).origin invoked rfl (by simp)
  exact (sees_of_act sighted hist goes (.inl act)).2

/-- However deep publishes nest through handlers, what is recorded of a run is recorded faithfully.
The run goes on as a tree of calls. A journal has the invocations of its mailboxes in the order in
which they began, an outer one before those inside of it, whatever became of them, with the name of
the mailbox, its target and the text of the message as the mailbox sees it. A recorder that is never
emptied has the recoverable failures on the buses that it serves in the order in which the
invocations ended, inner ones before the outer one, and the messages that were for nobody in the
order in which they were published. -/
theorem run_records (steps : List (Nat × Step)) :
    let w := run {} steps
    ∃ calls : Calls, calls.Fits w none ∧ w.history = calls.trace w ∧
      (∀ label j, w.desk.journals.get? label = some j →
        (∃ lines, w.journals[j]? = some lines ∧
          lines.reverse = calls.begun.filterMap (w.entryIn j)) ∧
        ∀ depth, (w.step depth (.journal label .entries)).2 =
          .ok (.deliveries (calls.begun.filterMap (w.entryIn j)))) ∧
      ((∀ c ∈ w.mailboxes, c.mailbox.target.blind = false) → ∀ d s, (d, s) ∈ calls.begun →
        ∃ view, s.mailbox.target.narrow d.message = some view ∧ s.mailbox.entry? d.message =
          some { mailbox := s.mailbox.name, target := s.mailbox.tag, rendered := view.text }) ∧
      ∀ label r, w.desk.recorders.get? label = some r →
        ∃ c, w.recorders[r]? = some c ∧
          (.emptied r .failure ∉ w.history →
            c.failed.toList = calls.ended.filterMap (w.failureIn r)) ∧
          (.emptied r .deadLetter ∉ w.history →
            c.returned.toList = calls.published.filterMap (w.returnIn r)) := by
  intro w
  obtain ⟨calls, fits, hist⟩ := run_unfolds steps
  have journalled : w.Journalled := journalled_run steps
  have tallied : w.Tallied := (reachable_run steps).tallied
  refine ⟨calls, fits, hist, fun label j hj => ?_, fun sighted d s begun => ?_,
    fun label r hr => ?_⟩
  · obtain ⟨lines, there⟩ : ∃ lines, w.journals[j]? = some lines :=
      ⟨_, List.getElem?_eq_getElem (journalled.named label j hj)⟩
    have entries : lines.reverse = calls.begun.filterMap (w.entryIn j) := by
      rw [← filterMap_noteOf fits j, ← hist]
      exact journalled.kept j lines there
    refine ⟨⟨lines, there, entries⟩, fun depth => ?_⟩
    simp only [Exchange.step, perform, journalNamed, hj, there, Option.getD_some, entries,
      askJournal]
  · have happened : .invoked d s ∈ w.history := hist ▸ fits.mem_begun begun
    obtain ⟨view, sees⟩ := Option.isSome_iff_exists.mp (sees_of_invoked sighted happened)
    exact ⟨view, sees, by rw [Mailbox.entry?, sees, Option.map_some]⟩
  · obtain ⟨c, there, kept⟩ := tallied.recorder hr
    refine ⟨c, there, fun unemptied => ?_, fun unemptied => ?_⟩
    · rw [← filterMap_taken_failure fits r, ← hist]
      exact Tray.toList_of_kept (kept .failure unemptied)
    · rw [← filterMap_taken_deadLetter fits r, ← hist]
      exact Tray.toList_of_kept (kept .deadLetter unemptied)

/-- A front office that passes a memo and a flyer on before it refuses a note, and a back office
that refuses the memo. Nobody takes the flyer. -/
def cascade : List (Nat × Step) :=
  [(1, .openBus "bus" (.recording "tray")),
    (1, .openMailbox "front" "front" { tag := .child "Note" .root }
      (.responding (fun _ _ =>
        .mk [.publish "bus" (.top "Memo" (.word "Memo")) 1,
          .publish "bus" (.top "Flyer" (.word "Flyer")) 1]
          (.refuse (.recoverable (.text "late")))) false (some "log")) none),
    (1, .openMailbox "back" "back" { tag := .child "Memo" .root }
      (.responding (fun _ _ => .mk [] (.refuse (.recoverable (.text "busy")))) false (some "log"))
      none),
    (1, .subscribe "bus" "front" false),
    (1, .subscribe "bus" "back" false),
    (4, .publish "bus" (.top "Note" (.word "Note")) 1)]

theorem run_records_cascade :
    let w := run {} cascade
    ∃ calls : Calls, calls.Fits w none ∧ w.history = calls.trace w ∧
      calls.begun.filterMap (w.entryIn 0) =
        [{ mailbox := "front", target := .child "Note" .root, rendered := "Note" },
          { mailbox := "back", target := .child "Memo" .root, rendered := "Memo" }] ∧
      (calls.ended.filterMap (w.failureIn 0)).map (·.mailbox.name) = ["back", "front"] ∧
      (calls.published.filterMap (w.returnIn 0)).map (·.message.text) = ["Flyer"] := by
  have log : (run {} cascade).desk.journals.get? "log" = some 0 := by decide +kernel
  have tray : (run {} cascade).desk.recorders.get? "tray" = some 0 := by decide +kernel
  have noted : (run {} cascade).journals[0]?.map List.reverse = some
      [{ mailbox := "front", target := .child "Note" .root, rendered := "Note" },
        { mailbox := "back", target := .child "Memo" .root, rendered := "Memo" }] := by
    decide +kernel
  have refused : (run {} cascade).recorders[0]?.map (·.failed.toList.map (·.mailbox.name)) =
      some ["back", "front"] := by
    decide +kernel
  have unclaimed : (run {} cascade).recorders[0]?.map (·.returned.toList.map (·.message.text)) =
      some ["Flyer"] := by
    decide +kernel
  have untouched : ((run {} cascade).history.all fun o => !(o matches .emptied ..)) = true := by
    decide +kernel
  have records := run_records cascade
  -- From here on nothing is evaluated any more.
  generalize run {} cascade = w at *
  obtain ⟨calls, fits, hist, journals, -, recorders⟩ := records
  obtain ⟨⟨lines, there, entries⟩, -⟩ := journals "log" 0 log
  obtain ⟨c, here, failed, returned⟩ := recorders "tray" 0 tray
  have unemptied (role : SinkRole) : .emptied 0 role ∉ w.history := by
    intro member
    simpa using List.all_eq_true.mp untouched _ member
  rw [there, Option.map_some, entries] at noted
  rw [here, Option.map_some, failed (unemptied _)] at refused
  rw [here, Option.map_some, returned (unemptied _)] at unclaimed
  exact ⟨calls, fits, hist, Option.some.inj noted, Option.some.inj refused,
    Option.some.inj unclaimed⟩

end Exchange

end MessageBus
