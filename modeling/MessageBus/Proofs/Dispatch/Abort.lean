import MessageBus.Proofs.Dispatch.Order

namespace MessageBus

/-- What a step publishes at least once when code performs it, and on which bus. A sink can also
publish the message of its letter again. -/
def Step.publication? (w : Exchange) (letter : Option Letter) : Step → Option (BusId × Message)
  | .publish bus message (_ + 1) => (w.busNamed? bus).map fun x => (x.1, message)
  | .republish none => letter.map fun l => (l.bus, l.message)
  | .republish (some bus) => letter.bind fun l => (w.busNamed? bus).map fun x => (x.1, l.message)
  | .guarded step => step.publication? w letter
  | _ => none

/-- The result of a dispatch that the answer of a mailbox cuts short. -/
def Dispatch.verdict (d : Dispatch) (s : Subscription) :
    Outcome → Option (Except Halt (Option BusError))
  | .ok (some (.fatal cause)) =>
    some (.ok (some (.deliveryAborted s.mailbox.name d.message.tag cause)))
  | .error (.panicked t) => some (.error (.panicked t))
  | _ => none

variable {d : Dispatch}

/-- The course of a dispatch that a mailbox cuts short: the turns before, what goes on while the
mailbox is asked, and what goes on while the mailboxes are let go of. -/
def Dispatch.cutCourse (d : Dispatch) (turns : List Turn) (entry : Tag × Subscription)
    (during : List Occurrence) (outcome : Outcome) (lines dropped : List Occurrence)
    (after : Except Halt Unit) (result : Except Halt (Option BusError)) : List Occurrence :=
  turns.flatMap (·.occurrences d) ++ (d.asking entry during outcome ++ lines) ++ dropped ++
    [.released d after, .concluded d result]

/-- No answer before the last cuts a dispatch short. -/
theorem Dispatch.verdict_turn {answers : List (Subscription × Option Cause)} {s : Subscription}
    {outcome : Outcome} (h : .answered d s outcome ∈ answers.flatMap d.turn) :
    d.verdict s outcome = none := by
  obtain ⟨⟨x, _ | cause⟩, -, member⟩ := List.mem_flatMap.mp h
  · simp only [Dispatch.turn, List.mem_cons, reduceCtorEq, Occurrence.answered.injEq,
      List.not_mem_nil, or_false, false_or] at member
    rw [member.2.2]
    rfl
  · simp only [Dispatch.turn, List.mem_cons, reduceCtorEq, Occurrence.answered.injEq,
      List.not_mem_nil, or_false, false_or] at member
    rw [member.2.2]
    rfl

/-- A mailbox whose answer cuts a dispatch short is asked, and then at most a line is logged. -/
theorem Cut.decided {entry : Tag × Subscription} {os : List Occurrence}
    {result : Except Halt (Option BusError)} (cut : Cut d entry os result) {s : Subscription}
    {outcome : Outcome} {verdict : Except Halt (Option BusError)}
    (ha : .answered d s outcome ∈ own d.number os) (hv : d.verdict s outcome = some verdict) :
    entry.2 = s ∧ result = verdict ∧ ∃ during lines, d.Meanwhile during ∧
      (∀ o ∈ lines, ∃ e, o = .logged e) ∧ os = d.asking entry during outcome ++ lines := by
  cases cut with
  | aborted during cause hd =>
    rw [own_append, own_asking hd] at ha
    simp only [own, Occurrence.isOf, Occurrence.dispatch?, List.mem_append, List.mem_cons,
      reduceCtorEq, Occurrence.answered.injEq, true_and, List.not_mem_nil, or_false, false_or,
      List.filter_cons, Option.any_none, Bool.false_eq_true, if_false, List.filter_nil] at ha
    obtain ⟨rfl, rfl⟩ := ha
    exact ⟨rfl, Option.some.inj hv, during, _, hd, by simp, rfl⟩
  | halted during h hd =>
    rw [own_asking hd] at ha
    simp only [List.mem_cons, reduceCtorEq, Occurrence.answered.injEq, true_and, List.not_mem_nil,
      or_false, false_or] at ha
    obtain ⟨rfl, rfl⟩ := ha
    refine ⟨rfl, ?_, during, [], hd, by simp, (List.append_nil _).symm⟩
    cases h with
    | panicked t => exact Option.some.inj hv
    | stopped cause => simp [Dispatch.verdict] at hv
  | unheard during cause sunk h hd hs =>
    rw [own_append, own_asking hd, own_reporting hs] at ha
    simp only [List.mem_append, List.mem_cons, reduceCtorEq, Occurrence.answered.injEq, true_and,
      List.not_mem_nil, or_false, false_or] at ha
    obtain ⟨rfl, rfl⟩ := ha
    simp [Dispatch.verdict] at hv

/-- A delivery that is cut short has turns, and then the mailbox that cuts it. -/
theorem Delivery.decided {plan : List (Tag × Subscription)} {os : List Occurrence}
    {result : Except Halt (Option BusError)} (goes : Delivery d plan os result) {s : Subscription}
    {outcome : Outcome} {verdict : Except Halt (Option BusError)}
    (ha : .answered d s outcome ∈ own d.number os) (hv : d.verdict s outcome = some verdict) :
    result = verdict ∧ ∃ (turns : List Turn) (tag : Tag) (rest : List (Tag × Subscription))
      (during lines : List Occurrence), plan = turns.map (·.entry) ++ (tag, s) :: rest ∧
      os = turns.flatMap (·.occurrences d) ++ (d.asking (tag, s) during outcome ++ lines) ∧
      (∀ x ∈ turns, d.Meanwhile x.meanwhile) ∧ d.Meanwhile during ∧
      (∀ o ∈ lines, ∃ e, o = .logged e) := by
  -- No answer in a turn has a verdict, so the one that has it was given in the cut.
  obtain ⟨turns, quiet, ⟨-, rfl, -⟩ | ⟨⟨tag, x⟩, rest, last, rfl, rfl, cut⟩⟩ := goes.turns
  · rw [own_turns quiet] at ha
    rw [Dispatch.verdict_turn ha] at hv
    simp at hv
  · rw [own_append, own_turns quiet, List.mem_append] at ha
    rcases ha with ha | ha
    · rw [Dispatch.verdict_turn ha] at hv
      simp at hv
    · obtain ⟨rfl, rfl, during, lines, hd, hl, rfl⟩ := cut.decided ha hv
      exact ⟨rfl, turns, tag, rest, during, lines, rfl, rfl, quiet, hd, hl⟩

/-- A dispatch that is cut short has turns, then the mailbox that cuts it, and then only lets go of
its mailboxes. When it is a panic that cuts it, no other panic comes out of that. -/
theorem Course.decided {plan : List (Tag × Subscription)} {course : List Occurrence}
    {result : Except Halt (Option BusError)} (goes : Course d plan course result)
    {s : Subscription} {outcome : Outcome} {verdict : Except Halt (Option BusError)}
    (ha : .answered d s outcome ∈ own d.number course) (hv : d.verdict s outcome = some verdict) :
    ∃ (turns : List Turn) (tag : Tag) (rest : List (Tag × Subscription))
      (during lines dropped : List Occurrence) (after : Except Halt Unit),
      plan = turns.map (·.entry) ++ (tag, s) :: rest ∧
      course = d.cutCourse turns (tag, s) during outcome lines dropped after result ∧
      result = Except.unlessHalted verdict after ∧
      (Except.unwinds verdict = true → ∀ t, after ≠ .error (.panicked t)) ∧
      (∀ x ∈ turns, d.Meanwhile x.meanwhile) ∧ d.Meanwhile during ∧
      (∀ o ∈ lines, ∃ e, o = .logged e) ∧ d.Meanwhile dropped := by
  cases goes with
  | unmatched sunk result hs =>
    simp [own_cons, hs.own_eq, Occurrence.isOf, Occurrence.dispatch?] at ha
  | @matched _ os r dropped after hp h hd single =>
    have early : .answered d s outcome ∈ own d.number os := by
      simpa [own_cons, hd.own_eq, Occurrence.isOf, Occurrence.dispatch?] using ha
    obtain ⟨rfl, turns, tag, rest, during, lines, entries, rfl, quiet, hm, hl⟩ := h.decided early hv
    exact ⟨turns, tag, rest, during, lines, dropped, after, entries, rfl, rfl, single, quiet, hm,
      hl, hd⟩
  | @stopped _ os cause hp h =>
    have early : .answered d s outcome ∈ own d.number os := by
      simpa [own_cons, Occurrence.isOf, Occurrence.dispatch?] using ha
    obtain ⟨e, -⟩ := h.decided early hv
    rw [← e] at hv
    rcases outcome with (t | _) | (_ | (cause | cause)) <;> simp [Dispatch.verdict] at hv

section

variable (c : BusId)

theorem amend_lines {lines : List Occurrence} (hl : ∀ o ∈ lines, ∃ e, o = .logged e) (S : Roll) :
    lines.foldl (Occurrence.amend c) S = S := by
  apply Exchange.foldl_amend_of_aside
  intro o ho
  obtain ⟨e, rfl⟩ := hl o ho
  trivial

theorem amend_asking (entry : Tag × Subscription) (during : List Occurrence) (outcome : Outcome)
    (S : Roll) : (d.asking entry during outcome).foldl (Occurrence.amend c) S =
      during.foldl (Occurrence.amend c) S := by
  simp [Dispatch.asking, Occurrence.amend]

/-- In the turns of mailboxes only what goes on meanwhile changes subscriptions. -/
theorem amend_turns (turns : List Turn) (S : Roll) :
    (turns.flatMap (·.occurrences d)).foldl (Occurrence.amend c) S =
      (turns.flatMap (·.meanwhile)).foldl (Occurrence.amend c) S := by
  induction turns generalizing S with
  | nil => rfl
  | cons x turns ih =>
    have one : (x.occurrences d).foldl (Occurrence.amend c) S =
        x.meanwhile.foldl (Occurrence.amend c) S := by
      obtain ⟨entry, during, _ | ⟨cause, sunk⟩⟩ := x <;>
        simp [Turn.occurrences, Turn.meanwhile, Dispatch.asking, Dispatch.reporting,
          Occurrence.amend]
    rw [List.flatMap_cons, List.flatMap_cons, List.foldl_append, List.foldl_append, one, ih]

/-- A dispatch that is cut short does nothing to subscriptions itself. -/
theorem amend_cutCourse {turns : List Turn} {entry : Tag × Subscription} {during : List Occurrence}
    {outcome : Outcome} {lines dropped : List Occurrence} (hl : ∀ o ∈ lines, ∃ e, o = .logged e)
    (after : Except Halt Unit) (result : Except Halt (Option BusError)) (S : Roll) :
    (d.cutCourse turns entry during outcome lines dropped after result).foldl
        (Occurrence.amend c) S =
      (turns.flatMap (·.meanwhile) ++ during ++ dropped).foldl (Occurrence.amend c) S := by
  simp only [Dispatch.cutCourse, List.foldl_append, amend_turns, amend_asking, amend_lines c hl]
  rfl

end

theorem own_cutCourse {turns : List Turn} {entry : Tag × Subscription} {during : List Occurrence}
    {outcome : Outcome} {lines dropped : List Occurrence}
    (quiet : ∀ x ∈ turns, d.Meanwhile x.meanwhile) (hm : d.Meanwhile during)
    (hl : ∀ o ∈ lines, ∃ e, o = .logged e) (hd : d.Meanwhile dropped) (after : Except Halt Unit)
    (result : Except Halt (Option BusError)) :
    own d.number (d.cutCourse turns entry during outcome lines dropped after result) =
      (turns.map (·.answer)).flatMap d.turn ++
        [.invoked d entry.2, .answered d entry.2 outcome, .released d after,
          .concluded d result] := by
  simp [Dispatch.cutCourse, own_turns quiet, own_asking hm, own_lines hl, hd.own_eq, own_cons,
    Occurrence.isOf, Occurrence.dispatch?]

theorem invocations_cutCourse {turns : List Turn} {entry : Tag × Subscription}
    {during : List Occurrence} {outcome : Outcome} {lines dropped : List Occurrence}
    (quiet : ∀ x ∈ turns, d.Meanwhile x.meanwhile) (hm : d.Meanwhile during)
    (hl : ∀ o ∈ lines, ∃ e, o = .logged e) (hd : d.Meanwhile dropped) (after : Except Halt Unit)
    (result : Except Halt (Option BusError)) :
    invocations d.number (d.cutCourse turns entry during outcome lines dropped after result) =
      turns.map (·.entry.2) ++ [entry.2] := by
  rw [invocations, own_cutCourse quiet hm hl hd, List.filterMap_append, invoked_turns, List.map_map]
  rfl

namespace Exchange

section

variable {call : Runner} {letter : Option Letter} {u x y : Exchange} {b : BusId} {m : Message}
  {e : BusError}

/-- The error of a publish is what is answered to the step that makes it, when the handle on the bus
is let go of without more ado. -/
theorem perform_of_publication {step : Step} (asks : step.publication? u letter = some (b, m))
    (fails : publish call b m (u.hold [.bus b]) = (x, .ok (some e)))
    (left : releaseAll call false [.bus b] x = (y, .ok ())) :
    perform call letter step u = (y, .ok (.busError e)) := by
  have held (n : Nat) :
      whileHolding call [.bus b] (publishTimes call b m (n + 1)) u = (y, .ok (.busError e)) := by
    have first : publishTimes call b m (n + 1) (u.hold [.bus b]) = (x, .ok (.busError e)) := by
      rw [publishTimes, fails]
    simp only [whileHolding, first, Except.unwinds, left, Except.unlessHalted]
  induction step using Step.publication?.induct with
  | case1 bus message n =>
    obtain ⟨⟨a, cell⟩, named, same⟩ := Option.map_eq_some_iff.mp asks
    obtain ⟨rfl, rfl⟩ := Prod.mk.inj same
    simp only [perform, named]
    exact held n
  | case2 =>
    obtain ⟨l, rfl, same⟩ := Option.map_eq_some_iff.mp asks
    obtain ⟨rfl, rfl⟩ := Prod.mk.inj same
    exact held 0
  | case3 bus =>
    obtain ⟨l, rfl, found⟩ := Option.bind_eq_some_iff.mp asks
    obtain ⟨⟨a, cell⟩, named, same⟩ := Option.map_eq_some_iff.mp found
    obtain ⟨rfl, rfl⟩ := Prod.mk.inj same
    simp only [perform, named]
    exact held 0
  | case4 step ih => rw [perform, ih asks]
  | case5 => simp_all [Step.publication?]

/-- Code goes on with its other steps after a publish of its own that was aborted. -/
theorem runner_react_of_aborted {depth : Nat} {step : Step} (rest : List Step) (ending : Ending)
    (asks : step.publication? u letter = some (b, m))
    (fails : publish (runner depth) b m (u.hold [.bus b]) = (x, .ok (some e)))
    (left : releaseAll (runner depth) false [.bus b] x = (y, .ok ())) :
    runner (depth + 1) (.react letter (.mk (step :: rest) ending)) u =
      runner (depth + 1) (.react letter (.mk rest ending))
        (y.announce (.ran step.word (.busError e))) := by
  simp only [runner, Work.carryOut, Reaction.steps, Reaction.ending, performAll,
    perform_of_publication asks fails left]

end

/-- When a mailbox answers a publish fatally or panics, it is the last to be invoked, and neither
it nor the message is handed to a sink. The mailboxes before it had their turns. The publish comes
out with what the answer says, unless code panics that is run when the mailboxes are let go of: its
panic comes out in place of an abort, and aborts the program while another one unwinds. The publish
has done nothing to subscriptions that was not done by the mailboxes and sinks that it ran and by
that code. A publish that a mailbox or a sink makes itself and that is aborted is answered to it,
and it goes on with its other steps: it is up to the mailbox how it answers, and only that counts
here. -/
theorem publish_cut_short {w : Exchange} (hw : w.Reachable) {b : BusId}
    (hb : b < w.buses.length) (m : Message) (depth : Nat) :
    let d := w.nextDispatch b m
    let plan := (live b w.history).agenda m
    let v := (publish (runner depth) b m w).1
    let result := (publish (runner depth) b m w).2
    ∃ new, v.history = w.history ++ new ∧
      (∀ s outcome verdict, .answered d s outcome ∈ new → d.verdict s outcome = some verdict →
        ∃ (turns : List Turn) (tag : Tag) (rest : List (Tag × Subscription))
          (logs during lines dropped : List Occurrence) (after : Except Halt Unit),
          new = logs ++ .published d plan ::
            d.cutCourse turns (tag, s) during outcome lines dropped after result ∧
          plan = turns.map (·.entry) ++ (tag, s) :: rest ∧
          invocations d.number new = turns.map (·.entry.2) ++ [s] ∧
          own d.number new = .published d plan :: ((turns.map (·.answer)).flatMap d.turn ++
            [.invoked d s, .answered d s outcome, .released d after, .concluded d result]) ∧
          result = Except.unlessHalted verdict after ∧
          (Except.unwinds verdict = true → ∀ t, after ≠ .error (.panicked t)) ∧
          ∀ c, live c v.history = (turns.flatMap (·.meanwhile) ++ during ++ dropped).foldl
            (Occurrence.amend c) (live c w.history)) ∧
      (∀ c cell, v.buses[c]? = some cell →
        ∀ t, cell.registry.listFor t = (live c v.history).listFor t) ∧
      (∃ cell chain, v.buses[b]? = some cell ∧ cell.resolver.find? m.tag = some chain ∧
        chain.tags = m.ancestry) ∧
      (Calm d new → result = .ok none ∧ invocations d.number new = plan.map (·.2)) ∧
      (∀ letter reaction u,
        (runner depth (.react letter reaction) u).2 = reaction.ending.outcome ∨
          ∃ h, (runner depth (.react letter reaction) u).2 = .error h) ∧
      ∀ (letter : Option Letter) (step : Step) (rest : List Step) (ending : Ending) (inner : Nat)
        (u x y : Exchange) (c : BusId) (nested : Message) (mailbox : String) (tag : Tag)
        (cause : Cause),
        step.publication? u letter = some (c, nested) →
        publish (runner inner) c nested (u.hold [.bus c]) =
          (x, .ok (some (.deliveryAborted mailbox tag cause))) →
        releaseAll (runner inner) false [.bus c] x = (y, .ok ()) →
        runner (inner + 1) (.react letter (.mk (step :: rest) ending)) u =
          runner (inner + 1) (.react letter (.mk rest ending))
            (y.announce (.ran step.word (.busError (.deliveryAborted mailbox tag cause)))) := by
  intro d plan v result
  obtain ⟨logs, course, lines, hist, goes⟩ := hw.sound.publish_course hb m depth
  have mine : own d.number (logs ++ .published d plan :: course) =
      .published d plan :: own d.number course := own_begun lines _ _
  have after_all := (hw.publish depth b m hb).sound
  refine ⟨_, hist, fun s outcome verdict ha hv => ?_, fun c cell hc => ?_, ?_, fun hc => ?_,
    runner_react depth, fun letter step rest ending inner u x y c nested mailbox tag cause =>
      runner_react_of_aborted rest ending⟩
  · have early : .answered d s outcome ∈ own d.number course := by
      have member : .answered d s outcome ∈ own d.number (logs ++ .published d plan :: course) :=
        mem_own.mpr ⟨ha, Occurrence.isOf_number rfl⟩
      rw [mine] at member
      simpa using member
    obtain ⟨turns, tag, rest, during, told, dropped, after, entries, cut, comes, single, quiet, hm,
      hl, hd⟩ := goes.decided early hv
    refine ⟨turns, tag, rest, logs, during, told, dropped, after, by rw [cut], entries, ?_, ?_,
      comes, single, fun c => ?_⟩
    · rw [invocations_begun lines, cut, invocations_cutCourse quiet hm hl hd]
    · rw [mine, cut, own_cutCourse quiet hm hl hd]
    · have began (S : Roll) : (Occurrence.published d plan).amend c S = S := rfl
      rw [hist, live_append, cut, List.foldl_append, amend_lines c lines, List.foldl_cons, began,
        amend_cutCourse c hl]
  · exact (after_all.fits c cell hc).lists.listFor
  · have begun : .published d plan ∈ v.history := by
      rw [hist]
      simp [d, plan]
    obtain ⟨cell, chain, hc, kept⟩ := after_all.kept d plan begun
    exact ⟨cell, chain, hc, kept, (after_all.fits b cell hc).chains m.tag chain kept⟩
  · have calmly : Calm d (own d.number course) := hc.mono fun o ho => by simp [(mem_own.mp ho).1]
    refine ⟨(goes.calm calmly).1, ?_⟩
    rw [invocations_begun lines]
    exact goes.invocations_of_calm calmly

/-- A counter with three mailboxes for a note and a guard who has every memo stopped. The clerk
passes a memo on and takes stock before it refuses the note, and the porter, whose turn comes next,
panics. -/
def counter : Exchange :=
  let mailbox (id type : String) (steps : List Step) (ending : Ending) : Nat × Step :=
    (1, .openMailbox id id { tag := .child type .root }
      (.responding (fun _ _ => .mk steps ending) false none) none)
  let seat (id : String) : Nat × Step := (1, .subscribe "bus" id false)
  run {}
    [(1, .openBus "bus" (.recording "tray")),
      mailbox "clerk" "Note" [.publish "bus" (.top "Memo" (.word "Memo")) 1, .countAll "bus"]
        (.refuse (.recoverable (.text "late"))),
      mailbox "guard" "Memo" [] (.refuse (.fatal (.text "closed"))),
      mailbox "porter" "Note" [] (.panic "lost"), mailbox "cleaner" "Note" [] .succeed,
      seat "clerk", seat "guard", seat "porter", seat "cleaner"]

theorem publish_cut_short_counter :
    let note : Message := .top "Note" (.word "Note")
    let memo : Message := .top "Memo" (.word "Memo")
    let clerk : Subscription := ⟨0, ⟨0, "clerk", { tag := .child "Note" .root }⟩⟩
    let guard : Subscription := ⟨1, ⟨1, "guard", { tag := .child "Memo" .root }⟩⟩
    let porter : Subscription := ⟨2, ⟨2, "porter", { tag := .child "Note" .root }⟩⟩
    let stopped : BusError := .deliveryAborted "guard" memo.tag (.text "closed")
    let late : Ending := .refuse (.recoverable (.text "late"))
    let noted := publish (runner 4) 0 note counter
    let passed := publish (runner 4) 0 memo counter
    counter.Reachable ∧ 0 < counter.buses.length ∧
    (∃ new, noted.1.history = counter.history ++ new ∧
      .concluded { number := 1, bus := 0, message := memo } (.ok (some stopped)) ∈ new ∧
      .answered (counter.nextDispatch 0 note) porter (.error (.panicked "lost")) ∈ new ∧
      ∃ (turns : List Turn) (after : Except Halt Unit), turns.map (·.entry.2) = [clerk] ∧
        invocations 0 new = turns.map (·.entry.2) ++ [porter] ∧
        noted.2 = Except.unlessHalted (.error (.panicked "lost")) after ∧
        ∀ t, after ≠ .error (.panicked t)) ∧
    (∃ (new : List Occurrence) (after : Except Halt Unit),
      passed.1.history = counter.history ++ new ∧
      .answered (counter.nextDispatch 0 memo) guard (.ok (some (.fatal (.text "closed")))) ∈ new ∧
      passed.2 = Except.unlessHalted (.ok (some stopped)) after) ∧
    ∃ x y, publish (runner 3) 0 memo (counter.hold [.bus 0]) = (x, .ok (some stopped)) ∧
      releaseAll (runner 3) false [.bus 0] x = (y, .ok ()) ∧
      runner 4 (.react none (.mk [.publish "bus" memo 1, .countAll "bus"] late)) counter =
        runner 4 (.react none (.mk [.countAll "bus"] late))
          (y.announce (.ran "publish" (.busError stopped))) := by
  intro note memo clerk guard porter stopped late noted passed
  have comes : counter.Reachable := reachable_run _
  have there : 0 < counter.buses.length := by decide
  refine ⟨comes, there, ?_, ?_, ?_⟩
  · obtain ⟨new, hist, cut, -⟩ := publish_cut_short comes there note 4
    have news : noted.1.history.drop counter.history.length = new := by
      rw [hist, List.drop_left]
    have nested : (noted.1.history.drop counter.history.length)[13]? =
        some (.concluded { number := 1, bus := 0, message := memo } (.ok (some stopped))) := by
      subst noted note memo stopped
      cbv
    have panicked : (noted.1.history.drop counter.history.length)[23]? =
        some (.answered (counter.nextDispatch 0 note) porter (.error (.panicked "lost"))) := by
      subst noted note porter
      cbv
    have invoked : invocations 0 (noted.1.history.drop counter.history.length) =
        [clerk, porter] := by
      subst noted note clerk porter
      cbv
    rw [news] at nested panicked invoked
    have answered := List.mem_of_getElem? panicked
    obtain ⟨turns, -, -, -, -, -, -, after, -, -, before, -, result, single, -⟩ :=
      cut porter _ _ answered rfl
    have first : turns.map (·.entry.2) ++ [porter] = [clerk] ++ [porter] :=
      before.symm.trans invoked
    exact ⟨new, hist, List.mem_of_getElem? nested, answered, turns, after,
      List.append_cancel_right first, before, result, single rfl⟩
  · obtain ⟨new, hist, cut, -⟩ := publish_cut_short comes there memo 4
    have news : passed.1.history.drop counter.history.length = new := by
      rw [hist, List.drop_left]
    have refused : (passed.1.history.drop counter.history.length)[5]? =
        some (.answered (counter.nextDispatch 0 memo) guard
          (.ok (some (.fatal (.text "closed"))))) := by
      subst passed memo guard
      cbv
    rw [news] at refused
    have answered := List.mem_of_getElem? refused
    obtain ⟨-, -, -, -, -, -, -, after, -, -, -, -, result, -⟩ := cut guard _ _ answered rfl
    exact ⟨new, after, hist, answered, result⟩
  · obtain ⟨-, -, -, -, -, -, -, goes⟩ := publish_cut_short comes there note 4
    have fails : (publish (runner 3) 0 memo (counter.hold [.bus 0])).2 = .ok (some stopped) := by
      subst stopped memo
      cbv
    have kept : (releaseAll (runner 3) false [.bus 0]
        (publish (runner 3) 0 memo (counter.hold [.bus 0])).1).2 = .ok () := by
      subst memo
      cbv
    have named : Step.publication? counter none (.publish "bus" memo 1) = some (0, memo) := by
      subst memo
      cbv
    have went := Prod.snd_eq_iff.mp fails
    have left := Prod.snd_eq_iff.mp kept
    exact ⟨_, _, went, left,
      goes none _ [.countAll "bus"] late 3 counter _ _ 0 memo _ _ _ named went left⟩

/-- A bus with a mailbox that is let go of by the publish that it cuts short, and sees to it then
that another one is subscribed, and that nothing comes out well. -/
def dropOff (ending : Ending) : Exchange :=
  run {}
    [(1, .openBus "bus" (.responding (fun _ _ => .mk [] .succeed) fun _ _ => .mk [] .succeed)),
      (1, .openMailbox "next" "next" { tag := .child "Note" .root }
        (.responding (fun _ _ => .mk [] .succeed) false none) none),
      (1, .openMailbox "last" "last" { tag := .child "Note" .root }
        (.responding (fun _ _ => .mk [.unsubscribe "bus" "last", .forget "last"] ending) false none)
        (some (.mk [.subscribe "bus" "next" false] (.panic "dropped")))),
      (1, .subscribe "bus" "last" false)]

/-- The code that is run when a mailbox is let go of can overrule the fatal answer that it gave, and
leave a subscription behind that no mailbox or sink made. When it overrules a panic, the program is
aborted. -/
theorem abort_overruled_by_drop :
    let m : Message := .top "Note" (.word "Note")
    let last : Subscription :=
      { seq := 0, mailbox := { id := 1, name := "last", target := { tag := .child "Note" .root } } }
    let next : Subscription :=
      { seq := 1, mailbox := { id := 0, name := "next", target := { tag := .child "Note" .root } } }
    let full := dropOff (.refuse (.fatal (.text "full")))
    let torn := dropOff (.panic "torn")
    let d := full.nextDispatch 0 m
    let v := publish (runner 5) 0 m full
    (full.Reachable ∧
    own 0 v.1.history = [.published d [(.child "Note" .root, last)], .invoked d last,
      .answered d last (.ok (some (.fatal (.text "full")))),
      .released d (.error (.panicked "dropped")), .concluded d v.2] ∧
    v.2 ≠ .ok (some (.deliveryAborted "last" m.tag (.text "full"))) ∧
    own 0 (v.1.history.drop 13) =
      [.released d (.error (.panicked "dropped")), .concluded d v.2] ∧
    live 0 (v.1.history.take 13) = [] ∧ live 0 v.1.history = [next]) ∧
    torn.Reachable ∧ (publish (runner 5) 0 m torn).2 = .error (.stopped .aborted) := by
  refine ⟨⟨reachable_run _, ?_, ?_, ?_, ?_, ?_⟩, reachable_run _, ?_⟩
  · cbv
  · decide +kernel
  · cbv
  · decide +kernel
  · decide +kernel
  · decide +kernel

end Exchange

end MessageBus
