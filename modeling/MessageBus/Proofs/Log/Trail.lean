import MessageBus.Proofs.Exchange.Calls
import MessageBus.Proofs.Exchange.Heard
import MessageBus.Proofs.Exchange.Unheard
import MessageBus.Proofs.Log.Plain

namespace MessageBus

/-- Whether code announces that it has logged something itself. -/
def Occurrence.isEmission : Occurrence → Bool
  | .announced (.ran "emit" .done) => true
  | _ => false

/-- The lines about messages among some occurrences, apart from those that code logs itself and
announces at once. -/
def trail : List Occurrence → List Log.Event
  | [] => []
  | .logged e :: rest =>
    if e.isAudit && !rest.head?.any Occurrence.isEmission then e :: trail rest else trail rest
  | _ :: rest => trail rest

/-- What comes immediately before an occurrence. -/
def Occurrence.leadIn : Occurrence → List Occurrence
  | .invoked d s =>
    [.logged (.delivering d.message.tag s.mailbox.tag s.mailbox.name s.seq)]
  | _ => []

namespace Exchange

/-- What comes immediately after an occurrence, with what the sinks of its bus log. -/
def aftermath (w : Exchange) : Occurrence → List Occurrence
  | .published d plan => w.unclaimed d plan
  | .answered d s outcome => w.verdict d s outcome
  | _ => []

/-- The lines that belong to an occurrence. -/
def lines (w : Exchange) (o : Occurrence) : List Log.Event := logged (o.leadIn ++ w.aftermath o)

/-- The lines about messages in the course of steps from outside, apart from what code logs
itself. -/
def trailOf (w : Exchange) : List (Nat × Step) → List Log.Event
  | [] => []
  | (depth, step) :: rest =>
    let (v, result) := w.step depth step
    (if step.emission?.isSome then [] else trail (v.historySince w.trace.length)) ++
      if Except.aborts result then [] else v.trailOf rest

/-- A history in which before and after each occurrence there is what belongs there. -/
def Framed (w : Exchange) (h : List Occurrence) : Prop :=
  ∀ h₁ o h₂, h = h₁ ++ o :: h₂ → o.leadIn <:+ h₁ ∧ w.aftermath o <+: h₂

end Exchange

/-- Occurrences that do not begin with the announcement that something was logged. -/
def Unannounced (h : List Occurrence) : Prop := ∀ o ∈ h.head?, o.isEmission = false

theorem Unannounced.append {h h' : List Occurrence} (hu : Unannounced h) (hu' : Unannounced h') :
    Unannounced (h ++ h') := by
  cases h with
  | nil => exact hu'
  | cons o h => exact hu

theorem Unannounced.not_any {h : List Occurrence} (hu : Unannounced h) :
    h.head?.any Occurrence.isEmission = false := by
  cases h with
  | nil => rfl
  | cons o h => exact hu o rfl

theorem isEmission_of_isModest {o : Occurrence} (h : o.IsModest) : o.isEmission = false := by
  unfold Occurrence.isEmission
  split
  · exact absurd rfl h
  · rfl

theorem trail_append (h : List Occurrence) {h' : List Occurrence} (hu : Unannounced h') :
    trail (h ++ h') = trail h ++ trail h' := by
  induction h using trail.induct with
  | case1 => rfl
  | case2 e rest told ih =>
    have next : (rest ++ h').head?.any Occurrence.isEmission =
        rest.head?.any Occurrence.isEmission := by
      cases rest with
      | nil => exact hu.not_any
      | cons => rfl
    rw [List.cons_append, trail, trail, next, if_pos told, if_pos told, ih, List.cons_append]
  | case3 e rest passed ih =>
    have next : (rest ++ h').head?.any Occurrence.isEmission =
        rest.head?.any Occurrence.isEmission := by
      cases rest with
      | nil => exact hu.not_any
      | cons => rfl
    rw [List.cons_append, trail, trail, next, if_neg passed, if_neg passed, ih]
  | case4 o rest other ih =>
    rw [List.cons_append, trail, trail, ih]
    · exact other
    · exact other

/-- What a bus tells at once, without an announcement in between, is on the trail. -/
theorem trail_of_told {h : List Occurrence} (audit : ∀ e, .logged e ∈ h → e.isAudit = true)
    (plain : ∀ o ∈ h, o.isEmission = false) : trail h = Exchange.logged h := by
  induction h with
  | nil => rfl
  | cons o rest ih =>
    have later := ih (fun e he => audit e (List.mem_cons_of_mem o he))
      fun x hx => plain x (List.mem_cons_of_mem o hx)
    have unannounced : Unannounced rest := by
      intro x hx
      exact plain x (List.mem_cons_of_mem o (List.mem_of_mem_head? hx))
    cases o with
    | logged e =>
      have told := audit e List.mem_cons_self
      rw [trail, told, unannounced.not_any, later]
      rfl
    | _ => exact later

theorem trail_of_isModest {o : Occurrence} (h : o.IsModest) (rest : List Occurrence) :
    trail (o :: rest) = trail rest := by
  cases o with
  | logged e =>
    have hidden : e.isAudit = false := h
    rw [trail, hidden]
    rfl
  | _ => rfl

namespace Exchange

variable {v w : Exchange}

theorem Framed.nil : w.Framed [] := by
  intro h₁ o h₂ e
  simp at e

theorem Framed.append {h h' : List Occurrence} (hf : w.Framed h) (hf' : w.Framed h') :
    w.Framed (h ++ h') := by
  intro h₁ o h₂ e
  rcases List.append_eq_append_iff.mp e with ⟨mid, rfl, rest⟩ | ⟨mid, whole, rest⟩
  · obtain ⟨before, after⟩ := hf' mid o h₂ rest
    exact ⟨before.trans (List.suffix_append h mid), after⟩
  · cases mid with
    | nil =>
      rw [List.append_nil] at whole
      obtain ⟨before, after⟩ := hf' [] o h₂ rest.symm
      exact ⟨before.trans (List.nil_suffix), after⟩
    | cons x mid =>
      obtain ⟨rfl, rfl⟩ := List.cons.inj rest
      obtain ⟨before, after⟩ := hf h₁ o mid whole
      exact ⟨before, after.trans (List.prefix_append mid h')⟩

/-- Something that nothing has to come before, with what comes after it. -/
theorem Framed.cons {o : Occurrence} {h : List Occurrence} (before : o.leadIn = [])
    (after : w.aftermath o <+: h) (hf : w.Framed h) : w.Framed (o :: h) := by
  intro h₁ x h₂ e
  cases h₁ with
  | nil =>
    obtain ⟨rfl, rfl⟩ := List.cons.inj e
    exact ⟨before ▸ List.nil_suffix, after⟩
  | cons y h₁ =>
    obtain ⟨rfl, rfl⟩ := List.cons.inj e
    obtain ⟨lead, follow⟩ := hf h₁ x h₂ rfl
    exact ⟨lead.trans (List.suffix_cons o h₁), follow⟩

theorem Framed.of_plain {h : List Occurrence}
    (plain : ∀ o ∈ h, o.leadIn = [] ∧ w.aftermath o = []) : w.Framed h := by
  induction h with
  | nil => exact .nil
  | cons o h ih =>
    obtain ⟨before, after⟩ := plain o List.mem_cons_self
    have rest := ih fun x hx => plain x (List.mem_cons_of_mem o hx)
    exact .cons before (after ▸ List.nil_prefix) rest

/-- The line that announces an invocation, and the invocation. -/
theorem Framed.invoked (d : Dispatch) (s : Subscription) :
    w.Framed (Occurrence.leadIn (.invoked d s) ++ [.invoked d s]) := by
  intro h₁ o h₂ e
  cases h₁ with
  | nil =>
    obtain ⟨rfl, -⟩ := List.cons.inj e
    exact ⟨List.nil_suffix, List.nil_prefix⟩
  | cons x h₁ =>
    obtain ⟨rfl, rest⟩ := List.cons.inj e
    cases h₁ with
    | nil =>
      obtain ⟨rfl, -⟩ := List.cons.inj rest
      exact ⟨List.suffix_rfl, List.nil_prefix⟩
    | cons y h₁ =>
      have none_left : [] = h₁ ++ o :: h₂ := (List.cons.inj rest).2
      simp at none_left

/-- What comes after an occurrence needs nothing before or after it, and is not announced. -/
theorem aftermath_plain (w : Exchange) (o : Occurrence) : ∀ x ∈ w.aftermath o,
    x.leadIn = [] ∧ w.aftermath x = [] ∧ x.isEmission = false ∧
      ∀ e, x = .logged e → e.isAudit = true := by
  have line (e : Log.Event) (he : e.isAudit = true) (x : Occurrence) (hx : x = .logged e) :
      x.leadIn = [] ∧ w.aftermath x = [] ∧ x.isEmission = false ∧
        ∀ e, x = .logged e → e.isAudit = true := by
    subst hx
    refine ⟨rfl, rfl, rfl, fun e' same => ?_⟩
    rwa [← Occurrence.logged.inj same]
  intro x hx
  match o with
  | .published d [] =>
    rcases List.mem_cons.mp hx with here | hx
    · exact line _ rfl x here
    rcases List.mem_cons.mp hx with rfl | hx
    · exact ⟨rfl, rfl, rfl, by simp⟩
    obtain ⟨e, told, rfl⟩ := List.mem_map.mp hx
    obtain ⟨k, -, rfl⟩ := Option.map_eq_some_iff.mp (Option.mem_toList.mp told)
    exact line _ rfl _ rfl
  | .answered d s (.ok (some (.recoverable cause))) =>
    rcases List.mem_cons.mp hx with here | hx
    · exact line _ rfl x here
    rcases List.mem_cons.mp hx with rfl | hx
    · exact ⟨rfl, rfl, rfl, by simp⟩
    obtain ⟨e, told, rfl⟩ := List.mem_map.mp hx
    obtain ⟨k, -, rfl⟩ := Option.map_eq_some_iff.mp (Option.mem_toList.mp told)
    exact line _ rfl _ rfl
  | .answered d s (.ok (some (.fatal cause))) => exact line _ rfl x (List.mem_singleton.mp hx)
  | .published _ (_ :: _) | .answered _ _ (.ok none) | .answered _ _ (.error _) | .invoked ..
  | .returned .. | .failed .. | .heard .. | .released .. | .concluded .. | .subscribed ..
  | .unsubscribed .. | .cleared .. | .emptied .. | .dropped .. | .logged .. | .announced .. =>
    exact absurd hx List.not_mem_nil

theorem Framed.aftermath (w : Exchange) {o : Occurrence} (before : o.leadIn = []) :
    w.Framed (o :: w.aftermath o) :=
  .cons before List.prefix_rfl (.of_plain fun x hx =>
    ⟨(w.aftermath_plain o x hx).1, (w.aftermath_plain o x hx).2.1⟩)

/-- A history that is framed, with all of its lines about messages belonging to its occurrences. -/
structure Audited (w : Exchange) (h : List Occurrence) : Prop where
  framed : w.Framed h
  trail : trail h = h.flatMap w.lines
  unannounced : Unannounced h

namespace Audited

theorem nil : w.Audited [] := ⟨.nil, rfl, by simp [Unannounced]⟩

theorem append {h h' : List Occurrence} (ha : w.Audited h) (ha' : w.Audited h') :
    w.Audited (h ++ h') := by
  refine ⟨ha.framed.append ha'.framed, ?_, ha.unannounced.append ha'.unannounced⟩
  rw [trail_append h ha'.unannounced, ha.trail, ha'.trail, List.flatMap_append]

/-- What happens aside belongs to nothing. -/
theorem aside {o : Occurrence} (modest : o.IsModest) (before : o.leadIn = [])
    (after : w.aftermath o = []) : w.Audited [o] := by
  refine ⟨.of_plain (by simpa using ⟨before, after⟩), ?_, ?_⟩
  · rw [trail_of_isModest modest, List.flatMap_singleton, lines, before, after]
    rfl
  · simpa [Unannounced] using isEmission_of_isModest modest

/-- An occurrence with what comes after it. -/
theorem event {o : Occurrence} (before : o.leadIn = []) (plain : o.isEmission = false)
    (silent : Occurrence.event? o = none) : w.Audited (o :: w.aftermath o) := by
  refine ⟨.aftermath w before, ?_, by simpa [Unannounced] using plain⟩
  have told : MessageBus.trail (o :: w.aftermath o) = logged (o :: w.aftermath o) := by
    apply trail_of_told
    · intro e he
      rcases List.mem_cons.mp he with rfl | he
      · cases silent
      · exact (w.aftermath_plain o _ he).2.2.2 e rfl
    · intro x hx
      rcases List.mem_cons.mp hx with rfl | hx
      · exact plain
      · exact (w.aftermath_plain o x hx).2.2.1
  have none_left : (w.aftermath o).flatMap w.lines = [] := by
    apply List.flatMap_eq_nil_iff.mpr
    intro x hx
    obtain ⟨lead, follow, -⟩ := w.aftermath_plain o x hx
    rw [lines, lead, follow]
    rfl
  rw [told, List.flatMap_cons, none_left, List.append_nil, lines, before, List.nil_append, logged,
    List.filterMap_cons_none silent]
  rfl

theorem invoked (d : Dispatch) (s : Subscription) :
    w.Audited (Occurrence.leadIn (.invoked d s) ++ [.invoked d s]) :=
  ⟨.invoked d s, rfl, by simp [Unannounced, Occurrence.leadIn, Occurrence.isEmission]⟩

/-- What code logs itself is not on the trail. -/
theorem said (e : Log.Event) : w.Audited [.logged e, .announced (.ran "emit" .done)] := by
  refine ⟨.of_plain (by simp [Occurrence.leadIn, Exchange.aftermath]), ?_,
    by simp [Unannounced, Occurrence.isEmission]⟩
  simp [MessageBus.trail, Occurrence.isEmission, lines, Occurrence.leadIn, Exchange.aftermath,
    logged]

end Audited

/-- What goes on as calls, with only modest occurrences aside, is audited. -/
theorem audited_trace {calls : Calls} {scope : Option (Dispatch × List (Tag × Subscription))}
    (fits : calls.Fits w scope) (modest : ∀ o ∈ calls.asides, o.IsModest) :
    w.Audited (calls.trace w) := by
  induction calls generalizing scope with
  | done => exact .nil
  | aside o next ih =>
    have later := ih fits.2 fun x hx => modest x (List.mem_cons_of_mem o hx)
    have apart : o.leadIn = [] ∧ w.aftermath o = [] := by
      rcases fits.1 with free | ⟨d, plan, result, -, rfl | rfl⟩
      · cases o <;> first | exact ⟨rfl, rfl⟩ | cases free
      · exact ⟨rfl, rfl⟩
      · exact ⟨rfl, rfl⟩
    exact (Audited.aside (modest o List.mem_cons_self) apart.1 apart.2).append later
  | said e next ih => exact (Audited.said e).append (ih fits modest)
  | publish d plan result inside next within after =>
    obtain ⟨-, fits_inside, fits_next⟩ := fits
    obtain ⟨modest_inside, modest_next⟩ := List.forall_mem_append.mp modest
    have begun : w.Audited (.published d plan :: w.unclaimed d plan) := .event rfl rfl rfl
    have ended : w.Audited [.concluded d result] := .aside trivial rfl rfl
    have whole := begun.append
      ((within fits_inside modest_inside).append (ended.append (after fits_next modest_next)))
    simpa [Calls.trace] using whole
  | invocation d s outcome inside next within after =>
    obtain ⟨-, -, fits_inside, fits_next⟩ := fits
    obtain ⟨modest_inside, modest_next⟩ := List.forall_mem_append.mp modest
    have ended : w.Audited (.answered d s outcome :: w.verdict d s outcome) := .event rfl rfl rfl
    have whole := (Audited.invoked d s).append
      ((within fits_inside modest_inside).append (ended.append (after fits_next modest_next)))
    simpa [Calls.trace, Occurrence.leadIn] using whole

/-- A run is framed, and its trail is what belongs to its occurrences. -/
theorem Reachable.audited_run (hw : w.Reachable) (steps : List (Nat × Step)) :
    ∃ part, (w.run steps).history = w.history ++ part ∧ (w.run steps).Framed part ∧
      w.trailOf steps = part.flatMap (w.run steps).lines := by
  induction steps generalizing w with
  | nil => exact ⟨[], (List.append_nil _).symm, .nil, rfl⟩
  | cons s steps ih =>
    obtain ⟨depth, step⟩ := s
    have lasting : Lasting (w.step depth step).1 (w.run ((depth, step) :: steps)) :=
      run_cons (fun _ => (lawful_leads.refl _).lasting) fun _ => (lawful_leads.run _ steps).lasting
    -- What comes after the first step is nothing when that aborts the program.
    obtain ⟨later, hist, framed, told⟩ : ∃ later,
        (w.run ((depth, step) :: steps)).history = (w.step depth step).1.history ++ later ∧
        (w.run ((depth, step) :: steps)).Framed later ∧
        (if Except.aborts (w.step depth step).2 then [] else (w.step depth step).1.trailOf steps) =
          later.flatMap (w.run ((depth, step) :: steps)).lines := by
      cases aborted : Except.aborts (w.step depth step).2 with
      | true =>
        simp only [run, aborted, if_true]
        exact ⟨[], (List.append_nil _).symm, .nil, rfl⟩
      | false =>
        simp only [run, aborted, Bool.false_eq_true, if_false]
        exact ih (hw.step depth step)
    cases emits : step.emission? with
    | some e =>
      have first : (w.step depth step).1 = w.log e := by
        rw [Exchange.step, perform_of_emission emits]
      have alone : (w.run ((depth, step) :: steps)).Framed [.logged e] :=
        .of_plain (by simp [Occurrence.leadIn, aftermath])
      refine ⟨.logged e :: later, ?_, alone.append framed, ?_⟩
      · rw [hist, first, history_log, List.append_assoc]
        rfl
      · rw [trailOf, emits]
        dsimp only
        rw [told]
        rfl
    | none =>
      obtain ⟨calls, fits, modest, first⟩ := hw.unfolds_step depth emits
      have audited := audited_trace (fits.mono lasting) modest
      rw [fits.trace_eq lasting] at audited
      refine ⟨calls.trace (w.step depth step).1 ++ later, ?_, audited.framed.append framed, ?_⟩
      · rw [hist, first, List.append_assoc]
      · have since : (w.step depth step).1.historySince w.trace.length =
            calls.trace (w.step depth step).1 := historySince_of_append first
        rw [trailOf, emits, List.flatMap_append]
        dsimp only
        rw [since, audited.trail, told]
        rfl

/-- Whoever listens, the same run is made. -/
theorem unheard_run (w : Exchange) (steps : List (Nat × Step)) :
    w.unheard.run steps = (w.run steps).unheard := by
  induction steps generalizing w with
  | nil => rfl
  | cons s steps ih =>
    simp only [run, blind_step s.1 s.2 w]
    split
    · rfl
    · exact ih _

theorem trailOf_unheard (w : Exchange) (steps : List (Nat × Step)) :
    w.unheard.trailOf steps = w.trailOf steps := by
  induction steps generalizing w with
  | nil => rfl
  | cons s steps ih =>
    simp only [trailOf, blind_step s.1 s.2 w, ih, unheard_historySince, unheard_trace]

/-- A subscriber that lets everything through has all that is logged. -/
theorem events_run_heardBy {k : Log.Subscriber} (all : ∀ e, k.filter.allows e = true)
    (steps : List (Nat × Step)) :
    ((({} : Exchange).heardBy (some k)).run steps).book.events =
      logged ((({} : Exchange).heardBy (some k)).run steps).history := by
  obtain ⟨new, hist, book⟩ := (lawful_leads.run (({} : Exchange).heardBy (some k)) steps).heeds
  have whole : ((({} : Exchange).heardBy (some k)).run steps).history = new := hist
  have every : (logged new).filter k.filter.allows = logged new :=
    List.filter_eq_self.mpr fun e _ => all e
  rw [whole, book, Log.Book.foldl_note_of_some rfl, every, Log.Book.events, List.reverse_append,
    List.reverse_reverse]
  rfl

/-- A message without a plan is not delivered. -/
theorem Orderly.not_invoked {w : Exchange} (h : Orderly {} w) {h₁ h₂ : List Occurrence}
    {d : Dispatch} (hist : w.history = h₁ ++ .published d [] :: h₂) (s : Subscription) :
    .invoked d s ∉ h₂ := by
  intro invoked
  obtain ⟨course, result, goes, same⟩ := h.course hist
  have none_planned : invocations d.number course = [] := List.prefix_nil.mp goes.invocations
  have mine : .invoked d s ∈ own d.number course :=
    same ▸ mem_own.mpr ⟨invoked, Occurrence.isOf_number rfl⟩
  have among : s ∈ invocations d.number course :=
    List.mem_filterMap.mpr ⟨_, mine, rfl⟩
  rw [none_planned] at among
  exact List.not_mem_nil among

theorem returnedLine_of_logging {d : Dispatch} {cell : BusCell} {sink : Log.Sink}
    (hb : w.buses[d.bus]? = some cell) (logs : cell.deadLetters = .logging sink) :
    w.returnedLine d.unmatched = some (sink.returned d.message) := by
  simp [returnedLine, Dispatch.unmatched, hb, logs, Sink.log?]

theorem failedLine_of_logging {d : Dispatch} {cell : BusCell} {sink : Log.Sink}
    (hb : w.buses[d.bus]? = some cell) (logs : cell.failures = .logging sink) (s : Subscription)
    (cause : Cause) : w.failedLine (d.failure s cause) =
      some (sink.failed d.message s.mailbox.name cause) := by
  simp [failedLine, Dispatch.failure, hb, logs, Sink.log?]

/-- A line of a sink shows the message, as it was published, exactly when it is to be included. -/
theorem payload_mem_fields_iff (sink : Log.Sink) (m : Message) (mailbox : String) (cause : Cause)
    {e : Log.Event} (he : e ∈ [sink.returned m, sink.failed m mailbox cause]) {v : Log.FieldValue}
    (present : v ≠ .absent) :
    ("payload", v) ∈ e.fields ↔ sink.includeMessage = true ∧ v = .said m.text := by
  have shows : ("payload", v) ∈ e.fields ↔ v = sink.payload m := by
    rcases List.mem_cons.mp he with rfl | he
    · simp [Log.Sink.returned]
    · rw [List.mem_singleton.mp he]
      simp [Log.Sink.failed]
  rw [shows, Log.Sink.payload]
  cases sink.includeMessage with
  | true => simp
  | false => simpa using present

/-- The log is a complete audit trail. At trace level all that is logged is written, and of that the
lines about messages, apart from those that code logs itself, are those that belong to the
occurrences, one after another. Every invocation comes right after the line that tells of it. On a
bus whose sinks log, every recoverable refusal is followed at once by a warning and the line of the
sink, every fatal one by a warning, and every publish that matches nothing by a note and the line of
the sink, while nothing is delivered. A line of a sink has the message exactly when it is to be
included, as it was published. -/
theorem run_audited {s : Log.Settings} {k : Log.Subscriber} (plain : s.IsPlain (.upTo .trace))
    (made : s.subscriber = .ok k) (steps : List (Nat × Step)) :
    let start := ({} : Exchange).heardBy (some k)
    let w := start.run steps
    w.book.events = logged w.history ∧
    start.trailOf steps = w.history.flatMap w.lines ∧
    (∀ h₁ d s h₂, w.history = h₁ ++ .invoked d s :: h₂ →
      let line := Log.Event.delivering d.message.tag s.mailbox.tag s.mailbox.name s.seq
      w.lines (.invoked d s) = [line] ∧ ∃ h₀, h₁ = h₀ ++ [.logged line]) ∧
    (∀ b cell (returns fails : Log.Sink), w.buses[b]? = some cell →
      cell.deadLetters = .logging returns → cell.failures = .logging fails →
      ∀ h₁ d h₂, d.bus = b →
        (∀ s cause,
          w.history = h₁ ++ .answered d s (.ok (some (.recoverable cause))) :: h₂ →
          let warning := Log.Event.refused d.message.tag s.mailbox.name cause
          let line := fails.failed d.message s.mailbox.name cause
          w.lines (.answered d s (.ok (some (.recoverable cause)))) = [warning, line] ∧
          ∃ h₃, h₂ = .logged warning :: .failed d (d.failure s cause) :: .logged line :: h₃) ∧
        (∀ s cause, w.history = h₁ ++ .answered d s (.ok (some (.fatal cause))) :: h₂ →
          let warning := Log.Event.aborted d.message.tag s.mailbox.name cause
          w.lines (.answered d s (.ok (some (.fatal cause)))) = [warning] ∧
          ∃ h₃, h₂ = .logged warning :: h₃) ∧
        (w.history = h₁ ++ .published d [] :: h₂ →
          let note := Log.Event.unmatched d.message.tag
          let line := returns.returned d.message
          w.lines (.published d []) = [note, line] ∧
          (∃ h₃, h₂ = .logged note :: .returned d d.unmatched :: .logged line :: h₃) ∧
          ∀ s, .invoked d s ∉ h₂)) ∧
    ∀ (sink : Log.Sink) (m : Message) (mailbox : String) (cause : Cause),
      (sink.returned m).level = sink.deadLetterLevel ∧
      (sink.failed m mailbox cause).level = sink.failureLevel ∧
      ∀ e ∈ [sink.returned m, sink.failed m mailbox cause], ∀ v ≠ .absent,
        (("payload", v) ∈ e.fields ↔ sink.includeMessage = true ∧ v = .said m.text) := by
  intro start w
  have alone : w.unheard = run {} steps := (unheard_run start steps).symm
  -- Nothing but the book depends on who listens.
  have history : w.unheard.history = (run {} steps).history := congrArg Exchange.history alone
  have lines : w.unheard.lines = (run {} steps).lines := congrArg Exchange.lines alone
  have follows : w.unheard.aftermath = (run {} steps).aftermath :=
    congrArg Exchange.aftermath alone
  obtain ⟨part, hist, framed, told⟩ := Reachable.audited_run (w := {}) .refl steps
  have whole : w.history = part := history.trans hist
  have frame (h₁ : List Occurrence) (o : Occurrence) (h₂ : List Occurrence)
      (hist : w.history = h₁ ++ o :: h₂) : o.leadIn <:+ h₁ ∧ w.aftermath o <+: h₂ := by
    have framed_there := framed h₁ o h₂ (whole ▸ hist)
    rwa [← follows] at framed_there
  refine ⟨?_, ?_, ?_, ?_, ?_⟩
  · exact events_run_heardBy (fun e => by rw [plain.allows_eq made]; cases e.level <;> rfl) steps
  · rw [← trailOf_unheard, whole]
    exact lines ▸ told
  · intro h₁ d s h₂ hist line
    obtain ⟨h₀, before⟩ := (frame h₁ _ h₂ hist).1
    exact ⟨rfl, h₀, before.symm⟩
  · intro b cell returns fails hb returning failing h₁ d h₂ bus
    subst bus
    refine ⟨fun s cause hist => ?_, fun s cause hist => ?_, fun hist => ?_⟩
    · have line := failedLine_of_logging hb failing s cause
      have follow := (frame h₁ _ h₂ hist).2
      simp only [aftermath, verdict, line] at follow
      obtain ⟨h₃, after⟩ := follow
      refine ⟨?_, h₃, after.symm⟩
      simp only [Exchange.lines, Occurrence.leadIn, aftermath, verdict, line]
      rfl
    · obtain ⟨h₃, after⟩ := (frame h₁ _ h₂ hist).2
      exact ⟨rfl, h₃, after.symm⟩
    · have line := returnedLine_of_logging hb returning
      have follow := (frame h₁ _ h₂ hist).2
      simp only [aftermath, unclaimed, line] at follow
      obtain ⟨h₃, after⟩ := follow
      refine ⟨?_, ⟨h₃, after.symm⟩, fun s => ?_⟩
      · simp only [Exchange.lines, Occurrence.leadIn, aftermath, unclaimed, line]
        rfl
      · exact (lawful_orderly.run {} steps).not_invoked (history ▸ hist) s
  · intro sink m mailbox cause
    exact ⟨rfl, rfl, fun e he v present =>
      payload_mem_fields_iff sink m mailbox cause he present⟩

/-- A bus whose sinks log, a clerk who refuses a note after a remark of its own in the name of the
bus, and a memo that nobody takes. -/
def bureau : List (Nat × Step) :=
  [(1, .openBus "bus" (.logging (.ok { includeMessage := true }))),
    (1, .openMailbox "clerk" "clerk" { tag := .child "Note" .root }
      (.responding (fun _ _ => .mk [.emit (.plain .warn "postal_bus::bus" "Remark")]
        (.refuse (.recoverable (.text "busy")))) false none) none),
    (1, .subscribe "bus" "clerk" false),
    (2, .publish "bus" (.top "Note" (.word "Note")) 1),
    (2, .publish "bus" (.top "Memo" (.word "Memo")) 1)]

theorem run_audited_bureau :
    let s : Log.Settings := { level := "trace" }
    let k : Log.Subscriber :=
      { filter := .upTo .trace, format := .compact, ansi := true, timestamps := true }
    let start := ({} : Exchange).heardBy (some k)
    let w := start.run bureau
    s.IsPlain (.upTo .trace) ∧ s.subscriber = .ok k ∧
      w.book.events = logged w.history ∧ start.trailOf bureau = w.history.flatMap w.lines ∧
      (start.trailOf bureau).map (·.message) =
        ["Delivering message", "Mailbox failed, continuing delivery",
          "Mailbox failed to handle message", "No mailbox matched, returning message",
          "No mailbox accepted message"] ∧
      (logged w.history).countP (·.isAudit) = 6 := by
  intro s k start w
  have plain : s.IsPlain (.upTo .trace) := Log.Settings.isPlain_lower rfl rfl
  have made : s.subscriber = .ok k := by
    rw [Log.Settings.subscriber, plain.filter_eq]
    rfl
  obtain ⟨written, told, -⟩ := run_audited plain made bureau
  refine ⟨plain, made, written, told, ?_, ?_⟩
  · decide +kernel
  · decide +kernel

end Exchange

end MessageBus
