import MessageBus.Exchange.Dispatch
import Mathlib

namespace MessageBus

/-- The dispatch that an occurrence belongs to. -/
def Occurrence.dispatch? : Occurrence → Option Dispatch
  | .published d _ | .invoked d _ | .answered d _ _ | .returned d _ | .failed d _ | .heard d _
  | .released d _ | .concluded d _ => some d
  | _ => none

/-- Whether an occurrence belongs to the dispatch of a number. -/
def Occurrence.isOf (n : Nat) (o : Occurrence) : Bool := o.dispatch?.any (·.number = n)

theorem Occurrence.isOf_number {o : Occurrence} {d : Dispatch} (h : o.dispatch? = some d) :
    o.isOf d.number = true := by
  simp [isOf, h]

/-- The subscription whose mailbox is invoked. -/
def Occurrence.invocation? : Occurrence → Option Subscription
  | .invoked _ s => some s
  | _ => none

/-- What the dispatch of a number did itself. -/
def own (n : Nat) (h : List Occurrence) : List Occurrence := h.filter (·.isOf n)

/-- What is not of the dispatch of a number. -/
def foreign (n : Nat) (h : List Occurrence) : List Occurrence := h.filter fun o => !o.isOf n

/-- The subscriptions whose mailboxes the dispatch of a number invoked itself. -/
def invocations (n : Nat) (h : List Occurrence) : List Subscription :=
  (own n h).filterMap Occurrence.invocation?

@[simp]
theorem own_nil (n : Nat) : own n [] = [] := rfl

@[simp]
theorem own_append (n : Nat) (h h' : List Occurrence) : own n (h ++ h') = own n h ++ own n h' :=
  List.filter_append h h'

theorem own_cons (n : Nat) (o : Occurrence) (h : List Occurrence) :
    own n (o :: h) = if o.isOf n then o :: own n h else own n h := by
  simp only [own, List.filter_cons]

@[simp]
theorem foreign_nil (n : Nat) : foreign n [] = [] := rfl

@[simp]
theorem foreign_append (n : Nat) (h h' : List Occurrence) :
    foreign n (h ++ h') = foreign n h ++ foreign n h' :=
  List.filter_append h h'

/-- Lines of the log are of no dispatch. -/
theorem own_lines {n : Nat} {lines : List Occurrence} (hl : ∀ o ∈ lines, ∃ e, o = .logged e) :
    own n lines = [] := by
  refine List.filter_eq_nil_iff.mpr fun o ho => ?_
  obtain ⟨e, rfl⟩ := hl o ho
  simp [Occurrence.isOf, Occurrence.dispatch?]

@[simp]
theorem invocations_append (n : Nat) (h h' : List Occurrence) :
    invocations n (h ++ h') = invocations n h ++ invocations n h' := by
  simp [invocations]

theorem invocations_of_others {n : Nat} {h : List Occurrence}
    (hi : ∀ o ∈ h, o.invocation? = none) : invocations n h = [] :=
  List.filterMap_eq_nil_iff.mpr fun o ho => hi o (List.mem_filter.mp ho).1

theorem mem_own {n : Nat} {h : List Occurrence} {o : Occurrence} :
    o ∈ own n h ↔ o ∈ h ∧ o.isOf n = true :=
  List.mem_filter

namespace Dispatch

/-- What went on while other code ran, which is nothing of this dispatch or of an earlier one. -/
def Meanwhile (d : Dispatch) (h : List Occurrence) : Prop := ∀ n ≤ d.number, own n h = []

/-- The record of a message that matched nothing. -/
def unmatched (d : Dispatch) : ReturnedMessage := { bus := d.bus, message := d.message }

/-- The record of a message that a mailbox refused. -/
def failure (d : Dispatch) (s : Subscription) (cause : Cause) : FailedMessage :=
  { bus := d.bus, mailbox := s.mailbox, message := d.message, cause }

/-- A mailbox of a plan is invoked and answers. -/
def asking (d : Dispatch) (entry : Tag × Subscription) (during : List Occurrence)
    (outcome : Outcome) : List Occurrence :=
  [.logged (.delivering d.message.tag entry.1 entry.2.mailbox.name entry.2.seq),
    .invoked d entry.2] ++ during ++ [.answered d entry.2 outcome]

/-- The failure sink is handed a record. -/
def reporting (d : Dispatch) (s : Subscription) (cause : Cause) (during : List Occurrence)
    (result : Except Halt Unit) : List Occurrence :=
  [.logged (.refused d.message.tag s.mailbox.name cause), .failed d (d.failure s cause)] ++
    during ++ [.heard d result]

end Dispatch

/-- What a dispatch itself does with a mailbox that succeeds or, for some cause, fails
recoverably. -/
def Dispatch.turn (d : Dispatch) (answer : Subscription × Option Cause) : List Occurrence :=
  match answer with
  | (s, none) => [.invoked d s, .answered d s (.ok none)]
  | (s, some cause) =>
    [.invoked d s, .answered d s (.ok (some (.recoverable cause))), .failed d (d.failure s cause),
      .heard d (.ok ())]

/-- A turn of a mailbox after which the next one has its own: the mailbox succeeded, or it failed
recoverably and the failure sink heard of it. -/
structure Turn where
  entry : Tag × Subscription
  during : List Occurrence
  failure : Option (Cause × List Occurrence)

namespace Turn

/-- All that happened in a turn. -/
def occurrences (d : Dispatch) (x : Turn) : List Occurrence :=
  match x.failure with
  | none => d.asking x.entry x.during (.ok none)
  | some (cause, sunk) =>
    d.asking x.entry x.during (.ok (some (.recoverable cause))) ++
      d.reporting x.entry.2 cause sunk (.ok ())

/-- The subscription whose mailbox had the turn, and why it failed, if it did. -/
def answer (x : Turn) : Subscription × Option Cause := (x.entry.2, x.failure.map (·.1))

/-- What went on while the mailbox and the failure sink ran. -/
def meanwhile (x : Turn) : List Occurrence :=
  x.during ++ (x.failure.map (·.2)).getD []

end Turn

/-- A turn of a mailbox that is the last: it refused fatally, or it or the failure sink stopped
short. -/
inductive Cut (d : Dispatch) (entry : Tag × Subscription) :
    List Occurrence → Except Halt (Option BusError) → Prop
  | aborted (during : List Occurrence) (cause : Cause) (hd : d.Meanwhile during) :
      Cut d entry
        (d.asking entry during (.ok (some (.fatal cause))) ++
          [.logged (.aborted d.message.tag entry.2.mailbox.name cause)])
        (.ok (some (.deliveryAborted entry.2.mailbox.name d.message.tag cause)))
  | halted (during : List Occurrence) (h : Halt) (hd : d.Meanwhile during) :
      Cut d entry (d.asking entry during (.error h)) (.error h)
  | unheard (during : List Occurrence) (cause : Cause) (sunk : List Occurrence) (h : Halt)
      (hd : d.Meanwhile during) (hs : d.Meanwhile sunk) :
      Cut d entry
        (d.asking entry during (.ok (some (.recoverable cause))) ++
          d.reporting entry.2 cause sunk (.error h))
        (.error h)

/-- How the message of a dispatch is handed to the mailboxes of a plan, turn by turn. -/
inductive Delivery (d : Dispatch) :
    List (Tag × Subscription) → List Occurrence → Except Halt (Option BusError) → Prop
  | done : Delivery d [] [] (.ok none)
  | next {rest : List (Tag × Subscription)} {os : List Occurrence}
      {result : Except Halt (Option BusError)} (x : Turn) (hx : d.Meanwhile x.meanwhile)
      (h : Delivery d rest os result) : Delivery d (x.entry :: rest) (x.occurrences d ++ os) result
  | cut {entry : Tag × Subscription} {os : List Occurrence}
      {result : Except Halt (Option BusError)} (rest : List (Tag × Subscription))
      (h : Cut d entry os result) : Delivery d (entry :: rest) os result

/-- How a dispatch goes from its beginning on. The mailboxes of its plan are let go of last, unless
everything is stopped; while a panic unwinds, no other one comes out of that. -/
inductive Course (d : Dispatch) :
    List (Tag × Subscription) → List Occurrence → Except Halt (Option BusError) → Prop
  | unmatched (sunk : List Occurrence) (result : Except Halt Unit) (hs : d.Meanwhile sunk) :
      Course d []
        ([.logged (.unmatched d.message.tag), .returned d d.unmatched] ++ sunk ++
          [.heard d result, .concluded d (result.map fun _ => none)])
        (result.map fun _ => none)
  | matched {plan : List (Tag × Subscription)} {os : List Occurrence}
      {result : Except Halt (Option BusError)} (dropped : List Occurrence)
      (after : Except Halt Unit) (hp : plan ≠ []) (h : Delivery d plan os result)
      (hd : d.Meanwhile dropped)
      (single : Except.unwinds result = true → ∀ t, after ≠ .error (.panicked t)) :
      Course d plan
        (os ++ dropped ++ [.released d after, .concluded d (Except.unlessHalted result after)])
        (Except.unlessHalted result after)
  | stopped {plan : List (Tag × Subscription)} {os : List Occurrence} {cause : Stop}
      (hp : plan ≠ []) (h : Delivery d plan os (.error (.stopped cause))) :
      Course d plan (os ++ [.concluded d (.error (.stopped cause))]) (.error (.stopped cause))

/-- A history in which no mailbox answered a dispatch fatally and nothing that was run for it
stopped short. -/
structure Calm (d : Dispatch) (h : List Occurrence) : Prop where
  answered : ∀ s outcome, .answered d s outcome ∈ h →
    outcome = .ok none ∨ ∃ cause, outcome = .ok (some (.recoverable cause))
  heard : ∀ result, .heard d result ∈ h → result = .ok ()
  released : ∀ result, .released d result ∈ h → result = .ok ()

theorem Calm.mono {d : Dispatch} {h h' : List Occurrence} (hc : Calm d h) (sub : ∀ o ∈ h', o ∈ h) :
    Calm d h' :=
  ⟨fun s outcome ho => hc.answered s outcome (sub _ ho),
    fun result ho => hc.heard result (sub _ ho),
    fun result ho => hc.released result (sub _ ho)⟩

/-- Whether an occurrence keeps the dispatch of a number from being calm. -/
def Occurrence.disturbs (n : Nat) : Occurrence → Bool
  | .answered d _ (.error _) | .answered d _ (.ok (some (.fatal _))) | .heard d (.error _)
  | .released d (.error _) => d.number = n
  | _ => false

theorem Calm.of_undisturbed {d : Dispatch} {h : List Occurrence}
    (hn : h.any (·.disturbs d.number) = false) : Calm d h := by
  have none_does : ∀ o ∈ h, o.disturbs d.number = false := by
    simpa using hn
  refine ⟨fun s outcome ho => ?_, fun result ho => ?_, fun result ho => ?_⟩ <;>
    have still := none_does _ ho
  · match outcome with
    | .ok none => exact .inl rfl
    | .ok (some (.recoverable cause)) => exact .inr ⟨cause, rfl⟩
    | .ok (some (.fatal cause)) => simp [Occurrence.disturbs] at still
    | .error h => simp [Occurrence.disturbs] at still
  · cases result with
    | error h => simp [Occurrence.disturbs] at still
    | ok => rfl
  · cases result with
    | error h => simp [Occurrence.disturbs] at still
    | ok => rfl

/-- A history in which every mailbox that answered a dispatch succeeded or failed recoverably, and
the failure sink came back from every report. -/
structure Unbroken (d : Dispatch) (h : List Occurrence) : Prop where
  answered : ∀ s outcome, .answered d s outcome ∈ h →
    outcome = .ok none ∨ ∃ cause, outcome = .ok (some (.recoverable cause))
  heard : ∀ x result, .failed d x ∈ h → .heard d result ∈ h → result = .ok ()

theorem Unbroken.mono {d : Dispatch} {h h' : List Occurrence} (hu : Unbroken d h)
    (sub : ∀ o ∈ h', o ∈ h) : Unbroken d h' :=
  ⟨fun s outcome ho => hu.answered s outcome (sub _ ho),
    fun x result hx ho => hu.heard x result (sub _ hx) (sub _ ho)⟩

theorem Calm.unbroken {d : Dispatch} {h : List Occurrence} (hc : Calm d h) : Unbroken d h :=
  ⟨hc.answered, fun _ result _ ho => hc.heard result ho⟩

namespace Dispatch.Meanwhile

variable {d : Dispatch} {h h' : List Occurrence}

theorem own_eq (hm : d.Meanwhile h) : own d.number h = [] := hm d.number (Nat.le_refl _)

theorem left (hm : d.Meanwhile (h ++ h')) : d.Meanwhile h := by
  intro n hn
  have both := hm n hn
  rw [own_append] at both
  exact (List.append_eq_nil_iff.mp both).1

theorem right (hm : d.Meanwhile (h ++ h')) : d.Meanwhile h' := by
  intro n hn
  have both := hm n hn
  rw [own_append] at both
  exact (List.append_eq_nil_iff.mp both).2

theorem append (hm : d.Meanwhile h) (hm' : d.Meanwhile h') : d.Meanwhile (h ++ h') := by
  intro n hn
  rw [own_append, hm n hn, hm' n hn]
  rfl

end Dispatch.Meanwhile

section

variable {d : Dispatch}

theorem own_asking {during : List Occurrence} (hd : d.Meanwhile during)
    (entry : Tag × Subscription) (outcome : Outcome) :
    own d.number (d.asking entry during outcome) =
      [.invoked d entry.2, .answered d entry.2 outcome] := by
  simp [Dispatch.asking, own_cons, hd.own_eq, Occurrence.isOf, Occurrence.dispatch?]

theorem own_reporting {during : List Occurrence} (hd : d.Meanwhile during) (s : Subscription)
    (cause : Cause) (result : Except Halt Unit) :
    own d.number (d.reporting s cause during result) =
      [.failed d (d.failure s cause), .heard d result] := by
  simp [Dispatch.reporting, own_cons, hd.own_eq, Occurrence.isOf, Occurrence.dispatch?]

theorem Turn.own_occurrences (x : Turn) (hx : d.Meanwhile x.meanwhile) :
    own d.number (x.occurrences d) = d.turn x.answer := by
  obtain ⟨entry, during, _ | ⟨cause, sunk⟩⟩ := x
  · exact own_asking hx.left entry _
  · have asked := own_asking hx.left entry (.ok (some (.recoverable cause)))
    have reported := own_reporting hx.right entry.2 cause (.ok ())
    simp only [Turn.occurrences, own_append, asked]
    exact congrArg _ reported

theorem own_turns {turns : List Turn} (h : ∀ x ∈ turns, d.Meanwhile x.meanwhile) :
    own d.number (turns.flatMap (·.occurrences d)) = (turns.map (·.answer)).flatMap d.turn := by
  induction turns with
  | nil => rfl
  | cons x turns ih =>
    have head := x.own_occurrences (h x (by simp))
    have tail := ih fun y hy => h y (List.mem_cons_of_mem x hy)
    rw [List.flatMap_cons, List.map_cons, List.flatMap_cons, own_append, head, tail]

/-- A delivery is turns, one after another, and a cut where it does not reach the end of its
plan. -/
theorem Delivery.turns {plan : List (Tag × Subscription)} {os : List Occurrence}
    {result : Except Halt (Option BusError)} (h : Delivery d plan os result) :
    ∃ turns : List Turn, (∀ x ∈ turns, d.Meanwhile x.meanwhile) ∧
      ((plan = turns.map (·.entry) ∧ os = turns.flatMap (·.occurrences d) ∧ result = .ok none) ∨
        ∃ entry rest last, plan = turns.map (·.entry) ++ entry :: rest ∧
          os = turns.flatMap (·.occurrences d) ++ last ∧ Cut d entry last result) := by
  induction h with
  | done => exact ⟨[], by simp, .inl ⟨rfl, rfl, rfl⟩⟩
  | next x hx h ih =>
    obtain ⟨turns, calm, ⟨rfl, rfl, rfl⟩ | ⟨entry, rest, last, rfl, rfl, cut⟩⟩ := ih
    · exact ⟨x :: turns, by simpa using ⟨hx, calm⟩, .inl ⟨rfl, rfl, rfl⟩⟩
    · refine ⟨x :: turns, by simpa using ⟨hx, calm⟩, .inr ⟨entry, rest, last, rfl, ?_, cut⟩⟩
      rw [List.flatMap_cons, List.append_assoc]
  | cut rest h => exact ⟨[], by simp, .inr ⟨_, rest, _, rfl, rfl, h⟩⟩

theorem invoked_turns (answers : List (Subscription × Option Cause)) :
    (answers.flatMap d.turn).filterMap Occurrence.invocation? = answers.map (·.1) := by
  induction answers with
  | nil => rfl
  | cons x answers ih =>
    rw [List.flatMap_cons, List.filterMap_append, ih]
    obtain ⟨s, _ | cause⟩ := x <;> rfl

theorem invocations_turns {turns : List Turn} (h : ∀ x ∈ turns, d.Meanwhile x.meanwhile) :
    invocations d.number (turns.flatMap (·.occurrences d)) = turns.map (·.entry.2) := by
  rw [invocations, own_turns h, invoked_turns, List.map_map]
  rfl

theorem Cut.invocations {entry : Tag × Subscription} {os : List Occurrence}
    {result : Except Halt (Option BusError)} (h : Cut d entry os result) :
    invocations d.number os = [entry.2] := by
  cases h with
  | aborted during cause hd =>
    simp [MessageBus.invocations, own_asking hd, own_cons, Occurrence.isOf, Occurrence.dispatch?,
      Occurrence.invocation?]
  | halted during h hd => simp [MessageBus.invocations, own_asking hd, Occurrence.invocation?]
  | unheard during cause sunk h hd hs =>
    simp [MessageBus.invocations, own_asking hd, own_reporting hs, Occurrence.invocation?]

/-- The mailboxes that a dispatch invokes are those of its plan, up to where it is cut. -/
theorem Delivery.invocations {plan : List (Tag × Subscription)} {os : List Occurrence}
    {result : Except Halt (Option BusError)} (h : Delivery d plan os result) :
    invocations d.number os <+: plan.map (·.2) := by
  obtain ⟨turns, quiet, ⟨rfl, rfl, -⟩ | ⟨entry, rest, last, rfl, rfl, cut⟩⟩ := h.turns
  · rw [invocations_turns quiet, List.map_map]
    exact List.prefix_refl _
  · rw [invocations_append, invocations_turns quiet, cut.invocations, List.map_append, List.map_map,
      List.map_cons]
    exact ⟨rest.map (·.2), by simp⟩

theorem Course.invocations {plan : List (Tag × Subscription)} {course : List Occurrence}
    {result : Except Halt (Option BusError)} (h : Course d plan course result) :
    invocations d.number course <+: plan.map (·.2) := by
  cases h with
  | unmatched sunk result hs =>
    simp [MessageBus.invocations, own_cons, hs.own_eq, Occurrence.isOf, Occurrence.dispatch?,
      Occurrence.invocation?]
  | matched dropped after hp h hd _ =>
    have silent : MessageBus.invocations d.number dropped = [] := by
      rw [MessageBus.invocations, hd.own_eq]
      rfl
    have last (r : Except Halt (Option BusError)) :
        ∀ o ∈ [Occurrence.released d after, .concluded d r], o.invocation? = none := by
      simp [Occurrence.invocation?]
    rw [invocations_append, invocations_append, silent, invocations_of_others (last _),
      List.append_nil, List.append_nil]
    exact h.invocations
  | @stopped _ os cause hp h =>
    have last : ∀ o ∈ [Occurrence.concluded d (.error (.stopped cause))],
        o.invocation? = none := by
      simp [Occurrence.invocation?]
    rw [invocations_append, invocations_of_others last, List.append_nil]
    exact h.invocations

theorem Cut.not_unbroken {entry : Tag × Subscription} {os : List Occurrence}
    {result : Except Halt (Option BusError)} (cut : Cut d entry os result) :
    ¬ Unbroken d (own d.number os) := by
  intro hu
  cases cut with
  | aborted during cause hd =>
    have bad := hu.answered entry.2 (.ok (some (.fatal cause))) (by simp [own_asking hd])
    simp at bad
  | halted during h hd =>
    have bad := hu.answered entry.2 (.error h) (by simp [own_asking hd])
    simp at bad
  | unheard during cause sunk h hd hs =>
    have bad := hu.heard (d.failure entry.2 cause) (.error h) (by simp [own_reporting hs])
      (by simp [own_reporting hs])
    simp at bad

/-- A calm delivery reaches the end of its plan. -/
theorem Delivery.calm {plan : List (Tag × Subscription)} {os : List Occurrence}
    {result : Except Halt (Option BusError)} (delivery : Delivery d plan os result)
    (hc : Calm d (own d.number os)) :
    ∃ answers : List (Subscription × Option Cause), answers.map (·.1) = plan.map (·.2) ∧
      own d.number os = answers.flatMap d.turn ∧ result = .ok none := by
  obtain ⟨turns, quiet, ⟨rfl, rfl, rfl⟩ | ⟨entry, rest, last, -, rfl, cut⟩⟩ := delivery.turns
  · refine ⟨turns.map (·.answer), ?_, own_turns quiet, rfl⟩
    rw [List.map_map, List.map_map]
    rfl
  · have at_last : Calm d (own d.number last) := hc.mono fun o ho => by simp [ho]
    exact absurd at_last.unbroken cut.not_unbroken

/-- All that a dispatch does itself when it is calm: it hands its message to every mailbox of its
plan and reports each recoverable refusal at once, or, without a plan, it returns its message. -/
theorem Course.calm {plan : List (Tag × Subscription)} {course : List Occurrence}
    {result : Except Halt (Option BusError)} (goes : Course d plan course result)
    (hc : Calm d (own d.number course)) :
    result = .ok none ∧
    (plan = [] → own d.number course =
      [.returned d d.unmatched, .heard d (.ok ()), .concluded d (.ok none)]) ∧
    (plan ≠ [] → ∃ answers : List (Subscription × Option Cause),
      answers.map (·.1) = plan.map (·.2) ∧
      own d.number course = answers.flatMap d.turn ++
        [.released d (.ok ()), .concluded d (.ok none)]) := by
  cases goes with
  | unmatched sunk result hs =>
    have ok : result = .ok () :=
      hc.heard result (by simp [own_cons, Occurrence.isOf, Occurrence.dispatch?])
    rw [ok]
    refine ⟨rfl, fun _ => ?_, fun hp => absurd rfl hp⟩
    simp [own_cons, hs.own_eq, Occurrence.isOf, Occurrence.dispatch?, Except.map]
  | matched dropped after hp delivery hd =>
    have ok : after = .ok () :=
      hc.released after (by simp [own_cons, Occurrence.isOf, Occurrence.dispatch?])
    obtain ⟨answers, entries, marks, rfl⟩ := delivery.calm (hc.mono fun o ho => by simp [ho])
    rw [ok]
    refine ⟨rfl, fun none_left => absurd none_left hp, fun _ => ⟨answers, entries, ?_⟩⟩
    simp [own_cons, marks, hd.own_eq, Occurrence.isOf, Occurrence.dispatch?, Except.unlessHalted]
  | stopped hp delivery =>
    obtain ⟨answers, -, -, bad⟩ := delivery.calm (hc.mono fun o ho => by simp [ho])
    simp at bad

/-- A dispatch that is not broken off invokes the mailboxes of its whole plan. -/
theorem Course.invocations_of_unbroken {plan : List (Tag × Subscription)}
    {course : List Occurrence} {result : Except Halt (Option BusError)}
    (goes : Course d plan course result) (hu : Unbroken d (own d.number course)) :
    MessageBus.invocations d.number course = plan.map (·.2) := by
  have segment := goes.invocations
  have delivered {os rest : List Occurrence} {result : Except Halt (Option BusError)}
      (delivery : Delivery d plan os result) (whole : course = os ++ rest) :
      plan.map (·.2) <+: MessageBus.invocations d.number course := by
    rw [whole, invocations_append]
    refine List.prefix_append_of_prefix ?_
    obtain ⟨turns, quiet, ⟨rfl, rfl, -⟩ | ⟨entry, _, last, -, rfl, cut⟩⟩ := delivery.turns
    · rw [invocations_turns quiet, List.map_map]
      exact List.prefix_refl _
    · refine absurd (hu.mono fun o ho => ?_) cut.not_unbroken
      simp [whole, ho]
  cases goes with
  | unmatched => exact List.prefix_nil.mp segment
  | matched dropped after _ delivery =>
    exact segment.eq_of_length_le (delivered delivery (List.append_assoc _ _ _)).length_le
  | stopped _ delivery => exact segment.eq_of_length_le (delivered delivery rfl).length_le

theorem Course.invocations_of_calm {plan : List (Tag × Subscription)} {course : List Occurrence}
    {result : Except Halt (Option BusError)} (goes : Course d plan course result)
    (hc : Calm d (own d.number course)) :
    MessageBus.invocations d.number course = plan.map (·.2) :=
  goes.invocations_of_unbroken hc.unbroken

/-- What a dispatch with a plan and a result can do itself once it has begun. -/
inductive Dispatch.Act (d : Dispatch) (plan : List (Tag × Subscription))
    (result : Except Halt (Option BusError)) : Occurrence → Prop
  | invoked {s : Subscription} (hs : s ∈ plan.map (·.2)) : Act d plan result (.invoked d s)
  | answered {s : Subscription} (outcome : Outcome) (hs : s ∈ plan.map (·.2)) :
      Act d plan result (.answered d s outcome)
  | failed (s : Subscription) (cause : Cause) : Act d plan result (.failed d (d.failure s cause))
  | returned : Act d plan result (.returned d d.unmatched)
  | heard (heard : Except Halt Unit) : Act d plan result (.heard d heard)
  | released (after : Except Halt Unit) : Act d plan result (.released d after)
  | concluded : Act d plan result (.concluded d result)

theorem Dispatch.Act.dispatch? {plan : List (Tag × Subscription)}
    {result : Except Halt (Option BusError)} {o : Occurrence} (h : d.Act plan result o) :
    o.dispatch? = some d := by
  cases h <;> rfl

theorem Dispatch.act_turn {plan : List (Tag × Subscription)} {s : Subscription}
    (hs : s ∈ plan.map (·.2)) (failure : Option Cause) (result : Except Halt (Option BusError)) :
    ∀ o ∈ d.turn (s, failure), d.Act plan result o := by
  cases failure with
  | none =>
    simp only [Dispatch.turn, List.forall_mem_cons]
    exact ⟨.invoked hs, .answered _ hs, by simp⟩
  | some cause =>
    simp only [Dispatch.turn, List.forall_mem_cons]
    exact ⟨.invoked hs, .answered _ hs, .failed s cause, .heard _, by simp⟩

theorem Cut.act {entry : Tag × Subscription} {os : List Occurrence}
    {result : Except Halt (Option BusError)} (cut : Cut d entry os result)
    {plan : List (Tag × Subscription)} (hs : entry.2 ∈ plan.map (·.2))
    (last : Except Halt (Option BusError)) : ∀ o ∈ own d.number os, d.Act plan last o := by
  cases cut with
  | aborted during cause hd =>
    rw [own_append, own_asking hd, own_lines (by simp), List.append_nil]
    simp only [List.forall_mem_cons]
    exact ⟨.invoked hs, .answered _ hs, by simp⟩
  | halted during h hd =>
    rw [own_asking hd]
    simp only [List.forall_mem_cons]
    exact ⟨.invoked hs, .answered _ hs, by simp⟩
  | unheard during cause sunk h hd hq =>
    rw [own_append, own_asking hd, own_reporting hq]
    simp only [List.cons_append, List.nil_append, List.forall_mem_cons]
    exact ⟨.invoked hs, .answered _ hs, .failed _ cause, .heard _, by simp⟩

theorem Delivery.act {plan : List (Tag × Subscription)} {os : List Occurrence}
    {result : Except Halt (Option BusError)} (delivery : Delivery d plan os result)
    (last : Except Halt (Option BusError)) : ∀ o ∈ own d.number os, d.Act plan last o := by
  have turns {turns : List Turn} (quiet : ∀ x ∈ turns, d.Meanwhile x.meanwhile)
      (entries : ∀ x ∈ turns, x.entry.2 ∈ plan.map (·.2)) :
      ∀ o ∈ own d.number (turns.flatMap (·.occurrences d)), d.Act plan last o := by
    intro o ho
    rw [own_turns quiet, List.mem_flatMap] at ho
    obtain ⟨answer, member, ho⟩ := ho
    obtain ⟨x, hx, rfl⟩ := List.mem_map.mp member
    exact Dispatch.act_turn (entries x hx) _ last o ho
  obtain ⟨passed, quiet, ⟨rfl, rfl, -⟩ | ⟨entry, rest, cutting, rfl, rfl, cut⟩⟩ := delivery.turns
  · exact turns quiet fun x hx => List.mem_map_of_mem (List.mem_map_of_mem hx)
  · intro o ho
    rw [own_append, List.mem_append] at ho
    rcases ho with ho | ho
    · refine turns quiet (fun x hx => ?_) o ho
      exact List.mem_map_of_mem (List.mem_append_left _ (List.mem_map_of_mem hx))
    · exact cut.act (List.mem_map_of_mem (by simp)) last o ho

theorem Course.act {plan : List (Tag × Subscription)} {course : List Occurrence}
    {result : Except Halt (Option BusError)} (goes : Course d plan course result) {o : Occurrence}
    (ho : o ∈ own d.number course) : d.Act plan result o := by
  cases goes with
  | unmatched sunk result hs =>
    simp only [List.cons_append, List.nil_append, own_cons, own_append, hs.own_eq,
      Occurrence.isOf, Occurrence.dispatch?, Option.any_none, Option.any_some, decide_true,
      own_nil, if_true, Bool.false_eq_true, if_false, List.mem_cons, List.not_mem_nil,
      or_false] at ho
    rcases ho with rfl | rfl | rfl
    · exact .returned
    · exact .heard result
    · exact .concluded
  | @matched _ os r dropped after hp delivery hd =>
    rw [own_append, own_append, hd.own_eq, List.append_nil, List.mem_append] at ho
    rcases ho with ho | ho
    · exact delivery.act _ o ho
    · have last := (mem_own.mp ho).1
      simp only [List.mem_cons, List.not_mem_nil, or_false] at last
      rcases last with rfl | rfl
      · exact .released after
      · exact .concluded
  | @stopped _ os cause hp delivery =>
    rw [own_append, List.mem_append] at ho
    rcases ho with ho | ho
    · exact delivery.act _ o ho
    · rw [List.mem_singleton.mp (mem_own.mp ho).1]
      exact .concluded

/-- A dispatch begins once. -/
theorem Course.not_published {plan : List (Tag × Subscription)} {course : List Occurrence}
    {result : Except Halt (Option BusError)} (goes : Course d plan course result) (e : Dispatch)
    (p : List (Tag × Subscription)) : .published e p ∉ own d.number course := by
  intro member
  nomatch goes.act member

/-- A dispatch that is aborted has had a fatal answer. -/
theorem Course.aborted {plan : List (Tag × Subscription)} {course : List Occurrence}
    {e : BusError} (goes : Course d plan course (.ok (some e))) :
    ∃ s cause, .answered d s (.ok (some (.fatal cause))) ∈ own d.number course ∧
      e = .deliveryAborted s.mailbox.name d.message.tag cause := by
  have delivered {os : List Occurrence} (delivery : Delivery d plan os (.ok (some e))) :
      ∃ s cause, .answered d s (.ok (some (.fatal cause))) ∈ own d.number os ∧
        e = .deliveryAborted s.mailbox.name d.message.tag cause := by
    obtain ⟨turns, quiet, ⟨-, -, bad⟩ | ⟨entry, rest, last, -, rfl, cut⟩⟩ := delivery.turns
    · simp at bad
    · cases cut with
      | aborted during cause hd => exact ⟨entry.2, cause, by simp [own_asking hd], rfl⟩
  generalize hr : (.ok (some e) : Except Halt (Option BusError)) = result at goes
  cases goes with
  | unmatched sunk result hs => cases result <;> simp [Except.map] at hr
  | @matched _ os r dropped after hp delivery hd =>
    have same : r = .ok (some e) := by
      cases r <;> cases after <;> simp_all [Except.unlessHalted]
    obtain ⟨s, cause, member, named⟩ := delivered (same ▸ delivery)
    exact ⟨s, cause, by simp [member], named⟩
  | stopped hp delivery => simp at hr

end

end MessageBus
