import MessageBus.Proofs.Exchange.Attested

namespace MessageBus

/-- What goes on in a run, as a tree: publishes with what goes on inside each of them, invocations
of mailboxes with what goes on inside each of them, and what happens aside. Code may log something
itself. -/
inductive Calls
  | done
  | aside (o : Occurrence) (next : Calls)
  | said (e : Log.Event) (next : Calls)
  | publish (d : Dispatch) (plan : List (Tag × Subscription))
      (result : Except Halt (Option BusError)) (inside next : Calls)
  | invocation (d : Dispatch) (s : Subscription) (outcome : Outcome) (inside next : Calls)

namespace Exchange

/-- What happens at once when a dispatch with a plan has begun: without anybody to invoke, its
message is handed to the sink. -/
def unclaimed (w : Exchange) (d : Dispatch) : List (Tag × Subscription) → List Occurrence
  | [] => .logged (.unmatched d.message.tag) :: .returned d d.unmatched ::
      (w.returnedLine d.unmatched).toList.map .logged
  | _ :: _ => []

/-- What happens at once when a mailbox has answered: a refusal is logged, and a recoverable one is
handed to the sink. -/
def verdict (w : Exchange) (d : Dispatch) (s : Subscription) : Outcome → List Occurrence
  | .ok (some (.recoverable cause)) =>
    .logged (.refused d.message.tag s.mailbox.name cause) :: .failed d (d.failure s cause) ::
      (w.failedLine (d.failure s cause)).toList.map .logged
  | .ok (some (.fatal cause)) => [.logged (.aborted d.message.tag s.mailbox.name cause)]
  | _ => []

end Exchange

namespace Calls

/-- What happens in the course of calls. -/
def trace (w : Exchange) : Calls → List Occurrence
  | done => []
  | aside o next => o :: next.trace w
  | said e next => .logged e :: .announced (.ran "emit" .done) :: next.trace w
  | publish d plan result inside next =>
    .published d plan ::
      (w.unclaimed d plan ++ (inside.trace w ++ .concluded d result :: next.trace w))
  | invocation d s outcome inside next =>
    .logged (.delivering d.message.tag s.mailbox.tag s.mailbox.name s.seq) :: .invoked d s ::
      (inside.trace w ++ .answered d s outcome :: (w.verdict d s outcome ++ next.trace w))

/-- What happens aside in the course of calls. -/
def asides : Calls → List Occurrence
  | done => []
  | aside o next => o :: next.asides
  | said _ next => next.asides
  | publish _ _ _ inside next => inside.asides ++ next.asides
  | invocation _ _ _ inside next => inside.asides ++ next.asides

/-- Whether calls fit into the course of a dispatch with a plan, or outside of all: a mailbox is
invoked only by the dispatch, which its subscription is planned for, and what happens aside belongs
to no dispatch but that a sink has heard this one, or its mailboxes are released. -/
def Fits (w : Exchange) : Option (Dispatch × List (Tag × Subscription)) → Calls → Prop
  | _, done => True
  | scope, aside o next =>
    (o.dispatch? = none ∨ ∃ d plan result,
      scope = some (d, plan) ∧ (o = .heard d result ∨ o = .released d result)) ∧ next.Fits w scope
  | scope, said _ next => next.Fits w scope
  | scope, publish d plan _ inside next =>
    d.bus < w.buses.length ∧ inside.Fits w (some (d, plan)) ∧ next.Fits w scope
  | scope, invocation d s _ inside next =>
    (∃ plan, scope = some (d, plan) ∧ (s.mailbox.tag, s) ∈ plan) ∧ d.bus < w.buses.length ∧
      inside.Fits w none ∧ next.Fits w scope

/-- Calls, and then further ones. -/
def append : Calls → Calls → Calls
  | done, later => later
  | aside o next, later => aside o (next.append later)
  | said e next, later => said e (next.append later)
  | publish d plan result inside next, later => publish d plan result inside (next.append later)
  | invocation d s outcome inside next, later => invocation d s outcome inside (next.append later)

instance : Append Calls := ⟨append⟩

/-- Nothing but what happens aside. -/
def ofAsides (os : List Occurrence) : Calls := os.foldr aside done

variable {w v : Exchange} {scope : Option (Dispatch × List (Tag × Subscription))}

theorem trace_append (calls later : Calls) :
    (calls ++ later).trace w = calls.trace w ++ later.trace w := by
  change (calls.append later).trace w = _
  induction calls with
  | done => rfl
  | aside o next ih => simp only [append, trace, ih, List.cons_append]
  | said e next ih => simp only [append, trace, ih, List.cons_append]
  | publish d plan result inside next _ ih =>
    simp only [append, trace, ih, List.cons_append, List.append_assoc]
  | invocation d s outcome inside next _ ih =>
    simp only [append, trace, ih, List.cons_append, List.append_assoc]

theorem asides_append (calls later : Calls) :
    (calls ++ later).asides = calls.asides ++ later.asides := by
  change (calls.append later).asides = _
  induction calls with
  | done => rfl
  | aside o next ih => simp only [append, asides, ih, List.cons_append]
  | said e next ih => exact ih
  | publish d plan result inside next _ ih => simp only [append, asides, ih, List.append_assoc]
  | invocation d s outcome inside next _ ih => simp only [append, asides, ih, List.append_assoc]

theorem Fits.append {calls later : Calls} (h : calls.Fits w scope) (h' : later.Fits w scope) :
    (calls ++ later).Fits w scope := by
  change (calls.append later).Fits w scope
  induction calls with
  | done => exact h'
  | aside o next ih => exact ⟨h.1, ih h.2⟩
  | said e next ih => exact ih h
  | publish d plan result inside next _ ih => exact ⟨h.1, h.2.1, ih h.2.2⟩
  | invocation d s outcome inside next _ ih => exact ⟨h.1, h.2.1, h.2.2.1, ih h.2.2.2⟩

/-- What goes on outside of all dispatches may go on in the course of any. -/
theorem Fits.within {calls : Calls} (h : calls.Fits w none) : calls.Fits w scope := by
  induction calls with
  | done => trivial
  | aside o next ih =>
    refine ⟨.inl ?_, ih h.2⟩
    rcases h.1 with free | ⟨_, _, _, nowhere, _⟩
    · exact free
    · cases nowhere
  | said e next ih => exact ih h
  | publish d plan result inside next _ ih => exact ⟨h.1, h.2.1, ih h.2.2⟩
  | invocation d s outcome inside next _ ih =>
    obtain ⟨_, nowhere, _⟩ := h.1
    cases nowhere

theorem Fits.mono {calls : Calls} (h : calls.Fits w scope) (l : Exchange.Lasting w v) :
    calls.Fits v scope := by
  induction calls generalizing scope with
  | done => trivial
  | aside o next ih => exact ⟨h.1, ih h.2⟩
  | said e next ih => exact ih h
  | publish d plan result inside next within later =>
    exact ⟨Nat.lt_of_lt_of_le h.1 l.length_buses, within h.2.1, later h.2.2⟩
  | invocation d s outcome inside next within later =>
    exact ⟨h.1, Nat.lt_of_lt_of_le h.2.1 l.length_buses, within h.2.2.1, later h.2.2.2⟩

theorem unclaimed_eq (l : Exchange.Lasting w v) {d : Dispatch} (hb : d.bus < w.buses.length)
    (plan : List (Tag × Subscription)) : v.unclaimed d plan = w.unclaimed d plan := by
  cases plan with
  | nil => rw [Exchange.unclaimed, Exchange.unclaimed, l.returnedLine_eq hb]
  | cons => rfl

theorem verdict_eq (l : Exchange.Lasting w v) {d : Dispatch} (hb : d.bus < w.buses.length)
    (s : Subscription) (outcome : Outcome) : v.verdict d s outcome = w.verdict d s outcome := by
  match outcome with
  | .ok (some (.recoverable cause)) =>
    rw [Exchange.verdict, Exchange.verdict, l.failedLine_eq hb]
  | .ok (some (.fatal _)) | .ok none | .error _ => rfl

/-- What happened does not look otherwise later. -/
theorem Fits.trace_eq {calls : Calls} (h : calls.Fits w scope) (l : Exchange.Lasting w v) :
    calls.trace v = calls.trace w := by
  induction calls generalizing scope with
  | done => rfl
  | aside o next ih => rw [trace, trace, ih h.2]
  | said e next ih =>
    rw [trace, trace, ih h]
  | publish d plan result inside next within later =>
    rw [trace, trace, unclaimed_eq l h.1, within h.2.1, later h.2.2]
  | invocation d s outcome inside next within later =>
    rw [trace, trace, verdict_eq l h.2.1, within h.2.2.1, later h.2.2.2]

theorem trace_ofAsides (os : List Occurrence) : (ofAsides os).trace w = os := by
  induction os with
  | nil => rfl
  | cons o os ih => exact congrArg (o :: ·) ih

theorem asides_ofAsides (os : List Occurrence) : (ofAsides os).asides = os := by
  induction os with
  | nil => rfl
  | cons o os ih => exact congrArg (o :: ·) ih

theorem fits_ofAsides {os : List Occurrence} (h : ∀ o ∈ os, o.dispatch? = none) :
    (ofAsides os).Fits w scope := by
  induction os with
  | nil => trivial
  | cons o os ih =>
    exact ⟨.inl (h o List.mem_cons_self), ih fun x hx => h x (List.mem_cons_of_mem o hx)⟩

end Calls

namespace Exchange

/-- A relation between exchanges before and after: what happened in between is what happens in the
course of some calls, and what happened aside is of a kind. -/
def Unfolds (kind : Occurrence → Prop) (scope : Option (Dispatch × List (Tag × Subscription)))
    (w v : Exchange) : Prop :=
  ∃ calls : Calls, calls.Fits v scope ∧ (∀ o ∈ calls.asides, kind o) ∧
    v.history = w.history ++ calls.trace v

variable {kind : Occurrence → Prop} {scope : Option (Dispatch × List (Tag × Subscription))}
  {u v w : Exchange}

theorem history_tell (w : Exchange) (line : Option Log.Event) :
    (w.tell line).history = w.history ++ line.toList.map .logged := by
  cases line with
  | none => exact (List.append_nil _).symm
  | some e => exact history_log w e

theorem trace_noteFor (w : Exchange) (mailbox : Mailbox) (m : Message) :
    (w.noteFor mailbox m).trace = w.trace := by
  rw [noteFor]
  split <;> rfl

theorem history_keepReturned (w : Exchange) (x : ReturnedMessage) :
    (w.keepReturned x).history = w.history := by
  rw [keepReturned]
  split <;> rfl

theorem history_keepFailed (w : Exchange) (x : FailedMessage) :
    (w.keepFailed x).history = w.history := by
  rw [keepFailed]
  split <;> rfl

theorem history_settle (w : Exchange) (d : Dispatch) (s : Subscription) (outcome : Outcome) :
    (w.settle d s outcome).history =
      w.history ++ .answered d s outcome :: w.verdict d s outcome := by
  match outcome with
  | .ok (some (.recoverable cause)) =>
    rw [settle, history_tell, history_keepFailed]
    simp only [history_record, history_log, List.append_assoc]
    rfl
  | .ok (some (.fatal cause)) =>
    rw [settle, history_log, history_record, List.append_assoc]
    rfl
  | .ok none | .error _ => exact history_record w _

theorem history_returning (w : Exchange) (d : Dispatch) :
    (w.returning d).history = w.history ++ .published d [] :: w.unclaimed d [] := by
  rw [returning, history_tell, history_keepReturned]
  simp only [history_record, history_log, beginDispatch, List.append_assoc]
  rfl

namespace Unfolds

theorem refl (w : Exchange) : Unfolds kind scope w w :=
  ⟨.done, trivial, by simp [Calls.asides], (List.append_nil _).symm⟩

theorem trans (led : Lasting v w) (h : Unfolds kind scope u v) (h' : Unfolds kind scope v w) :
    Unfolds kind scope u w := by
  obtain ⟨calls, fits, aside, hist⟩ := h
  obtain ⟨later, fits', aside', hist'⟩ := h'
  refine ⟨calls ++ later, (fits.mono led).append fits', ?_, ?_⟩
  · rw [Calls.asides_append]
    exact List.forall_mem_append.mpr ⟨aside, aside'⟩
  · rw [Calls.trace_append, fits.trace_eq led, hist', hist, List.append_assoc]

/-- What happens aside of all dispatches. -/
theorem aside {new : List Occurrence} (hist : v.history = w.history ++ new)
    (free : ∀ o ∈ new, o.dispatch? = none) (hk : ∀ o ∈ new, kind o) : Unfolds kind scope w v :=
  ⟨.ofAsides new, Calls.fits_ofAsides free, by rwa [Calls.asides_ofAsides],
    by rwa [Calls.trace_ofAsides]⟩

/-- What happens in the course of a dispatch besides. -/
theorem own {d : Dispatch} {plan : List (Tag × Subscription)} {o : Occurrence} (hk : kind o)
    (ho : ∃ result, o = .heard d result ∨ o = .released d result) :
    Unfolds kind (some (d, plan)) w (w.record o) := by
  obtain ⟨result, which⟩ := ho
  exact ⟨.aside o .done, ⟨.inr ⟨d, plan, result, rfl, which⟩, trivial⟩,
    by simpa [Calls.asides] using hk, history_record w o⟩

theorem asked {d : Dispatch} {plan : List (Tag × Subscription)} {s : Subscription}
    (outcome : Outcome) (hb : d.bus < u.buses.length) (planned : (s.mailbox.tag, s) ∈ plan)
    (settled : Lasting u (u.settle d s outcome))
    (h : Unfolds kind none ((w.asking d (s.mailbox.tag, s)).noteFor s.mailbox d.message) u) :
    Unfolds kind (some (d, plan)) w (u.settle d s outcome) := by
  obtain ⟨calls, fits, aside, hist⟩ := h
  have begun : ((w.asking d (s.mailbox.tag, s)).noteFor s.mailbox d.message).history = w.history ++
      [.logged (.delivering d.message.tag s.mailbox.tag s.mailbox.name s.seq), .invoked d s] := by
    rw [history, trace_noteFor]
    change (w.asking d (s.mailbox.tag, s)).history = _
    rw [asking, history_record, history_log, List.append_assoc]
    rfl
  refine ⟨.invocation d s outcome calls .done, ⟨⟨plan, rfl, planned⟩,
    Nat.lt_of_lt_of_le hb settled.length_buses, fits.mono settled, trivial⟩, ?_, ?_⟩
  · simpa [Calls.asides] using aside
  · rw [Calls.trace, Calls.trace, fits.trace_eq settled, Calls.verdict_eq settled hb,
      history_settle, hist, begun]
    simp only [List.append_assoc, List.cons_append, List.nil_append, List.append_nil]

end Unfolds

/-- Whatever goes on in a run goes on as calls. What happens aside is modest. -/
theorem attested_unfolds (hk : ∀ o, o.IsModest → kind o) :
    Attested (Unfolds kind none) (fun d plan => Unfolds kind (some (d, plan))) where
  refl := .refl
  trans led := .trans led.lasting
  modest _ step small := by
    obtain ⟨-, new, hist, free⟩ := step.aside
    obtain ⟨new', hist', modest⟩ := small.history
    have same : new' = new := List.append_cancel_left (hist'.symm.trans hist)
    exact .aside hist free fun o ho => hk o (modest o (same ▸ ho))
  emitted w e := by
    refine ⟨.said e .done, trivial, by simp [Calls.asides], ?_⟩
    rw [announce, history_record, history_log, List.append_assoc]
    rfl
  inside := by
    rintro d plan w v ⟨calls, fits, aside, hist⟩
    exact ⟨calls, fits.within, aside, hist⟩
  seq led := .trans led.lasting
  asked {d plan s w u} outcome _ hb planned _ led settled h := by
    have there : d.bus < u.buses.length := by
      refine Nat.lt_of_lt_of_le ?_ led.length_buses
      rw [noteFor]
      split <;> exact hb
    exact .asked outcome there planned settled.lasting h
  heard {d plan} w result := .own (hk _ trivial) ⟨result, .inl rfl⟩
  released {d plan} w result := .own (hk _ trivial) ⟨result, .inr rfl⟩
  matched {w v d routes} result hb filled led h := by
    obtain ⟨calls, fits, aside, hist⟩ := h
    have last : Lasting v (v.record (.concluded d result)) := .still rfl rfl
    have lasts := led.lasting.trans last
    refine ⟨.publish d (Route.plan routes) result calls .done,
      ⟨Nat.lt_of_lt_of_le hb lasts.length_buses, fits.mono last, trivial⟩, ?_, ?_⟩
    · simpa [Calls.asides] using aside
    · have begun : (w.beginDispatch d routes).history =
          w.history ++ [.published d (Route.plan routes)] := history_record _ _
      have nothing (u : Exchange) : u.unclaimed d (Route.plan routes) = [] := by
        cases e : Route.plan routes with
        | nil => exact absurd e filled
        | cons => rfl
      rw [history_record, hist, begun, Calls.trace, Calls.trace, fits.trace_eq last, nothing]
      simp only [List.append_assoc, List.cons_append, List.nil_append]
  unmatched {w v d} heard result hb returned led h := by
    obtain ⟨calls, fits, aside, hist⟩ := h
    have last : Lasting v ((v.record (.heard d heard)).record (.concluded d result)) :=
      .still rfl rfl
    have lasts := (returned.lasting.trans led.lasting).trans last
    refine ⟨.publish d [] result (calls ++ .aside (.heard d heard) .done) .done,
      ⟨Nat.lt_of_lt_of_le hb lasts.length_buses, ?_, trivial⟩, ?_, ?_⟩
    · exact (fits.mono last).within.append ⟨.inr ⟨d, [], heard, rfl, .inl rfl⟩, trivial⟩
    · rw [Calls.asides, Calls.asides_append]
      have heard_kind : kind (.heard d heard) := hk _ trivial
      simp only [Calls.asides, List.append_nil, List.mem_append, List.mem_singleton]
      rintro o (ho | rfl)
      · exact aside o ho
      · exact heard_kind
    · rw [history_record, history_record, hist, history_returning, Calls.trace, Calls.trace_append,
        fits.trace_eq last, Calls.unclaimed_eq lasts hb]
      simp only [Calls.trace, List.append_assoc, List.cons_append, List.nil_append]

/-- What goes on in a step from outside that logs nothing itself. -/
theorem Reachable.unfolds_step (hw : w.Reachable) (depth : Nat) {step : Step}
    (silent : step.emission? = none) :
    Unfolds Occurrence.IsModest none w (w.step depth step).1 :=
  (attested_unfolds fun _ => id).step hw depth silent

/-- A whole run goes on as calls. -/
theorem run_unfolds (steps : List (Nat × Step)) :
    ∃ calls : Calls, calls.Fits (run {} steps) none ∧
      (run {} steps).history = calls.trace (run {} steps) := by
  have told (w : Exchange) (e : Log.Event) : Unfolds (fun _ => True) none w (w.log e) :=
    .aside (history_log w e) (by simp [Occurrence.dispatch?]) (by simp)
  obtain ⟨calls, fits, -, hist⟩ :=
    (attested_unfolds fun _ _ => trivial).run told (w := {}) .refl steps
  exact ⟨calls, fits, hist⟩

end Exchange

end MessageBus
