import MessageBus.Proofs.Exchange.Orderly
import MessageBus.Proofs.Exchange.Sheltered

namespace MessageBus

/-- A delivery with a mailbox to invoke invokes it. -/
theorem Delivery.invoked {d : Dispatch} {entry : Tag × Subscription}
    {rest : List (Tag × Subscription)} {os : List Occurrence}
    {result : Except Halt (Option BusError)} (delivery : Delivery d (entry :: rest) os result) :
    .invoked d entry.2 ∈ own d.number os := by
  refine mem_own.mpr ⟨?_, Occurrence.isOf_number rfl⟩
  cases delivery with
  | next x hx =>
    refine List.mem_append_left _ ?_
    rw [Turn.occurrences]
    split <;> simp [Dispatch.asking]
  | cut rest cut => cases cut <;> simp [Dispatch.asking]

theorem Course.invoked {d : Dispatch} {plan : List (Tag × Subscription)}
    {course : List Occurrence} {result : Except Halt (Option BusError)}
    (goes : Course d plan course result) (hp : plan ≠ []) :
    ∃ s, .invoked d s ∈ own d.number course := by
  obtain ⟨entry, rest, rfl⟩ := List.exists_cons_of_ne_nil hp
  cases goes with
  | matched dropped after _ delivery =>
    exact ⟨entry.2, by simp [delivery.invoked]⟩
  | stopped _ delivery => exact ⟨entry.2, by simp [delivery.invoked]⟩

namespace Exchange

variable {w : Exchange} {d : Dispatch} {plan plan' : List (Tag × Subscription)}

/-- No two dispatches begin with the same number. -/
theorem Orderly.published_unique (h : Orderly {} w) {e : Dispatch}
    (hd : .published d plan ∈ w.history) (he : .published e plan' ∈ w.history)
    (same : e.number = d.number) : e = d ∧ plan' = plan := by
  -- Of two that had one number, the later one would be part of the course of the earlier one.
  have later {d e : Dispatch} {plan plan' : List (Tag × Subscription)} {h₁ h₂ : List Occurrence}
      (hist : w.history = h₁ ++ .published d plan :: h₂) (same : e.number = d.number) :
      .published e plan' ∉ h₂ := by
    obtain ⟨course, result, goes, mine⟩ := h.course hist
    intro member
    refine goes.not_published e plan' (mine ▸ mem_own.mpr ⟨member, ?_⟩)
    exact same ▸ Occurrence.isOf_number rfl
  obtain ⟨h₁, h₂, hist⟩ := List.append_of_mem hd
  rw [hist, List.mem_append, List.mem_cons] at he
  rcases he with he | he | he
  · obtain ⟨a, b, rfl⟩ := List.append_of_mem he
    rw [List.append_assoc] at hist
    have member : .published d plan ∈ b ++ .published d plan :: h₂ := by simp
    exact absurd member (later hist same.symm)
  · rw [Occurrence.published.injEq] at he
    exact he
  · exact absurd he (later hist same)

/-- When a mailbox of a dispatch is struck off, the calls of the dispatch are over: all that is left
of it is to let go of its mailboxes and to end. -/
theorem Sustained.calls_over (hw : w.Sustained) (h : Orderly {} w) {g g' : List Occurrence}
    {m : MailboxId} (hist : w.history = g ++ .dropped (.mailbox m) :: g')
    (begun : .published d plan ∈ g) (member : m ∈ plan.map (·.2.mailbox.id)) :
    ∀ o ∈ own d.number g',
      (∃ after, o = .released d after) ∨ ∃ result, o = .concluded d result := by
  obtain ⟨h₁, b, rfl⟩ := List.append_of_mem begun
  have uncalled {o : Occurrence} (ho : o ∈ g') (call : o.call? = some d) : False := by
    obtain ⟨c, c', rfl⟩ := List.append_of_mem ho
    have parts : w.history = (h₁ ++ .published d plan :: b ++
        .dropped (.mailbox m) :: c) ++ o :: c' := by
      simp [hist]
    obtain ⟨p, there, intact⟩ := hw.attended _ o c' parts d call
    have found : .published d p ∈ w.history := parts ▸ List.mem_append_left _ there
    have first : .published d plan ∈ w.history := by simp [hist]
    obtain ⟨-, rfl⟩ := h.published_unique first found rfl
    obtain ⟨entry, he, same⟩ := List.mem_map.mp member
    refine intact entry.2 (List.mem_map_of_mem he) ?_
    simp [same]
  rw [List.append_assoc] at hist
  obtain ⟨course, result, goes, mine⟩ := h.course hist
  intro o ho
  have here := (mem_own.mp ho).1
  have act : d.Act plan result o := by
    refine goes.act (mine ▸ mem_own.mpr ⟨?_, (mem_own.mp ho).2⟩)
    exact List.mem_append_right _ (List.mem_cons_of_mem _ here)
  cases act with
  | released after => exact .inl ⟨after, rfl⟩
  | concluded => exact .inr ⟨result, rfl⟩
  | invoked | answered | failed | returned | heard => exact (uncalled here rfl).elim

/-- When a dispatch begins, the mailboxes of its plan are there. -/
theorem Sustained.plan_intact (hw : w.Sustained) (h : Orderly {} w) {h₁ h₂ : List Occurrence}
    (hist : w.history = h₁ ++ .published d plan :: h₂) {s : Subscription}
    (hs : s ∈ plan.map (·.2)) : .dropped (.mailbox s.mailbox.id) ∉ h₁ := by
  intro dropped
  obtain ⟨a, b, rfl⟩ := List.append_of_mem dropped
  obtain ⟨course, result, goes, mine⟩ := h.course hist
  obtain ⟨x, first⟩ := goes.invoked (by rintro rfl; simp at hs)
  obtain ⟨c, c', rfl⟩ := List.append_of_mem (mem_own.mp (mine ▸ first)).1
  have parts : w.history = (a ++ .dropped (.mailbox s.mailbox.id) :: b ++
      .published d plan :: c) ++ .invoked d x :: c' := by
    simp [hist]
  obtain ⟨p, there, intact⟩ := hw.attended _ _ c' parts d rfl
  have found : .published d p ∈ w.history := parts ▸ List.mem_append_left _ there
  have begun : .published d plan ∈ w.history := by simp [hist]
  obtain ⟨-, rfl⟩ := h.published_unique begun found rfl
  exact intact s hs (by simp)

/-- Whatever its mailboxes and sinks do, no mailbox of a dispatch is struck off before the last call
of the dispatch is over. The mailboxes of its plan are there when it begins, and it invokes them in
turn, all of them if none answers fatally and nothing panics. If one of them is struck off later,
all invocations were made by then, nothing but its end is left of the dispatch and of every other
one that has the mailbox in its plan, and nobody holds it: it has no handle, no subscription on a
bus that is there, and no place in a list of routes or a failure record that is kept. -/
theorem run_keeps_snapshots (steps : List (Nat × Step)) {h₁ h₂ : List Occurrence} {d : Dispatch}
    {plan : List (Tag × Subscription)}
    (hist : (run {} steps).history = h₁ ++ .published d plan :: h₂) :
    invocations d.number h₂ <+: plan.map (·.2) ∧
    (Calm d h₂ → invocations d.number h₂ = plan.map (·.2)) ∧
    ∀ s ∈ plan.map (·.2), .dropped (.mailbox s.mailbox.id) ∉ h₁ ∧
      ∀ g g', h₂ = g ++ .dropped (.mailbox s.mailbox.id) :: g' →
        invocations d.number g = invocations d.number h₂ ∧
        (∀ e plan', .published e plan' ∈ h₁ ++ .published d plan :: g →
          s.mailbox.id ∈ plan'.map (·.2.mailbox.id) → ∀ o ∈ own e.number g',
            (∃ after, o = .released e after) ∨ ∃ result, o = .concluded e result) ∧
        ∃ u : Exchange, u.Reachable ∧ u.history = h₁ ++ .published d plan :: g ∧
          u.Unheld s.mailbox.id ∧ Leads (u.strike (.mailbox s.mailbox.id)) (run {} steps) := by
  have sustained := sustained_run steps
  have orderly : Orderly {} (run {} steps) := lawful_orderly.run {} steps
  obtain ⟨course, result, goes, mine⟩ := orderly.course hist
  have same : invocations d.number h₂ = invocations d.number course := by
    rw [invocations, mine, invocations]
  refine ⟨same ▸ goes.invocations, fun calm => ?_, fun s hs => ⟨?_, fun g g' drop => ?_⟩⟩
  · rw [same]
    refine goes.invocations_of_calm (calm.mono fun o ho => ?_)
    exact (mem_own.mp (mine ▸ ho)).1
  · exact sustained.plan_intact orderly hist hs
  · have parts : (run {} steps).history =
        (h₁ ++ .published d plan :: g) ++ .dropped (.mailbox s.mailbox.id) :: g' := by
      simp [hist, drop]
    have ended {e : Dispatch} {plan' : List (Tag × Subscription)}
        (begun : .published e plan' ∈ h₁ ++ .published d plan :: g) :=
      sustained.calls_over orderly parts begun
    refine ⟨?_, fun e plan' begun => ended begun, ?_⟩
    · have member : s.mailbox.id ∈ plan.map (·.2.mailbox.id) := by
        obtain ⟨entry, he, rfl⟩ := List.mem_map.mp hs
        exact List.mem_map_of_mem he
      have rest : invocations d.number (.dropped (.mailbox s.mailbox.id) :: g') = [] := by
        refine List.filterMap_eq_nil_iff.mpr fun o ho => ?_
        have later : o ∈ own d.number g' := ho
        rcases ended (by simp) member o later with ⟨_, rfl⟩ | ⟨_, rfl⟩ <;> rfl
      rw [drop, invocations_append, rest, List.append_nil]
    · exact (Reachable.at_drop (reachable_run steps) parts).1

/-- A bus with two mailboxes for a note, of which the first takes itself off the bus and off the
desk when it is invoked. -/
def farewell : List (Nat × Step) :=
  let mailbox (id : String) (steps : List Step) (onDrop : Option Reaction) : Nat × Step :=
    (1, .openMailbox id id { tag := .child "Note" .root }
      (.responding (fun _ _ => .mk steps .succeed) false none) onDrop)
  [(1, .openBus "bus" (.recording "tray")),
    mailbox "first" [.unsubscribe "bus" "first", .forget "first"] (some (.mk [] .succeed)),
    mailbox "second" [] none,
    (1, .subscribe "bus" "first" false), (1, .subscribe "bus" "second" false),
    (5, .publish "bus" (.top "Note" (.word "Note")) 1)]

theorem run_keeps_snapshots_farewell :
    let tag : Tag := .child "Note" .root
    let d : Dispatch := { number := 0, bus := 0, message := .top "Note" (.word "Note") }
    let first : Subscription := { seq := 0, mailbox := ⟨0, "first", { tag }⟩ }
    let second : Subscription := { seq := 1, mailbox := ⟨1, "second", { tag }⟩ }
    ∃ h₁ g g', (run {} farewell).history =
        h₁ ++ .published d [(tag, first), (tag, second)] :: (g ++ .dropped (.mailbox 0) :: g') ∧
      invocations 0 g = [first, second] ∧
      ∃ u : Exchange, u.Reachable ∧ u.Unheld 0 ∧
        Leads (u.strike (.mailbox 0)) (run {} farewell) := by
  intro tag d first second
  have sixth : (run {} farewell).history[5]? =
      some (.published d [(tag, first), (tag, second)]) := by
    subst tag d first second
    cbv
  have nineteenth : (run {} farewell).history[18]? = some (.dropped (.mailbox 0)) := by cbv
  have undisturbed : (run {} farewell).history.any (·.disturbs d.number) = false := by
    subst d
    cbv
  have dropped := List.mem_of_getElem? nineteenth
  have calm : Calm d (run {} farewell).history := .of_undisturbed undisturbed
  obtain ⟨h₁, h₂, hist⟩ := List.append_of_mem (List.mem_of_getElem? sixth)
  obtain ⟨-, all, kept⟩ := run_keeps_snapshots farewell hist
  obtain ⟨absent, later⟩ := kept first (by simp)
  have member : .dropped (.mailbox 0) ∈ h₂ := by
    rw [hist, List.mem_append, List.mem_cons] at dropped
    exact (dropped.resolve_left absent).resolve_left (by simp)
  obtain ⟨g, g', drop⟩ := List.append_of_mem member
  obtain ⟨invoked, -, u, comes, -, unheld, goes⟩ := later g g' drop
  have parts : (run {} farewell).history =
      h₁ ++ .published d [(tag, first), (tag, second)] :: (g ++ .dropped (.mailbox 0) :: g') := by
    rw [hist, drop]
  refine ⟨h₁, g, g', parts, ?_, u, comes, unheld, goes⟩
  exact invoked.trans (all (calm.mono fun o ho => by simp [hist, ho]))

end Exchange

end MessageBus
