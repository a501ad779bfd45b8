import MessageBus.Proofs.Concurrency.Balance
import MessageBus.Proofs.Concurrency.Progress

namespace MessageBus.Concurrency

/-- The subscriptions that one of the threads made, in the order in which it made them. -/
def ownEntered (i : Nat) (events : List Event) : List Subscription :=
  (own i events).filterMap Action.entered?

theorem sublist_ownEntered (i : Nat) (events : List Event) :
    List.Sublist (ownEntered i events) (entered events) := by
  rw [ownEntered, own, List.filterMap_map]
  exact List.filter_sublist.filterMap _

theorem filter_mem_of_sublist {α : Type} [DecidableEq α] {part whole : List α}
    (h : List.Sublist part whole) (distinct : whole.Nodup) : whole.filter (· ∈ part) = part := by
  have inside : List.Sublist part (whole.filter (· ∈ part)) := by
    have filtered := h.filter (· ∈ part)
    rwa [List.filter_eq_self.mpr (by simp)] at filtered
  have same : part.Perm (whole.filter (· ∈ part)) := by
    refine (List.perm_ext_iff_of_nodup (h.nodup distinct) (distinct.filter _)).mpr fun x => ?_
    have mem : x ∈ part → x ∈ whole := fun hx => h.subset hx
    simpa using mem
  exact (inside.eq_of_length same.length_eq).symm

/-- The mailbox that a call subscribes. -/
def Call.subscribed? : Call → Option Mailbox
  | .subscribe m => some m
  | _ => none

def Deed.subscribed? : Deed → Option Mailbox
  | .subscribed m => some m
  | .unsubscribed _ => none

variable {f : Fleet} {programs : List (List Call)}

/-- What a thread did comes first in its program. -/
theorem Regular.deeds_prefix (h : Regular programs f) {i : Nat} {program : List Call}
    (hp : programs[i]? = some program) :
    (own i f.shared.events).filterMap Action.deed? <+: program.filterMap Call.deed? := by
  have inRange : i < f.threads.length :=
    h.inStep.length ▸ (List.getElem?_eq_some_iff.mp hp).1
  exact ⟨_, h.inStep.deeds (List.getElem?_eq_getElem inRange) hp⟩

theorem map_ownEntered (i : Nat) (events : List Event) : (ownEntered i events).map (·.mailbox) =
    ((own i events).filterMap Action.deed?).filterMap Deed.subscribed? := by
  rw [ownEntered, List.map_filterMap, List.filterMap_filterMap]
  congr 1
  funext a
  cases a <;> rfl

theorem filterMap_subscribed? (program : List Call) : program.filterMap Call.subscribed? =
    (program.filterMap Call.deed?).filterMap Deed.subscribed? := by
  rw [List.filterMap_filterMap]
  congr 1
  funext call
  cases call <;> rfl

/-- The mailboxes that a thread subscribed come first among those that its program subscribes. -/
theorem Regular.ownEntered_prefix (h : Regular programs f) {i : Nat} {program : List Call}
    (hp : programs[i]? = some program) :
    (ownEntered i f.shared.events).map (·.mailbox) <+: program.filterMap Call.subscribed? := by
  rw [map_ownEntered, filterMap_subscribed?]
  exact (h.deeds_prefix hp).filterMap _

/-- The list of a type has what was made and not taken back, in the order in which it was made. -/
theorem Regular.listFor_eq (h : Regular programs f) (t : Tag) : f.shared.registry.listFor t =
    (entered f.shared.events).filter
      fun x => decide (x.mailbox.tag = t) && decide (x ∉ taken f.shared.events) := by
  rw [h.kept.lists.listFor, Roll.listFor, h.kept.live_eq, List.filter_filter]

/-- What is left of a thread's subscriptions in the list of a type stands in the order in which the
thread made them. -/
theorem Regular.own_listFor (h : Regular programs f) (i : Nat) (t : Tag) :
    (f.shared.registry.listFor t).filter (· ∈ ownEntered i f.shared.events) =
      (ownEntered i f.shared.events).filter
        fun x => x.mailbox.tag = t ∧ x ∉ taken f.shared.events := by
  have mine := filter_mem_of_sublist (sublist_ownEntered i f.shared.events) h.numbered.nodup
  rw [h.listFor_eq]
  conv_rhs => rw [← mine]
  rw [List.filter_filter, List.filter_filter]
  congr 1
  funext x
  by_cases mem : x ∈ ownEntered i f.shared.events <;> simp [mem]

theorem Regular.countP_listFor (h : Regular programs f) (m : Mailbox) :
    (f.shared.registry.listFor m.tag).countP (·.mailbox.id = m.id) =
      (live f.shared.events).countOf m.key := by
  rw [h.kept.lists.listFor, Roll.listFor, List.countP_filter, Roll.countOf]
  congr 1
  funext x
  simp [Mailbox.key, Prod.ext_iff]

/-- The registry keeps every subscription that was made and not taken back, once and in its place,
however the steps of the threads come between each other. A thread does what its program says, in
order, and all of it by the time it is done. No type is left with an empty list when all threads are
done, and balanced threads leave nothing at all, so that the next message is returned. -/
theorem run_keeps_subscriptions (stops : List Event → Message → Mailbox → Bool)
    (programs : List (List Call)) (schedule : List Nat) :
    let f := (Fleet.starting stops programs).run schedule
    let events := f.shared.events
    ((∀ t, f.shared.registry.listFor t = (live events).listFor t) ∧
      (entered events).Nodup ∧ live events = (entered events).filter (· ∉ taken events) ∧
      ∀ m : Mailbox, (f.shared.registry.listFor m.tag).countP (·.mailbox.id = m.id) +
        Roll.countOf (taken events) m.key = Roll.countOf (entered events) m.key) ∧
    (∀ before i m after, events = before ++ (i, .notSubscribed m) :: after →
      ∀ x ∈ live before, x.mailbox.key ≠ m.key) ∧
    (∀ i program, programs[i]? = some program →
      (own i events).filterMap Action.deed? <+: program.filterMap Call.deed? ∧
      (ownEntered i events).map (·.mailbox) <+: program.filterMap Call.subscribed? ∧
      (∀ u, f.threads[i]? = some u → u.isDone = true →
        (own i events).filterMap Action.deed? = program.filterMap Call.deed? ∧
        (ownEntered i events).map (·.mailbox) = program.filterMap Call.subscribed?) ∧
      ∀ t, (f.shared.registry.listFor t).filter (· ∈ ownEntered i events) =
        (ownEntered i events).filter fun x => x.mailbox.tag = t ∧ x ∉ taken events) ∧
    ((∀ u ∈ f.threads, u.isDone = true) → ∀ entry ∈ f.shared.registry.routes, entry.2 ≠ []) ∧
    ((∀ program ∈ programs, Balanced program) →
      (∀ i m, (i, .notSubscribed m) ∉ events) ∧
      ((∀ u ∈ f.threads, u.isDone = true) → f.shared.registry.routes = [] ∧
        ∀ m steps, m.ancestry.length + 4 ≤ steps →
          (f.shared.perform steps [.publish m]).events = events ++ lostAndReturned m m.ancestry)) ∧
    (∃ later, ∀ u ∈ (f.run later).threads, u.isDone = true) ∧
    ∀ w : Workload, w = .sharing ∨ w = .churning → ∀ target m count rounds,
      ∀ t ∈ w.threads target m count rounds, Balanced t.calls := by
  intro f events
  have h : Regular programs f := regular_run stops programs schedule
  refine ⟨⟨h.kept.lists.listFor, h.numbered.nodup, h.kept.live_eq, ?_⟩, ?_, ?_,
    h.attended.ne_nil, ?_, f.exists_all_done, fun w hw => balanced_workload hw⟩
  · intro m
    rw [h.countP_listFor m]
    exact h.countOf m.key
  · intro before i m after split
    exact grounded_at h.grounded split
  · intro i program hp
    refine ⟨h.deeds_prefix hp, h.ownEntered_prefix hp, fun u hu done => ?_, h.own_listFor i⟩
    have deeds := h.inStep.deeds_of_done hu done hp
    exact ⟨deeds, by rw [map_ownEntered, filterMap_subscribed?, deeds]⟩
  · intro balanced
    have smooth : Smooth f := smooth_run balanced stops schedule
    refine ⟨smooth, ?_⟩
    intro done
    have empty := h.routes_eq_nil (h.live_eq_nil balanced smooth done) done
    exact ⟨empty,
      fun m steps enough => perform_publish f.shared m h.chains.resolver empty steps enough⟩

/-- Two threads that subscribe and unsubscribe one mailbox, step by step in turns. -/
def turns (m : Mailbox) : Fleet :=
  (Fleet.starting (fun _ _ _ => false)
    [[.subscribe m, .unsubscribe m], [.subscribe m, .unsubscribe m]]).run [0, 1, 1, 0, 0, 1, 0, 1]

/-- The two threads do all they were to do, take back the subscriptions of each other, and leave
nothing. -/
theorem run_keeps_subscriptions_turns :
    (own 0 (turns default).shared.events).filterMap Action.deed? =
        [.subscribed default, .unsubscribed (default : Mailbox).key] ∧
    (own 0 (turns default).shared.events).filterMap Action.entered? = [⟨0, default⟩] ∧
      (own 0 (turns default).shared.events).filterMap Action.taken? = [⟨1, default⟩] ∧
      (turns default).shared.registry.routes = [] ∧
      ((turns default).shared.perform 6 [.publish (.top "Left" default)]).events =
        (turns default).shared.events ++
          lostAndReturned (.top "Left" default) [.root, .child "Left" .root] := by
  obtain ⟨-, -, did, -, balanced, -⟩ := run_keeps_subscriptions (fun _ _ _ => false)
    [[.subscribe default, .unsubscribe default], [.subscribe default, .unsubscribe default]]
    [0, 1, 1, 0, 0, 1, 0, 1]
  have roundTrips : ∀ program ∈ [[Call.subscribe default, .unsubscribe default],
      [.subscribe default, .unsubscribe default]], Balanced program := by
    intro program hp
    obtain rfl : program = [.subscribe default, .unsubscribe default] := by simpa using hp
    exact balanced_roundTrip default
  have done : ∀ u ∈ (turns default).threads, u.isDone = true := by decide +kernel
  have ended := (balanced roundTrips).2 done
  have first : (turns default).threads[0]? = some ⟨.idle, []⟩ := rfl
  have deeds := ((did 0 _ rfl).2.2.1 _ first rfl).1
  refine ⟨deeds, by decide +kernel, by decide +kernel, ended.1, ?_⟩
  exact ended.2 (.top "Left" default) 6 (by decide)

end MessageBus.Concurrency
