import MessageBus.Proofs.Concurrency.Live

namespace MessageBus.Concurrency

/-- What a call asks of the registry, and what an action did to it or tried to do. -/
inductive Deed
  | subscribed (mailbox : Mailbox)
  | unsubscribed (key : MailboxId × Tag)
  deriving DecidableEq

def Call.deed? : Call → Option Deed
  | .subscribe m => some (.subscribed m)
  | .unsubscribe m => some (.unsubscribed m.key)
  | .publish _ => none

def Action.deed? : Action → Option Deed
  | .appended x => some (.subscribed x.mailbox)
  | .removed x => some (.unsubscribed x.mailbox.key)
  | .notSubscribed m => some (.unsubscribed m.key)
  | _ => none

/-- What a thread has yet to do, the call it is making included. -/
def Thread.deedsLeft (t : Thread) : List Deed :=
  match t.stage with
  | .numbered m _ => .subscribed m :: t.calls.filterMap Call.deed?
  | _ => t.calls.filterMap Call.deed?

theorem Thread.eq_of_isDone {t : Thread} (h : t.isDone = true) : t = ⟨.idle, []⟩ := by
  obtain ⟨stage, calls⟩ := t
  cases stage <;> cases calls <;> simp_all [Thread.isDone]

/-- What one of the threads did. -/
def own (i : Nat) (events : List Event) : List Action :=
  (events.filter (·.1 = i)).map (·.2)

theorem own_append (i : Nat) (events more : List Event) :
    own i (events ++ more) = own i events ++ own i more := by
  simp [own]

theorem own_map (i j : Nat) (acts : List Action) :
    own i (acts.map (j, ·)) = if j = i then acts else [] := by
  by_cases same : j = i <;> simp [own, List.filter_map, Function.comp_def, same]

variable {f : Fleet} {s : Shared} {t t' : Thread} {acts : List Action} {r : Registry} {v : Resolver}
  {i : Nat} {S : Roll}

/-- A move does what comes first of what the thread has yet to do. -/
theorem Move.deeds (h : s.registry.Lists S) (move : Move s t acts t' r v) :
    acts.filterMap Action.deed? ++ t'.deedsLeft = t.deedsLeft := by
  cases move with
  | remove m calls found =>
    simp [Thread.deedsLeft, Action.deed?, Call.deed?, (h.mem_of_remove found).2]
  | _ => simp [Thread.deedsLeft, Action.deed?, Call.deed?, List.filterMap_cons]

/-- Every thread did what its program says, up to what it has yet to do, and nobody else did
anything. -/
structure InStep (programs : List (List Call)) (f : Fleet) : Prop where
  length : f.threads.length = programs.length
  within : ∀ e ∈ f.shared.events, e.1 < programs.length
  deeds : ∀ {j : Nat} {u : Thread} {program : List Call}, f.threads[j]? = some u →
    programs[j]? = some program →
      (own j f.shared.events).filterMap Action.deed? ++ u.deedsLeft = program.filterMap Call.deed?

variable {programs : List (List Call)}

/-- A thread that is done did all that its program says. -/
theorem InStep.deeds_of_done (h : InStep programs f) {program : List Call}
    (there : f.threads[i]? = some t) (done : t.isDone = true) (hp : programs[i]? = some program) :
    (own i f.shared.events).filterMap Action.deed? = program.filterMap Call.deed? := by
  have deeds := h.deeds there hp
  rw [Thread.eq_of_isDone done] at deeds
  exact (List.append_nil _).symm.trans deeds

theorem InStep.after (h : InStep programs f) (kept : Kept f) (there : f.threads[i]? = some t)
    (move : Move f.shared t acts t' r v) : InStep programs (f.after i acts t' r v) := by
  have bound : i < programs.length := by
    rw [← h.length]
    exact (List.getElem?_eq_some_iff.mp there).1
  constructor
  · rw [Fleet.after, List.length_set, h.length]
  · intro e he
    rw [f.events_after, List.mem_append] at he
    rcases he with he | he
    · exact h.within e he
    · obtain ⟨a, -, rfl⟩ := List.mem_map.mp he
      exact bound
  · intro j u program hu hp
    rw [f.events_after, own_append, own_map, List.filterMap_append, List.append_assoc]
    rcases Fleet.thread_after hu with ⟨rfl, rfl⟩ | ⟨other, old⟩
    · rw [if_pos rfl, move.deeds kept.lists]
      exact h.deeds there hp
    · rw [if_neg (Ne.symm other)]
      exact h.deeds old hp

theorem inStep_starting (stops : List Event → Message → Mailbox → Bool)
    (programs : List (List Call)) : InStep programs (Fleet.starting stops programs) := by
  constructor
  · simp [Fleet.starting]
  · intro e he
    simp [Fleet.starting, Shared.events] at he
  · intro j u program hu hp
    rw [Fleet.starting, List.getElem?_map, hp] at hu
    rw [← Option.some.inj hu]
    rfl

/-- Wherever the list of a type is empty, some thread is about to forget the type. -/
def Attended (f : Fleet) : Prop :=
  ∀ entry ∈ f.shared.registry.routes, entry.2 = [] → ∃ (j : Nat) (calls : List Call)
    (x : Subscription), f.threads[j]? = some ⟨.unlisted x, calls⟩ ∧ x.mailbox.tag = entry.1

/-- A list is emptied by a thread that is then about to forget its type. -/
theorem Move.emptied (h : s.registry.Lists S) (move : Move s t acts t' r v)
    {entry : Tag × List Subscription} (he : entry ∈ r.routes) (empty : entry.2 = []) :
    entry ∈ s.registry.routes ∨
      ∃ (calls : List Call) (x : Subscription),
        t' = ⟨.unlisted x, calls⟩ ∧ x.mailbox.tag = entry.1 := by
  obtain ⟨m, n, calls, rfl, rfl, rfl, rfl⟩ | ⟨m, calls, x, rfl, rfl, rfl, found⟩ | ⟨-, change⟩ :=
    move.cases_roll
  · rcases Registry.mem_setList he with rfl | he
    · simp at empty
    · exact .inl he
  · have tag : x.mailbox.tag = m.tag := congrArg Prod.snd (h.mem_of_remove found).2
    rcases Registry.mem_routes_of_remove found he with own | he
    · exact .inr ⟨calls, x, rfl, tag.trans own.symm⟩
    · exact .inl he
  · obtain rfl | rfl | ⟨x, calls, rfl, rfl, rfl⟩ := change
    · exact .inl he
    · exact .inl he
    · exact .inl (Registry.mem_of_mem_prune he)

theorem Move.of_unlisted {x : Subscription} {calls : List Call}
    (move : Move s ⟨.unlisted x, calls⟩ acts t' r v) : r = s.registry.prune x.mailbox.tag := by
  cases move
  rfl

theorem Attended.after (h : Attended f) (kept : Kept f) (there : f.threads[i]? = some t)
    (move : Move f.shared t acts t' r v) : Attended (f.after i acts t' r v) := by
  intro entry he empty
  have inRange : i < f.threads.length := (List.getElem?_eq_some_iff.mp there).1
  rcases move.emptied kept.lists he empty with old | ⟨calls, x, rfl, tag⟩
  · obtain ⟨j, calls, x, waiting, tag⟩ := h entry old empty
    by_cases same : j = i
    · -- The thread has forgotten the type just now, unless its list was filled again.
      subst same
      obtain rfl := Option.some.inj (there.symm.trans waiting)
      obtain rfl := move.of_unlisted
      exact absurd empty (kept.lists.ne_nil_of_prune he tag.symm)
    · refine ⟨j, calls, x, ?_, tag⟩
      rw [Fleet.after, List.getElem?_set_ne (Ne.symm same)]
      exact waiting
  · refine ⟨i, calls, x, ?_, tag⟩
    rw [Fleet.after, List.getElem?_set_self inRange]

/-- When all threads are done, no type has an empty list. -/
theorem Attended.ne_nil (h : Attended f) (done : ∀ u ∈ f.threads, u.isDone = true) :
    ∀ entry ∈ f.shared.registry.routes, entry.2 ≠ [] := by
  intro entry he empty
  obtain ⟨j, calls, x, waiting, -⟩ := h entry he empty
  have idle := Thread.eq_of_isDone (done _ (List.mem_of_getElem? waiting))
  simp at idle

theorem attended_starting (stops : List Event → Message → Mailbox → Bool)
    (programs : List (List Call)) : Attended (Fleet.starting stops programs) := by
  intro entry he
  simp [Fleet.starting] at he

/-- Whether a chain that a thread has computed is the one of its message. -/
def Thread.Exact (t : Thread) : Prop :=
  match t.stage with
  | .computed m c => c.tags = m.ancestry
  | _ => True

theorem Move.exact (h : s.resolver.Sound) (ht : t.Exact) (move : Move s t acts t' r v) :
    v.Sound ∧ t'.Exact := by
  cases move with
  | compute m calls => exact ⟨h, rfl⟩
  | keep m c calls => exact ⟨h.keep ht, trivial⟩
  | _ => exact ⟨h, trivial⟩

/-- Every chain that is kept or about to be kept is that of its type. -/
structure Exact (f : Fleet) : Prop where
  resolver : f.shared.resolver.Sound
  threads : ∀ {j : Nat} {u : Thread}, f.threads[j]? = some u → u.Exact

theorem Exact.after (h : Exact f) (there : f.threads[i]? = some t)
    (move : Move f.shared t acts t' r v) : Exact (f.after i acts t' r v) := by
  obtain ⟨resolver, thread⟩ := move.exact h.resolver (h.threads there)
  constructor
  · exact resolver
  · intro j u hu
    rcases Fleet.thread_after hu with ⟨-, rfl⟩ | ⟨-, old⟩
    · exact thread
    · exact h.threads old

theorem exact_starting (stops : List Event → Message → Mailbox → Bool)
    (programs : List (List Call)) : Exact (Fleet.starting stops programs) := by
  constructor
  · exact Resolver.sound_empty
  · intro j u hu
    rw [Fleet.starting, List.getElem?_map] at hu
    obtain ⟨calls, -, rfl⟩ := Option.map_eq_some_iff.mp hu
    trivial

/-- What is known of every moment of every run. -/
structure Regular (programs : List (List Call)) (f : Fleet) : Prop where
  numbered : Numbered f
  kept : Kept f
  inStep : InStep programs f
  attended : Attended f
  chains : Exact f
  grounded : AllGrounded [] f.shared.events

theorem Regular.after (h : Regular programs f) (there : f.threads[i]? = some t)
    (move : Move f.shared t acts t' r v) : Regular programs (f.after i acts t' r v) where
  numbered := h.numbered.after there move
  kept := h.kept.after h.numbered there move
  inStep := h.inStep.after h.kept there move
  attended := h.attended.after h.kept there move
  chains := h.chains.after there move
  grounded := by
    rw [f.events_after, allGrounded_append]
    exact ⟨h.grounded, move.grounded h.kept.lists i⟩

theorem regular_starting (stops : List Event → Message → Mailbox → Bool)
    (programs : List (List Call)) : Regular programs (Fleet.starting stops programs) where
  numbered := numbered_starting stops programs
  kept := kept_starting stops programs
  inStep := inStep_starting stops programs
  attended := attended_starting stops programs
  chains := exact_starting stops programs
  grounded := trivial

theorem regular_run (stops : List Event → Message → Mailbox → Bool) (programs : List (List Call))
    (schedule : List Nat) : Regular programs ((Fleet.starting stops programs).run schedule) :=
  Fleet.run_induction (regular_starting stops programs)
    (fun _ _ _ _ _ _ _ there move h => h.after there move) schedule

end MessageBus.Concurrency
