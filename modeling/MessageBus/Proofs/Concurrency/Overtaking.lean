import MessageBus.Proofs.Concurrency.Keeping

namespace MessageBus.Concurrency

variable {f : Fleet} {s : Shared} {t t' : Thread} {acts : List Action} {r : Registry} {v : Resolver}
  {i : Nat} {programs : List (List Call)}

/-- A thread that makes a subscription has held the number of the subscription. -/
theorem Move.of_entered (move : Move s t acts t' r v) {x : Subscription}
    (made : x ∈ acts.filterMap Action.entered?) :
    ∃ calls, t = ⟨.numbered x.mailbox x.seq, calls⟩ ∧ acts = [.appended x] := by
  obtain ⟨m, n, calls, rfl, -, rfl, -⟩ | ⟨m, calls, y, -, -, rfl, -⟩ | ⟨quiet, -⟩ := move.cases_roll
  · obtain rfl : x = ⟨n, m⟩ := by simpa [Action.entered?] using made
    exact ⟨calls, rfl, rfl⟩
  · simp [Action.entered?] at made
  · obtain ⟨a, ha, entered⟩ := List.mem_filterMap.mp made
    simp [(quiet a ha).1] at entered

/-- Nothing that happened is undone. -/
theorem Fleet.entered_run (f : Fleet) (schedule : List Nat) :
    entered f.shared.events <+: entered (f.run schedule).shared.events := by
  refine run_induction (P := fun g => entered f.shared.events <+: entered g.shared.events)
    List.prefix_rfl (fun g i t acts t' r v _ _ before => ?_) schedule
  rw [entered_after]
  exact before.trans (List.prefix_append _ _)

/-- Just before a subscription is made, some thread holds its number. -/
theorem exists_holder (stops : List Event → Message → Mailbox → Bool) (programs : List (List Call))
    (schedule : List Nat) {x : Subscription}
    (made : x ∈ entered ((Fleet.starting stops programs).run schedule).shared.events) :
    ∃ (before after : List Nat) (j : Nat) (calls : List Call) (rest : List Subscription),
      schedule = before ++ after ∧
      ((Fleet.starting stops programs).run before).threads[j]? =
        some ⟨.numbered x.mailbox x.seq, calls⟩ ∧
      entered ((Fleet.starting stops programs).run schedule).shared.events =
        entered ((Fleet.starting stops programs).run before).shared.events ++ x :: rest := by
  induction schedule using List.reverseRecOn with
  | nil => simp [Fleet.starting, Fleet.run, Shared.events, entered] at made
  | append_singleton schedule i ih =>
    rw [Fleet.run_concat] at made ⊢
    obtain ⟨-, same⟩ | ⟨t, acts, t', r, v, there, move, stepped⟩ :=
      ((Fleet.starting stops programs).run schedule).step_cases i
    · rw [same] at made ⊢
      obtain ⟨before, after, j, calls, rest, rfl, held, split⟩ := ih made
      exact ⟨before, after ++ [i], j, calls, rest, List.append_assoc .., held, split⟩
    · rw [stepped, entered_after] at made ⊢
      rcases List.mem_append.mp made with old | new
      · obtain ⟨before, after, j, calls, rest, rfl, held, split⟩ := ih old
        refine ⟨before, after ++ [i], j, calls, rest ++ acts.filterMap Action.entered?,
          List.append_assoc .., held, ?_⟩
        rw [split, List.append_assoc, List.cons_append]
      · obtain ⟨calls, rfl, rfl⟩ := move.of_entered new
        exact ⟨schedule, [i], i, calls, [], rfl, there, rfl⟩

/-- Whether a subscription had been made at some moment of a run when a thread still held the
smaller number of another one. -/
def Overtakes (f : Fleet) (schedule : List Nat) (x y : Subscription) : Prop :=
  y.seq < x.seq ∧ ∃ (before after : List Nat) (j : Nat) (calls : List Call),
    schedule = before ++ after ∧ x ∈ entered (f.run before).shared.events ∧
    (f.run before).threads[j]? = some ⟨.numbered y.mailbox y.seq, calls⟩

theorem Regular.sublist_listFor (h : Regular programs f) (t : Tag) :
    List.Sublist (f.shared.registry.listFor t) (entered f.shared.events) := by
  rw [h.listFor_eq]
  exact List.filter_sublist

/-- Two of a list stand in it in the order in which they were made. -/
theorem Regular.pair_sublist_iff (h : Regular programs f) {t : Tag} {x y : Subscription}
    (hx : x ∈ f.shared.registry.listFor t) (hy : y ∈ f.shared.registry.listFor t) :
    List.Sublist [x, y] (f.shared.registry.listFor t) ↔
      List.Sublist [x, y] (entered f.shared.events) := by
  constructor
  · exact fun pair => pair.trans (h.sublist_listFor t)
  · intro pair
    rw [h.listFor_eq] at hx hy ⊢
    refine List.sublist_filter_iff.mpr ⟨[x, y], pair, (List.filter_eq_self.mpr ?_).symm⟩
    simp only [List.forall_mem_cons, List.not_mem_nil, false_implies, implies_true, and_true]
    exact ⟨(List.mem_filter.mp hx).2, (List.mem_filter.mp hy).2⟩

/-- A thread numbers what it subscribes in ascending order. -/
structure OwnAscending (f : Fleet) : Prop where
  increasing : ∀ j, ((ownEntered j f.shared.events).map (·.seq)).Pairwise (· < ·)
  next : ∀ {j : Nat} {u : Thread} {n : Nat}, f.threads[j]? = some u → u.number? = some n →
    ∀ x ∈ ownEntered j f.shared.events, x.seq < n

theorem ownEntered_after (f : Fleet) (i j : Nat) (acts : List Action) (t : Thread) (r : Registry)
    (v : Resolver) : ownEntered j (f.after i acts t r v).shared.events =
      ownEntered j f.shared.events ++ if i = j then acts.filterMap Action.entered? else [] := by
  rw [ownEntered, f.events_after, own_append, own_map, List.filterMap_append]
  split <;> rfl

/-- Nothing is made, and a number that a thread takes is greater than those that it has used. -/
theorem OwnAscending.quiet (h : OwnAscending f) (quiet : acts.filterMap Action.entered? = [])
    (mine : ∀ n, t'.number? = some n → ∀ x ∈ ownEntered i f.shared.events, x.seq < n) :
    OwnAscending (f.after i acts t' r v) := by
  have same (j : Nat) : ownEntered j (f.after i acts t' r v).shared.events =
      ownEntered j f.shared.events := by
    simp [ownEntered_after, quiet]
  constructor
  · intro j
    rw [same]
    exact h.increasing j
  · intro j u n hu hn x hx
    rw [same] at hx
    rcases Fleet.thread_after hu with ⟨rfl, rfl⟩ | ⟨-, old⟩
    · exact mine n hn x hx
    · exact h.next old hn x hx

theorem OwnAscending.use (h : OwnAscending f) (there : f.threads[i]? = some t) {m : Mailbox}
    {n : Nat} (number : t.number? = some n) (used : t'.number? = none) :
    OwnAscending (f.after i [.appended ⟨n, m⟩] t' r v) := by
  constructor
  · intro j
    rw [ownEntered_after]
    by_cases same : i = j
    · subst same
      rw [if_pos rfl, List.map_append]
      refine List.pairwise_append.mpr ⟨h.increasing i, List.pairwise_singleton _ _, ?_⟩
      intro k hk l hl
      obtain ⟨x, hx, rfl⟩ := List.mem_map.mp hk
      obtain rfl : l = n := by simpa [Action.entered?] using hl
      exact h.next there number x hx
    · rw [if_neg same, List.append_nil]
      exact h.increasing j
  · intro j u k hu hk x hx
    obtain ⟨other, old⟩ := Fleet.thread_of_number used hu hk
    rw [ownEntered_after, if_neg (Ne.symm other), List.append_nil] at hx
    exact h.next old hk x hx

theorem OwnAscending.after (h : OwnAscending f) (numbers : Numbered f)
    (there : f.threads[i]? = some t) (move : Move f.shared t acts t' r v) :
    OwnAscending (f.after i acts t' r v) := by
  obtain ⟨number, rfl, -⟩ | ⟨m, n, number, used, rfl, -⟩ | ⟨unnumbered, quiet, -⟩ :=
    move.cases_number
  · refine h.quiet rfl fun n hn x hx => ?_
    obtain rfl : f.shared.registry.nextSeq = n := Option.some.inj (number.symm.trans hn)
    exact numbers.below x ((sublist_ownEntered i _).subset hx)
  · exact h.use there number used
  · refine h.quiet quiet fun n hn => ?_
    rw [unnumbered] at hn
    simp at hn

theorem ownAscending_run (stops : List Event → Message → Mailbox → Bool)
    (programs : List (List Call)) (schedule : List Nat) :
    OwnAscending ((Fleet.starting stops programs).run schedule) := by
  have run := Fleet.run_induction (P := fun f => Regular programs f ∧ OwnAscending f)
    (f := Fleet.starting stops programs)
    ⟨regular_starting stops programs, by
      constructor <;> simp [ownEntered, own, Fleet.starting, Shared.events]⟩
    (fun _ _ _ _ _ _ _ there move ⟨h, own⟩ =>
      ⟨h.after there move, own.after h.numbered there move⟩) schedule
  exact run.2

/-- In a list without repetitions, what stands before a member stands in front of its place. -/
theorem mem_of_pair_sublist {α : Type} {x y : α} {front rest : List α}
    (distinct : (front ++ y :: rest).Nodup) (pair : List.Sublist [x, y] (front ++ y :: rest)) :
    x ∈ front := by
  induction front with
  | nil =>
    have absent : y ∉ rest := (List.nodup_cons.mp distinct).1
    cases pair with
    | cons _ later => exact absurd (later.subset (by simp)) absent
    | cons_cons _ later => exact absurd (later.subset (by simp)) absent
  | cons a front ih =>
    cases pair with
    | cons _ later => exact List.mem_cons_of_mem a (ih (List.nodup_cons.mp distinct).2 later)
    | cons_cons _ _ => exact List.mem_cons_self

/-- Who stands before a smaller number has overtaken it. -/
theorem overtakes_of_sublist (stops : List Event → Message → Mailbox → Bool)
    (programs : List (List Call)) (schedule : List Nat) {x y : Subscription}
    (pair : List.Sublist [x, y]
      (entered ((Fleet.starting stops programs).run schedule).shared.events))
    (smaller : y.seq < x.seq) : Overtakes (Fleet.starting stops programs) schedule x y := by
  obtain ⟨before, after, j, calls, rest, cut, held, split⟩ :=
    exists_holder stops programs schedule (pair.subset (by simp : y ∈ [x, y]))
  refine ⟨smaller, before, after, j, calls, cut, ?_, held⟩
  have distinct := (regular_run stops programs schedule).numbered.nodup
  rw [split] at pair distinct
  exact mem_of_pair_sublist distinct pair

/-- Who has overtaken a smaller number stands before it, once both are made. -/
theorem Overtakes.sublist {stops : List Event → Message → Mailbox → Bool} {schedule : List Nat}
    {x y : Subscription} (h : Overtakes (Fleet.starting stops programs) schedule x y)
    (made : y ∈ entered ((Fleet.starting stops programs).run schedule).shared.events) :
    List.Sublist [x, y] (entered ((Fleet.starting stops programs).run schedule).shared.events) := by
  obtain ⟨-, before, after, j, calls, rfl, hx, held⟩ := h
  have unmade := ((regular_run stops programs before).numbered.fresh held rfl).2
  rw [Fleet.run_append] at made ⊢
  obtain ⟨more, e⟩ := ((Fleet.starting stops programs).run before).entered_run after
  rw [← e] at made ⊢
  rcases List.mem_append.mp made with old | new
  · exact absurd rfl (unmade y old)
  · exact (List.singleton_sublist.mpr hx).append (List.singleton_sublist.mpr new)

/-- How often a thread has yet to take a number. -/
def Thread.unnumbered (t : Thread) : Nat := (t.calls.filterMap Call.subscribed?).length

/-- A number is taken for each mailbox that a thread goes on to subscribe. -/
theorem Move.nextSeq (move : Move s t acts t' r v) :
    r.nextSeq + t'.unnumbered = s.registry.nextSeq + t.unnumbered := by
  have taken : r.nextSeq = s.registry.nextSeq + if t'.number?.isSome then 1 else 0 := by
    obtain ⟨number, -, next⟩ | ⟨m, n, -, used, -, next⟩ | ⟨none_taken, -, next⟩ :=
      move.cases_number
    · simp [number, next]
    · simp [used, next]
    · simp [none_taken, next]
  have left : t.unnumbered = t'.unnumbered + if t'.number?.isSome then 1 else 0 := by
    cases move <;> rfl
  omega

theorem sum_map_set {threads : List Thread} (there : threads[i]? = some t) (t' : Thread)
    (g : Thread → Nat) :
    ((threads.set i t').map g).sum + g t = (threads.map g).sum + g t' := by
  induction threads generalizing i with
  | nil => simp at there
  | cons u threads ih =>
    cases i with
    | zero =>
      obtain rfl := Option.some.inj there
      simp only [List.set_cons_zero, List.map_cons, List.sum_cons]
      omega
    | succ i =>
      have later := ih (i := i) there
      simp only [List.set_cons_succ, List.map_cons, List.sum_cons]
      omega

/-- No more numbers are taken than the programs have subscribes. -/
theorem nextSeq_le (stops : List Event → Message → Mailbox → Bool) (programs : List (List Call))
    (schedule : List Nat) : ((Fleet.starting stops programs).run schedule).shared.registry.nextSeq ≤
      (programs.flatten.filterMap Call.subscribed?).length := by
  have all : (((Fleet.starting stops programs).threads).map Thread.unnumbered).sum =
      (programs.flatten.filterMap Call.subscribed?).length := by
    rw [Fleet.starting, List.map_map, List.filterMap_flatten, List.length_flatten, List.map_map]
    rfl
  have run := Fleet.run_induction (f := Fleet.starting stops programs)
    (P := fun f => f.shared.registry.nextSeq + (f.threads.map Thread.unnumbered).sum =
      (programs.flatten.filterMap Call.subscribed?).length)
    ((Nat.zero_add _).trans all)
    (fun f i t acts t' r v there move total => by
      have moved := move.nextSeq
      have sums := sum_map_set there t' Thread.unnumbered
      change r.nextSeq + ((f.threads.set i t').map Thread.unnumbered).sum = _
      omega) schedule
  omega

/-- However the threads interleave, the list of a type keeps the order in which subscriptions were
made, and what one thread made is in the order of its numbers. Between threads the numbers tell
that order exactly as long as nobody makes a subscription while another thread holds a smaller
number that it has yet to list. While the programs subscribe no more than 2 ^ 64 times, 64 bits
hold every number. -/
theorem run_ascending_iff (stops : List Event → Message → Mailbox → Bool)
    (programs : List (List Call)) (schedule : List Nat) (t : Tag) :
    let start := Fleet.starting stops programs
    let events := (start.run schedule).shared.events
    let list := (start.run schedule).shared.registry.listFor t
    List.Sublist list (entered events) ∧ (list.map (·.seq)).Nodup ∧
    (∀ j, ((list.filter (· ∈ ownEntered j events)).map (·.seq)).Pairwise (· < ·)) ∧
    (∀ x ∈ list, ∀ y ∈ list,
      Overtakes start schedule x y ↔ List.Sublist [x, y] list ∧ y.seq < x.seq) ∧
    ((list.map (·.seq)).Pairwise (· < ·) ↔
      ∀ x ∈ list, ∀ y ∈ list, ¬ Overtakes start schedule x y) ∧
    ((programs.flatten.filterMap Call.subscribed?).length ≤ 2 ^ 64 →
      ∀ x ∈ list, x.seq.toUInt64.toNat = x.seq) := by
  intro start events list
  have h : Regular programs (start.run schedule) := regular_run stops programs schedule
  have listed : List.Sublist list (entered events) := h.sublist_listFor t
  have distinct : (list.map (·.seq)).Nodup := h.numbered.distinct.sublist (listed.map _)
  have pairs : ∀ x ∈ list, ∀ y ∈ list,
      (Overtakes start schedule x y ↔ List.Sublist [x, y] list ∧ y.seq < x.seq) := by
    intro x hx y hy
    rw [h.pair_sublist_iff hx hy]
    exact ⟨fun ahead => ⟨ahead.sublist (listed.subset hy), ahead.1⟩,
      fun ⟨pair, smaller⟩ => overtakes_of_sublist stops programs schedule pair smaller⟩
  refine ⟨listed, distinct, ?_, pairs, ?_, fun few x hx => ?_⟩
  · intro j
    rw [h.own_listFor j t]
    exact ((ownAscending_run stops programs schedule).increasing j).sublist
      (List.filter_sublist.map _)
  · rw [List.pairwise_map, List.pairwise_iff_forall_sublist]
    constructor
    · intro ascending x hx y hy ahead
      obtain ⟨pair, smaller⟩ := (pairs x hx y hy).mp ahead
      exact Nat.lt_asymm smaller (ascending pair)
    · intro fair x y pair
      have hx : x ∈ list := pair.subset (by simp)
      have hy : y ∈ list := pair.subset (by simp)
      have ne : x.seq ≠ y.seq := by simpa using distinct.sublist (pair.map (·.seq))
      refine Nat.lt_of_le_of_ne (Nat.le_of_not_lt fun smaller => ?_) ne
      exact fair x hx y hy ((pairs x hx y hy).mpr ⟨pair, smaller⟩)
  · have below := h.numbered.below x (listed.subset hx)
    have taken := nextSeq_le stops programs schedule
    exact Nat.mod_eq_of_lt (Nat.lt_of_lt_of_le below (taken.trans few))

/-- A thread takes the first number, another thread takes the second one and uses it, and only then
the first number is used. -/
theorem not_always_ascending : ¬ ∀ programs : List (List Call),
    (∀ program ∈ programs, ∀ call ∈ program, ∃ m, call = .subscribe m) → ∀ schedule t,
      ((((Fleet.starting (fun _ _ _ => false) programs).run schedule).shared.registry.listFor t).map
        (·.seq)).Pairwise (· < ·) := by
  intro ascending
  have twice := ascending
    [[.subscribe default], [.subscribe { (default : Mailbox) with id := 1 }]] (by simp)
    [0, 1, 1, 0] (default : Mailbox).tag
  revert twice
  decide

end MessageBus.Concurrency
