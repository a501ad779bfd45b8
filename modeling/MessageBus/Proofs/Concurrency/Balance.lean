import MessageBus.Concurrency.Workload
import MessageBus.Proofs.Concurrency.Deeds

namespace MessageBus.Concurrency

def Deed.enters (k : MailboxId × Tag) : Deed → Bool
  | .subscribed m => m.key = k
  | .unsubscribed _ => false

def Deed.leaves (k : MailboxId × Tag) : Deed → Bool
  | .subscribed _ => false
  | .unsubscribed k' => k' = k

def Call.enters (k : MailboxId × Tag) (call : Call) : Bool := call.deed?.any (Deed.enters k)

def Call.leaves (k : MailboxId × Tag) (call : Call) : Bool := call.deed?.any (Deed.leaves k)

/-- A program that unsubscribes each mailbox only after subscribing it, once for every time. -/
structure Balanced (program : List Call) : Prop where
  never_ahead : ∀ k before, before <+: program →
    before.countP (Call.leaves k) ≤ before.countP (Call.enters k)
  even : ∀ k, program.countP (Call.leaves k) = program.countP (Call.enters k)

theorem balanced_nil : Balanced [] :=
  ⟨fun k before h => by rw [List.prefix_nil.mp h]; exact le_refl _, fun k => rfl⟩

theorem Balanced.append {first second : List Call} (h : Balanced first) (h' : Balanced second) :
    Balanced (first ++ second) := by
  constructor
  · intro k before hb
    obtain ⟨after, e⟩ := hb
    rcases List.append_eq_append_iff.mp e with ⟨rest, e, -⟩ | ⟨rest, rfl, e'⟩
    · exact h.never_ahead k before ⟨rest, e.symm⟩
    · rw [List.countP_append, List.countP_append, h.even k]
      exact Nat.add_le_add_left (h'.never_ahead k rest ⟨after, e'.symm⟩) _
  · intro k
    rw [List.countP_append, List.countP_append, h.even k, h'.even k]

theorem balanced_roundTrip (m : Mailbox) : Balanced [.subscribe m, .unsubscribe m] := by
  have leaves (k : MailboxId × Tag) : Call.leaves k (.subscribe m) = false := rfl
  have enters (k : MailboxId × Tag) : Call.enters k (.unsubscribe m) = false := rfl
  have same (k : MailboxId × Tag) :
      Call.leaves k (.unsubscribe m) = Call.enters k (.subscribe m) := rfl
  constructor
  · intro k before hb
    have parts : before = [] ∨ before = [.subscribe m] ∨
        before = [.subscribe m, .unsubscribe m] := by
      simpa using (List.mem_inits _ _).mpr hb
    rcases parts with rfl | rfl | rfl <;>
      simp [List.countP_cons, leaves, enters, same]
  · intro k
    simp [List.countP_cons, leaves, enters, same]

theorem balanced_flatMap {α : Type} {part : α → List Call} (h : ∀ a, Balanced (part a))
    (rounds : List α) : Balanced (rounds.flatMap part) := by
  induction rounds with
  | nil => exact balanced_nil
  | cons a rounds ih => exact (h a).append ih

/-- The threads that share a mailbox and those that make their own ones are balanced. -/
theorem balanced_workload {w : Workload} (hw : w = .sharing ∨ w = .churning) (target : Target)
    (m : Message) (count rounds : Nat) :
    ∀ t ∈ w.threads target m count rounds, Balanced t.calls := by
  intro t ht
  obtain ⟨thread, -, rfl⟩ := List.mem_map.mp ht
  refine balanced_flatMap (fun round => ?_) _
  rcases hw with rfl | rfl <;> exact balanced_roundTrip _

/-- The actions of the threads add up to those of all of them. -/
theorem sum_countP_own (p : Action → Bool) {n : Nat} {events : List Event}
    (h : ∀ e ∈ events, e.1 < n) :
    ∑ j ∈ Finset.range n, (own j events).countP p = events.countP fun e => p e.2 := by
  induction events with
  | nil => simp [own]
  | cons e events ih =>
    have rest := ih fun e he => h e (List.mem_cons_of_mem _ he)
    have here : e.1 ∈ Finset.range n := Finset.mem_range.mpr (h e List.mem_cons_self)
    have split (j : Nat) : (own j (e :: events)).countP p =
        (if j = e.1 then (if p e.2 then 1 else 0) else 0) + (own j events).countP p := by
      by_cases same : e.1 = j
      · simp [own, same, List.countP_cons, Nat.add_comm]
      · simp [own, same, Ne.symm same]
    rw [Finset.sum_congr rfl fun j _ => split j, Finset.sum_add_distrib, rest,
      Finset.sum_ite_eq' (Finset.range n) e.1, if_pos here, List.countP_cons, Nat.add_comm]

variable {f : Fleet} {t t' : Thread} {acts : List Action} {r : Registry} {v : Resolver} {i : Nat}
  {programs : List (List Call)} {program : List Call} {S : Roll}

theorem countP_filterMap_any {α β : Type} (p : β → Bool) (g : α → Option β) (l : List α) :
    (l.filterMap g).countP p = l.countP fun a => (g a).any p := by
  rw [List.countP_filterMap]
  congr 1
  funext a
  cases g a <;> rfl

/-- What a balanced program has done is never ahead either. -/
theorem Balanced.done_le (h : Balanced program) {done left : List Deed}
    (e : done ++ left = program.filterMap Call.deed?) (k : MailboxId × Tag) :
    done.countP (Deed.leaves k) ≤ done.countP (Deed.enters k) := by
  obtain ⟨before, after, rfl, rfl, -⟩ := List.filterMap_eq_append_iff.mp e.symm
  rw [countP_filterMap_any, countP_filterMap_any]
  exact h.never_ahead k before (List.prefix_append before after)

theorem Balanced.done_lt (h : Balanced program) {done left : List Deed} {k : MailboxId × Tag}
    (e : done ++ .unsubscribed k :: left = program.filterMap Call.deed?) :
    done.countP (Deed.leaves k) < done.countP (Deed.enters k) := by
  rw [List.append_cons] at e
  have next := h.done_le e k
  simp only [List.countP_append, List.countP_singleton, Deed.leaves, Deed.enters] at next
  simpa using next

theorem Balanced.done_eq (h : Balanced program) {done : List Deed}
    (e : done = program.filterMap Call.deed?) (k : MailboxId × Tag) :
    done.countP (Deed.leaves k) = done.countP (Deed.enters k) := by
  rw [e, countP_filterMap_any, countP_filterMap_any]
  exact h.even k

/-- What is live, together with what was taken back, is what was made. -/
theorem Regular.countOf (h : Regular programs f) (k : MailboxId × Tag) :
    (live f.shared.events).countOf k + Roll.countOf (taken f.shared.events) k =
      Roll.countOf (entered f.shared.events) k := by
  have gone : ((entered f.shared.events).filter (· ∈ taken f.shared.events)).Perm
      (taken f.shared.events) := by
    refine (List.perm_ext_iff_of_nodup (h.numbered.nodup.filter _) h.kept.taken_nodup).mpr
      fun x => ?_
    have sub := h.kept.taken_sub x
    simpa using sub
  have split := List.countP_eq_countP_filter_add (entered f.shared.events) (·.mailbox.key = k)
    (· ∈ taken f.shared.events)
  rw [gone.countP_eq] at split
  rw [Roll.countOf, Roll.countOf, Roll.countOf, h.kept.live_eq, split, Nat.add_comm]
  simp

/-- The deeds of the threads, added up. -/
theorem InStep.sum_deeds (h : InStep programs f) (p : Deed → Bool) :
    ∑ j ∈ Finset.range programs.length,
        ((own j f.shared.events).filterMap Action.deed?).countP p =
      f.shared.events.countP fun e => e.2.deed?.any p := by
  rw [← sum_countP_own (fun a => a.deed?.any p) h.within]
  exact Finset.sum_congr rfl fun j _ => countP_filterMap_any p Action.deed? _

theorem countOf_entered (k : MailboxId × Tag) (events : List Event) :
    Roll.countOf (entered events) k = events.countP fun e => e.2.deed?.any (Deed.enters k) := by
  rw [Roll.countOf, entered, countP_filterMap_any]
  congr 1
  funext e
  cases e.2 <;> rfl

/-- Without refusals every unsubscribe took a subscription back. -/
theorem countOf_taken (k : MailboxId × Tag) {events : List Event}
    (h : ∀ i m, (i, .notSubscribed m) ∉ events) :
    Roll.countOf (taken events) k = events.countP fun e => e.2.deed?.any (Deed.leaves k) := by
  rw [Roll.countOf, taken, countP_filterMap_any]
  refine List.countP_congr fun e he => ?_
  obtain ⟨i, a⟩ := e
  cases a with
  | notSubscribed m => exact absurd he (h i m)
  | _ => exact Iff.rfl

theorem InStep.thread (h : InStep programs f) {j : Nat} (hj : j < programs.length) :
    ∃ u program, f.threads[j]? = some u ∧ programs[j]? = some program ∧ program ∈ programs := by
  have hu : j < f.threads.length := h.length ▸ hj
  exact ⟨_, _, List.getElem?_eq_getElem hu, List.getElem?_eq_getElem hj, List.getElem_mem hj⟩

/-- No unsubscribe of balanced threads has been refused. -/
def Smooth (f : Fleet) : Prop := ∀ i m, (i, .notSubscribed m) ∉ f.shared.events

/-- A thread that is about to unsubscribe a mailbox has made one subscription more than it has taken
back, and no other thread has taken back more than it has made. -/
theorem Regular.taken_lt_entered (balanced : ∀ program ∈ programs, Balanced program)
    (h : Regular programs f) (smooth : Smooth f) {m : Mailbox} {calls : List Call}
    (there : f.threads[i]? = some ⟨.idle, .unsubscribe m :: calls⟩) :
    Roll.countOf (taken f.shared.events) m.key < Roll.countOf (entered f.shared.events) m.key := by
  have inRange : i < programs.length := h.inStep.length ▸ (List.getElem?_eq_some_iff.mp there).1
  rw [countOf_taken _ smooth, countOf_entered, ← h.inStep.sum_deeds, ← h.inStep.sum_deeds]
  refine Finset.sum_lt_sum (fun j hj => ?_) ⟨i, Finset.mem_range.mpr inRange, ?_⟩
  · obtain ⟨u, program, hu, hp, mem⟩ := h.inStep.thread (Finset.mem_range.mp hj)
    exact (balanced program mem).done_le (h.inStep.deeds hu hp) _
  · obtain ⟨u, program, hu, hp, mem⟩ := h.inStep.thread inRange
    have left : _ ++ Deed.unsubscribed m.key :: calls.filterMap Call.deed? = _ :=
      h.inStep.deeds there hp
    exact (balanced program mem).done_lt left

theorem Regular.taken_eq_entered (balanced : ∀ program ∈ programs, Balanced program)
    (h : Regular programs f) (smooth : Smooth f) (done : ∀ u ∈ f.threads, u.isDone = true)
    (k : MailboxId × Tag) :
    Roll.countOf (taken f.shared.events) k = Roll.countOf (entered f.shared.events) k := by
  rw [countOf_taken _ smooth, countOf_entered, ← h.inStep.sum_deeds, ← h.inStep.sum_deeds]
  refine Finset.sum_congr rfl fun j hj => ?_
  obtain ⟨u, program, hu, hp, mem⟩ := h.inStep.thread (Finset.mem_range.mp hj)
  have deeds := h.inStep.deeds_of_done hu (done u (List.mem_of_getElem? hu)) hp
  exact (balanced program mem).done_eq deeds k

theorem Smooth.after (balanced : ∀ program ∈ programs, Balanced program) (h : Regular programs f)
    (smooth : Smooth f) (there : f.threads[i]? = some t) (move : Move f.shared t acts t' r v) :
    Smooth (f.after i acts t' r v) := by
  intro j m mem
  rw [f.events_after, List.mem_append] at mem
  rcases mem with mem | mem
  · exact smooth j m mem
  · obtain ⟨a, ha, e⟩ := List.mem_map.mp mem
    obtain ⟨rfl, rfl⟩ := Prod.mk.inj e
    cases move with
    | fail m' calls absent =>
      obtain rfl : m = m' := by simpa using ha
      have nothing : (live f.shared.events).countOf m.key = 0 := by
        apply List.countP_eq_zero.mpr
        intro x hx
        simpa using h.kept.lists.not_mem_of_remove absent x hx
      have ahead := h.taken_lt_entered balanced smooth there
      have total := h.countOf m.key
      omega
    | _ => simp at ha

theorem smooth_run (balanced : ∀ program ∈ programs, Balanced program)
    (stops : List Event → Message → Mailbox → Bool) (schedule : List Nat) :
    Smooth ((Fleet.starting stops programs).run schedule) := by
  have run := Fleet.run_induction (P := fun f => Regular programs f ∧ Smooth f)
    (f := Fleet.starting stops programs)
    ⟨regular_starting stops programs, fun i m mem => by
      simp [Fleet.starting, Shared.events] at mem⟩
    (fun _ _ _ _ _ _ _ there move ⟨h, smooth⟩ =>
      ⟨h.after there move, smooth.after balanced h there move⟩) schedule
  exact run.2

/-- Balanced threads leave nothing behind when they are done. -/
theorem Regular.live_eq_nil (balanced : ∀ program ∈ programs, Balanced program)
    (h : Regular programs f) (smooth : Smooth f) (done : ∀ u ∈ f.threads, u.isDone = true) :
    live f.shared.events = [] := by
  have even (k : MailboxId × Tag) : (live f.shared.events).countOf k = 0 := by
    have same := h.taken_eq_entered balanced smooth done k
    have total := h.countOf k
    omega
  apply List.eq_nil_iff_forall_not_mem.mpr
  intro x hx
  have none_of := List.countP_eq_zero.mp (even x.mailbox.key) x hx
  simp at none_of

/-- A bus without subscriptions has no types in its registry once all threads are done. -/
theorem Regular.routes_eq_nil (h : Regular programs f) (empty : live f.shared.events = [])
    (done : ∀ u ∈ f.threads, u.isDone = true) : f.shared.registry.routes = [] := by
  apply List.eq_nil_iff_forall_not_mem.mpr
  intro entry he
  have filled := h.attended.ne_nil done entry he
  have list := h.kept.lists.reverse_entry he
  rw [empty] at list
  exact filled (List.reverse_eq_nil_iff.mp list)

/-- A publish that finds nothing looks for each type in turn and returns the message. -/
def lostAndReturned (m : Message) (left : List Tag) : List Event :=
  left.map (fun tag => (0, .looked m tag [])) ++ [(0, .returned m)]

/-- A thread that is not done yet and runs alone takes a step first. -/
theorem runAlone_succ (steps : Nat) (s : Shared) (t : Thread) (h : t.isDone = false) :
    Fleet.runAlone 0 (steps + 1) ⟨s, [t]⟩ =
      Fleet.runAlone 0 steps ⟨(t.step 0 s).2, [(t.step 0 s).1]⟩ := by
  rw [Fleet.runAlone, if_neg (by simp [h])]
  rfl

theorem runAlone_done (steps : Nat) (s : Shared) :
    (Fleet.runAlone 0 steps ⟨s, [⟨.idle, []⟩]⟩).shared = s := by
  cases steps <;> rfl

/-- A message that is looked up where nothing is subscribed is returned. -/
theorem runAlone_looking (s : Shared) (m : Message) (empty : s.registry.routes = [])
    (left : List Tag) (steps : Nat) (enough : left.length < steps) :
    (Fleet.runAlone 0 steps ⟨s, [⟨.looking m left [], []⟩]⟩).shared.events =
      s.events ++ lostAndReturned m left := by
  induction left generalizing s steps with
  | nil =>
    obtain ⟨steps, rfl⟩ := Nat.exists_eq_succ_of_ne_zero (Nat.ne_of_gt enough)
    rw [Nat.succ_eq_add_one, runAlone_succ _ _ _ rfl]
    have concluded : Thread.step 0 ⟨.looking m [] [], []⟩ s =
        (⟨.idle, []⟩, s.record 0 (.returned m)) := rfl
    rw [concluded, runAlone_done]
    simp [Shared.record, Shared.events, lostAndReturned]
  | cons tag left ih =>
    obtain ⟨steps, rfl⟩ := Nat.exists_eq_succ_of_ne_zero (Nat.ne_of_gt (Nat.zero_lt_of_lt enough))
    have none_listed : s.registry.listFor tag = [] := by simp [Registry.listFor, empty]
    have looked : Thread.step 0 ⟨.looking m (tag :: left) [], []⟩ s =
        (⟨.looking m left [], []⟩, s.record 0 (.looked m tag [])) := by
      simp [Thread.step, proceed, Registry.routeFor, none_listed, Shared.record]
    rw [Nat.succ_eq_add_one, runAlone_succ _ _ _ rfl, looked,
      ih (s.record 0 (.looked m tag [])) empty steps (Nat.lt_of_succ_lt_succ enough)]
    simp [Shared.record, Shared.events, lostAndReturned]

/-- Where nothing is subscribed a publish ends with the message being returned. -/
theorem perform_publish (s : Shared) (m : Message) (sound : s.resolver.Sound)
    (empty : s.registry.routes = []) (steps : Nat) (enough : m.ancestry.length + 4 ≤ steps) :
    (s.perform steps [.publish m]).events = s.events ++ lostAndReturned m m.ancestry := by
  obtain ⟨steps, rfl⟩ := Nat.exists_eq_add_of_le enough
  rw [Shared.perform, Nat.add_right_comm]
  cases kept : s.resolver.find? m.tag with
  | some c =>
    have begun : Thread.step 0 ⟨.idle, [.publish m]⟩ s = (⟨.looking m c.tags [], []⟩, s) := by
      simp [Thread.step, begin, kept]
    have chain : c.tags = m.ancestry := sound m.tag c kept
    rw [runAlone_succ _ _ _ rfl, begun, chain, runAlone_looking s m empty]
    omega
  | none =>
    have begun : Thread.step 0 ⟨.idle, [.publish m]⟩ s = (⟨.unresolved m, []⟩, s) := by
      simp [Thread.step, begin, kept]
    have unkept : (s.resolver.compute m).1.find? m.tag = none := kept
    have chain :
        ((s.resolver.compute m).1.keep m.tag (s.resolver.compute m).2).2.tags = m.ancestry := by
      rw [Resolver.keep, unkept]
      rfl
    have computed : Thread.step 0 ⟨.unresolved m, []⟩ s =
        (⟨.computed m (s.resolver.compute m).2, []⟩,
          { s with resolver := (s.resolver.compute m).1 }) := rfl
    have settled : Thread.step 0 ⟨.computed m (s.resolver.compute m).2, []⟩
          { s with resolver := (s.resolver.compute m).1 } =
        (⟨.looking m m.ancestry [], []⟩, { s with
          resolver := ((s.resolver.compute m).1.keep m.tag (s.resolver.compute m).2).1 }) := by
      rw [← chain]
      rfl
    rw [runAlone_succ _ _ _ rfl, begun, runAlone_succ _ _ _ rfl, computed, runAlone_succ _ _ _ rfl,
      settled, runAlone_looking { s with
        resolver := ((s.resolver.compute m).1.keep m.tag (s.resolver.compute m).2).1 } m empty]
    · rfl
    · omega

end MessageBus.Concurrency
