import MessageBus.Concurrency.Basic
import MessageBus.Proofs.Message.Lineage
import MessageBus.Proofs.Registry.Roll

namespace MessageBus.Concurrency

/-- What a thread can do in one step: the actions that it leaves in the history, how it goes on,
and the registry and the resolver afterwards. -/
inductive Move (s : Shared) : Thread → List Action → Thread → Registry → Resolver → Prop
  | rest : Move s ⟨.idle, []⟩ [] ⟨.idle, []⟩ s.registry s.resolver
  | number (m : Mailbox) (calls : List Call) :
      Move s ⟨.idle, .subscribe m :: calls⟩ [] ⟨.numbered m s.registry.nextSeq, calls⟩
        s.registry.takeSeq.1 s.resolver
  | append (m : Mailbox) (n : Nat) (calls : List Call) :
      Move s ⟨.numbered m n, calls⟩ [.appended ⟨n, m⟩] ⟨.idle, calls⟩ (s.registry.append ⟨n, m⟩)
        s.resolver
  | fail (m : Mailbox) (calls : List Call) (absent : s.registry.remove m = none) :
      Move s ⟨.idle, .unsubscribe m :: calls⟩ [.notSubscribed m] ⟨.idle, calls⟩ s.registry
        s.resolver
  | remove (m : Mailbox) (calls : List Call) {left : Registry} {x : Subscription}
      (found : s.registry.remove m = some (left, x)) :
      Move s ⟨.idle, .unsubscribe m :: calls⟩ [.removed x] ⟨.unlisted x, calls⟩ left s.resolver
  | prune (x : Subscription) (calls : List Call) :
      Move s ⟨.unlisted x, calls⟩ [] ⟨.idle, calls⟩ (s.registry.prune x.mailbox.tag) s.resolver
  | known (m : Message) (calls : List Call) {c : Chain} (kept : s.resolver.find? m.tag = some c) :
      Move s ⟨.idle, .publish m :: calls⟩ [] ⟨.looking m c.tags [], calls⟩ s.registry s.resolver
  | miss (m : Message) (calls : List Call) (unkept : s.resolver.find? m.tag = none) :
      Move s ⟨.idle, .publish m :: calls⟩ [] ⟨.unresolved m, calls⟩ s.registry s.resolver
  | compute (m : Message) (calls : List Call) :
      Move s ⟨.unresolved m, calls⟩ [] ⟨.computed m (s.resolver.compute m).2, calls⟩ s.registry
        (s.resolver.compute m).1
  | keep (m : Message) (c : Chain) (calls : List Call) :
      Move s ⟨.computed m c, calls⟩ [] ⟨.looking m (s.resolver.keep m.tag c).2.tags [], calls⟩
        s.registry (s.resolver.keep m.tag c).1
  | look (m : Message) (t : Tag) (left : List Tag) (found : List Route) (calls : List Call) :
      Move s ⟨.looking m (t :: left) found, calls⟩ [.looked m t (s.registry.listFor t)]
        ⟨.looking m left (found ++ (s.registry.routeFor t).toList), calls⟩ s.registry s.resolver
  | giveBack (m : Message) (calls : List Call) :
      Move s ⟨.looking m [] [], calls⟩ [.returned m] ⟨.idle, calls⟩ s.registry s.resolver
  | handOut (m : Message) (route : Route) (routes : List Route) (calls : List Call) :
      Move s ⟨.looking m [] (route :: routes), calls⟩ []
        ⟨.delivering m ((route :: routes).flatMap (·.subscriptions)), calls⟩ s.registry s.resolver
  | finish (m : Message) (calls : List Call) :
      Move s ⟨.delivering m [], calls⟩ [] ⟨.idle, calls⟩ s.registry s.resolver
  | invoke (m : Message) (x : Subscription) (left : List Subscription) (calls : List Call)
      (seen : (x.mailbox.target.narrow m).isSome = true)
      (goes : s.stops s.history m x.mailbox = false) :
      Move s ⟨.delivering m (x :: left), calls⟩ [.invoked m x] ⟨.delivering m left, calls⟩
        s.registry s.resolver
  | stop (m : Message) (x : Subscription) (left : List Subscription) (calls : List Call)
      (seen : (x.mailbox.target.narrow m).isSome = true)
      (stops : s.stops s.history m x.mailbox = true) :
      Move s ⟨.delivering m (x :: left), calls⟩ [.invoked m x, .stopped m x] ⟨.idle, calls⟩
        s.registry s.resolver
  | mismatch (m : Message) (x : Subscription) (left : List Subscription) (calls : List Call)
      (unseen : x.mailbox.target.narrow m = none) :
      Move s ⟨.delivering m (x :: left), calls⟩ [.mismatched m x] ⟨.idle, calls⟩ s.registry
        s.resolver

/-- What happened so far, the earliest first. -/
def Shared.events (s : Shared) : List Event := s.history.reverse

/-- What the threads share after a thread moved. -/
def Shared.after (s : Shared) (i : Nat) (acts : List Action) (r : Registry) (v : Resolver) :
    Shared :=
  { s with registry := r, resolver := v, history := (acts.map (i, ·)).reverse ++ s.history }

theorem Shared.events_after (s : Shared) (i : Nat) (acts : List Action) (r : Registry)
    (v : Resolver) : (s.after i acts r v).events = s.events ++ acts.map (i, ·) := by
  simp [Shared.after, Shared.events]

/-- Every step of a thread is one of the moves. -/
theorem Thread.step_move (i : Nat) (t : Thread) (s : Shared) : ∃ acts t' r v,
    Move s t acts t' r v ∧ t.step i s = (t', s.after i acts r v) := by
  obtain ⟨stage, calls⟩ := t
  cases stage with
  | idle =>
    cases calls with
    | nil => exact ⟨_, _, _, _, .rest, rfl⟩
    | cons call calls =>
      cases call with
      | subscribe m => exact ⟨_, _, _, _, .number m calls, rfl⟩
      | unsubscribe m =>
        cases found : s.registry.remove m with
        | none =>
          refine ⟨_, _, _, _, .fail m calls found, ?_⟩
          simp [Thread.step, begin, found, Shared.record, Shared.after]
        | some result =>
          obtain ⟨left, x⟩ := result
          refine ⟨_, _, _, _, .remove m calls found, ?_⟩
          simp [Thread.step, begin, found, Shared.record, Shared.after]
      | publish m =>
        cases kept : s.resolver.find? m.tag with
        | none =>
          refine ⟨_, _, _, _, .miss m calls kept, ?_⟩
          simp [Thread.step, begin, kept, Shared.after]
        | some c =>
          refine ⟨_, _, _, _, .known m calls kept, ?_⟩
          simp [Thread.step, begin, kept, Shared.after]
  | numbered m n => exact ⟨_, _, _, _, .append m n calls, rfl⟩
  | unlisted x => exact ⟨_, _, _, _, .prune x calls, rfl⟩
  | unresolved m => exact ⟨_, _, _, _, .compute m calls, rfl⟩
  | computed m c => exact ⟨_, _, _, _, .keep m c calls, rfl⟩
  | looking m left found =>
    cases left with
    | nil =>
      cases found with
      | nil => exact ⟨_, _, _, _, .giveBack m calls, rfl⟩
      | cons route routes => exact ⟨_, _, _, _, .handOut m route routes calls, rfl⟩
    | cons t left => exact ⟨_, _, _, _, .look m t left found calls, rfl⟩
  | delivering m left =>
    cases left with
    | nil => exact ⟨_, _, _, _, .finish m calls, rfl⟩
    | cons x left =>
      cases seen : x.mailbox.target.narrow m with
      | none =>
        refine ⟨_, _, _, _, .mismatch m x left calls seen, ?_⟩
        simp [Thread.step, proceed, seen, Shared.record, Shared.after]
      | some v =>
        cases stops : s.stops s.history m x.mailbox with
        | false =>
          refine ⟨_, _, _, _, .invoke m x left calls (by rw [seen]; rfl) stops, ?_⟩
          simp [Thread.step, proceed, seen, stops, Shared.record, Shared.after]
        | true =>
          refine ⟨_, _, _, _, .stop m x left calls (by rw [seen]; rfl) stops, ?_⟩
          simp [Thread.step, proceed, seen, stops, Shared.record, Shared.after]

namespace Fleet

/-- Threads with calls to make on a bus that is new, with handlers that may stop deliveries. -/
def starting (stops : List Event → Message → Mailbox → Bool) (programs : List (List Call)) :
    Fleet :=
  { shared := { stops }, threads := programs.map fun calls => { calls } }

def after (f : Fleet) (i : Nat) (acts : List Action) (t : Thread) (r : Registry) (v : Resolver) :
    Fleet :=
  { shared := f.shared.after i acts r v, threads := f.threads.set i t }

theorem run_append (f : Fleet) (first second : List Nat) :
    f.run (first ++ second) = (f.run first).run second :=
  List.foldl_append ..

theorem run_concat (f : Fleet) (schedule : List Nat) (i : Nat) :
    f.run (schedule ++ [i]) = (f.run schedule).step i := by
  rw [run_append]
  rfl

/-- A step is a move of the thread, or nothing happens because there is no such thread. -/
theorem step_cases (f : Fleet) (i : Nat) : (f.threads[i]? = none ∧ f.step i = f) ∨
    ∃ t acts t' r v, f.threads[i]? = some t ∧ Move f.shared t acts t' r v ∧
      f.step i = f.after i acts t' r v := by
  cases there : f.threads[i]? with
  | none => exact .inl ⟨rfl, by rw [step, there]⟩
  | some t =>
    obtain ⟨acts, t', r, v, move, stepped⟩ := t.step_move i f.shared
    refine .inr ⟨t, acts, t', r, v, rfl, move, ?_⟩
    rw [step, there]
    dsimp only
    rw [stepped]
    rfl

/-- What holds at first and is kept by every move of a thread holds after every run. -/
theorem run_induction {P : Fleet → Prop} {f : Fleet} (first : P f)
    (next : ∀ g i t acts t' r v, g.threads[i]? = some t → Move g.shared t acts t' r v → P g →
      P (g.after i acts t' r v)) (schedule : List Nat) : P (f.run schedule) := by
  induction schedule using List.reverseRecOn with
  | nil => exact first
  | append_singleton schedule i ih =>
    rw [run_concat]
    obtain ⟨-, same⟩ | ⟨t, acts, t', r, v, there, move, stepped⟩ := (f.run schedule).step_cases i
    · rw [same]
      exact ih
    · rw [stepped]
      exact next _ i t acts t' r v there move ih

end Fleet

end MessageBus.Concurrency
