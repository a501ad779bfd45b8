import MessageBus.Proofs.Concurrency.Move
import MessageBus.Proofs.Registry.Removal

namespace MessageBus.Concurrency

/-- The roll after something more happened. -/
def note (S : Roll) : Event → Roll
  | (_, .appended x) => S ++ [x]
  | (_, .removed x) => S.erase x
  | _ => S

/-- The subscriptions that are live after some events. -/
def live (events : List Event) : Roll := events.foldl note []

def Action.entered? : Action → Option Subscription
  | .appended x => some x
  | _ => none

def Action.taken? : Action → Option Subscription
  | .removed x => some x
  | _ => none

/-- The subscriptions that were made, in their order. -/
def entered (events : List Event) : List Subscription := events.filterMap (·.2.entered?)

/-- The subscriptions that were taken back. -/
def taken (events : List Event) : List Subscription := events.filterMap (·.2.taken?)

theorem live_append (events more : List Event) :
    live (events ++ more) = more.foldl note (live events) :=
  List.foldl_append ..

theorem entered_append (events more : List Event) :
    entered (events ++ more) = entered events ++ entered more :=
  List.filterMap_append ..

theorem taken_append (events more : List Event) :
    taken (events ++ more) = taken events ++ taken more :=
  List.filterMap_append ..

/-- Three ways for the events to go on: a subscription is made, one is taken back, or neither. -/
theorem Move.cases_roll {s : Shared} {t t' : Thread} {acts : List Action} {r : Registry}
    {v : Resolver} (move : Move s t acts t' r v) :
    (∃ m n calls, t = ⟨.numbered m n, calls⟩ ∧ t' = ⟨.idle, calls⟩ ∧ acts = [.appended ⟨n, m⟩] ∧
      r = s.registry.append ⟨n, m⟩) ∨
    (∃ m calls x, t = ⟨.idle, .unsubscribe m :: calls⟩ ∧ t' = ⟨.unlisted x, calls⟩ ∧
      acts = [.removed x] ∧ s.registry.remove m = some (r, x)) ∨
    ((∀ a ∈ acts, a.entered? = none ∧ a.taken? = none) ∧
      (r = s.registry ∨ r = s.registry.takeSeq.1 ∨ ∃ x calls, t = ⟨.unlisted x, calls⟩ ∧
        t' = ⟨.idle, calls⟩ ∧ r = s.registry.prune x.mailbox.tag)) := by
  cases move with
  | append m n calls => exact .inl ⟨m, n, calls, rfl, rfl, rfl, rfl⟩
  | remove m calls found => exact .inr (.inl ⟨m, calls, _, rfl, rfl, rfl, found⟩)
  | number m calls => exact .inr (.inr ⟨by simp, .inr (.inl rfl)⟩)
  | prune x calls => exact .inr (.inr ⟨by simp, .inr (.inr ⟨x, calls, rfl, rfl, rfl⟩)⟩)
  | _ => exact .inr (.inr ⟨by simp [Action.entered?, Action.taken?], .inl rfl⟩)

variable {f : Fleet} {s : Shared} {t t' : Thread} {acts : List Action} {r : Registry} {v : Resolver}
  {i : Nat}

/-- The number that a thread took and has not used yet. -/
def Thread.number? (t : Thread) : Option Nat :=
  match t.stage with
  | .numbered _ n => some n
  | _ => none

/-- Every subscription has a number of its own, and so has every thread that took one. -/
structure Numbered (f : Fleet) : Prop where
  below : ∀ x ∈ entered f.shared.events, x.seq < f.shared.registry.nextSeq
  distinct : ((entered f.shared.events).map (·.seq)).Nodup
  fresh : ∀ {j : Nat} {u : Thread} {n : Nat}, f.threads[j]? = some u → u.number? = some n →
    n < f.shared.registry.nextSeq ∧ ∀ x ∈ entered f.shared.events, x.seq ≠ n
  apart : ∀ {j k : Nat} {u w : Thread} {n : Nat}, f.threads[j]? = some u → f.threads[k]? = some w →
    u.number? = some n → w.number? = some n → j = k

/-- A thread takes the next number, uses the one it took, or leaves the numbers as they are. -/
theorem Move.cases_number (move : Move s t acts t' r v) :
    (t'.number? = some s.registry.nextSeq ∧ acts = [] ∧ r.nextSeq = s.registry.nextSeq + 1) ∨
    (∃ m n, t.number? = some n ∧ t'.number? = none ∧ acts = [.appended ⟨n, m⟩] ∧
      r.nextSeq = s.registry.nextSeq) ∨
    (t'.number? = none ∧ acts.filterMap Action.entered? = [] ∧ r.nextSeq = s.registry.nextSeq) := by
  cases move with
  | number m calls => exact .inl ⟨rfl, rfl, rfl⟩
  | append m n calls => exact .inr (.inl ⟨m, n, rfl, rfl, rfl, rfl⟩)
  | remove m calls found =>
    refine .inr (.inr ⟨rfl, rfl, ?_⟩)
    obtain ⟨taken, -, e⟩ := Option.map_eq_some_iff.mp found
    rw [← (Prod.mk.inj e).1]
  | prune x calls =>
    refine .inr (.inr ⟨rfl, rfl, ?_⟩)
    rw [Registry.prune]
    split <;> rfl
  | _ => exact .inr (.inr ⟨rfl, rfl, rfl⟩)

theorem Fleet.thread_after {j : Nat} {u : Thread}
    (h : (f.after i acts t' r v).threads[j]? = some u) :
    (j = i ∧ u = t') ∨ (j ≠ i ∧ f.threads[j]? = some u) := by
  rw [Fleet.after, List.getElem?_set] at h
  by_cases same : i = j
  · rw [if_pos same] at h
    split at h
    · exact .inl ⟨same.symm, (Option.some.inj h).symm⟩
    · simp at h
  · rw [if_neg same] at h
    exact .inr ⟨Ne.symm same, h⟩

theorem Fleet.events_after (f : Fleet) (i : Nat) (acts : List Action) (t : Thread) (r : Registry)
    (v : Resolver) : (f.after i acts t r v).shared.events = f.shared.events ++ acts.map (i, ·) :=
  f.shared.events_after i acts r v

theorem entered_after (f : Fleet) (i : Nat) (acts : List Action) (t : Thread) (r : Registry)
    (v : Resolver) : entered (f.after i acts t r v).shared.events =
      entered f.shared.events ++ acts.filterMap Action.entered? := by
  rw [f.events_after, entered_append]
  simp [entered, List.filterMap_map]

theorem taken_after (f : Fleet) (i : Nat) (acts : List Action) (t : Thread) (r : Registry)
    (v : Resolver) : taken (f.after i acts t r v).shared.events =
      taken f.shared.events ++ acts.filterMap Action.taken? := by
  rw [f.events_after, taken_append]
  simp [taken, List.filterMap_map]

/-- Once a thread has no number, those that have one are other threads. -/
theorem Fleet.thread_of_number {j n : Nat} {u : Thread} (unnumbered : t'.number? = none)
    (hu : (f.after i acts t' r v).threads[j]? = some u) (hn : u.number? = some n) :
    j ≠ i ∧ f.threads[j]? = some u := by
  rcases Fleet.thread_after hu with ⟨-, rfl⟩ | old
  · rw [unnumbered] at hn
    simp at hn
  · exact old

/-- The next number is greater than all that were taken. -/
theorem Numbered.take (h : Numbered f) (number : t'.number? = some f.shared.registry.nextSeq)
    (next : r.nextSeq = f.shared.registry.nextSeq + 1) : Numbered (f.after i [] t' r v) := by
  have kept : (f.after i [] t' r v).shared.registry.nextSeq = f.shared.registry.nextSeq + 1 := next
  have made : entered (f.after i [] t' r v).shared.events = entered f.shared.events :=
    (entered_after f i [] t' r v).trans (List.append_nil _)
  constructor
  · intro x hx
    rw [made] at hx
    rw [kept]
    exact Nat.lt_succ_of_lt (h.below x hx)
  · rw [made]
    exact h.distinct
  · intro j u n hu hn
    rw [made, kept]
    rcases Fleet.thread_after hu with ⟨-, rfl⟩ | ⟨-, old⟩
    · obtain rfl : f.shared.registry.nextSeq = n := Option.some.inj (number.symm.trans hn)
      exact ⟨Nat.lt_succ_self _, fun x hx => Nat.ne_of_lt (h.below x hx)⟩
    · obtain ⟨lt, other⟩ := h.fresh old hn
      exact ⟨Nat.lt_succ_of_lt lt, other⟩
  · intro j k u w n hu hw hn hn'
    rcases Fleet.thread_after hu with ⟨rfl, rfl⟩ | ⟨-, old⟩ <;>
      rcases Fleet.thread_after hw with ⟨rfl, rfl⟩ | ⟨-, old'⟩
    · rfl
    · rw [number, Option.some.injEq] at hn
      exact absurd (h.fresh old' hn').1 (by omega)
    · rw [number, Option.some.injEq] at hn'
      exact absurd (h.fresh old hn).1 (by omega)
    · exact h.apart old old' hn hn'

/-- The number of a thread becomes that of a subscription. -/
theorem Numbered.use (h : Numbered f) (there : f.threads[i]? = some t) {m : Mailbox} {n : Nat}
    (number : t.number? = some n) (used : t'.number? = none)
    (next : r.nextSeq = f.shared.registry.nextSeq) :
    Numbered (f.after i [.appended ⟨n, m⟩] t' r v) := by
  have kept : (f.after i [.appended ⟨n, m⟩] t' r v).shared.registry.nextSeq =
      f.shared.registry.nextSeq := next
  have made : entered (f.after i [.appended ⟨n, m⟩] t' r v).shared.events =
      entered f.shared.events ++ [⟨n, m⟩] := entered_after f i _ t' r v
  obtain ⟨lt, unused⟩ := h.fresh there number
  constructor
  · intro x hx
    rw [made, List.mem_append, List.mem_singleton] at hx
    rw [kept]
    rcases hx with hx | rfl
    · exact h.below x hx
    · exact lt
  · rw [made, List.map_append]
    refine List.nodup_append.mpr ⟨h.distinct, by simp, fun a ha b hb => ?_⟩
    obtain ⟨x, hx, rfl⟩ := List.mem_map.mp ha
    rw [List.mem_singleton.mp hb]
    exact unused x hx
  · intro j u k hu hk
    obtain ⟨other, old⟩ := Fleet.thread_of_number used hu hk
    rw [made, kept]
    refine ⟨(h.fresh old hk).1, fun x hx => ?_⟩
    rw [List.mem_append, List.mem_singleton] at hx
    rcases hx with hx | rfl
    · exact (h.fresh old hk).2 x hx
    · rintro rfl
      exact other (h.apart old there hk number)
  · intro j k u w l hu hw hl hl'
    have old := (Fleet.thread_of_number used hu hl).2
    have old' := (Fleet.thread_of_number used hw hl').2
    exact h.apart old old' hl hl'

theorem Numbered.quiet (h : Numbered f) (unnumbered : t'.number? = none)
    (quiet : acts.filterMap Action.entered? = []) (next : r.nextSeq = f.shared.registry.nextSeq) :
    Numbered (f.after i acts t' r v) := by
  have kept : (f.after i acts t' r v).shared.registry.nextSeq = f.shared.registry.nextSeq := next
  have made : entered (f.after i acts t' r v).shared.events = entered f.shared.events := by
    rw [entered_after, quiet, List.append_nil]
  constructor
  · rw [made, kept]
    exact h.below
  · rw [made]
    exact h.distinct
  · intro j u n hu hn
    rw [made, kept]
    exact h.fresh (Fleet.thread_of_number unnumbered hu hn).2 hn
  · intro j k u w n hu hw hn hn'
    exact h.apart (Fleet.thread_of_number unnumbered hu hn).2
      (Fleet.thread_of_number unnumbered hw hn').2 hn hn'

theorem Numbered.after (h : Numbered f) (there : f.threads[i]? = some t)
    (move : Move f.shared t acts t' r v) : Numbered (f.after i acts t' r v) := by
  obtain ⟨number, rfl, next⟩ | ⟨m, n, number, used, rfl, next⟩ | ⟨unnumbered, quiet, next⟩ :=
    move.cases_number
  · exact h.take number next
  · exact h.use there number used next
  · exact h.quiet unnumbered quiet next

/-- The registry lists what is live, which is what was made and not taken back, in the order in
which it was made. -/
structure Kept (f : Fleet) : Prop where
  lists : f.shared.registry.Lists (live f.shared.events)
  live_eq : live f.shared.events = (entered f.shared.events).filter (· ∉ taken f.shared.events)
  taken_sub : ∀ x ∈ taken f.shared.events, x ∈ entered f.shared.events
  taken_nodup : (taken f.shared.events).Nodup

theorem note_of_quiet {acts : List Action} (quiet : ∀ a ∈ acts, a.entered? = none ∧ a.taken? = none)
    (i : Nat) (S : Roll) : (acts.map (i, ·)).foldl note S = S := by
  induction acts generalizing S with
  | nil => rfl
  | cons a acts ih =>
    have here : note S (i, a) = S := by
      obtain ⟨entered, taken⟩ := quiet a List.mem_cons_self
      cases a <;> simp_all [note, Action.entered?, Action.taken?]
    rw [List.map_cons, List.foldl_cons, here]
    exact ih (fun b hb => quiet b (List.mem_cons_of_mem _ hb)) S

theorem live_after (f : Fleet) (i : Nat) (acts : List Action) (t : Thread) (r : Registry)
    (v : Resolver) : live (f.after i acts t r v).shared.events =
      (acts.map (i, ·)).foldl note (live f.shared.events) := by
  rw [f.events_after, live_append]

theorem Numbered.nodup (h : Numbered f) : (entered f.shared.events).Nodup :=
  h.distinct.of_map _

/-- A new subscription comes last. -/
theorem Kept.append (h : Kept f) {x : Subscription} (fresh : x ∉ entered f.shared.events)
    (listed : r.Lists (live f.shared.events ++ [x])) : Kept (f.after i [.appended x] t' r v) := by
  have roll : live (f.after i [.appended x] t' r v).shared.events = live f.shared.events ++ [x] :=
    live_after f i _ t' r v
  have made : entered (f.after i [.appended x] t' r v).shared.events =
      entered f.shared.events ++ [x] := entered_after f i _ t' r v
  have gone : taken (f.after i [.appended x] t' r v).shared.events = taken f.shared.events :=
    (taken_after f i _ t' r v).trans (List.append_nil _)
  have untaken : x ∉ taken f.shared.events := fun mem => fresh (h.taken_sub x mem)
  constructor
  · rw [roll]
    exact listed
  · rw [roll, made, gone, List.filter_append, ← h.live_eq]
    simp [untaken]
  · intro y hy
    rw [gone] at hy
    rw [made]
    exact List.mem_append_left _ (h.taken_sub y hy)
  · rw [gone]
    exact h.taken_nodup

/-- A subscription that is taken back was made, and had not been taken back. -/
theorem Kept.erase (h : Kept f) (distinct : (entered f.shared.events).Nodup) {x : Subscription}
    (alive : x ∈ live f.shared.events) (listed : r.Lists ((live f.shared.events).erase x)) :
    Kept (f.after i [.removed x] t' r v) := by
  have roll : live (f.after i [.removed x] t' r v).shared.events =
      (live f.shared.events).erase x := live_after f i _ t' r v
  have made : entered (f.after i [.removed x] t' r v).shared.events = entered f.shared.events :=
    (entered_after f i _ t' r v).trans (List.append_nil _)
  have gone : taken (f.after i [.removed x] t' r v).shared.events = taken f.shared.events ++ [x] :=
    taken_after f i _ t' r v
  obtain ⟨mem, untaken⟩ := List.mem_filter.mp (h.live_eq ▸ alive)
  constructor
  · rw [roll]
    exact listed
  · rw [roll, made, gone, h.live_eq, (distinct.filter _).erase_eq_filter, List.filter_filter]
    congr 1
    funext y
    by_cases hy : y = x <;> simp [hy]
  · intro y hy
    rw [gone, List.mem_append, List.mem_singleton] at hy
    rw [made]
    rcases hy with hy | rfl
    · exact h.taken_sub y hy
    · exact mem
  · rw [gone]
    refine List.nodup_append.mpr ⟨h.taken_nodup, by simp, fun y hy z hz => ?_⟩
    rw [List.mem_singleton.mp hz]
    rintro rfl
    simp [hy] at untaken

theorem Kept.quiet (h : Kept f) (quiet : ∀ a ∈ acts, a.entered? = none ∧ a.taken? = none)
    (listed : r.Lists (live f.shared.events)) : Kept (f.after i acts t' r v) := by
  have roll : live (f.after i acts t' r v).shared.events = live f.shared.events := by
    rw [live_after, note_of_quiet quiet]
  have made : entered (f.after i acts t' r v).shared.events = entered f.shared.events := by
    rw [entered_after, List.filterMap_eq_nil_iff.mpr fun a ha => (quiet a ha).1, List.append_nil]
  have gone : taken (f.after i acts t' r v).shared.events = taken f.shared.events := by
    rw [taken_after, List.filterMap_eq_nil_iff.mpr fun a ha => (quiet a ha).2, List.append_nil]
  constructor
  · rw [roll]
    exact listed
  · rw [roll, made, gone]
    exact h.live_eq
  · rw [made, gone]
    exact h.taken_sub
  · rw [gone]
    exact h.taken_nodup

theorem Kept.after (h : Kept f) (numbers : Numbered f) (there : f.threads[i]? = some t)
    (move : Move f.shared t acts t' r v) : Kept (f.after i acts t' r v) := by
  obtain ⟨m, n, calls, rfl, rfl, rfl, rfl⟩ | ⟨m, calls, x, rfl, rfl, rfl, found⟩ |
    ⟨quiet, change⟩ := move.cases_roll
  · have unused := (numbers.fresh there rfl).2
    exact h.append (fun mem => unused _ mem rfl) (h.lists.append _)
  · exact h.erase numbers.nodup (h.lists.mem_of_remove found).1 (h.lists.remove found).2.1
  · refine h.quiet quiet ?_
    obtain rfl | rfl | ⟨x, calls, rfl, rfl, rfl⟩ := change
    · exact h.lists
    · exact ⟨h.lists.nodup, h.lists.listFor⟩
    · exact h.lists.prune _

theorem numbered_starting (stops : List Event → Message → Mailbox → Bool)
    (programs : List (List Call)) : Numbered (Fleet.starting stops programs) := by
  have idle {j : Nat} {u : Thread} (hu : (Fleet.starting stops programs).threads[j]? = some u) :
      u.number? = none := by
    rw [Fleet.starting, List.getElem?_map] at hu
    obtain ⟨calls, -, rfl⟩ := Option.map_eq_some_iff.mp hu
    rfl
  constructor
  · intro x hx
    simp [Fleet.starting, Shared.events, entered] at hx
  · exact List.nodup_nil
  · intro j u n hu hn
    simp [idle hu] at hn
  · intro j k u w n hu hw hn hn'
    simp [idle hu] at hn

theorem kept_starting (stops : List Event → Message → Mailbox → Bool)
    (programs : List (List Call)) : Kept (Fleet.starting stops programs) :=
  ⟨Registry.lists_empty, rfl, fun x hx => by simp [Fleet.starting, Shared.events, taken] at hx,
    List.nodup_nil⟩

/-- Whether an action fits the subscriptions that were live when it was done. -/
def Grounded (S : Roll) : Action → Prop
  | .removed x => S.find? (·.mailbox.key = x.mailbox.key) = some x
  | .notSubscribed m => ∀ x ∈ S, x.mailbox.key ≠ m.key
  | .looked _ t found => found = S.listFor t
  | _ => True

/-- Every action of some events fits what is live at its moment. -/
def AllGrounded : Roll → List Event → Prop
  | _, [] => True
  | S, e :: events => Grounded S e.2 ∧ AllGrounded (note S e) events

theorem allGrounded_append {S : Roll} {events more : List Event} :
    AllGrounded S (events ++ more) ↔
      AllGrounded S events ∧ AllGrounded (events.foldl note S) more := by
  induction events generalizing S with
  | nil => simp [AllGrounded]
  | cons e events ih => simp [AllGrounded, ih, and_assoc]

theorem Move.grounded {S : Roll} (h : s.registry.Lists S) (move : Move s t acts t' r v) (i : Nat) :
    AllGrounded S (acts.map (i, ·)) := by
  cases move with
  | fail m calls absent => exact ⟨h.not_mem_of_remove absent, trivial⟩
  | remove m calls found =>
    refine ⟨?_, trivial⟩
    rw [Grounded, (h.mem_of_remove found).2, Roll.find?_key]
    exact (h.remove found).1
  | look m u left routes calls => exact ⟨h.listFor u, trivial⟩
  | _ => simp [AllGrounded, Grounded]

/-- What a thread did at some moment fits what was live then. -/
theorem grounded_at {events before after : List Event} {a : Action} (h : AllGrounded [] events)
    (split : events = before ++ (i, a) :: after) : Grounded (live before) a := by
  rw [split, allGrounded_append] at h
  exact h.2.1

end MessageBus.Concurrency
