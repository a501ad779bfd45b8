import MessageBus.Proofs.Concurrency.Live
import MessageBus.Proofs.Exchange.Resolution

namespace MessageBus.Concurrency

/-- The message that a thread learns the types of in its next step, with the chain that it gets. -/
def Thread.answer? (s : Shared) (t : Thread) : Option (Message × Chain) :=
  match t.stage, t.calls with
  | .idle, .publish m :: _ => (s.resolver.find? m.tag).map (m, ·)
  | .computed m c, _ => some (m, (s.resolver.keep m.tag c).2)
  | _, _ => none

/-- The chain that a thread has computed and not offered yet. -/
def Thread.ready? (t : Thread) : Option (Message × Chain) :=
  match t.stage with
  | .computed m c => some (m, c)
  | _ => none

/-- What a thread is answered in its next step. -/
def Fleet.answered (f : Fleet) (i : Nat) : List (Message × Chain) :=
  ((f.threads[i]?).bind (·.answer? f.shared)).toList

/-- What the threads are answered in the course of a schedule. -/
def Fleet.answers (f : Fleet) : List Nat → List (Message × Chain)
  | [] => []
  | i :: schedule => f.answered i ++ (f.step i).answers schedule

variable {f : Fleet} {s : Shared} {t t' : Thread} {acts : List Action} {r : Registry} {v : Resolver}
  {i : Nat} {w : Service}

/-- A thread asks nothing of the resolver, it computes a chain, or it is answered and goes on to
look for the types in its answer. -/
theorem Move.cases_answer (move : Move s t acts t' r v) :
    (t.answer? s = none ∧ t'.ready? = none ∧ v = s.resolver) ∨
    (∃ m, t.answer? s = none ∧ t'.ready? = some (m, (s.resolver.compute m).2) ∧
      v = (s.resolver.compute m).1) ∨
    (∃ m c calls, t.answer? s = some (m, c) ∧ t' = ⟨.looking m c.tags [], calls⟩ ∧
      ((v = s.resolver ∧ s.resolver.find? m.tag = some c) ∨
        ∃ own, t.ready? = some (m, own) ∧ v = (s.resolver.keep m.tag own).1 ∧
          c = (s.resolver.keep m.tag own).2)) := by
  cases move with
  | known m calls kept =>
    exact .inr (.inr ⟨m, _, calls, by simp [Thread.answer?, kept], rfl, .inl ⟨rfl, kept⟩⟩)
  | miss m calls unkept => exact .inl ⟨by simp [Thread.answer?, unkept], rfl, rfl⟩
  | compute m calls => exact .inr (.inl ⟨m, rfl, rfl, rfl⟩)
  | keep m c calls => exact .inr (.inr ⟨m, _, calls, rfl, rfl, .inr ⟨c, rfl, rfl, rfl⟩⟩)
  | _ => exact .inl ⟨rfl, rfl, rfl⟩

/-- Threads share a resolver at work when it is theirs and has computed what they have ready. -/
structure Shares (f : Fleet) (w : Service) : Prop where
  resolver : f.shared.resolver = w.resolver
  ready : ∀ {j : Nat} {u : Thread} {x : Message × Chain}, f.threads[j]? = some u →
    u.ready? = some x → x ∈ w.computed

/-- What the threads do with the resolver is what happens to a resolver at work. -/
theorem Shares.after (h : Shares f w) (there : f.threads[i]? = some t)
    (move : Move f.shared t acts t' r v) : ∃ w', w.Runs w' ∧ Shares (f.after i acts t' r v) w' ∧
      w'.answers = w.answers ++ (t.answer? f.shared).toList := by
  have others {computed : List (Message × Chain)} (grown : ∀ x ∈ w.computed, x ∈ computed)
      (own : ∀ x, t'.ready? = some x → x ∈ computed) {j : Nat} {u : Thread} {x : Message × Chain}
      (hu : (f.after i acts t' r v).threads[j]? = some u) (hx : u.ready? = some x) :
      x ∈ computed := by
    rcases Fleet.thread_after hu with ⟨-, rfl⟩ | ⟨-, old⟩
    · exact own x hx
    · exact grown x (h.ready old hx)
  obtain ⟨unasked, empty, same⟩ | ⟨m, unasked, computed, same⟩ |
    ⟨m, c, calls, asked, rfl, ⟨same, kept⟩ | ⟨own, ready, same, rfl⟩⟩ := move.cases_answer <;>
    rw [h.resolver] at same
  · refine ⟨w, .refl, ⟨same, others (fun _ hx => hx) (by simp [empty])⟩, ?_⟩
    rw [unasked, Option.toList_none, List.append_nil]
  · rw [h.resolver] at computed
    refine ⟨_, .single (.compute w m),
      ⟨same, others (fun _ hx => List.mem_append_left _ hx) ?_⟩, ?_⟩
    · intro x hx
      rw [computed, Option.some.injEq] at hx
      exact List.mem_append_right _ (List.mem_singleton.mpr hx.symm)
    · rw [unasked, Option.toList_none, List.append_nil]
  · rw [h.resolver] at kept
    refine ⟨_, .single (.known w m c kept), ⟨same, others (fun _ hx => hx) ?_⟩, ?_⟩
    · simp [Thread.ready?]
    · rw [asked, Option.toList_some]
  · refine ⟨_, .single (.keep w m own (h.ready there ready)),
      ⟨same, others (fun _ hx => hx) ?_⟩, ?_⟩
    · simp [Thread.ready?]
    · rw [asked, Option.toList_some, h.resolver]

theorem Shares.step (h : Shares f w) (i : Nat) : ∃ w', w.Runs w' ∧ Shares (f.step i) w' ∧
    w'.answers = w.answers ++ f.answered i := by
  obtain ⟨absent, same⟩ | ⟨t, acts, t', r, v, there, move, stepped⟩ := f.step_cases i
  · refine ⟨w, .refl, same.symm ▸ h, ?_⟩
    rw [Fleet.answered, absent, Option.bind_none, Option.toList_none, List.append_nil]
  · rw [stepped, Fleet.answered, there, Option.bind_some]
    exact h.after there move

theorem Shares.run (h : Shares f w) (schedule : List Nat) : ∃ w', w.Runs w' ∧
    Shares (f.run schedule) w' ∧ w'.answers = w.answers ++ f.answers schedule := by
  induction schedule generalizing f w with
  | nil => exact ⟨w, .refl, h, (List.append_nil _).symm⟩
  | cons i schedule ih =>
    obtain ⟨next, first, shares, answers⟩ := h.step i
    obtain ⟨last, rest, shares, answers'⟩ := ih shares
    refine ⟨last, first.trans rest, shares, ?_⟩
    rw [answers', answers, Fleet.answers, List.append_assoc]

theorem shares_starting (stops : List Event → Message → Mailbox → Bool)
    (programs : List (List Call)) : Shares (Fleet.starting stops programs) {} := by
  refine ⟨rfl, fun {j u x} hu hx => ?_⟩
  rw [Fleet.starting, List.getElem?_map] at hu
  obtain ⟨calls, -, rfl⟩ := Option.map_eq_some_iff.mp hu
  simp [Thread.ready?] at hx

/-- A thread goes on to look for the types that it was answered. -/
theorem Fleet.looking_of_answered {m : Message} {c : Chain} (h : (m, c) ∈ f.answered i) :
    ∃ calls, (f.step i).threads[i]? = some ⟨.looking m c.tags [], calls⟩ := by
  obtain ⟨absent, -⟩ | ⟨t, acts, t', r, v, there, move, stepped⟩ := f.step_cases i
  · simp [answered, absent] at h
  · rw [answered, there, Option.bind_some, Option.mem_toList] at h
    have asked : t.answer? f.shared = some (m, c) := h
    obtain ⟨unasked, -⟩ | ⟨_, unasked, -⟩ | ⟨m', c', calls, asked', rfl, -⟩ := move.cases_answer
    · simp [unasked] at asked
    · simp [unasked] at asked
    · obtain ⟨rfl, rfl⟩ := Prod.mk.inj (Option.some.inj (asked.symm.trans asked'))
      refine ⟨calls, ?_⟩
      rw [stepped, after, List.getElem?_set_self (List.getElem?_eq_some_iff.mp there).1]

open Exchange (Leads Asked) in
/-- Resolvers agree with plain recomputation, whatever is resolved in whatever order: when callers
come in between each other's look-ups and insertions, when user code resolves and publishes in the
midst of a publish, however that ends, and when threads share a bus. -/
theorem resolvers_agree :
    (∀ s later, Service.Runs {} s → s.Runs later → s.resolver.Agrees s.answers ∧
      s.answers <+: later.answers ∧ later.resolver.Extends s.resolver) ∧
    (∀ (b : BusId) (w : Exchange), w.Reachable →
      (∃ answers, Asked b {} answers w) ∧
      (∀ answers, Asked b {} answers w → (w.resolverOf b).Agrees answers ∧
        ∀ d plan, .published d plan ∈ w.history → d.bus = b →
          ∃ m c, m.tag = d.message.tag ∧ (m, c) ∈ answers) ∧
      (∀ m, (w.resolve b m).2 = m.ancestry) ∧
      (∀ v, Leads w v → (∃ more, Asked b w more v) ∧ (v.resolverOf b).Extends (w.resolverOf b)) ∧
      ∀ depth m, b < w.buses.length → ∃ c more,
        Asked b w ((m, c) :: more) (publish (runner depth) b m w).1) ∧
    (∀ stops programs schedule later,
      let start := Fleet.starting stops programs
      let f := start.run schedule
      f.shared.resolver.Agrees (start.answers schedule) ∧
      (f.run later).shared.resolver.Extends f.shared.resolver ∧
      ∀ i m c, (m, c) ∈ f.answered i → ∃ calls,
        (f.step i).threads[i]? = some ⟨.looking m c.tags [], calls⟩) := by
  refine ⟨?_, ?_, ?_⟩
  · intro s later run rest
    have regular := run.regular Service.regular_new
    exact ⟨regular.serves.agrees, rest.answers_prefix, rest.extends regular⟩
  · intro b w reachable
    refine ⟨Leads.asked reachable b, ?_, reachable.resolve_eq_ancestry b, ?_, ?_⟩
    · intro answers asked
      exact ⟨asked.serves.agrees, fun d plan hd same => asked.published hd same⟩
    · intro v later
      exact ⟨later.asked b, reachable.extends later b⟩
    · intro depth m hb
      exact ⟨_, Exchange.asked_publish depth m hb⟩
  · intro stops programs schedule later start f
    obtain ⟨s, run, shares, answers⟩ := (shares_starting stops programs).run schedule
    obtain ⟨s', rest, shares', -⟩ := shares.run later
    have regular := run.regular Service.regular_new
    have agrees := regular.serves.agrees
    rw [answers, ← shares.resolver] at agrees
    have grown := rest.extends regular
    rw [← shares.resolver, ← shares'.resolver] at grown
    exact ⟨agrees, grown, fun i m c => Fleet.looking_of_answered⟩

/-- Two threads compute a chain for one type, and both are answered with the one kept first. -/
example : (Fleet.starting (fun _ _ _ => false)
      [[.publish (.top "Left" default)], [.publish (.top "Left" default)]]).answers
        [0, 1, 0, 1, 1, 0] =
    [(.top "Left" default, ⟨1, [.root, .child "Left" .root]⟩),
      (.top "Left" default, ⟨1, [.root, .child "Left" .root]⟩)] := rfl

/-- A message of a type that is declared below another one. -/
def pup : Message := .sub "Dog" (.top "Animal" default) default

/-- A bus on which a message is published twice. It is returned at first; the second time a mailbox
panics. -/
def unlucky : Exchange :=
  Exchange.run {}
    [(2, .openBus "bus" (.responding (fun _ _ => .mk [] .succeed) fun _ _ => .mk [] .succeed)),
      (2, .publish "bus" pup 1),
      (2, .openMailbox "one" "one" { tag := .root }
        (.responding (fun _ _ => .mk [] (.panic "no")) false none) none),
      (2, .subscribe "bus" "one" false),
      (2, .publish "bus" pup 1)]

/-- One type is known then, and not the one above it. -/
theorem resolvers_agree_unlucky :
    unlucky.Reachable ∧ (unlucky.resolverOf 0).size = 1 ∧
      (unlucky.resolve 0 pup).2 =
        [.root, .child "Animal" .root, .child "Dog" (.child "Animal" .root)] ∧
      ∃ answers, Exchange.Asked 0 {} answers unlucky ∧
        (answers.map (·.1.tag)).toFinset.card = 1 := by
  have comes : unlucky.Reachable := Exchange.reachable_run _
  obtain ⟨-, exchange, -⟩ := resolvers_agree
  obtain ⟨⟨answers, asked⟩, agree, plain, -, -⟩ := exchange 0 unlucky comes
  have known : (unlucky.resolverOf 0).size = 1 := by cbv
  exact ⟨comes, known, plain pup, answers, asked, (agree answers asked).1.size ▸ known⟩

end MessageBus.Concurrency
