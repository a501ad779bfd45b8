import MessageBus.Proofs.Concurrency.Deeds
import MessageBus.Proofs.Message.Narrowing

namespace MessageBus.Concurrency

def Call.Sighted : Call → Prop
  | .subscribe m => m.target.blind = false
  | _ => True

/-- Whether the mailbox of a subscription sees a message. -/
def Sees (m : Message) (x : Subscription) : Prop := (x.mailbox.target.narrow m).isSome = true

/-- What a thread subscribes is not blind, and what it hands a message to sees the message. -/
def Stage.Sighted : Stage → Prop
  | .numbered mailbox _ => mailbox.target.blind = false
  | .looking m left found =>
    (∀ t ∈ left, t ∈ m.ancestry) ∧ ∀ route ∈ found, ∀ x ∈ route.subscriptions, Sees m x
  | .delivering m left => ∀ x ∈ left, Sees m x
  | _ => True

structure Thread.Sighted (t : Thread) : Prop where
  stage : t.stage.Sighted
  calls : ∀ call ∈ t.calls, call.Sighted

variable {f : Fleet} {s : Shared} {t t' : Thread} {acts : List Action} {r : Registry} {v : Resolver}
  {i : Nat} {programs : List (List Call)} {m : Message}

/-- What is listed for a type of a message sees the message, unless it is blind. -/
theorem Kept.sees (h : Kept f)
    (sighted : ∀ x ∈ entered f.shared.events, x.mailbox.target.blind = false) {u : Tag}
    (belongs : u ∈ m.ancestry) : ∀ x ∈ f.shared.registry.listFor u, Sees m x := by
  intro x hx
  rw [h.lists.listFor, Roll.mem_listFor] at hx
  obtain ⟨alive, rfl⟩ := hx
  rw [h.live_eq] at alive
  exact (Target.isSome_narrow (sighted x (List.mem_filter.mp alive).1) m).mpr belongs

/-- A thread whose mailboxes are not blind makes none that is, and hands no message to one that does
not see it. -/
theorem Move.sighted (kept : Kept f) (chains : f.shared.resolver.Sound) (exact : t.Exact)
    (sighted : ∀ x ∈ entered f.shared.events, x.mailbox.target.blind = false) (h : t.Sighted)
    (move : Move f.shared t acts t' r v) :
    t'.Sighted ∧ (∀ m x, .mismatched m x ∉ acts) ∧
      ∀ x ∈ acts.filterMap Action.entered?, x.mailbox.target.blind = false := by
  have rest {call : Call} {calls : List Call} (all : ∀ c ∈ call :: calls, c.Sighted) :
      ∀ c ∈ calls, c.Sighted := fun c hc => all c (List.mem_cons_of_mem _ hc)
  cases move with
  | rest => exact ⟨h, by simp, by simp⟩
  | number m calls => exact ⟨⟨h.calls _ List.mem_cons_self, rest h.calls⟩, by simp, by simp⟩
  | append m n calls =>
    have here : m.target.blind = false := h.stage
    exact ⟨⟨trivial, h.calls⟩, by simp, by simpa [Action.entered?] using here⟩
  | fail m calls absent => exact ⟨⟨trivial, rest h.calls⟩, by simp, by simp [Action.entered?]⟩
  | remove m calls found => exact ⟨⟨trivial, rest h.calls⟩, by simp, by simp [Action.entered?]⟩
  | prune x calls => exact ⟨⟨trivial, h.calls⟩, by simp, by simp⟩
  | known m calls cached =>
    have tags : _ = m.ancestry := chains m.tag _ cached
    exact ⟨⟨⟨fun t ht => tags ▸ ht, by simp⟩, rest h.calls⟩, by simp, by simp⟩
  | miss m calls unkept => exact ⟨⟨trivial, rest h.calls⟩, by simp, by simp⟩
  | compute m calls => exact ⟨⟨trivial, h.calls⟩, by simp, by simp⟩
  | keep m c calls =>
    have tags : _ = m.ancestry := chains.tags_keep exact
    exact ⟨⟨⟨fun t ht => tags ▸ ht, by simp⟩, h.calls⟩, by simp, by simp⟩
  | look m u left found calls =>
    obtain ⟨belong, seen⟩ := h.stage
    refine ⟨⟨⟨fun t ht => belong t (List.mem_cons_of_mem _ ht), fun route hr => ?_⟩, h.calls⟩,
      by simp, by simp [Action.entered?]⟩
    rcases List.mem_append.mp hr with old | new
    · exact seen route old
    · have listed := kept.sees sighted (belong u List.mem_cons_self)
      rw [Registry.routeFor] at new
      split at new
      · simp at new
      · next first others same =>
        rw [List.mem_singleton.mp new, ← same]
        exact listed
  | giveBack m calls => exact ⟨⟨trivial, h.calls⟩, by simp, by simp [Action.entered?]⟩
  | handOut m route routes calls =>
    refine ⟨⟨fun x hx => ?_, h.calls⟩, by simp, by simp⟩
    obtain ⟨one, there, hx⟩ := List.mem_flatMap.mp hx
    exact h.stage.2 one there x hx
  | finish m calls => exact ⟨⟨trivial, h.calls⟩, by simp, by simp⟩
  | invoke m x left calls seen goes =>
    exact ⟨⟨fun y hy => h.stage y (List.mem_cons_of_mem _ hy), h.calls⟩, by simp,
      by simp [Action.entered?]⟩
  | stop m x left calls seen stops =>
    exact ⟨⟨trivial, h.calls⟩, by simp, by simp [Action.entered?]⟩
  | mismatch m x left calls unseen =>
    have seen : Sees m x := h.stage x List.mem_cons_self
    rw [Sees, unseen] at seen
    cases seen

/-- Nobody is blind, and no message was handed to a mailbox that did not see it. -/
structure Sighted (f : Fleet) : Prop where
  made : ∀ x ∈ entered f.shared.events, x.mailbox.target.blind = false
  threads : ∀ {j : Nat} {u : Thread}, f.threads[j]? = some u → u.Sighted
  matched : ∀ j m x, (j, .mismatched m x) ∉ f.shared.events

theorem Sighted.after (h : Sighted f) (regular : Regular programs f)
    (there : f.threads[i]? = some t) (move : Move f.shared t acts t' r v) :
    Sighted (f.after i acts t' r v) := by
  obtain ⟨thread, matched, made⟩ := move.sighted regular.kept regular.chains.resolver
    (regular.chains.threads there) h.made (h.threads there)
  constructor
  · rw [entered_after]
    exact List.forall_mem_append.mpr ⟨h.made, made⟩
  · intro j u hu
    rcases Fleet.thread_after hu with ⟨-, rfl⟩ | ⟨-, old⟩
    · exact thread
    · exact h.threads old
  · intro j m x mem
    rw [f.events_after, List.mem_append] at mem
    rcases mem with mem | mem
    · exact h.matched j m x mem
    · obtain ⟨a, ha, same⟩ := List.mem_map.mp mem
      exact matched m x ((Prod.mk.inj same).2 ▸ ha)

theorem sighted_starting (stops : List Event → Message → Mailbox → Bool)
    (sighted : ∀ program ∈ programs, ∀ call ∈ program, call.Sighted) :
    Sighted (Fleet.starting stops programs) := by
  refine ⟨by simp [Fleet.starting, Shared.events, entered], fun {j u} hu => ?_,
    by simp [Fleet.starting, Shared.events]⟩
  rw [Fleet.starting, List.getElem?_map] at hu
  obtain ⟨program, there, rfl⟩ := Option.map_eq_some_iff.mp hu
  exact ⟨trivial, sighted program (List.mem_of_getElem? there)⟩

/-- Where no mailbox is blind, no message is handed to one that does not see it. -/
theorem sighted_run (stops : List Event → Message → Mailbox → Bool)
    (sighted : ∀ program ∈ programs, ∀ call ∈ program, call.Sighted) (schedule : List Nat) :
    Sighted ((Fleet.starting stops programs).run schedule) := by
  have run := Fleet.run_induction (P := fun f => Regular programs f ∧ Sighted f)
    (f := Fleet.starting stops programs)
    ⟨regular_starting stops programs, sighted_starting stops sighted⟩
    (fun _ _ _ _ _ _ _ there move ⟨h, sees⟩ => ⟨h.after there move, sees.after h there move⟩)
    schedule
  exact run.2

end MessageBus.Concurrency
