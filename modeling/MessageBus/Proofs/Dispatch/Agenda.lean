import MessageBus.Proofs.Exchange.Orderly
import MessageBus.Proofs.Exchange.Sound

namespace MessageBus

namespace Roll

/-- Whom a message is for: for each type it belongs to, from the root down, the subscriptions to
exactly that type, in the order in which they were made. -/
def agenda (S : Roll) (m : Message) : List (Tag × Subscription) :=
  m.ancestry.flatMap fun t => (S.listFor t).map fun s => (t, s)

theorem map_agenda (S : Roll) (m : Message) :
    (S.agenda m).map (·.2) = m.ancestry.flatMap S.listFor := by
  rw [agenda, List.map_flatMap]
  refine List.flatMap_congr fun t _ => ?_
  rw [List.map_map]
  exact List.map_id _

theorem mem_map_agenda {S : Roll} {m : Message} {s : Subscription} :
    s ∈ (S.agenda m).map (·.2) ↔ s ∈ S ∧ s.mailbox.tag ∈ m.ancestry := by
  rw [map_agenda, List.mem_flatMap]
  constructor
  · rintro ⟨t, ht, hs⟩
    obtain ⟨member, rfl⟩ := mem_listFor.mp hs
    exact ⟨member, ht⟩
  · rintro ⟨member, ht⟩
    exact ⟨_, ht, mem_listFor.mpr ⟨member, rfl⟩⟩

/-- A message is for nobody when nobody is subscribed to a type it belongs to. -/
theorem agenda_eq_nil {S : Roll} {m : Message} :
    S.agenda m = [] ↔ ∀ s ∈ S, s.mailbox.tag ∉ m.ancestry := by
  rw [← List.map_eq_nil_iff (f := (·.2)), List.eq_nil_iff_forall_not_mem]
  constructor
  · exact fun h s hs ht => h s (mem_map_agenda.mpr ⟨hs, ht⟩)
  · exact fun h s hs => h s (mem_map_agenda.mp hs).1 (mem_map_agenda.mp hs).2

/-- The routes for some types lead to the lists of those types, one after another. -/
theorem plan_routes (S : Roll) (tags : List Tag) :
    Route.plan (tags.filterMap S.route?) =
      tags.flatMap fun t => (S.listFor t).map fun s => (t, s) := by
  induction tags with
  | nil => rfl
  | cons t tags ih =>
    rw [List.flatMap_cons, ← ih, List.filterMap_cons, route?]
    by_cases ht : S.listFor t = []
    · simp [ht]
    · simp [ht, Route.plan]

/-- Every subscription to a type that a message belongs to is on its agenda once. -/
theorem countP_agenda (S : Roll) (m : Message) (p : Subscription → Bool) :
    ((S.agenda m).map (·.2)).countP p =
      S.countP fun s => p s && decide (s.mailbox.tag ∈ m.ancestry) := by
  rw [map_agenda, countP_lists S p m.ancestry (Tag.nodup_lineage m.tag)]

/-- In which order subscriptions to different types were made does not matter. -/
theorem map_mailbox_agenda {S S' : Roll} (m : Message)
    (h : ∀ t, (S'.listFor t).map (·.mailbox) = (S.listFor t).map (·.mailbox)) :
    ((S'.agenda m).map (·.2)).map (·.mailbox) = ((S.agenda m).map (·.2)).map (·.mailbox) := by
  rw [map_agenda, map_agenda, List.map_flatMap, List.map_flatMap]
  exact List.flatMap_congr fun t _ => h t

end Roll

/-- A live subscription was made. -/
theorem subscribed_of_live {b : BusId} {h : List Occurrence} {s : Subscription}
    (hs : s ∈ live b h) : .subscribed b s ∈ h := by
  induction h using List.reverseRecOn with
  | nil => simp [live] at hs
  | append_singleton h o ih =>
    rw [live_append, List.foldl_cons, List.foldl_nil] at hs
    rw [List.mem_append]
    cases o with
    | subscribed c x =>
      simp only [Occurrence.amend] at hs
      split at hs
      · next e =>
        rcases List.mem_append.mp hs with hs | hs
        · exact .inl (ih hs)
        · rw [List.mem_singleton.mp hs, e]
          exact .inr (List.mem_singleton.mpr rfl)
      · exact .inl (ih hs)
    | unsubscribed c x =>
      simp only [Occurrence.amend] at hs
      split at hs
      · exact .inl (ih (Roll.mem_of_mem_without hs))
      · exact .inl (ih hs)
    | cleared c =>
      simp only [Occurrence.amend] at hs
      split at hs
      · simp at hs
      · exact .inl (ih hs)
    | _ => exact .inl (ih hs)

/-- The numbers of live subscriptions are among those given. -/
theorem seq_mem_numbers {b : BusId} {h : List Occurrence} {s : Subscription}
    (hs : s ∈ live b h) : s.seq ∈ numbers b h :=
  List.mem_filterMap.mpr ⟨_, subscribed_of_live hs, by simp [Occurrence.seq?]⟩

namespace Exchange

/-- A subscription that is made later is not one that is live before. -/
theorem Sound.not_live_of_later {v : Exchange} (hv : v.Sound) {b : BusId} {cell : BusCell}
    (hb : v.buses[b]? = some cell) {h new : List Occurrence} (hist : v.history = h ++ new)
    {s : Subscription} (hs : .subscribed b s ∈ new) : s ∉ live b h := by
  intro before
  have all := (hv.fits b cell hb).numbers
  rw [hist, numbers_append] at all
  have apart := (List.nodup_append.mp (all ▸ List.nodup_range)).2.2
  have later : s.seq ∈ numbers b new := List.mem_filterMap.mpr ⟨_, hs, by simp [Occurrence.seq?]⟩
  exact apart _ (seq_mem_numbers before) _ later rfl

theorem plan_entriesFor {r : Registry} {S : Roll} (lists : r.Lists S) (m : Message) :
    Route.plan (r.entriesFor m.ancestry) = S.agenda m := by
  rw [lists.entriesFor, Roll.plan_routes]
  rfl

/-- What a publish is to deliver is the agenda of its message, as things stand when it begins. -/
theorem Sound.plan_eq {w : Exchange} (h : w.Sound) {b : BusId} (hb : b < w.buses.length)
    (m : Message) :
    Route.plan ((w.resolve b m).1.routesFor b (w.resolve b m).2) =
      (live b w.history).agenda m := by
  have here := List.getElem?_eq_getElem hb
  obtain ⟨lists, -, chains⟩ := h.fits b _ here
  obtain ⟨u, -, e⟩ := resolve_some here m
  have chain : (w.resolve b m).2 = m.ancestry := by
    rw [e]
    exact chains.tags_resolve m
  have routes : (w.resolve b m).1.routesFor b (w.resolve b m).2 =
      w.buses[b].registry.entriesFor m.ancestry := by
    simp [routesFor, getElem?_resolve here m, chain]
  rw [routes, plan_entriesFor lists]

/-- A history in which every dispatch follows the agenda of its message as things stood when it
began. -/
def Planned (h : List Occurrence) : Prop :=
  ∀ h₁ d plan h₂, h = h₁ ++ .published d plan :: h₂ → plan = (live d.bus h₁).agenda d.message

theorem Planned.snoc {h : List Occurrence} (hp : Planned h) {o : Occurrence}
    (ho : ∀ d plan, o = .published d plan → plan = (live d.bus h).agenda d.message) :
    Planned (h ++ [o]) := by
  intro h₁ d plan h₂ e
  rcases List.eq_nil_or_concat h₂ with rfl | ⟨mid, last, rfl⟩
  · obtain ⟨rfl, same⟩ := List.append_inj' e rfl
    exact ho d plan (List.singleton_inj.mp same)
  · rw [List.concat_eq_append, ← List.cons_append, ← List.append_assoc] at e
    exact hp h₁ d plan mid (List.append_inj' e rfl).1

theorem Planned.append {h new : List Occurrence} (hp : Planned h)
    (hn : ∀ d plan, .published d plan ∉ new) : Planned (h ++ new) := by
  induction new generalizing h with
  | nil => rwa [List.append_nil]
  | cons o new ih =>
    have next := hp.snoc (o := o) fun d plan e => absurd (e ▸ List.mem_cons_self) (hn d plan)
    have all := ih next fun d plan member => hn d plan (List.mem_cons_of_mem o member)
    rwa [List.append_assoc] at all

/-- The routes for a chain that a bus knows lead to the agenda of the message, as things stand. -/
theorem Sound.plan_routes {w : Exchange} (h : w.Sound) {b : BusId} {m : Message} {cell : BusCell}
    {c : Chain} (hb : w.buses[b]? = some cell) (hc : cell.resolver.find? m.tag = some c) :
    Route.plan (w.routesFor b c.tags) = (live b w.history).agenda m := by
  obtain ⟨lists, -, chains⟩ := h.fits b cell hb
  have chain : c.tags = m.ancestry := chains m.tag c hc
  rw [routesFor, hb, chain]
  exact plan_entriesFor lists m

theorem Sound.planned_begun {w : Exchange} (h : w.Sound) {b : BusId} {m : Message} {cell : BusCell}
    {c : Chain} (hb : w.buses[b]? = some cell) (hc : cell.resolver.find? m.tag = some c)
    (hp : Planned w.history) :
    Planned (w.beginDispatch (w.nextDispatch b m) (w.routesFor b c.tags)).history := by
  have hist : (w.beginDispatch (w.nextDispatch b m) (w.routesFor b c.tags)).history =
      w.history ++ [.published (w.nextDispatch b m) (Route.plan (w.routesFor b c.tags))] :=
    history_record _ _
  rw [hist]
  refine hp.snoc fun d plan e => ?_
  rw [Occurrence.published.injEq] at e
  obtain ⟨rfl, rfl⟩ := e
  exact h.plan_routes hb hc

theorem Reachable.planned {w : Exchange} (h : w.Reachable) : Planned w.history := by
  have kept {u v : Exchange} {new : List Occurrence} (hist : v.history = u.history ++ new)
      (hn : ∀ d plan, .published d plan ∉ new) (hp : Planned u.history) : Planned v.history := by
    rw [hist]
    exact hp.append hn
  -- A plan is judged by what happened before it, so only the changes that begin a dispatch count.
  induction h with
  | refl => exact fun h₁ d plan h₂ e => by simp [history] at e
  | @tail u v run step ih =>
    rcases step with step | step
    · obtain ⟨-, new, hist, aside⟩ := step.aside
      refine kept hist (fun d plan member => ?_) ih
      simpa [Occurrence.dispatch?] using aside _ member
    · cases step with
      | begun b m cell c hb hc => exact (Reachable.sound run).planned_begun hb hc ih
      | invoked | answered | heard | released | concluded =>
        exact kept (history_record _ _) (by simp) ih
      | returned d x =>
        have passes := ((Passes.refl d.number u).mark (.returned d x) rfl).keepReturned x
        exact kept passes.history (by simp) ih
      | failed d x =>
        have passes := ((Passes.refl d.number u).mark (.failed d x) rfl).keepFailed x
        exact kept passes.history (by simp) ih

end Exchange

end MessageBus
