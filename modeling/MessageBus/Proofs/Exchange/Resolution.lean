import MessageBus.Proofs.Exchange.Sound
import MessageBus.Proofs.Message.Service

namespace MessageBus.Exchange

/-- The resolver of a bus; that of a bus which is yet to be made has kept nothing. -/
def resolverOf (w : Exchange) (b : BusId) : Resolver := ((w.buses[b]?).map (·.resolver)).getD {}

variable {w v u : Exchange} {b c : BusId} {m : Message}

theorem resolverOf_eq {cell : BusCell} (hb : w.buses[b]? = some cell) :
    w.resolverOf b = cell.resolver := by
  rw [resolverOf, hb]
  rfl

theorem resolverOf_of_map (h : v.buses.map (·.resolver) = w.buses.map (·.resolver)) (b : BusId) :
    v.resolverOf b = w.resolverOf b := by
  rw [resolverOf, resolverOf, ← List.getElem?_map, ← List.getElem?_map, h]

theorem resolverOf_addBus (w : Exchange) (deadLetters failures : Sink) (b : BusId) :
    (w.addBus deadLetters failures).1.resolverOf b = w.resolverOf b := by
  rw [resolverOf, resolverOf, addBus]
  rcases Nat.lt_trichotomy b w.buses.length with below | rfl | above
  · rw [List.getElem?_append_left below]
  · rw [List.getElem?_concat_length, List.getElem?_eq_none (Nat.le_refl _)]
    rfl
  · rw [List.getElem?_eq_none (Nat.le_of_lt above), List.getElem?_eq_none]
    rw [List.length_append, List.length_singleton]
    exact above

theorem resolve_eq (hb : b < w.buses.length) (m : Message) :
    (w.resolve b m).2 = ((w.resolverOf b).resolve m).2.tags ∧
      (w.resolve b m).1.resolverOf b = ((w.resolverOf b).resolve m).1 := by
  have here := List.getElem?_eq_getElem hb
  obtain ⟨_, -, e⟩ := resolve_some here m
  rw [resolverOf_eq here, resolverOf_eq (getElem?_resolve here m), e]
  exact ⟨rfl, rfl⟩

theorem resolverOf_resolve_of_ne (other : b ≠ c) (m : Message) :
    (w.resolve c m).1.resolverOf b = w.resolverOf b := by
  cases hc : w.buses[c]? with
  | none => rw [resolve_none hc]
  | some cell =>
    rw [resolverOf, resolverOf, buses_resolve hc, List.getElem?_modify_ne _ _ (Ne.symm other)]

/-- A single change leaves the resolver of a bus as it is, unless it resolves a message there. -/
theorem Move.cases_resolver (step : Move w v) (b : BusId) :
    v.resolverOf b = w.resolverOf b ∨ ∃ m, b < w.buses.length ∧ v = (w.resolve b m).1 := by
  cases step with
  | resolved c m =>
    rcases Nat.lt_or_ge c w.buses.length with there | absent
    · by_cases same : b = c
      · subst same
        exact .inr ⟨m, there, rfl⟩
      · exact .inl (resolverOf_resolve_of_ne same m)
    · rw [resolve_none (List.getElem?_eq_none absent)]
      exact .inl rfl
  | bus deadLetters failures => exact .inl (resolverOf_addBus w deadLetters failures b)
  | struck x =>
    cases x with
    | bus c =>
      refine .inl (resolverOf_of_map (map_modify_of_still _ _ ?_ c w.buses) b)
      exact fun _ => rfl
    | mailbox | recorder => exact .inl rfl
  | subscribed c | unsubscribed c | cleared c | returnedCalled c | failedCalled c =>
    refine .inl (resolverOf_of_map (map_modify_of_still _ _ ?_ c w.buses) b)
    exact fun _ => rfl
  | _ => exact .inl rfl

theorem Mark.resolverOf_eq (step : Mark w v) (b : BusId) : v.resolverOf b = w.resolverOf b := by
  cases step with
  | returned d x =>
    rw [keepReturned]
    split <;> rfl
  | failed d x =>
    rw [keepFailed]
    split <;> rfl
  | _ => rfl

/-- What is asked of the resolver of a bus on the way from one exchange to another: the messages
that are resolved, and the chains that they are answered with. A change that leaves the resolver as
it is may be passed over. -/
inductive Asked (b : BusId) (w : Exchange) : List (Message × Chain) → Exchange → Prop
  | nothing : Asked b w [] w
  | resolved {answers : List (Message × Chain)} {v : Exchange} (before : Asked b w answers v)
      (m : Message) (hb : b < v.buses.length) :
      Asked b w (answers ++ [(m, ((v.resolverOf b).resolve m).2)]) (v.resolve b m).1
  | other {answers : List (Message × Chain)} {v u : Exchange} (before : Asked b w answers v)
      (step : Move v u ∨ Mark v u) (still : u.resolverOf b = v.resolverOf b) : Asked b w answers u

variable {answers more : List (Message × Chain)}

theorem Asked.leads (h : Asked b w answers v) : Leads w v := by
  induction h with
  | nothing => exact .refl
  | resolved _ m _ ih => exact ih.tail (.inl (.resolved _ b m))
  | other _ step _ ih => exact ih.tail step

theorem Asked.trans (first : Asked b w answers v) (second : Asked b v more u) :
    Asked b w (answers ++ more) u := by
  induction second with
  | nothing => rwa [List.append_nil]
  | resolved _ m hb ih =>
    rw [← List.append_assoc]
    exact ih.resolved m hb
  | other _ step still ih => exact ih.other step still

/-- Wherever user code leads, it asks something of the resolver of a bus. -/
theorem Leads.asked (h : Leads w v) (b : BusId) : ∃ answers, Asked b w answers v := by
  induction h with
  | refl => exact ⟨[], .nothing⟩
  | tail _ step ih =>
    obtain ⟨answers, before⟩ := ih
    rcases step with step | step
    · obtain still | ⟨m, hb, rfl⟩ := step.cases_resolver b
      · exact ⟨answers, before.other (.inl step) still⟩
      · exact ⟨_, before.resolved m hb⟩
    · exact ⟨answers, before.other (.inr step) (step.resolverOf_eq b)⟩

/-- The resolver of a bus does nothing but resolve messages. -/
theorem Asked.runs (h : Asked b w answers v) (s : Service) (same : s.resolver = w.resolverOf b) :
    ∃ computed, Service.Runs s ⟨v.resolverOf b, computed, s.answers ++ answers⟩ := by
  induction h with
  | nothing => exact ⟨s.computed, by rw [← same, List.append_nil]; exact .refl⟩
  | @resolved answers v _ m hb ih =>
    obtain ⟨computed, before⟩ := ih
    obtain ⟨computed, resolved⟩ := Service.runs_resolve
      ⟨v.resolverOf b, computed, s.answers ++ answers⟩ m
    refine ⟨computed, ?_⟩
    rw [(resolve_eq hb m).2, ← List.append_assoc]
    exact before.trans resolved
  | other _ _ still ih =>
    rw [still]
    exact ih

theorem Asked.serves (h : Asked b {} answers w) : (w.resolverOf b).Serves answers := by
  obtain ⟨computed, run⟩ := h.runs {} rfl
  exact (run.regular Service.regular_new).serves

theorem Reachable.extends (h : w.Reachable) (later : Leads w v) (b : BusId) :
    (v.resolverOf b).Extends (w.resolverOf b) := by
  obtain ⟨answers, asked⟩ := Leads.asked h b
  obtain ⟨more, asked'⟩ := later.asked b
  exact asked.serves.extends (asked.trans asked').serves

/-- A message is answered the types that it belongs to. -/
theorem Reachable.resolve_eq_ancestry (h : w.Reachable) (b : BusId) (m : Message) :
    (w.resolve b m).2 = m.ancestry := by
  rcases Nat.lt_or_ge b w.buses.length with there | absent
  · obtain ⟨answers, asked⟩ := Leads.asked h b
    rw [(resolve_eq there m).1]
    exact asked.serves.agrees.sound.tags_resolve m
  · rw [resolve_none (List.getElem?_eq_none absent)]

/-- Of the type of every message that was published a message was resolved. -/
theorem Asked.published (h : Asked b {} answers w) {d : Dispatch} {plan : List (Tag × Subscription)}
    (hd : .published d plan ∈ w.history) (same : d.bus = b) :
    ∃ m c, m.tag = d.message.tag ∧ (m, c) ∈ answers := by
  obtain ⟨cell, c, hb, hc⟩ := (Reachable.sound h.leads).kept d plan hd
  rw [same] at hb
  rw [← resolverOf_eq hb] at hc
  obtain ⟨m, tag, asked⟩ := (h.serves.kept _ c).mp hc
  exact ⟨m, c, tag, asked⟩

/-- A publish resolves its message first, whatever it comes to then and however it ends. -/
theorem asked_publish (depth : Nat) (m : Message) (hb : b < w.buses.length) :
    ∃ more,
      Asked b w ((m, ((w.resolverOf b).resolve m).2) :: more) (publish (runner depth) b m w).1 := by
  have first : Asked b w [(m, ((w.resolverOf b).resolve m).2)] (w.resolve b m).1 :=
    Asked.nothing.resolved m hb
  have dispatched := (Leads.traced (lawful_leads.runner depth)).witnessed.dispatch b m w hb
  obtain ⟨more, rest⟩ := dispatched.asked b
  exact ⟨more, first.trans rest⟩

end MessageBus.Exchange
