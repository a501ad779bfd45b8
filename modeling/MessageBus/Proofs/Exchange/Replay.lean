import MessageBus.Proofs.Exchange.Sound
import MessageBus.Proofs.Registry.Numbering

namespace MessageBus

/-- What an occurrence makes of the registry of a bus. -/
def Occurrence.replay (b : BusId) (r : Registry) : Occurrence → Registry
  | .subscribed c s => if c = b then (r.subscribe s.mailbox).1 else r
  | .unsubscribed c m =>
    if c = b then
      match r.unsubscribe m with
      | .ok (left, _) => left
      | .error _ => r
    else r
  | .cleared c => if c = b then r.clear.1 else r
  | _ => r

/-- Whatever happens leaves a registry with lists that are not empty. -/
theorem Occurrence.filled_replay {b : BusId} {r : Registry} {S : Roll} (filled : r.Filled)
    (lists : r.Lists S) (o : Occurrence) :
    (o.replay b r).Filled ∧ ∃ T : Roll, (o.replay b r).Lists T := by
  cases o with
  | subscribed c s =>
    rw [replay]
    split
    · exact ⟨Registry.Filled.append (r := r.takeSeq.1) filled _, _, lists.subscribe s.mailbox⟩
    · exact ⟨filled, S, lists⟩
  | unsubscribed c m =>
    rw [replay]
    split
    · split
      · next left x done =>
        refine ⟨filled.unsubscribe lists done, ?_⟩
        rw [Registry.unsubscribe] at done
        split at done
        · simp at done
        · next shorter y found =>
          rw [← (Prod.mk.inj (Except.ok.inj done)).1]
          exact ⟨_, (lists.remove found).2.1.prune m.tag⟩
      · exact ⟨filled, S, lists⟩
    · exact ⟨filled, S, lists⟩
  | cleared c =>
    rw [replay]
    split
    · exact ⟨by simp [Registry.Filled, Registry.clear], [], Registry.lists_clear r⟩
    · exact ⟨filled, S, lists⟩
  | _ => exact ⟨filled, S, lists⟩

namespace Exchange

/-- The registry of a bus; that of a bus which is yet to be made is empty. -/
def registryOf (w : Exchange) (b : BusId) : Registry := ((w.buses[b]?).map (·.registry)).getD {}

variable {w v u : Exchange} {b : BusId}

theorem registryOf_eq {cell : BusCell} (hb : w.buses[b]? = some cell) :
    w.registryOf b = cell.registry := by
  rw [registryOf, hb]
  rfl

/-- A relation between exchanges before and after: the registry of a bus is what the occurrences in
between made of it. -/
def Replays (b : BusId) (w v : Exchange) : Prop :=
  ∃ new, v.history = w.history ++ new ∧
    v.registryOf b = new.foldl (Occurrence.replay b) (w.registryOf b)

namespace Replays

theorem trans (h : Replays b w v) (h' : Replays b v u) : Replays b w u := by
  obtain ⟨new, hist, registry⟩ := h
  obtain ⟨new', hist', registry'⟩ := h'
  refine ⟨new ++ new', ?_, ?_⟩
  · rw [hist', hist, List.append_assoc]
  · rw [registry', registry, List.foldl_append]

/-- A change of which at most one thing is told, and that leaves registries alone. -/
theorem of_still (registries : v.buses.map (·.registry) = w.buses.map (·.registry))
    (trace : v.trace = w.trace) : Replays b w v := by
  refine ⟨[], by simp [history, trace], ?_⟩
  rw [registryOf, registryOf, ← List.getElem?_map, ← List.getElem?_map, registries]
  rfl

theorem record (h : Replays b w v) {o : Occurrence} (still : ∀ r : Registry, o.replay b r = r) :
    Replays b w (v.record o) :=
  h.trans ⟨[o], history_record v o, (still _).symm⟩

theorem refl (w : Exchange) : Replays b w w := of_still rfl rfl

theorem log (h : Replays b w v) (e : Log.Event) : Replays b w (v.log e) :=
  (h.trans (of_still rfl rfl : Replays b v { v with book := v.book.note e })).record fun _ => rfl

theorem modifyBus {c : BusId} {f : BusCell → BusCell} (still : ∀ c, (f c).registry = c.registry) :
    Replays b w (w.modifyBus c f) :=
  of_still (map_modify_of_still _ f still c w.buses) rfl

/-- A change of the registry of one bus that is told of. -/
theorem amended {c : BusId} {cell : BusCell} {registry : Registry} {o : Occurrence}
    (hc : w.buses[c]? = some cell) (here : o.replay c cell.registry = registry)
    (apart : ∀ a ≠ c, ∀ r : Registry, o.replay a r = r) :
    Replays b w ((w.modifyBus c fun cell => { cell with registry }).record o) := by
  refine ⟨[o], history_record _ _, ?_⟩
  obtain ⟨at_c, others⟩ := getElem?_modifyBus (fun cell => { cell with registry }) hc
  have same : ((w.modifyBus c fun cell => { cell with registry }).record o).registryOf b =
      (w.modifyBus c fun cell => { cell with registry }).registryOf b := rfl
  rw [same, List.foldl_cons, List.foldl_nil]
  by_cases e : b = c
  · subst e
    rw [registryOf_eq at_c, registryOf_eq hc, here]
  · rw [apart b e, registryOf, registryOf, others b e]

end Replays

theorem Move.replays (step : Move w v) (b : BusId) : Replays b w v := by
  cases step with
  | desk | held | journals | recorder | mailbox | called => exact .of_still rfl rfl
  | logged e => exact (Replays.refl w).log e
  | announced a => exact (Replays.refl w).record fun _ => rfl
  | bus deadLetters failures =>
    refine ⟨[], (List.append_nil _).symm, ?_⟩
    rw [List.foldl_nil, registryOf, registryOf, addBus]
    rcases Nat.lt_trichotomy b w.buses.length with below | rfl | above
    · rw [List.getElem?_append_left below]
    · rw [List.getElem?_concat_length, List.getElem?_eq_none (Nat.le_refl _)]
      rfl
    · rw [List.getElem?_eq_none (Nat.le_of_lt above), List.getElem?_eq_none]
      rw [List.length_append, List.length_singleton]
      exact above
  | struck x =>
    cases x with
    | bus c =>
      exact (Replays.modifyBus fun _ => rfl : Replays b w
        (w.modifyBus c fun c => { c with alive := false })).record fun _ => rfl
    | mailbox m =>
      exact (Replays.of_still rfl rfl : Replays b w
        (w.modifyMailbox m fun c => { c with alive := false })).record fun _ => rfl
    | recorder r =>
      exact (Replays.of_still rfl rfl : Replays b w
        (w.modifyRecorder r fun c => { c with alive := false })).record fun _ => rfl
  | resolved c m =>
    cases hc : w.buses[c]? with
    | none =>
      rw [resolve_none hc]
      exact .refl w
    | some cell =>
      obtain ⟨u, rfl | ⟨e, rfl⟩, h⟩ := resolve_some hc m <;> rw [h]
      · exact .modifyBus fun _ => rfl
      · exact ((Replays.refl w).log e).trans (.modifyBus fun _ => rfl)
  | subscribed c cell m hc =>
    have made : Replays b w ((w.modifyBus c fun a =>
        { a with registry := (cell.registry.subscribe m).1 }).record
          (.subscribed c { seq := (cell.registry.subscribe m).2, mailbox := m })) :=
      .amended hc (if_pos rfl) fun a ne r => if_neg (Ne.symm ne)
    exact made.log _
  | unsubscribed c cell m registry s hc _ h =>
    refine .amended hc ?_ fun a ne r => if_neg (Ne.symm ne)
    rw [Occurrence.replay, if_pos rfl, h]
  | cleared c cell hc => exact .amended hc (if_pos rfl) fun a ne r => if_neg (Ne.symm ne)
  | returnedCalled | failedCalled => exact .modifyBus fun _ => rfl
  | emptied r role | broken r role =>
    refine Replays.record ?_ fun _ => rfl
    exact .of_still rfl rfl

theorem Mark.replays (step : Mark w v) (b : BusId) : Replays b w v := by
  cases step with
  | returned d x =>
    have told : Replays b w (w.record (.returned d x)) := (Replays.refl w).record fun _ => rfl
    rw [keepReturned]
    split
    · exact told
    · exact told.trans (.of_still rfl rfl)
  | failed d x =>
    have told : Replays b w (w.record (.failed d x)) := (Replays.refl w).record fun _ => rfl
    rw [keepFailed]
    split
    · exact told
    · exact told.trans (.of_still rfl rfl)
  | begun c m =>
    exact (Replays.of_still rfl rfl : Replays b w { w with dispatches := w.dispatches + 1 }).record
      fun _ => rfl
  | _ => exact (Replays.refl w).record fun _ => rfl

/-- A registry is never changed without being told of. -/
theorem Leads.replays (h : Leads w v) (b : BusId) : Replays b w v := by
  induction h with
  | refl => exact .refl w
  | tail _ step ih => exact ih.trans (step.elim (·.replays b) (·.replays b))

/-- In every run, a registry has lists for types with subscriptions only. -/
theorem Reachable.filled (hw : w.Reachable) (b : BusId) : (w.registryOf b).Filled := by
  obtain ⟨new, -, registry⟩ := Leads.replays hw b
  have kept {r : Registry} {S : Roll} (filled : r.Filled) (lists : r.Lists S) :
      (new.foldl (Occurrence.replay b) r).Filled := by
    clear registry
    induction new generalizing r S with
    | nil => exact filled
    | cons o new ih =>
      obtain ⟨filled, T, lists⟩ := o.filled_replay (b := b) filled lists
      exact ih filled lists
  rw [registry]
  exact kept (by simp [Registry.Filled, registryOf]) Registry.lists_empty

end Exchange

end MessageBus
