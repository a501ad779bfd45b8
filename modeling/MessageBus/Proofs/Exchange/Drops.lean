import MessageBus.Proofs.Exchange.Heard
import MessageBus.Proofs.Exchange.Orderly
import MessageBus.Proofs.Exchange.Sound

namespace MessageBus

/-- Whether a thing is struck off. -/
def Occurrence.drops (x : Ref) : Occurrence → Bool
  | .dropped y => y = x
  | _ => false

theorem Occurrence.drops_iff {x : Ref} {o : Occurrence} : o.drops x = true ↔ o = .dropped x := by
  cases o <;> simp [drops]

/-- How often a thing was struck off. -/
def drops (x : Ref) (h : List Occurrence) : Nat := h.countP (Occurrence.drops x)

theorem drops_append (x : Ref) (h h' : List Occurrence) :
    drops x (h ++ h') = drops x h + drops x h' :=
  List.countP_append

theorem drops_eq_zero {x : Ref} {h : List Occurrence} : drops x h = 0 ↔ .dropped x ∉ h := by
  rw [drops, List.countP_eq_zero]
  constructor
  · exact fun none_drops member => none_drops _ member (Occurrence.drops_iff.mpr rfl)
  · exact fun absent o ho drop => absent (Occurrence.drops_iff.mp drop ▸ ho)

namespace Exchange

/-- Whether a thing is still there, if it was ever made. -/
def status? (w : Exchange) : Ref → Option Bool
  | .mailbox m => (w.mailboxes.map (·.alive))[m]?
  | .bus b => (w.buses.map (·.alive))[b]?
  | .recorder r => (w.recorders.map (·.alive))[r]?

variable {w v : Exchange} {x : Ref}

theorem isAlive_iff : w.isAlive x = true ↔ w.status? x = some true := by
  cases x <;> simp only [isAlive, status?, List.getElem?_map, Option.any_eq_true,
    Option.map_eq_some_iff]

/-- Only the thing that is struck off changes its status. -/
theorem status?_strike (w : Exchange) (x y : Ref) :
    (w.strike x).status? y = if y = x then (w.status? x).map fun _ => false else w.status? y := by
  have changed {α : Type} (l : List α) (alive : α → Bool) (f : α → α)
      (h : ∀ a, alive (f a) = false) (i j : Nat) : ((l.modify i f).map alive)[j]? =
        if j = i then ((l.map alive)[i]?).map fun _ => false else (l.map alive)[j]? := by
    rw [List.getElem?_map, List.getElem?_map, List.getElem?_map, List.getElem?_modify]
    by_cases e : j = i
    · subst e
      cases l[j]? <;> simp [h]
    · simp [e, Ne.symm e]
  cases x <;> cases y <;> simp only [strike, record, modifyMailbox, modifyBus, modifyRecorder,
    status?, reduceCtorEq, if_false, Ref.mailbox.injEq, Ref.bus.injEq, Ref.recorder.injEq]
  all_goals exact changed _ _ _ (fun _ => rfl) _ _

/-- A change that strikes nothing off leaves the status of all things as it is, and may make one. -/
structure Spares (w v : Exchange) : Prop where
  status : ∀ x, v.status? x = w.status? x ∨ w.status? x = none
  buses : ∀ b, v.status? (.bus b) = some false → w.status? (.bus b) = some false
  drops : ∀ x, drops x v.history = drops x w.history

namespace Spares

theorem of_still (status : v.status? = w.status?) (trace : v.trace = w.trace) : Spares w v :=
  ⟨fun x => .inl (congrFun status x), fun b h => by rwa [← status],
    fun x => by rw [history, history, trace]⟩

theorem trans {u : Exchange} (h : Spares u w) (h' : Spares w v) : Spares u v := by
  refine ⟨fun x => ?_, fun b gone => h.buses b (h'.buses b gone),
    fun x => (h'.drops x).trans (h.drops x)⟩
  rcases h.status x, h'.status x with ⟨same | new, same' | new'⟩
  · exact .inl (same'.trans same)
  · exact .inr (same.symm.trans new')
  · exact .inr new
  · exact .inr new

theorem record (h : Spares w v) (o : Occurrence) (ho : ∀ x, o ≠ .dropped x) :
    Spares w (v.record o) := by
  refine ⟨h.status, h.buses, fun x => ?_⟩
  have other : o.drops x = false := by
    cases o with
    | dropped y => exact absurd rfl (ho y)
    | _ => rfl
  rw [history_record, drops_append, h.drops]
  simp [MessageBus.drops, other]

theorem refl (w : Exchange) : Spares w w := of_still rfl rfl

theorem log (w : Exchange) (e : Log.Event) : Spares w (w.log e) :=
  (of_still rfl rfl : Spares w { w with book := w.book.note e }).record (.logged e) (by simp)

theorem modifyMailbox (w : Exchange) (m : MailboxId) (f : MailboxCell → MailboxCell)
    (h : ∀ c, (f c).alive = c.alive) : Spares w (w.modifyMailbox m f) := by
  refine of_still (funext fun x => ?_) rfl
  cases x with
  | mailbox i => exact congrArg (·[i]?) (map_modify_of_still (·.alive) f h m w.mailboxes)
  | _ => rfl

theorem modifyBus (w : Exchange) (b : BusId) (f : BusCell → BusCell)
    (h : ∀ c, (f c).alive = c.alive) : Spares w (w.modifyBus b f) := by
  refine of_still (funext fun x => ?_) rfl
  cases x with
  | bus i => exact congrArg (·[i]?) (map_modify_of_still (·.alive) f h b w.buses)
  | _ => rfl

theorem modifyRecorder (w : Exchange) (r : RecorderId) (f : Recorder → Recorder)
    (h : ∀ c, (f c).alive = c.alive) : Spares w (w.modifyRecorder r f) := by
  refine of_still (funext fun x => ?_) rfl
  cases x with
  | recorder i => exact congrArg (·[i]?) (map_modify_of_still (·.alive) f h r w.recorders)
  | _ => rfl

/-- What is made is added after all that was made before. -/
theorem concat {α : Type} (l : List α) (a : α) (alive : α → Bool) (i : Nat) :
    ((l ++ [a]).map alive)[i]? = (l.map alive)[i]? ∨ (l.map alive)[i]? = none := by
  rw [List.map_append]
  rcases Nat.lt_or_ge i (l.map alive).length with below | above
  · exact .inl (List.getElem?_append_left below)
  · exact .inr (List.getElem?_eq_none above)

theorem addRecorder (w : Exchange) (label : String) : Spares w (w.addRecorder label) := by
  refine ⟨fun x => ?_, fun b gone => gone, fun x => rfl⟩
  cases x with
  | recorder r => exact concat w.recorders _ (·.alive) r
  | _ => exact .inl rfl

theorem addBus (w : Exchange) (deadLetters failures : Sink) :
    Spares w (w.addBus deadLetters failures).1 := by
  refine ⟨fun x => ?_, fun b gone => ?_, fun x => rfl⟩
  · cases x with
    | bus b => exact concat w.buses _ (·.alive) b
    | _ => exact .inl rfl
  · -- A bus is there when it is made.
    simp only [status?, Exchange.addBus, List.map_append, List.map_singleton] at gone ⊢
    rcases Nat.lt_or_ge b (w.buses.map (·.alive)).length with below | above
    · rwa [List.getElem?_append_left below] at gone
    · rw [List.getElem?_append_right above, List.getElem?_singleton] at gone
      split at gone <;> simp at gone

theorem mailbox (w : Exchange) (cell : MailboxCell) :
    Spares w { w with mailboxes := w.mailboxes ++ [cell] } := by
  refine ⟨fun x => ?_, fun b gone => gone, fun x => rfl⟩
  cases x with
  | mailbox m => exact concat w.mailboxes _ (·.alive) m
  | _ => exact .inl rfl

end Spares

/-- A single change either strikes off a thing that is there and that nobody holds, or it strikes
off nothing. -/
theorem Move.cases_drop (step : Move w v) :
    Spares w v ∨ ∃ x, w.holds x = false ∧ w.isAlive x = true ∧ v = w.strike x := by
  cases step with
  | struck x hx ha => exact .inr ⟨x, hx, ha, rfl⟩
  | desk | held | journals => exact .inl (.of_still rfl rfl)
  | logged e => exact .inl (.log w e)
  | announced a => exact .inl ((Spares.refl w).record (.announced a) (by simp))
  | recorder label => exact .inl (.addRecorder w label)
  | bus deadLetters failures => exact .inl (.addBus w deadLetters failures)
  | mailbox cell => exact .inl (.mailbox w cell)
  | called m => exact .inl (.modifyMailbox w m _ fun _ => rfl)
  | resolved b m =>
    cases hb : w.buses[b]? with
    | none =>
      rw [resolve_none hb]
      exact .inl (.refl w)
    | some cell =>
      obtain ⟨u, rfl | ⟨e, rfl⟩, h⟩ := resolve_some hb m <;> rw [h]
      · exact .inl (.modifyBus u b _ fun _ => rfl)
      · exact .inl ((Spares.log w e).trans (.modifyBus _ b _ fun _ => rfl))
  | subscribed b cell m =>
    let subscribe (c : BusCell) : BusCell := { c with registry := (cell.registry.subscribe m).1 }
    have listed := (Spares.modifyBus w b subscribe fun _ => rfl).record
      (.subscribed b { seq := cell.registry.nextSeq, mailbox := m }) (by simp)
    exact .inl (listed.trans (.log _ _))
  | unsubscribed b cell m registry s =>
    refine .inl (Spares.record ?_ (.unsubscribed b m) (by simp))
    exact .modifyBus w b _ fun _ => rfl
  | cleared b cell =>
    refine .inl (Spares.record ?_ (.cleared b) (by simp))
    exact .modifyBus w b _ fun _ => rfl
  | returnedCalled b | failedCalled b => exact .inl (.modifyBus w b _ fun _ => rfl)
  | emptied r role =>
    refine .inl ((Spares.modifyRecorder w r _ fun c => ?_).record (.emptied r role) (by simp))
    cases role <;> rfl
  | broken r role =>
    refine .inl ((Spares.modifyRecorder w r _ fun c => ?_).record (.emptied r role) (by simp))
    cases role <;> rfl

/-- What a dispatch does of itself strikes off nothing. -/
theorem Mark.spares (step : Mark w v) : Spares w v := by
  cases step with
  | begun b m cell c hb hc =>
    exact (Spares.of_still rfl rfl : Spares w { w with dispatches := w.dispatches + 1 }).record
      (.published _ _) (by simp)
  | invoked d s => exact (Spares.refl w).record (.invoked d s) (by simp)
  | answered d s outcome => exact (Spares.refl w).record (.answered d s outcome) (by simp)
  | heard d result => exact (Spares.refl w).record (.heard d result) (by simp)
  | released d result => exact (Spares.refl w).record (.released d result) (by simp)
  | concluded d result => exact (Spares.refl w).record (.concluded d result) (by simp)
  | returned d x =>
    refine ((Spares.refl w).record (.returned d x) (by simp)).trans ?_
    rw [keepReturned]
    split
    · exact .refl _
    · exact .modifyRecorder _ _ _ fun _ => rfl
  | failed d x =>
    refine ((Spares.refl w).record (.failed d x) (by simp)).trans ?_
    rw [keepFailed]
    split
    · exact .refl _
    · exact .modifyRecorder _ _ _ fun _ => rfl

/-- A thing is struck off at most once, and then it is not there any more; a bus that is not there
any more was struck off. -/
structure Mortal (w : Exchange) : Prop where
  once : ∀ x, drops x w.history ≤ if w.status? x = some false then 1 else 0
  buses : ∀ b, w.status? (.bus b) = some false → .dropped (.bus b) ∈ w.history

theorem Spares.mortal (h : Spares w v) (hw : w.Mortal) : v.Mortal := by
  refine ⟨fun x => ?_, fun b gone => ?_⟩
  · have before := hw.once x
    rw [h.drops x]
    rcases h.status x with same | new
    · rwa [same]
    · rw [new, if_neg (by simp)] at before
      omega
  · by_contra absent
    rw [← drops_eq_zero, h.drops, drops_eq_zero] at absent
    exact absent (hw.buses b (h.buses b gone))

theorem history_strike (w : Exchange) (x : Ref) :
    (w.strike x).history = w.history ++ [.dropped x] := by
  cases x <;> exact history_record _ _

theorem mortal_strike (hw : w.Mortal) (ha : w.isAlive x = true) : (w.strike x).Mortal := by
  have there := isAlive_iff.mp ha
  refine ⟨fun y => ?_, fun b gone => ?_⟩
  · have before := hw.once y
    have now : drops y [.dropped x] = if y = x then 1 else 0 := by
      by_cases e : y = x <;> simp [drops, Occurrence.drops, e, Ne.symm]
    rw [history_strike, drops_append, status?_strike, now]
    by_cases e : y = x
    · rw [e, there, if_neg (by simp)] at before
      rw [if_pos e, if_pos e, there, Option.map_some, if_pos rfl, e]
      omega
    · rw [if_neg e, if_neg e]
      exact before
  · rw [history_strike, List.mem_append, List.mem_singleton, Occurrence.dropped.injEq]
    rw [status?_strike] at gone
    split at gone
    · next same => exact .inr same
    · exact .inl (hw.buses b gone)

theorem Leads.mortal (run : Leads w v) (hw : w.Mortal) : v.Mortal := by
  induction run with
  | refl => exact hw
  | tail _ step ih =>
    rcases step with step | step
    · obtain spares | ⟨x, -, ha, rfl⟩ := step.cases_drop
      · exact spares.mortal ih
      · exact mortal_strike ih ha
    · exact step.spares.mortal ih

theorem Reachable.mortal (h : w.Reachable) : w.Mortal :=
  Leads.mortal h ⟨fun x => by simp [drops, history], fun b => by simp [status?]⟩

/-- A change in the course of which a thing is struck off is that drop. -/
theorem drop_of_mem (step : Move w v ∨ Mark w v) {new : List Occurrence}
    (grown : v.history = w.history ++ new) (drop : .dropped x ∈ new) :
    ∃ y, w.holds y = false ∧ w.isAlive y = true ∧ v = w.strike y := by
  have quiet (spares : Spares w v) : False := by
    have same := spares.drops x
    rw [grown, drops_append, Nat.add_eq_left] at same
    exact drops_eq_zero.mp same drop
  rcases step with step | step
  · exact step.cases_drop.resolve_left quiet
  · exact absurd step.spares quiet

/-- Before a thing is struck off, the exchange is one in which it is there and nobody holds it. -/
theorem Leads.at_drop (run : Leads w v) {h h' : List Occurrence}
    (hist : v.history = w.history ++ (h ++ .dropped x :: h')) :
    ∃ u, Leads w u ∧ u.history = w.history ++ h ∧ u.holds x = false ∧ u.isAlive x = true ∧
      Leads (u.strike x) v := by
  induction run generalizing h' with
  | refl => simp at hist
  | @tail u v run step ih =>
    obtain ⟨new, grown, -⟩ := Leads.heeds (.single step)
    have parts : u.history ++ new = (w.history ++ h) ++ .dropped x :: h' := by
      rw [← grown, hist, List.append_assoc]
    -- The last change is the drop, or the drop lies before it.
    have last {a : List Occurrence} (before : w.history ++ h = u.history ++ a)
        (drop : new = a ++ .dropped x :: h') : u.history = w.history ++ h ∧
          u.holds x = false ∧ u.isAlive x = true ∧ v = u.strike x := by
      have member : .dropped x ∈ new := by simp [drop]
      obtain ⟨y, free, alive, rfl⟩ := drop_of_mem step grown member
      rw [history_strike, List.append_cancel_left_eq] at grown
      rw [← grown] at drop
      obtain ⟨rfl, same⟩ : a = [] ∧ y = x := by
        cases a <;> simp_all
      exact ⟨by simpa using before.symm, same ▸ free, same ▸ alive, same ▸ rfl⟩
    have finish {a : List Occurrence} (before : w.history ++ h = u.history ++ a)
        (drop : new = a ++ .dropped x :: h') : ∃ u, Leads w u ∧ u.history = w.history ++ h ∧
          u.holds x = false ∧ u.isAlive x = true ∧ Leads (u.strike x) v := by
      obtain ⟨there, free, alive, rfl⟩ := last before drop
      exact ⟨u, run, there, free, alive, .refl⟩
    rcases List.append_eq_append_iff.mp parts with ⟨a, before, drop⟩ | ⟨c, before, drop⟩
    · exact finish before drop
    · cases c with
      | nil => exact finish (a := []) (by simpa using before.symm) drop.symm
      | cons o rest =>
        obtain ⟨rfl, -⟩ := List.cons.inj drop
        rw [List.append_assoc] at before
        obtain ⟨u', comes, there, free, alive, goes⟩ := ih before
        exact ⟨u', comes, there, free, alive, goes.tail step⟩

theorem Mortal.not_dropped (hw : w.Mortal) (ha : w.isAlive x = true) : .dropped x ∉ w.history := by
  have none_yet := hw.once x
  rw [isAlive_iff.mp ha, if_neg (by simp)] at none_yet
  exact drops_eq_zero.mp (Nat.le_zero.mp none_yet)

/-- A mailbox that has no handle, no subscription on a bus that is there, no place in a list of
routes that is kept or in use, and no failure record that a recorder keeps. -/
structure Unheld (w : Exchange) (m : MailboxId) : Prop where
  handles : ∀ handle ∈ w.desk.mailboxes, handle.2 ≠ m
  routes : ∀ snapshot ∈ w.desk.snapshots, ∀ r ∈ snapshot.2, ∀ s ∈ r.subscriptions, s.mailbox.id ≠ m
  subscriptions : ∀ b ∈ w.buses, b.alive = true → ∀ s ∈ b.registry.all, s.mailbox.id ≠ m
  records : ∀ r ∈ w.recorders, r.alive = true → ∀ f ∈ r.failed.toList, f.mailbox.id ≠ m
  running : ∀ xs ∈ w.held, .mailbox m ∉ xs

theorem mem_refs : x ∈ w.refs ↔ x ∈ w.desk.refs ∨ (∃ b ∈ w.buses, b.alive = true ∧ x ∈ b.refs) ∨
    (∃ r ∈ w.recorders, r.alive = true ∧ x ∈ r.refs) ∨ ∃ xs ∈ w.held, x ∈ xs := by
  simp only [refs, List.mem_append, List.mem_flatMap, List.mem_filter, List.mem_flatten, and_assoc,
    or_assoc]

theorem mem_refs_of_desk (h : x ∈ w.desk.refs) : x ∈ w.refs := mem_refs.mpr (.inl h)

theorem mem_refs_of_bus {c : BusCell} (hc : c ∈ w.buses) (there : c.alive = true)
    (h : x ∈ c.refs) : x ∈ w.refs :=
  mem_refs.mpr (.inr (.inl ⟨c, hc, there, h⟩))

theorem mem_refs_of_recorder {c : Recorder} (hc : c ∈ w.recorders) (there : c.alive = true)
    (h : x ∈ c.refs) : x ∈ w.refs :=
  mem_refs.mpr (.inr (.inr (.inl ⟨c, hc, there, h⟩)))

theorem mem_refs_of_held {xs : List Ref} (hxs : xs ∈ w.held) (h : x ∈ xs) : x ∈ w.refs :=
  mem_refs.mpr (.inr (.inr (.inr ⟨xs, hxs, h⟩)))

theorem mailbox_mem_desk {d : Desk} {m : MailboxId} : .mailbox m ∈ d.refs ↔
    (∃ handle ∈ d.mailboxes, handle.2 = m) ∨
      ∃ snapshot ∈ d.snapshots, ∃ r ∈ snapshot.2, ∃ s ∈ r.subscriptions, s.mailbox.id = m := by
  simp [Desk.refs, Route.refs]

theorem mailbox_mem_bus {c : BusCell} {m : MailboxId} :
    .mailbox m ∈ c.refs ↔ ∃ s ∈ c.registry.all, s.mailbox.id = m := by
  have none_of (sink : Sink) : .mailbox m ∉ sink.refs := by cases sink <;> simp [Sink.refs]
  simp [BusCell.refs, Registry.refs, none_of]

theorem mailbox_mem_recorder {c : Recorder} {m : MailboxId} :
    .mailbox m ∈ c.refs ↔ ∃ f ∈ c.failed.toList, f.mailbox.id = m := by
  simp [Recorder.refs, Recorder.refsOf, ReturnedMessage.refs, FailedMessage.refs, eq_comm]

/-- Those are all the ways in which a mailbox is held. -/
theorem unheld_iff {m : MailboxId} : w.Unheld m ↔ w.holds (.mailbox m) = false := by
  rw [← Bool.not_eq_true, holds_iff, mem_refs]
  simp only [mailbox_mem_desk, mailbox_mem_bus, mailbox_mem_recorder]
  constructor
  · rintro ⟨handles, routes, subscriptions, records, running⟩ held
    obtain (⟨handle, hh, e⟩ | ⟨snapshot, hs, r, hr, s, hm, e⟩) | ⟨b, hb, there, s, hs, e⟩ |
      ⟨r, hr, there, f, hf, e⟩ | ⟨xs, hx, member⟩ := held
    · exact handles handle hh e
    · exact routes snapshot hs r hr s hm e
    · exact subscriptions b hb there s hs e
    · exact records r hr there f hf e
    · exact running xs hx member
  · intro free
    exact {
      handles := fun handle hh e => free (.inl (.inl ⟨handle, hh, e⟩))
      routes := fun snapshot hs r hr s hm e => free (.inl (.inr ⟨snapshot, hs, r, hr, s, hm, e⟩))
      subscriptions := fun b hb there s hs e => free (.inr (.inl ⟨b, hb, there, s, hs, e⟩))
      records := fun r hr there f hf e => free (.inr (.inr (.inl ⟨r, hr, there, f, hf, e⟩)))
      running := fun xs hx member => free (.inr (.inr (.inr ⟨xs, hx, member⟩))) }

/-- When a mailbox is struck off, the exchange is one in which nobody holds it, and no bus that is
still there has a subscription of it. -/
theorem Reachable.at_drop (hw : w.Reachable) {m : MailboxId} {h h' : List Occurrence}
    (hist : w.history = h ++ .dropped (.mailbox m) :: h') :
    (∃ u : Exchange, u.Reachable ∧ u.history = h ∧ u.Unheld m ∧ Leads (u.strike (.mailbox m)) w) ∧
      ∀ b, .dropped (.bus b) ∉ h → ∀ s ∈ live b h, s.mailbox.id ≠ m := by
  obtain ⟨u, comes, there, free, -, goes⟩ := Leads.at_drop hw hist
  have unheld := unheld_iff.mpr free
  have now : u.history = h := there
  refine ⟨⟨u, comes, now, unheld, goes⟩, fun b living s hs => ?_⟩
  have sound := Reachable.sound comes
  rw [← now] at living hs
  cases hb : u.buses[b]? with
  | none => simp [(sound.unopened b hb).1] at hs
  | some cell =>
    have alive : cell.alive = true := by
      by_contra gone
      refine living ((Reachable.mortal comes).buses b ?_)
      simpa [status?, hb] using gone
    refine unheld.subscriptions cell (List.mem_of_getElem? hb) alive s ?_
    exact ((sound.fits b cell hb).lists.perm_all.mem_iff).mpr hs

end Exchange

end MessageBus
