import MessageBus.Proofs.Exchange.Balance
import MessageBus.Proofs.Exchange.Reach
import MessageBus.Proofs.Registry.Roll

namespace MessageBus

/-- What happens while dispatches are numbered from one number on and up to another: each of them
goes its course, and nothing else belongs to a dispatch. -/
structure Proper (first next : Nat) (h : List Occurrence) : Prop where
  le : first ≤ next
  outside : ∀ n, n < first ∨ next ≤ n → own n h = []
  inside : ∀ n, first ≤ n → n < next → ∃ d plan course result, d.number = n ∧
    Course d plan course result ∧ own n h = .published d plan :: own n course
  balanced : Balanced h

/-- What one occurrence does not belong to any dispatch of is proper. -/
theorem Proper.of_aside {h : List Occurrence} (first : Nat) (ha : ∀ o ∈ h, o.dispatch? = none) :
    Proper first first h := by
  have empty (n : Nat) : own n h = [] := by
    refine List.filter_eq_nil_iff.mpr fun o ho => ?_
    simp [Occurrence.isOf, ha o ho]
  exact ⟨Nat.le_refl _, fun n _ => empty n, fun n hn hn' => by omega, .of_aside ha⟩

theorem Proper.append {first mid next : Nat} {h h' : List Occurrence} (hp : Proper first mid h)
    (hp' : Proper mid next h') : Proper first next (h ++ h') := by
  have hm := hp.le
  have hm' := hp'.le
  refine ⟨Nat.le_trans hm hm', fun n hn => ?_, fun n hn hn' => ?_, hp.balanced.append hp'.balanced⟩
  · rw [own_append, hp.outside n (by omega), hp'.outside n (by omega)]
    rfl
  · rw [own_append]
    rcases Nat.lt_or_ge n mid with below | above
    · rw [hp'.outside n (.inl below), List.append_nil]
      exact hp.inside n hn below
    · rw [hp.outside n (.inr above), List.nil_append]
      exact hp'.inside n above hn'

theorem own_foreign {n k : Nat} (hk : k ≠ n) (h : List Occurrence) :
    own k (foreign n h) = own k h := by
  rw [own, foreign, List.filter_filter]
  refine List.filter_congr fun o _ => ?_
  cases hd : o.dispatch? with
  | none => simp [Occurrence.isOf, hd]
  | some d =>
    by_cases e : d.number = k
    · simp [Occurrence.isOf, hd, e, hk]
    · simp [Occurrence.isOf, hd, e]

theorem foreign_of_own {n : Nat} {h : List Occurrence} (he : own n h = []) : foreign n h = h := by
  refine List.filter_eq_self.mpr fun o ho => ?_
  simpa using List.filter_eq_nil_iff.mp he o ho

namespace Exchange

/-- A relation between exchanges before and after: what happened in between is proper, and no bus
is lost. -/
structure Orderly (w v : Exchange) : Prop where
  buses : w.buses.length ≤ v.buses.length
  history : ∃ new, v.history = w.history ++ new ∧ Proper w.dispatches v.dispatches new

/-- The same of what happens while a dispatch is under way, apart from what the dispatch does
itself. -/
structure Passes (n : Nat) (w : Exchange) (new : List Occurrence) (v : Exchange) : Prop where
  buses : w.buses.length ≤ v.buses.length
  history : v.history = w.history ++ new
  proper : Proper w.dispatches v.dispatches (foreign n new)

/-- A move belongs to no dispatch. -/
theorem Move.aside {w v : Exchange} (step : Move w v) : v.dispatches = w.dispatches ∧
    ∃ new, v.history = w.history ++ new ∧ ∀ o ∈ new, o.dispatch? = none := by
  have nothing {u : Exchange} (ht : u.trace = w.trace) :
      ∃ new, u.history = w.history ++ new ∧ ∀ o ∈ new, o.dispatch? = none :=
    ⟨[], by simp [Exchange.history, ht], by simp⟩
  have one {u : Exchange} (o : Occurrence) (ho : o.dispatch? = none) (ht : u.trace = w.trace) :
      ∃ new, (u.record o).history = w.history ++ new ∧ ∀ o ∈ new, o.dispatch? = none :=
    ⟨[o], by simp [Exchange.history, record, ht], by simpa using ho⟩
  cases step with
  | logged e => exact ⟨rfl, one (.logged e) rfl rfl⟩
  | announced a => exact ⟨rfl, one (.announced a) rfl rfl⟩
  | struck x => cases x <;> exact ⟨rfl, one (.dropped _) rfl rfl⟩
  | resolved b m =>
    cases hb : w.buses[b]? with
    | none =>
      rw [resolve_none hb]
      exact ⟨rfl, nothing rfl⟩
    | some cell =>
      obtain ⟨u, rfl | ⟨e, rfl⟩, h⟩ := resolve_some hb m <;> rw [h]
      · exact ⟨rfl, nothing rfl⟩
      · exact ⟨rfl, one (.logged e) rfl rfl⟩
  | subscribed b cell m =>
    let s : Subscription := { seq := cell.registry.nextSeq, mailbox := m }
    have hist : (subscribeMailbox b cell m w).1.history =
        w.history ++ [.subscribed b s, .logged (.subscribed m s.seq)] := by
      simp [subscribeMailbox, modifyBus, record, log, Exchange.history, s, Registry.subscribe,
        Registry.takeSeq]
    exact ⟨rfl, _, hist, by simp [Occurrence.dispatch?]⟩
  | unsubscribed b cell m => exact ⟨rfl, one (.unsubscribed b m) rfl rfl⟩
  | cleared b => exact ⟨rfl, one (.cleared b) rfl rfl⟩
  | emptied r role => exact ⟨rfl, one (.emptied r role) rfl rfl⟩
  | broken r role => exact ⟨rfl, one (.emptied r role) rfl rfl⟩
  | _ => exact ⟨rfl, nothing rfl⟩

theorem steady_orderly : Steady Orderly where
  refl w := ⟨Nat.le_refl _, [], by simp, .of_aside _ (by simp)⟩
  trans h h' := by
    obtain ⟨buses, new, hist, proper⟩ := h
    obtain ⟨buses', new', hist', proper'⟩ := h'
    refine ⟨Nat.le_trans buses buses', new ++ new', ?_, proper.append proper'⟩
    rw [hist', hist, List.append_assoc]
  move step := by
    obtain ⟨dispatches, new, hist, aside⟩ := step.aside
    exact ⟨step.length_buses, new, hist, dispatches ▸ .of_aside _ aside⟩

namespace Passes

theorem refl (n : Nat) (w : Exchange) : Passes n w [] w :=
  ⟨Nat.le_refl _, (List.append_nil _).symm, .of_aside _ (by simp)⟩

theorem trans {n : Nat} {u v w : Exchange} {h h' : List Occurrence} (p : Passes n u h v)
    (p' : Passes n v h' w) : Passes n u (h ++ h') w := by
  refine ⟨Nat.le_trans p.buses p'.buses, ?_, ?_⟩
  · rw [p'.history, p.history, List.append_assoc]
  · rw [foreign_append]
    exact p.proper.append p'.proper

/-- What the dispatch does itself is left out of account. -/
theorem mark {d : Dispatch} {u w : Exchange} {h : List Occurrence} (p : Passes d.number u h w)
    (o : Occurrence) (ho : o.dispatch? = some d) :
    Passes d.number u (h ++ [o]) (w.record o) := by
  have step : Passes d.number w [o] (w.record o) := by
    refine ⟨Nat.le_refl _, history_record w o, ?_⟩
    rw [foreign, List.filter_cons_of_neg (by simp [Occurrence.isOf_number ho])]
    exact .of_aside _ (by simp)
  exact p.trans step

theorem log {n : Nat} {u w : Exchange} {h : List Occurrence} (p : Passes n u h w)
    (e : Log.Event) : Passes n u (h ++ [.logged e]) (w.log e) := by
  have step : Passes n w [.logged e] (w.log e) := by
    refine ⟨Nat.le_refl _, history_log w e, ?_⟩
    rw [foreign_of_own (own_lines (by simp))]
    exact .of_aside _ (by simp [Occurrence.dispatch?])
  exact p.trans step

/-- Recorders do not matter. -/
theorem keepReturned {n : Nat} {u w : Exchange} {h : List Occurrence} (p : Passes n u h w)
    (x : ReturnedMessage) : Passes n u h (w.keepReturned x) := by
  rw [Exchange.keepReturned]
  split
  · exact p
  · exact ⟨p.buses, p.history, p.proper⟩

theorem keepFailed {n : Nat} {u w : Exchange} {h : List Occurrence} (p : Passes n u h w)
    (x : FailedMessage) : Passes n u h (w.keepFailed x) := by
  rw [Exchange.keepFailed]
  split
  · exact p
  · exact ⟨p.buses, p.history, p.proper⟩

end Passes

theorem Orderly.passes {d : Dispatch} {w v : Exchange} (hn : d.number < w.dispatches)
    (h : Orderly w v) : ∃ during, d.Meanwhile during ∧ Passes d.number w during v := by
  obtain ⟨buses, new, hist, proper⟩ := h
  have meanwhile : d.Meanwhile new := fun n hn' =>
    proper.outside n (.inl (Nat.lt_of_le_of_lt hn' hn))
  refine ⟨new, meanwhile, buses, hist, ?_⟩
  rwa [foreign_of_own meanwhile.own_eq]

section

variable {call : Runner} (hc : Keeps Orderly call)

include hc

theorem passes_asking (d : Dispatch) (entry : Tag × Subscription) (w : Exchange)
    (hn : d.number < w.dispatches) :
    let told := w.log (.delivering d.message.tag entry.1 entry.2.mailbox.name entry.2.seq)
    let result := deliver call entry.2.mailbox d.message (told.record (.invoked d entry.2))
    ∃ during, d.Meanwhile during ∧ Passes d.number w (d.asking entry during result.2)
      (result.1.record (.answered d entry.2 result.2)) := by
  intro told result
  have logged := (Passes.refl d.number w).log
    (.delivering d.message.tag entry.1 entry.2.mailbox.name entry.2.seq)
  have invoked := logged.mark (.invoked d entry.2) rfl
  obtain ⟨during, meanwhile, ran⟩ := Orderly.passes (Nat.lt_of_lt_of_le hn invoked.proper.le)
    (steady_orderly.deliver hc entry.2.mailbox d.message (told.record (.invoked d entry.2)))
  exact ⟨during, meanwhile, (invoked.trans ran).mark (.answered d entry.2 result.2) rfl⟩

theorem passes_reporting (d : Dispatch) (s : Subscription) (cause : Cause) (w : Exchange)
    (hb : d.bus < w.buses.length) (hn : d.number < w.dispatches) :
    let told := w.log (.refused d.message.tag s.mailbox.name cause)
    let result := reportFailed call (d.failure s cause)
      (told.record (.failed d (d.failure s cause)))
    ∃ during, d.Meanwhile during ∧ Passes d.number w (d.reporting s cause during result.2)
      (result.1.record (.heard d result.2)) := by
  intro told result
  have logged := (Passes.refl d.number w).log (.refused d.message.tag s.mailbox.name cause)
  have failed := (logged.mark (.failed d (d.failure s cause)) rfl).keepFailed (d.failure s cause)
  obtain ⟨during, meanwhile, ran⟩ := Orderly.passes (Nat.lt_of_lt_of_le hn failed.proper.le)
    (steady_orderly.reportFailed hc (d.failure s cause) _ hb)
  exact ⟨during, meanwhile, (failed.trans ran).mark (.heard d result.2) rfl⟩

/-- Handing out a message is a delivery in the midst of which nothing of it is done by others. -/
theorem passes_deliverAll (d : Dispatch) (plan : List (Tag × Subscription)) (w : Exchange)
    (hb : d.bus < w.buses.length) (hn : d.number < w.dispatches) :
    ∃ os, Passes d.number w os (deliverAll call d plan w).1 ∧
      Delivery d plan os (deliverAll call d plan w).2 := by
  -- Neither buses nor numbers that were taken are lost, so the bounds hold again for the rest.
  induction plan generalizing w with
  | nil => exact ⟨[], .refl _ w, .done⟩
  | cons entry rest ih =>
    obtain ⟨tag, s⟩ := entry
    obtain ⟨during, calm, asked⟩ := passes_asking hc d (tag, s) w hn
    simp only [MessageBus.deliverAll]
    generalize deliver call s.mailbox d.message _ = result at asked ⊢
    obtain ⟨u, outcome⟩ := result
    have hb' := Nat.lt_of_lt_of_le hb asked.buses
    have hn' := Nat.lt_of_lt_of_le hn asked.proper.le
    rcases outcome with h | (_ | (cause | cause))
    · exact ⟨_, asked, .cut rest (.halted during h calm)⟩
    · obtain ⟨os, passes, delivery⟩ := ih _ hb' hn'
      let x : Turn := { entry := (tag, s), during, failure := none }
      exact ⟨_, asked.trans passes, .next x (by simpa [Turn.meanwhile, x] using calm) delivery⟩
    · obtain ⟨sunk, quiet, reported⟩ := passes_reporting hc d s cause _ hb' hn'
      dsimp only [Dispatch.failure] at reported ⊢
      generalize reportFailed call _ _ = result at reported ⊢
      obtain ⟨v, heard⟩ := result
      have told := asked.trans reported
      cases heard with
      | error h => exact ⟨_, told, .cut rest (.unheard during cause sunk h calm quiet)⟩
      | ok =>
        obtain ⟨os, passes, delivery⟩ :=
          ih _ (Nat.lt_of_lt_of_le hb told.buses) (Nat.lt_of_lt_of_le hn told.proper.le)
        let x : Turn := { entry := (tag, s), during, failure := some (cause, sunk) }
        exact ⟨_, told.trans passes, .next x (calm.append quiet) delivery⟩
    · exact ⟨_, asked.log _, .cut rest (.aborted during cause calm)⟩

theorem passes_returning (d : Dispatch) (w : Exchange) (hb : d.bus < w.buses.length)
    (hn : d.number < w.dispatches) :
    let told := w.log (.unmatched d.message.tag)
    let result := reportReturned call d.unmatched (told.record (.returned d d.unmatched))
    ∃ sunk, d.Meanwhile sunk ∧ Passes d.number w
      ([.logged (.unmatched d.message.tag), .returned d d.unmatched] ++ sunk ++
        [.heard d result.2])
      (result.1.record (.heard d result.2)) := by
  intro told result
  have logged := (Passes.refl d.number w).log (.unmatched d.message.tag)
  have returned := (logged.mark (.returned d d.unmatched) rfl).keepReturned d.unmatched
  obtain ⟨sunk, meanwhile, ran⟩ := Orderly.passes (Nat.lt_of_lt_of_le hn returned.proper.le)
    (steady_orderly.reportReturned hc d.unmatched _ hb)
  exact ⟨sunk, meanwhile, (returned.trans ran).mark (.heard d result.2) rfl⟩

/-- The mailboxes of a dispatch are let go of, and nothing of it is done by the code that this
runs. -/
theorem passes_releasing {d : Dispatch} {w u : Exchange} {os : List Occurrence}
    (reached : Passes d.number w os u) (hn : d.number < w.dispatches) (unwinding : Bool)
    (xs : List Ref) :
    let result := releaseAll call unwinding xs u
    ∃ dropped, d.Meanwhile dropped ∧
      Passes d.number w (os ++ dropped ++ [.released d result.2])
        (result.1.record (.released d result.2)) := by
  intro result
  obtain ⟨dropped, meanwhile, ran⟩ := Orderly.passes (Nat.lt_of_lt_of_le hn reached.proper.le)
    (steady_orderly.releaseAll hc unwinding xs u)
  exact ⟨dropped, meanwhile, (reached.trans ran).mark (.released d result.2) rfl⟩

theorem passes_dispatchAlong (d : Dispatch) (routes : List Route) (w : Exchange)
    (hr : ∀ r ∈ routes, r.subscriptions ≠ []) (hb : d.bus < w.buses.length)
    (hn : d.number < w.dispatches) :
    let result := dispatchAlong call d routes w
    ∃ os, Passes d.number w os result.1 ∧
      Course d (Route.plan routes) (os ++ [.concluded d result.2]) result.2 := by
  simp only [dispatchAlong]
  cases routes with
  | nil =>
    obtain ⟨sunk, meanwhile, returned⟩ := passes_returning hc d w hb hn
    refine ⟨_, returned, ?_⟩
    rw [List.append_assoc]
    exact .unmatched sunk _ meanwhile
  | cons route rest =>
    have plan : Route.plan (route :: rest) ≠ [] := by
      simp [Route.plan, hr route (by simp)]
    have held : Passes d.number w [] (w.hold (Route.refs (route :: rest))) :=
      ⟨Nat.le_refl _, (List.append_nil _).symm, .of_aside _ (by simp)⟩
    obtain ⟨os, delivered, delivery⟩ :=
      passes_deliverAll hc d (Route.plan (route :: rest)) (w.hold (Route.refs (route :: rest)))
        hb hn
    have reached := held.trans delivered
    simp only [List.isEmpty_cons, Bool.false_eq_true, if_false]
    generalize MessageBus.deliverAll call d _ _ = result at delivery reached ⊢
    obtain ⟨u, outcome⟩ := result
    -- Unless everything was stopped, the mailboxes are let go of now.
    obtain ⟨dropped, meanwhile, released⟩ :=
      passes_releasing hc reached hn (Except.unwinds outcome) (Route.refs (route :: rest))
    rcases outcome with (t | cause) | e
    · refine ⟨_, released, ?_⟩
      rw [List.append_assoc]
      exact .matched dropped _ plan delivery meanwhile fun _ => releaseAll_ne_panicked call _ u
    · exact ⟨os, ⟨reached.buses, reached.history, reached.proper⟩, .stopped plan delivery⟩
    · refine ⟨_, released, ?_⟩
      rw [List.append_assoc]
      exact .matched dropped _ plan delivery meanwhile fun unwinds =>
        absurd unwinds Bool.false_ne_true

omit hc in
theorem resolve_logs {b : BusId} {w : Exchange} (hb : b < w.buses.length) (m : Message) :
    ∃ logs : List Occurrence, (∀ o ∈ logs, ∃ e, o = .logged e) ∧
      (w.resolve b m).1.history = w.history ++ logs ∧
      (w.resolve b m).1.buses.length = w.buses.length ∧
      (w.resolve b m).1.dispatches = w.dispatches := by
  obtain ⟨u, rfl | ⟨e, rfl⟩, h⟩ := resolve_some (List.getElem?_eq_getElem hb) m <;> rw [h]
  · exact ⟨[], by simp, (List.append_nil _).symm, by simp [modifyBus], rfl⟩
  · exact ⟨[.logged e], by simp, history_log w e, by simp [modifyBus, log, record], rfl⟩

/-- A publish logs at most that a chain was resolved, begins a dispatch and follows its course. -/
theorem publish_course (b : BusId) (m : Message) (w : Exchange) (hb : b < w.buses.length) :
    let d := w.nextDispatch b m
    let plan := Route.plan ((w.resolve b m).1.routesFor b (w.resolve b m).2)
    let result := publish call b m w
    ∃ logs course, (∀ o ∈ logs, ∃ e, o = .logged e) ∧
      result.1.history = w.history ++ logs ++ .published d plan :: course ∧
      Course d plan course result.2 ∧ w.buses.length ≤ result.1.buses.length ∧
      Proper (w.dispatches + 1) result.1.dispatches (foreign d.number course) := by
  intro d plan
  obtain ⟨logs, lines, hist, same, number⟩ := resolve_logs hb m
  have begins : (w.resolve b m).1.nextDispatch b m = d := by simp [nextDispatch, d, number]
  let routes := (w.resolve b m).1.routesFor b (w.resolve b m).2
  let begun := (w.resolve b m).1.beginDispatch d routes
  have filled : ∀ r ∈ routes, r.subscriptions ≠ [] := by
    intro r hr
    simp only [routes, routesFor] at hr
    cases hc : (w.resolve b m).1.buses[b]? with
    | none => simp [hc] at hr
    | some cell =>
      rw [hc] at hr
      exact Registry.subscriptions_ne_nil hr
  have next : begun.dispatches = w.dispatches + 1 := congrArg (· + 1) number
  have first : begun.history = w.history ++ logs ++ [.published d plan] := by
    rw [← hist]
    exact history_record _ _
  obtain ⟨os, passes, course⟩ := passes_dispatchAlong hc d routes begun filled
    (Nat.lt_of_lt_of_eq hb same.symm) (Nat.lt_of_lt_of_eq (Nat.lt_succ_self _) next.symm)
  have ended := passes.mark (.concluded d (MessageBus.dispatchAlong call d routes begun).2) rfl
  have published : MessageBus.publish call b m w =
      ((MessageBus.dispatchAlong call d routes begun).1.record
        (.concluded d (MessageBus.dispatchAlong call d routes begun).2),
        (MessageBus.dispatchAlong call d routes begun).2) := by
    simp only [MessageBus.publish, begins, routes, begun]
  rw [published]
  refine ⟨logs, _, lines, ?_, course, ?_, next ▸ ended.proper⟩
  · rw [ended.history, first, List.append_assoc]
    rfl
  · exact same ▸ ended.buses

theorem Orderly.publish (b : BusId) (m : Message) (w : Exchange) (hb : b < w.buses.length) :
    Orderly w (publish call b m w).1 := by
  obtain ⟨logs, course, lines, hist, goes, buses, proper⟩ := publish_course hc b m w hb
  let d := w.nextDispatch b m
  have aside : ∀ o ∈ logs, o.dispatch? = none := by
    intro o ho
    obtain ⟨e, rfl⟩ := lines o ho
    rfl
  -- This dispatch takes the first of the numbers, and those begun meanwhile take the later ones.
  have others (n : Nat) (hn : n ≠ d.number) (plan : List (Tag × Subscription)) :
      own n (logs ++ .published d plan :: course) = own n (foreign d.number course) := by
    rw [own_append, own_lines lines, own_foreign hn, own_cons]
    simp [Occurrence.isOf, Occurrence.dispatch?, hn.symm]
  refine ⟨buses, _, hist.trans (List.append_assoc _ _ _), ?_, fun n hn => ?_, fun n hn hn' => ?_,
    ?_⟩
  · exact Nat.le_trans (Nat.le_succ _) proper.le
  · have ne : n ≠ d.number := by
      have := proper.le
      simp only [d, nextDispatch]
      omega
    rw [others n ne]
    exact proper.outside n (by omega)
  · rcases Nat.eq_or_lt_of_le hn with rfl | above
    · refine ⟨d, _, course, _, rfl, goes, ?_⟩
      rw [own_append, own_lines lines, own_cons]
      simp [Occurrence.isOf, Occurrence.dispatch?, d, nextDispatch]
    · rw [others n (Nat.ne_of_gt above)]
      exact proper.inside n above hn'
  · refine (Balanced.of_aside aside).append (.of_own (n := d.number) ?_ ?_)
    · rw [own_cons]
      simpa [Occurrence.isOf, Occurrence.dispatch?, d] using goes.balanced
    · rw [foreign, List.filter_cons_of_neg (by simp [Occurrence.isOf, Occurrence.dispatch?, d])]
      exact proper.balanced

end

theorem lawful_orderly : Lawful Orderly where
  toSteady := steady_orderly
  grows h := h.buses
  publish hc b m w hb := Orderly.publish hc b m w hb

/-- In a whole history, every dispatch that begins goes its course. -/
theorem Orderly.course {w : Exchange} (h : Orderly {} w) {h₁ h₂ : List Occurrence} {d : Dispatch}
    {plan : List (Tag × Subscription)} (hist : w.history = h₁ ++ .published d plan :: h₂) :
    ∃ course result, Course d plan course result ∧ own d.number h₂ = own d.number course := by
  obtain ⟨-, new, all, proper⟩ := h
  have whole : w.history = new := all
  have mine : own d.number new =
      own d.number h₁ ++ .published d plan :: own d.number h₂ := by
    rw [← whole, hist, own_append, own_cons]
    simp [Occurrence.isOf, Occurrence.dispatch?]
  have begun : d.number < w.dispatches := by
    by_contra beyond
    have empty := proper.outside d.number (.inr (Nat.le_of_not_lt beyond))
    rw [mine] at empty
    simp at empty
  obtain ⟨e, plan', course, result, hn, goes, first⟩ :=
    proper.inside d.number (Nat.zero_le _) begun
  rw [mine] at first
  rw [← hn] at first
  cases before : own e.number h₁ with
  | nil =>
    rw [before, List.nil_append, List.cons.injEq, Occurrence.published.injEq] at first
    obtain ⟨⟨rfl, rfl⟩, rest⟩ := first
    exact ⟨course, result, goes, rest⟩
  | cons o others =>
    rw [before, List.cons_append, List.cons.injEq] at first
    have again : .published d plan ∈ own e.number course := by
      rw [← first.2]
      simp
    exact absurd again (goes.not_published d plan)

/-- What belongs to a dispatch, its beginning apart, is part of its course, all of which
happened. -/
theorem Orderly.origin {w : Exchange} (h : Orderly {} w) {o : Occurrence} {d : Dispatch}
    (ho : o ∈ w.history) (hd : o.dispatch? = some d) (hn : ∀ plan, o ≠ .published d plan) :
    ∃ h₁ plan h₂ course result, w.history = h₁ ++ .published d plan :: h₂ ∧
      Course d plan course result ∧ o ∈ own d.number course ∧
      ∀ x ∈ own d.number course, x ∈ w.history := by
  obtain ⟨-, new, all, proper⟩ := h
  have whole : w.history = new := all
  have mine : o ∈ own d.number new := mem_own.mpr ⟨whole ▸ ho, Occurrence.isOf_number hd⟩
  have begun : d.number < w.dispatches := by
    by_contra beyond
    have empty := proper.outside d.number (.inr (Nat.le_of_not_lt beyond))
    rw [empty] at mine
    simp at mine
  obtain ⟨e, plan, course, result, number, goes, first⟩ :=
    proper.inside d.number (Nat.zero_le _) begun
  have published : .published e plan ∈ w.history := by
    have member : .published e plan ∈ own d.number new := first ▸ List.mem_cons_self
    exact whole ▸ (mem_own.mp member).1
  have happened : ∀ x ∈ own d.number course, x ∈ w.history := by
    intro x hx
    have member : x ∈ own d.number new := first ▸ List.mem_cons_of_mem _ hx
    exact whole ▸ (mem_own.mp member).1
  rw [first, List.mem_cons] at mine
  rcases mine with rfl | mine
  · have same : e = d := Option.some.inj hd
    exact absurd rfl (same ▸ hn plan)
  · rw [← number] at mine
    have same : e = d := Option.some.inj ((goes.act mine).dispatch?.symm.trans hd)
    subst same
    obtain ⟨h₁, h₂, hist⟩ := List.append_of_mem published
    exact ⟨h₁, plan, h₂, course, result, hist, goes, mine, happened⟩

end Exchange

end MessageBus
