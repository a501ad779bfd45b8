import MessageBus.Proofs.Exchange.Change
import MessageBus.Proofs.Message.Lineage

namespace MessageBus.Exchange

/-- One change of an exchange that a dispatch makes of itself. A dispatch begins on a bus that knows
the chain of its message, with the routes for that; a record is handed to a sink of a bus that is
there. -/
inductive Mark : Exchange → Exchange → Prop
  | begun (w : Exchange) (b : BusId) (m : Message) (cell : BusCell) (c : Chain)
      (hb : w.buses[b]? = some cell) (hc : cell.resolver.find? m.tag = some c) :
      Mark w (w.beginDispatch (w.nextDispatch b m) (w.routesFor b c.tags))
  | invoked (w : Exchange) (d : Dispatch) (s : Subscription) : Mark w (w.record (.invoked d s))
  | answered (w : Exchange) (d : Dispatch) (s : Subscription) (outcome : Outcome) :
      Mark w (w.record (.answered d s outcome))
  | returned (w : Exchange) (d : Dispatch) (x : ReturnedMessage) (hx : x.bus < w.buses.length) :
      Mark w ((w.record (.returned d x)).keepReturned x)
  | failed (w : Exchange) (d : Dispatch) (x : FailedMessage) (hx : x.bus < w.buses.length) :
      Mark w ((w.record (.failed d x)).keepFailed x)
  | heard (w : Exchange) (d : Dispatch) (result : Except Halt Unit) :
      Mark w (w.record (.heard d result))
  | released (w : Exchange) (d : Dispatch) (result : Except Halt Unit) :
      Mark w (w.record (.released d result))
  | concluded (w : Exchange) (d : Dispatch) (result : Except Halt (Option BusError)) :
      Mark w (w.record (.concluded d result))

/-- What single changes lead to, in the midst of whatever is going on as well. -/
def Leads : Exchange → Exchange → Prop := Relation.ReflTransGen fun w v => Move w v ∨ Mark w v

/-- The exchanges that come about from the empty one. -/
def Reachable (w : Exchange) : Prop := Leads {} w

theorem resolve_none {w : Exchange} {b : BusId} (hb : w.buses[b]? = none) (m : Message) :
    w.resolve b m = (w, m.ancestry) := by
  simp [resolve, hb]

/-- A bus resolves a message through its resolver; at most a line is logged besides. -/
theorem resolve_some {w : Exchange} {b : BusId} {cell : BusCell} (hb : w.buses[b]? = some cell)
    (m : Message) :
    ∃ u, (u = w ∨ ∃ e, u = w.log e) ∧
      w.resolve b m = (u.modifyBus b fun c => { c with resolver := (cell.resolver.resolve m).1 },
        (cell.resolver.resolve m).2.tags) := by
  simp only [resolve, hb]
  split
  · exact ⟨w, .inl rfl, rfl⟩
  · exact ⟨_, .inr ⟨_, rfl⟩, rfl⟩

theorem buses_resolve {w : Exchange} {b : BusId} {cell : BusCell} (hb : w.buses[b]? = some cell)
    (m : Message) : (w.resolve b m).1.buses =
      w.buses.modify b fun c => { c with resolver := (cell.resolver.resolve m).1 } := by
  obtain ⟨u, hu, e⟩ := resolve_some hb m
  have same : u.buses = w.buses := by rcases hu with rfl | ⟨_, rfl⟩ <;> rfl
  rw [e, ← same]
  rfl

theorem getElem?_resolve {w : Exchange} {b : BusId} {cell : BusCell} (hb : w.buses[b]? = some cell)
    (m : Message) : (w.resolve b m).1.buses[b]? =
      some { cell with resolver := (cell.resolver.resolve m).1 } := by
  simp [buses_resolve hb, hb]

theorem Move.length_buses {w v : Exchange} (h : Move w v) : w.buses.length ≤ v.buses.length := by
  cases h with
  | bus => simp [addBus]
  | resolved b m =>
    cases hb : w.buses[b]? with
    | none => simp [resolve_none hb]
    | some cell => simp [buses_resolve hb]
  | struck x => cases x <;> simp [strike, modifyBus, modifyMailbox, modifyRecorder, record]
  | subscribed => simp [subscribeMailbox, modifyBus, record, log]
  | unsubscribed => simp [modifyBus, record]
  | cleared => simp [modifyBus, record]
  | returnedCalled => simp [modifyBus]
  | failedCalled => simp [modifyBus]
  | _ => exact Nat.le_refl _

theorem Mark.length_buses {w v : Exchange} (h : Mark w v) : w.buses.length ≤ v.buses.length := by
  cases h with
  | returned d x => rw [keepReturned]; split <;> exact Nat.le_refl _
  | failed d x => rw [keepFailed]; split <;> exact Nat.le_refl _
  | _ => exact Nat.le_refl _

/-- An exchange in which a mailbox is about to be handed the message of a dispatch. -/
def asking (w : Exchange) (d : Dispatch) (x : Tag × Subscription) : Exchange :=
  (w.log (.delivering d.message.tag x.1 x.2.mailbox.name x.2.seq)).record (.invoked d x.2)

/-- An exchange in which a mailbox has just answered a dispatch. A recoverable refusal is logged and
handed to the sink at once, which keeps or logs it if it is of that kind; a fatal one is logged. -/
def settle (w : Exchange) (d : Dispatch) (s : Subscription) (outcome : Outcome) : Exchange :=
  let w := w.record (.answered d s outcome)
  match outcome with
  | .ok (some (.recoverable cause)) =>
    let x : FailedMessage := { bus := d.bus, mailbox := s.mailbox, message := d.message, cause }
    let w := (w.log (.refused d.message.tag s.mailbox.name cause)).record (.failed d x)
    (w.keepFailed x).tell (w.failedLine x)
  | .ok (some (.fatal cause)) => w.log (.aborted d.message.tag s.mailbox.name cause)
  | _ => w

/-- An exchange in which a dispatch without a plan has just begun. Its message is handed to the sink
at once, which keeps or logs it if it is of that kind. -/
def returning (w : Exchange) (d : Dispatch) : Exchange :=
  let x : ReturnedMessage := { bus := d.bus, message := d.message }
  let w := ((w.beginDispatch d []).log (.unmatched d.message.tag)).record (.returned d x)
  (w.keepReturned x).tell (w.returnedLine x)

theorem length_buses_tell (w : Exchange) (line : Option Log.Event) :
    (w.tell line).buses.length = w.buses.length := by
  cases line <;> rfl

theorem length_buses_keepFailed (w : Exchange) (x : FailedMessage) :
    (w.keepFailed x).buses.length = w.buses.length := by
  rw [keepFailed]
  split <;> rfl

/-- A relation that holds along modest moves and along what a runner does, and another one for what
happens in the course of a dispatch with a plan, which holds along what the dispatch does itself
when its mailboxes answer as the runner has them answer. A dispatch as a whole is related again. -/
structure Witnessed (R : Exchange → Exchange → Prop)
    (Q : Dispatch → List (Tag × Subscription) → Exchange → Exchange → Prop) (call : Runner) : Prop
    extends Gentle R where
  grows : ∀ {w v}, R w v → w.buses.length ≤ v.buses.length
  keeps : Keeps R call
  emitted : ∀ w e, R w ((w.log e).announce (.ran "emit" .done))
  inside : ∀ {d plan w v}, R w v → Q d plan w v
  within : ∀ {d plan w v}, Q d plan w v → w.buses.length ≤ v.buses.length
  seq : ∀ {d plan u v w}, Q d plan u v → Q d plan v w → Q d plan u w
  asked : ∀ {d plan x} (w : Exchange), d.bus < w.buses.length → x ∈ plan →
    let result := deliver call x.2.mailbox d.message (w.asking d x)
    Q d plan w (result.1.settle d x.2 result.2)
  heard : ∀ {d plan} w result, Q d plan w (w.record (.heard d result))
  released : ∀ {d plan} w result, Q d plan w (w.record (.released d result))
  matched : ∀ {w v : Exchange} {b : BusId} {m : Message} {cell : BusCell} {c : Chain}
    (result : Except Halt (Option BusError)), w.buses[b]? = some cell →
    cell.resolver.find? m.tag = some c → w.routesFor b c.tags ≠ [] →
    let d := w.nextDispatch b m
    let routes := w.routesFor b c.tags
    Q d (Route.plan routes) (w.beginDispatch d routes) v → R w (v.record (.concluded d result))
  unmatched : ∀ {w v : Exchange} {b : BusId} {m : Message} {cell : BusCell} {c : Chain}
    (heard : Except Halt Unit) (result : Except Halt (Option BusError)), w.buses[b]? = some cell →
    cell.resolver.find? m.tag = some c → w.routesFor b c.tags = [] →
    let d := w.nextDispatch b m
    R (w.returning d) v → R w ((v.record (.heard d heard)).record (.concluded d result))

namespace Witnessed

variable {R : Exchange → Exchange → Prop}
  {Q : Dispatch → List (Tag × Subscription) → Exchange → Exchange → Prop} {call : Runner}
  (hR : Witnessed R Q call)

include hR

/-- What follows when a mailbox has answered: a recoverable refusal is heard by the sink. -/
theorem deliverAll (d : Dispatch) {plan rest : List (Tag × Subscription)}
    (part : ∀ x ∈ rest, x ∈ plan) (w : Exchange) (hb : d.bus < w.buses.length) :
    Q d plan w (deliverAll call d rest w).1 := by
  induction rest generalizing w with
  | nil => exact hR.inside (hR.refl w)
  | cons entry rest ih =>
    obtain ⟨tag, s⟩ := entry
    have asked := hR.asked w hb (part (tag, s) List.mem_cons_self)
    have later := ih fun x hx => part x (List.mem_cons_of_mem _ hx)
    simp only [MessageBus.deliverAll]
    simp only [asking] at asked
    generalize deliver call s.mailbox d.message _ = result at asked ⊢
    obtain ⟨u, outcome⟩ := result
    match outcome with
    | .error h => exact asked
    | .ok none => exact hR.seq asked (later _ (Nat.lt_of_lt_of_le hb (hR.within asked)))
    | .ok (some (.fatal cause)) => exact asked
    | .ok (some (.recoverable cause)) =>
      let x : FailedMessage := { bus := d.bus, mailbox := s.mailbox, message := d.message, cause }
      let told := ((u.record (.answered d s (.ok (some (.recoverable cause))))).log
        (.refused d.message.tag s.mailbox.name cause)).record (.failed d x)
      have bus : x.bus < told.buses.length := by
        have grown := Nat.lt_of_lt_of_le hb (hR.within asked)
        rwa [settle, length_buses_tell, length_buses_keepFailed] at grown
      have reported := hR.seq asked
        (hR.inside (hR.toGentle.reportFailed hR.keeps x told bus))
      dsimp only
      generalize reportFailed call x _ = sunk at reported ⊢
      obtain ⟨v, result⟩ := sunk
      have heard := hR.seq reported (hR.heard v result)
      cases result with
      | error h => exact heard
      | ok => exact hR.seq heard (later _ (Nat.lt_of_lt_of_le hb (hR.within heard)))

theorem matchedAlong (d : Dispatch) (routes : List Route) (w : Exchange)
    (hb : d.bus < w.buses.length) (some_route : routes.isEmpty = false) :
    Q d (Route.plan routes) w (dispatchAlong call d routes w).1 := by
  simp only [MessageBus.dispatchAlong, some_route, Bool.false_eq_true, if_false]
  have held : Q d (Route.plan routes) w (w.hold (Route.refs routes)) :=
    hR.inside (hR.still (.held w (Route.refs routes :: w.held)) rfl rfl)
  have delivered := hR.seq held (hR.deliverAll d (fun _ hx => hx) _ hb)
  have left (unwinding : Bool) (u : Exchange) :
      Q d (Route.plan routes) u (releaseAll call unwinding (Route.refs routes) u).1 :=
    hR.inside (hR.toGentle.releaseAll hR.keeps unwinding _ u)
  rcases e : MessageBus.deliverAll call d (Route.plan routes) _ with ⟨u, (t | _) | x⟩ <;>
    rw [e] at delivered
  · exact hR.seq (hR.seq delivered (left true u)) (hR.released _ _)
  · exact hR.seq delivered (hR.inside (hR.still (.held u u.held.tail) rfl rfl))
  · exact hR.seq (hR.seq delivered (left false u)) (hR.released _ _)

/-- What a publish does once its message is resolved. -/
theorem dispatch (b : BusId) (m : Message) (w : Exchange) (hb : b < w.buses.length) :
    R (w.resolve b m).1 (publish call b m w).1 := by
  have here := List.getElem?_eq_getElem hb
  obtain ⟨_, -, e⟩ := resolve_some here m
  have tags : (w.resolve b m).2 = (w.buses[b].resolver.resolve m).2.tags := by rw [e]
  have there := getElem?_resolve here m
  have found := (Resolver.find?_resolve w.buses[b].resolver m m.tag).trans (if_pos rfl)
  have bus : b < (w.resolve b m).1.buses.length := (List.getElem?_eq_some_iff.mp there).1
  simp only [MessageBus.publish]
  rw [tags]
  cases some_route : List.isEmpty
      ((w.resolve b m).1.routesFor b (w.buses[b].resolver.resolve m).2.tags) with
  | false =>
    apply hR.matched _ there found (List.isEmpty_eq_false_iff.mp some_route)
    exact hR.matchedAlong _ _ _ bus some_route
  | true =>
    have none_found := List.isEmpty_iff.mp some_route
    simp only [dispatchAlong, some_route, if_true]
    apply hR.unmatched _ _ there found none_found
    rw [none_found]
    exact hR.toGentle.reportReturned hR.keeps _ _ bus

/-- Such a relation is one that the runner tends to. -/
theorem tended : Tended R call where
  toGentle := hR.toGentle
  grows := hR.grows
  keeps := hR.keeps
  publish b m w hb := by
    have resolved := hR.modest (.resolved w b m) (.resolve w b m)
    exact hR.trans resolved (hR.dispatch b m w hb)
  emitted := hR.emitted

end Witnessed

/-- A relation that holds along moves, along what a runner does, and along what a dispatch does
itself when its mailboxes answer as the runner has them answer. -/
structure Traced (R : Exchange → Exchange → Prop) (call : Runner) : Prop extends Steady R where
  grows : ∀ {w v}, R w v → w.buses.length ≤ v.buses.length
  keeps : Keeps R call
  begun : ∀ {w : Exchange} {b : BusId} {m : Message} {cell : BusCell} {c : Chain},
    w.buses[b]? = some cell → cell.resolver.find? m.tag = some c →
    R w (w.beginDispatch (w.nextDispatch b m) (w.routesFor b c.tags))
  invoked : ∀ w d s, R w (w.record (.invoked d s))
  answered : ∀ w d s, R w ((deliver call s.mailbox d.message w).1.record
    (.answered d s (deliver call s.mailbox d.message w).2))
  returned : ∀ (w : Exchange) d x, x.bus < w.buses.length →
    R w ((w.record (.returned d x)).keepReturned x)
  failed : ∀ (w : Exchange) d x, x.bus < w.buses.length →
    R w ((w.record (.failed d x)).keepFailed x)
  heard : ∀ w d result, R w (w.record (.heard d result))
  released : ∀ w d result, R w (w.record (.released d result))
  concluded : ∀ w d result, R w (w.record (.concluded d result))

namespace Traced

variable {R : Exchange → Exchange → Prop} {call : Runner} (hR : Traced R call)

include hR

/-- What is done at once when a mailbox has answered. -/
theorem settled (u : Exchange) (d : Dispatch) (s : Subscription) (outcome : Outcome)
    (hb : d.bus < u.buses.length) :
    R (u.record (.answered d s outcome)) (u.settle d s outcome) := by
  match outcome with
  | .error h => exact hR.refl _
  | .ok none => exact hR.refl _
  | .ok (some (.fatal cause)) => exact hR.move (.logged _ _)
  | .ok (some (.recoverable cause)) =>
    have refused := hR.move (.logged (u.record (.answered d s (.ok (some (.recoverable cause)))))
      (.refused d.message.tag s.mailbox.name cause))
    have failed := hR.trans refused
      (hR.failed _ d { bus := d.bus, mailbox := s.mailbox, message := d.message, cause } hb)
    exact hR.trans failed (hR.toSteady.tell _ _)

/-- What is done at once when nobody is to be handed a message. -/
theorem returning {w : Exchange} {b : BusId} {m : Message} {cell : BusCell} {c : Chain}
    (hb : w.buses[b]? = some cell) (hc : cell.resolver.find? m.tag = some c)
    (none_found : w.routesFor b c.tags = []) : R w (w.returning (w.nextDispatch b m)) := by
  have begun := hR.begun hb hc
  rw [none_found] at begun
  have logged := hR.trans begun (hR.move (.logged _ (.unmatched m.tag)))
  have bus : b < (w.log (.unmatched m.tag)).buses.length := (List.getElem?_eq_some_iff.mp hb).1
  have returned := hR.trans logged
    (hR.returned _ (w.nextDispatch b m) { bus := b, message := m } bus)
  exact hR.trans returned (hR.toSteady.tell _ _)

theorem witnessed : Witnessed R (fun _ _ => R) call where
  toGentle := hR.toGentle
  grows := hR.grows
  keeps := hR.keeps
  emitted w e := hR.trans (hR.move (.logged w e)) (hR.move (.announced _ _))
  inside h := h
  within := hR.grows
  seq := hR.trans
  asked {d plan x} w hb _ := by
    have logged := hR.move (.logged w (.delivering d.message.tag x.1 x.2.mailbox.name x.2.seq))
    have invoked := hR.trans logged (hR.invoked _ d x.2)
    have answered := hR.trans invoked (hR.answered _ d x.2)
    have grown := hR.grows answered
    exact hR.trans answered (hR.settled _ d x.2 _ (Nat.lt_of_lt_of_le hb grown))
  heard w result := hR.heard w _ result
  released w result := hR.released w _ result
  matched result hb hc _ course :=
    hR.trans (hR.trans (hR.begun hb hc) course) (hR.concluded _ _ result)
  unmatched heard result hb hc none_found rest := by
    have told := hR.trans (hR.returning hb hc none_found) rest
    exact hR.trans (hR.trans told (hR.heard _ _ heard)) (hR.concluded _ _ result)

/-- Such a relation is respected by the runner. -/
theorem respected : Respected R call where
  toSteady := hR.toSteady
  grows := hR.grows
  keeps := hR.keeps
  publish := hR.witnessed.tended.publish

end Traced

namespace Leads

theorem steady : Steady Leads where
  refl _ := .refl
  trans := .trans
  move h := .single (.inl h)

theorem length_buses {w v : Exchange} (h : Leads w v) : w.buses.length ≤ v.buses.length := by
  induction h with
  | refl => exact Nat.le_refl _
  | tail _ step ih => exact Nat.le_trans ih (step.elim Move.length_buses Mark.length_buses)

theorem mark {w v : Exchange} (h : Mark w v) : Leads w v := .single (.inr h)

theorem traced {call : Runner} (hc : Keeps Leads call) : Traced Leads call where
  toSteady := steady
  grows := length_buses
  keeps := hc
  begun hb hc := mark (.begun _ _ _ _ _ hb hc)
  invoked w d s := mark (.invoked w d s)
  answered w d s := (steady.deliver hc s.mailbox d.message w).tail (.inr (.answered _ d s _))
  returned w d x hx := mark (.returned w d x hx)
  failed w d x hx := mark (.failed w d x hx)
  heard w d result := mark (.heard w d result)
  released w d result := mark (.released w d result)
  concluded w d result := mark (.concluded w d result)

end Leads

/-- Whatever user code does is single changes. -/
theorem lawful_leads : Lawful Leads where
  toSteady := Leads.steady
  grows := Leads.length_buses
  publish hc := (Leads.traced hc).respected.publish

/-- A step from outside leads on. -/
theorem leads_step (depth : Nat) (step : Step) (w : Exchange) : Leads w (w.step depth step).1 :=
  (lawful_leads.respected (lawful_leads.runner depth)).perform none step w (by simp)

theorem Reachable.step {w : Exchange} (h : w.Reachable) (depth : Nat) (step : Step) :
    (w.step depth step).1.Reachable :=
  Leads.steady.trans h (leads_step depth step w)

theorem Reachable.publish {w : Exchange} (h : w.Reachable) (depth : Nat) (b : BusId) (m : Message)
    (hb : b < w.buses.length) : (publish (runner depth) b m w).1.Reachable :=
  Leads.steady.trans h (lawful_leads.publish (lawful_leads.runner depth) b m w hb)

theorem reachable_run (steps : List (Nat × Step)) : (run {} steps).Reachable :=
  lawful_leads.run {} steps

end MessageBus.Exchange
