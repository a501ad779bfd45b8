import MessageBus.Proofs.Exchange.Meeting

namespace MessageBus

section

variable (ends : Ending → Prop)

def SinkPlan.Aloof : SinkPlan → Prop
  | .responding react => ∀ receipt n, (react receipt n).Aloof ends
  | _ => True

def BusPlan.Aloof : BusPlan → Prop
  | .responding deadLetters failures =>
    (∀ receipt n, (deadLetters receipt n).Aloof ends) ∧
      ∀ receipt n, (failures receipt n).Aloof ends
  | .assembled deadLetters failures =>
    (∀ plan ∈ deadLetters, plan.Aloof ends) ∧ ∀ plan ∈ failures, plan.Aloof ends
  | _ => True

/-- A step from outside, which may be any operation, when what it makes keeps off the buses. -/
def Step.Tame : Step → Prop
  | .openBus _ plan => plan.Aloof ends
  | .openMailbox id name target conduct onDrop =>
    (Step.openMailbox id name target conduct onDrop).Aloof ends
  | .guarded step => step.Tame
  | _ => True

end

/-- What a bus comes to, as it is answered. -/
def Upshot.answered (x : Upshot Reply) : Upshot Reply := (x.1, x.2.1, MessageBus.answered x.2.2)

theorem answered_stopped {r : Except Halt Reply} {cause : Stop} :
    answered r = .error (.stopped cause) ↔ r = .error (.stopped cause) := by
  rcases r with (t | _) | reply <;> simp [answered]

/-- Nobody but the mailbox is subscribed. -/
theorem Registry.mem_listFor_of_subscribe {r : Registry} {m : Mailbox} {t : Tag} {s : Subscription}
    (hs : s ∈ (r.subscribe m).1.listFor t) (other : s.mailbox ≠ m) : s ∈ r.listFor t := by
  have listed : (r.subscribe m).1.listFor t =
      if t = m.tag then r.listFor t ++ [{ seq := r.nextSeq, mailbox := m }] else r.listFor t :=
    listFor_append { r with nextSeq := r.nextSeq + 1 } { seq := r.nextSeq, mailbox := m } t
  rw [listed] at hs
  split at hs
  · rcases List.mem_append.mp hs with old | new
    · exact old
    · rw [List.mem_singleton.mp new] at other
      exact absurd rfl other
  · exact hs

namespace Exchange

variable {ends : Ending → Prop} {P : BusId → Prop} {w v u : Exchange} {b : BusId} {α : Type}
  {k : Books} {c : Company}

theorem Deals.answered {upshot : Company → Upshot Reply} {result : Exchange × Except Halt Reply}
    (h : Deals ends b w k upshot result) :
    Deals ends b w k (fun c => (upshot c).answered) (result.1, MessageBus.answered result.2) where
  off := h.off
  books := h.books
  meets calm deep c attends := by
    have met := h.meets calm (answered_stopped.not.mp deep) c attends
    exact ⟨met.attends, met.receipts, congrArg MessageBus.answered met.result⟩

/-- What is answered when all is done that there is to be done to the bus. -/
theorem Deals.replied {reply : Reply} {result : Exchange × Except Halt Reply}
    (h : Deals ends b w k (fun c => (c, [], .ok ())) (v, .ok ()))
    (h' : Does ends v (.ok reply) result) :
    Deals ends b w k (fun c => (c, [], .ok reply)) result := by
  have books : v.books b = k := h.books
  exact h.bind_ok (fun _ c => (c, [], .ok reply)) (books ▸ h'.deals)

theorem busNamed?_of_request {bus : String} {r q : Request}
    (h : ((w.busNamed? bus).map fun x => (x.1, r)) = some (b, q)) :
    ∃ cell, w.busNamed? bus = some (b, cell) ∧ r = q := by
  obtain ⟨⟨a, cell⟩, named, same⟩ := Option.map_eq_some_iff.mp h
  obtain ⟨rfl, rfl⟩ := Prod.mk.inj same
  exact ⟨cell, named, rfl⟩

theorem named_of_request {bus id : String} {f : Mailbox → Request} {q : Request}
    (h : ((w.busNamed? bus).bind fun x => (w.mailboxNamed? id).map fun m => (x.1, f m)) =
      some (b, q)) :
    ∃ cell m, w.busNamed? bus = some (b, cell) ∧ w.mailboxNamed? id = some m ∧ f m = q := by
  obtain ⟨⟨a, cell⟩, named, rest⟩ := Option.bind_eq_some_iff.mp h
  obtain ⟨m, hm, same⟩ := Option.map_eq_some_iff.mp rest
  obtain ⟨rfl, rfl⟩ := Prod.mk.inj same
  exact ⟨cell, m, named, hm, rfl⟩

/-- To subscribe a mailbox is the business of the bus alone. -/
theorem Aloof.subscribed {cell : BusCell} (hb : w.buses[b]? = some cell) {m : Mailbox}
    {answer : Message → Outcome} (known : w.answer? m.id = some answer) (numbered : Bool)
    (hw : w.Aloof ends) :
    Deals ends b w ((Request.subscribe m answer numbered).enter (w.books b))
      ((Request.subscribe m answer numbered).meet (w.books b))
      ((subscribeMailbox b cell m w).1,
        .ok (if numbered then .subscribed (subscribeMailbox b cell m w).2 else .done)) := by
  let keep : BusCell → BusCell := fun c => { c with registry := (cell.registry.subscribe m).1 }
  have off : KeepsOff ends (· ≠ b) w (subscribeMailbox b cell m w).1 := by
    have changed := hw.modifyBus b keep fun _ => rfl
    exact changed.trans (changed.aloof.keepsOff rfl rfl fun _ => rfl)
  have books : (subscribeMailbox b cell m w).1.books b =
      (Request.subscribe m answer numbered).enter (w.books b) := by
    rw [books_eq hb]
    exact books_modifyBus hb keep
  refine ⟨off, books, fun calm deep c attends => ⟨⟨?_, fun t s hs => ?_⟩, ?_, ?_⟩⟩
  · exact (ahead_modifyBus (f := keep) hb rfl).trans attends.sinks
  · rw [books, books_eq hb] at hs
    change w.answer? s.mailbox.id =
      some (if s.mailbox.id = m.id then answer else c.answers s.mailbox.id)
    by_cases same : s.mailbox.id = m.id
    · rw [if_pos same, same]
      exact known
    · rw [if_neg same]
      refine attends.answers t s ?_
      rw [books_eq hb]
      exact Registry.mem_listFor_of_subscribe hs fun e => same (e ▸ rfl)
  · exact (List.append_nil _).symm
  · rw [books_eq hb]
    rfl

/-- Nobody is subscribed by an unsubscribe. -/
theorem Sound.mem_listFor_of_unsubscribe (sound : w.Sound) {cell : BusCell}
    (hb : w.buses[b]? = some cell) {m : Mailbox} (hm : m ∈ w.mailboxes.map (·.mailbox))
    {registry : Registry} {s : Subscription} (h : cell.registry.unsubscribe m = .ok (registry, s))
    {t : Tag} {x : Subscription} (hx : x ∈ registry.listFor t) : x ∈ cell.registry.listFor t := by
  let keep : BusCell → BusCell := fun c => { c with registry }
  have after := (Move.unsubscribed w b cell m registry s hb hm h).sound sound
  have lists := (after.fits b (keep cell) (getElem?_modifyBus keep hb).1).lists
  have same : live b ((w.modifyBus b keep).record (.unsubscribed b m)).history =
      (live b w.history).without m.id := by
    rw [history_record, live_append, List.foldl_cons, List.foldl_nil, Occurrence.amend, if_pos rfl]
    rfl
  rw [lists.listFor, same, Roll.mem_listFor] at hx
  rw [(sound.fits b cell hb).lists.listFor, Roll.mem_listFor]
  exact ⟨Roll.mem_of_mem_without hx.1, hx.2⟩

/-- A mailbox that is there has an answer. -/
theorem Sound.answer?_eq (sound : w.Sound) {m : Mailbox} (hm : m ∈ w.mailboxes.map (·.mailbox)) :
    w.answer? m.id = some ((w.answer? m.id).getD fun _ => .ok none) := by
  obtain ⟨i, there⟩ := List.mem_iff_getElem?.mp hm
  have same := sound.mailboxes i m there
  rw [List.getElem?_map] at there
  obtain ⟨cell, here, -⟩ := Option.map_eq_some_iff.mp there
  rw [same, answer?, here]
  rfl

section

variable {call : Runner} (hc : call.Aloof ends)

include hc

theorem Deals.whileHolding (xs : List Ref) {run : Exchange → Exchange × Except Halt α}
    {upshot : Company → Upshot α} (hw : w.Aloof ends)
    (h : Deals ends b (w.hold xs) k upshot (run (w.hold xs))) :
    Deals ends b w k upshot (whileHolding call xs run w) := by
  have held : KeepsOff ends (fun _ => True) w (w.hold xs) := hw.hold xs
  exact (held.deals h).onward (Aloof.whileHolding hc xs h.off.aloof)

theorem Aloof.unsubscribed (sound : w.Sound) {cell : BusCell} (hb : w.buses[b]? = some cell)
    {m : Mailbox} (hm : m ∈ w.mailboxes.map (·.mailbox)) (hw : w.Aloof ends) :
    Deals ends b w ((Request.unsubscribe m).enter (w.books b))
      ((Request.unsubscribe m).meet (w.books b)) (unsubscribeMailbox call b cell m w) := by
  rw [MessageBus.unsubscribeMailbox, books_eq hb]
  cases done : cell.registry.unsubscribe m with
  | error e =>
    have upshot : Request.meet ⟨cell.registry, cell.resolver⟩ (.unsubscribe m) =
        fun c => (c, [], .ok (.busError e)) := by
      funext c
      simp only [Request.meet, done]
    rw [upshot]
    simp only [Request.enter, done]
    rw [← books_eq hb]
    exact hw.idle.unnoticed _
  | ok result =>
    obtain ⟨registry, s⟩ := result
    let keep : BusCell → BusCell := fun c => { c with registry }
    have taken := hw.amended hb keep (fun _ => rfl) rfl fun t x =>
      sound.mem_listFor_of_unsubscribe hb hm done
    let told := ((w.modifyBus b keep).record (.unsubscribed b m)).log
      (.unsubscribed s.mailbox s.seq)
    have off : KeepsOff ends (fun _ => True) (w.modifyBus b keep) told :=
      taken.off.aloof.keepsOff rfl rfl fun _ => rfl
    have left := (off.aloof.releasing hc (some (.mailbox s.mailbox.id)) .done).after off
    have upshot : Request.meet ⟨cell.registry, cell.resolver⟩ (.unsubscribe m) =
        fun c => (c, [], .ok .done) := by
      funext c
      simp only [Request.meet, done]
    rw [upshot]
    simp only [Request.enter, done]
    exact taken.replied left

theorem Aloof.cleared {cell : BusCell} (hb : w.buses[b]? = some cell) (hw : w.Aloof ends) :
    Deals ends b w (Request.clear.enter (w.books b)) (Request.clear.meet (w.books b))
      (clearBus call b w) := by
  rw [MessageBus.clearBus, hb, books_eq hb]
  let keep : BusCell → BusCell := fun c => { c with registry := cell.registry.clear.1 }
  have taken := hw.amended hb keep (fun _ => rfl) rfl fun t x hx => by
    simp [keep, Registry.clear, Registry.listFor] at hx
  let told := ((w.modifyBus b keep).record (.cleared b)).log
    (.cleared cell.registry.clear.2.length)
  have off : KeepsOff ends (fun _ => True) (w.modifyBus b keep) told :=
    taken.off.aloof.keepsOff rfl rfl fun _ => rfl
  have left := (off.aloof.released hc
    (cell.registry.clear.2.flatten.map fun s => Ref.mailbox s.mailbox.id)).after off
  refine taken.replied ?_
  dsimp only
  split
  · next e => exact left.ended e _
  · next e => exact left.stopped e _

theorem Aloof.placeBus (label : String) (b : BusId) (reply : Reply) (hw : w.Aloof ends) :
    Does ends w (.ok reply) (placeBus call label b reply w) := by
  have placed : KeepsOff ends (fun _ => True) w
      { w with desk := { w.desk with buses := w.desk.buses.put label b } } :=
    hw.keepsOff rfl rfl fun _ => rfl
  exact (placed.aloof.releasing hc _ _).after placed

theorem Aloof.placeSnapshot (label : String) (routes : List Route) (reply : Reply)
    (hw : w.Aloof ends) : Does ends w (.ok reply) (placeSnapshot call label routes reply w) := by
  have placed : KeepsOff ends (fun _ => True) w
      { w with desk := { w.desk with snapshots := w.desk.snapshots.put label routes } } :=
    hw.keepsOff rfl rfl fun _ => rfl
  have left := (placed.aloof.released hc
    (Route.refs ((w.desk.snapshots.get? label).getD []))).after placed
  simp only [MessageBus.placeSnapshot]
  split
  · next e => exact left.ended e _
  · next e => exact left.stopped e _

omit hc in
/-- A bus that is made is new to all others. -/
theorem Aloof.addBus {deadLetters failures : Sink}
    {sinks : SinkRole → Receipt → Nat → Except Halt Unit}
    (aloof : deadLetters.Aloof ends ∧ failures.Aloof ends)
    (hears : sinks .deadLetter = deadLetters.hears ∧ sinks .failure = failures.hears)
    (hw : w.Aloof ends) :
    Deals ends w.buses.length w {}
      (fun c => ({ c with sinks := fun role receipt n => sinks role receipt (n + 1) }, [], .ok ()))
      ((w.addBus deadLetters failures).1, .ok ()) where
  off := by
    refine ⟨⟨hw.handlers, hw.drops, fun cell hc => ?_⟩, ?_, fun a ne => ?_, List.prefix_refl _⟩
    · rcases List.mem_append.mp hc with old | new
      · exact hw.sinks cell old
      · rw [List.mem_singleton.mp new]
        exact aloof
    · exact (List.prefix_append w.buses _).length_le
    · have old : (w.addBus deadLetters failures).1.buses[a]? = w.buses[a]? := by
        rcases Nat.lt_or_gt_of_ne ne with below | above
        · exact List.getElem?_append_left below
        · rw [List.getElem?_eq_none (Nat.le_of_lt above), List.getElem?_eq_none]
          simpa [Exchange.addBus] using above
      rw [Exchange.front, Exchange.front, old]
      rfl
  books := by
    have there : (w.addBus deadLetters failures).1.buses[w.buses.length]? =
        some { deadLetters, failures } := List.getElem?_concat_length
    exact books_eq there
  meets _ _ c attends := by
    have there : (w.addBus deadLetters failures).1.buses[w.buses.length]? =
        some { deadLetters, failures } := List.getElem?_concat_length
    refine ⟨⟨?_, fun t s hs => ?_⟩, (List.append_nil _).symm, rfl⟩
    · funext role receipt n
      rw [Exchange.ahead, there, Option.map_some, Option.getD_some, BusCell.ahead]
      cases role with
      | deadLetter => simp [hears.1, BusCell.sink, BusCell.calls]
      | failure => simp [hears.2, BusCell.sink, BusCell.calls]
    · rw [books_eq there] at hs
      simp [Registry.listFor] at hs

omit hc in
theorem Aloof.recorderNamed (label : String) (hw : w.Aloof ends) :
    KeepsOff ends P w (w.recorderNamed label).1 ∧ (w.recorderNamed label).1.buses = w.buses := by
  rw [Exchange.recorderNamed]
  split
  · exact ⟨hw.idle, rfl⟩
  · exact ⟨hw.keepsOff rfl rfl fun _ => rfl, rfl⟩

omit hc in
theorem Aloof.makeSink {plan : SinkPlan} (aloof : plan.Aloof ends) (hw : w.Aloof ends) :
    KeepsOff ends P w (w.makeSink plan).1 ∧ (w.makeSink plan).1.buses = w.buses ∧
      (w.makeSink plan).2.Aloof ends ∧ (w.makeSink plan).2.hears = plan.hears := by
  cases plan with
  | responding react => exact ⟨hw.idle, rfl, aloof, rfl⟩
  | logging sink => exact ⟨hw.idle, rfl, trivial, rfl⟩
  | recording label =>
    obtain ⟨off, same⟩ := hw.recorderNamed label
    exact ⟨off, same, trivial, rfl⟩

omit hc in
/-- A bus that is made when its sinks are there, with what is done then to put it on the desk. It
takes the next number. -/
theorem KeepsOff.opened (first : KeepsOff ends (fun _ => True) w u) (same : u.buses = w.buses)
    (deadLetters failures : Sink) (shown : Option String)
    {sinks : SinkRole → Receipt → Nat → Except Halt Unit}
    (aloof : deadLetters.Aloof ends ∧ failures.Aloof ends)
    (hears : sinks .deadLetter = deadLetters.hears ∧ sinks .failure = failures.hears)
    {result : Exchange × Except Halt Reply}
    (placed : (u.addBus deadLetters failures).1.Aloof ends →
      Does ends (u.addBus deadLetters failures).1
        (.ok (shown.elim .done fun text => .assembled text none)) result) :
    Deals ends w.buses.length w ((Request.opened shown sinks).enter k)
      ((Request.opened shown sinks).meet k) result ∧ w.buses.length < result.1.buses.length := by
  have length : u.buses.length = w.buses.length := congrArg List.length same
  have made := first.aloof.addBus aloof hears
  let reply : Reply := shown.elim .done fun text => .assembled text none
  have fresh : (u.addBus deadLetters failures).1.books u.buses.length = {} := made.books
  have put := placed made.off.aloof
  have rest : Deals ends u.buses.length (u.addBus deadLetters failures).1 {}
      (fun c => (c, [], .ok reply)) result :=
    fresh ▸ put.deals
  have taken : u.buses.length < (u.addBus deadLetters failures).1.buses.length := by
    simp [Exchange.addBus]
  rw [← length]
  exact ⟨first.deals (made.bind_ok (fun _ c => (c, [], .ok reply)) rest),
    Nat.lt_of_lt_of_le taken put.off.grows⟩

theorem Aloof.openBus (label : String) {plan : BusPlan} (aloof : plan.Aloof ends) {q : Request}
    (hq : plan.request? = some q) (hw : w.Aloof ends) :
    Deals ends w.buses.length w (q.enter k) (q.meet k) (MessageBus.openBus call label plan w) ∧
      w.buses.length < (MessageBus.openBus call label plan w).1.buses.length := by
  cases plan with
  | responding deadLetters failures =>
    obtain rfl := Option.some.inj hq
    exact hw.idle.opened rfl (.responding deadLetters) (.responding failures) none aloof ⟨rfl, rfl⟩
      fun h => h.placeBus hc label _ _
  | recording name =>
    obtain rfl := Option.some.inj hq
    obtain ⟨off, same⟩ := hw.recorderNamed name
    let sink : Sink := .recorder (w.recorderNamed name).2
    exact off.opened same sink sink none ⟨trivial, trivial⟩ ⟨rfl, rfl⟩
      fun h => h.placeBus hc label _ _
  | testing name =>
    obtain rfl := Option.some.inj hq
    have added : KeepsOff ends (fun _ => True) w (w.addRecorder name) :=
      hw.keepsOff rfl rfl fun _ => rfl
    let sink : Sink := .recorder w.recorders.length
    refine added.opened rfl sink sink none ⟨trivial, trivial⟩ ⟨rfl, rfl⟩ fun h => ?_
    let b := w.buses.length
    let v := ((w.addRecorder name).addBus sink sink).1
    -- The recorder that had the name is let go of while the bus is held that takes the new one.
    have held : KeepsOff ends (fun _ => True) v (v.hold [.bus b]) := h.hold _
    let old := (w.desk.recorders.get? name).map Ref.recorder
    have gone := (held.aloof.releasing hc old .done).after held
    simp only [MessageBus.openBus]
    split
    · next u _ e =>
      have went : Does ends v (.ok Reply.done) (u, .ok .done) := gone.ended e _
      have carried : KeepsOff ends (fun _ => True) v u.letGo :=
        went.off.trans (went.off.aloof.keepsOff rfl rfl fun _ => rfl)
      exact (carried.aloof.placeBus hc label b .done).after carried
    · next u cause e =>
      have stopped : Does ends v (.ok Reply.done) (u, .error (.stopped cause)) := gone.stopped e _
      exact ⟨stopped.off.trans (stopped.off.aloof.keepsOff rfl rfl fun _ => rfl), stopped.yields⟩
    · next u t e =>
      have stopped : Does ends v (.ok Reply.done) (u, .error (.panicked t)) := gone.stopped e _
      have dropped := stopped.off.aloof.releaseAll hc true [.bus b]
      exact stopped.onward ⟨dropped.off, dropped.yields.unlessHalted _⟩
  | logging sink =>
    cases sink with
    | error failure => simp [BusPlan.request?] at hq
    | ok sink =>
      obtain rfl := Option.some.inj hq
      exact hw.idle.opened rfl (.logging sink) (.logging sink) none ⟨trivial, trivial⟩ ⟨rfl, rfl⟩
        fun h => h.placeBus hc label _ _
  | assembled deadLetters failures =>
    cases deadLetters with
    | none => simp [BusPlan.request?] at hq
    | some deadLetters =>
      cases failures with
      | none => simp [BusPlan.request?] at hq
      | some failures =>
        obtain rfl := Option.some.inj hq
        obtain ⟨off, same, quiet, hears⟩ := hw.makeSink (aloof.1 deadLetters rfl)
        obtain ⟨off', same', quiet', hears'⟩ := off.aloof.makeSink (aloof.2 failures rfl)
        exact (off.trans off').opened (same'.trans same) _ _ (some _) ⟨quiet, quiet'⟩
          ⟨hears.symm, hears'.symm⟩ fun h => h.placeBus hc label _ _

omit hc in
theorem Aloof.openNothing (label : String) {plan : BusPlan} (aloof : plan.Aloof ends)
    (hq : plan.request? = none) (hw : w.Aloof ends) :
    ∃ reply, Does ends w (.ok reply) (MessageBus.openBus call label plan w) := by
  cases plan with
  | responding | recording | testing => simp [BusPlan.request?] at hq
  | logging sink =>
    cases sink with
    | error failure => exact ⟨_, hw.idle, .comes⟩
    | ok sink => simp [BusPlan.request?] at hq
  | assembled deadLetters failures =>
    cases deadLetters with
    | none =>
      cases failures with
      | none => exact ⟨_, hw.idle, .comes⟩
      | some failures => exact ⟨_, (hw.makeSink (aloof.2 failures rfl)).1, .comes⟩
    | some deadLetters =>
      cases failures with
      | none => exact ⟨_, (hw.makeSink (aloof.1 deadLetters rfl)).1, .comes⟩
      | some failures => simp [BusPlan.request?] at hq

/-- A step that asks nothing of a bus does nothing to one, whatever it does with the handles. -/
theorem Aloof.aside {step : Step} (tame : step.Tame ends) (hq : step.request? w = none)
    (hw : w.Aloof ends) :
    ∃ reply, Does ends w (.ok reply) (MessageBus.perform call none step w) := by
  match step with
  | .unknown word => exact hw.perform hc none (.unknown word)
  | .openMailbox .. => exact hw.perform hc none tame
  | .cloneMailbox id other => exact hw.perform hc none (.cloneMailbox id other)
  | .forget id => exact hw.perform hc none (.forget id)
  | .showRoutes snapshot => exact hw.perform hc none (.showRoutes snapshot)
  | .showRoutesText snapshot tall => exact hw.perform hc none (.showRoutesText snapshot tall)
  | .describe id tall => exact hw.perform hc none (.describe id tall)
  | .compare a b => exact hw.perform hc none (.compare a b)
  | .recorder id query => exact hw.perform hc none (.recorder id query)
  | .journal id query => exact hw.perform hc none (.journal id query)
  | .emit event => exact hw.perform hc none (.emit event)
  | .guarded step =>
    have inside : step.Tame ends := tame
    have nothing : step.request? w = none := hq
    obtain ⟨reply, done⟩ := Aloof.aside inside nothing hw
    simp only [MessageBus.perform]
    split
    · next u t e => exact ⟨.panicked t, (e ▸ done).off, .comes⟩
    · exact ⟨reply, done⟩
  | .openBus id plan => exact hw.openNothing id tame (Option.map_eq_none_iff.mp hq)
  | .subscribe bus id numbered =>
    simp only [MessageBus.perform]
    split
    · next hb hm => simp [Step.request?, hb, hm] at hq
    · exact ⟨_, hw.idle, .comes⟩
  | .unsubscribe bus id =>
    simp only [MessageBus.perform]
    split
    · next hb hm => simp [Step.request?, hb, hm] at hq
    · exact ⟨_, hw.idle, .comes⟩
  | .publish _ _ _ | .clear _ | .countAll _ | .countFor _ _ | .entries _ _ _ | .resolve _ _
  | .showBus _ _ _ =>
    have unknown := Option.map_eq_none_iff.mp hq
    simp only [MessageBus.perform, unknown]
    exact ⟨_, hw.idle, .comes⟩
  | .republish bus => exact ⟨_, hw.idle, .comes⟩
  | .cloneBus bus other =>
    simp only [MessageBus.perform]
    split
    · exact ⟨_, hw.idle, .comes⟩
    · exact ⟨_, hw.placeBus hc other _ .done⟩
  | .downgrade bus other =>
    simp only [MessageBus.perform]
    split
    · exact ⟨_, hw.idle, .comes⟩
    · exact ⟨_, hw.keepsOff rfl rfl fun _ => rfl, .comes⟩
  | .upgrade id keep =>
    simp only [MessageBus.perform]
    split
    · exact ⟨_, hw.idle, .comes⟩
    · split
      · cases keep with
        | none => exact ⟨_, hw.idle, .comes⟩
        | some label => exact ⟨_, hw.placeBus hc label _ (.flag true)⟩
      · exact ⟨_, hw.idle, .comes⟩
  | .dropBus bus =>
    simp only [MessageBus.perform]
    split
    · exact ⟨_, hw.idle, .comes⟩
    · have taken : KeepsOff ends (fun _ => True) w
          { w with desk := { w.desk with buses := w.desk.buses.remove bus } } :=
        hw.keepsOff rfl rfl fun _ => rfl
      exact ⟨.done, (taken.aloof.releasing hc _ _).after taken⟩
  | .compareBuses _ _ | .showWeak _ _ =>
    simp only [MessageBus.perform]
    split <;> exact ⟨_, hw.idle, .comes⟩

omit hc in
/-- A request that a bus is only looked up for. -/
theorem Aloof.looked {cell : BusCell} (hb : w.buses[b]? = some cell) {q : Request} {reply : Reply}
    (still : q.enter ⟨cell.registry, cell.resolver⟩ = ⟨cell.registry, cell.resolver⟩)
    (meets : ∀ c, q.meet ⟨cell.registry, cell.resolver⟩ c = (c, [], .ok reply))
    (hw : w.Aloof ends) :
    Deals ends b w (q.enter (w.books b)) (q.meet (w.books b)) (w, .ok reply) := by
  have same : q.meet (w.books b) = fun c => (c, [], .ok reply) := by
    rw [books_eq hb]
    exact funext meets
  have books : q.enter (w.books b) = w.books b := by
    rw [books_eq hb]
    exact still
  rw [same, books]
  exact hw.idle.unnoticed _

/-- A step that asks something of a bus does so and no more. -/
theorem Aloof.asked {step : Step} (tame : step.Tame ends) {q : Request}
    (hq : step.request? w = some (b, q)) (sound : w.Sound) (hw : w.Aloof ends) :
    Deals ends b w (q.enter (w.books b)) (fun c => (q.meet (w.books b) c).answered)
      ((MessageBus.perform call none step w).1,
        MessageBus.answered (MessageBus.perform call none step w).2) := by
  match step with
  | .guarded step =>
    have inside : step.Tame ends := tame
    have same : step.request? w = some (b, q) := hq
    have inner := Aloof.asked inside same sound hw
    have caught : ((MessageBus.perform call none (.guarded step) w).1,
        MessageBus.answered (MessageBus.perform call none (.guarded step) w).2) =
        ((MessageBus.perform call none step w).1,
          MessageBus.answered (MessageBus.perform call none step w).2) := by
      rw [MessageBus.perform]
      rcases MessageBus.perform call none step w with ⟨u, (t | _) | reply⟩ <;> rfl
    rw [caught]
    exact inner
  | .openBus id plan =>
    obtain ⟨q, made, same⟩ := Option.map_eq_some_iff.mp hq
    obtain ⟨rfl, rfl⟩ := Prod.mk.inj same
    exact (hw.openBus hc id tame made (k := w.books w.buses.length)).1.answered
  | .subscribe bus id numbered =>
    obtain ⟨cell, m, named, hm, rfl⟩ := named_of_request hq
    have known := sound.answer?_eq (mem_of_mailboxNamed? hm)
    simp only [MessageBus.perform, named, hm]
    exact (hw.subscribed (getElem?_of_busNamed? named) known numbered).answered
  | .unsubscribe bus id =>
    obtain ⟨cell, m, named, hm, rfl⟩ := named_of_request hq
    simp only [MessageBus.perform, named, hm]
    have there := getElem?_of_busNamed? named
    exact (hw.unsubscribed hc sound there (mem_of_mailboxNamed? hm)).answered
  | .publish bus message times =>
    obtain ⟨cell, named, rfl⟩ := busNamed?_of_request hq
    have held : KeepsOff ends (fun _ => True) w (w.hold [.bus b]) := hw.hold _
    have there : (w.hold [.bus b]).buses[b]? = some cell := getElem?_of_busNamed? named
    have published := held.aloof.publishTimes hc there message times
    simp only [MessageBus.perform, named]
    exact (Deals.whileHolding hc [.bus b] hw published).answered
  | .clear bus =>
    obtain ⟨cell, named, rfl⟩ := busNamed?_of_request hq
    have held : KeepsOff ends (fun _ => True) w (w.hold [.bus b]) := hw.hold _
    have there : (w.hold [.bus b]).buses[b]? = some cell := getElem?_of_busNamed? named
    have cleared := held.aloof.cleared hc there
    simp only [MessageBus.perform, named]
    exact (Deals.whileHolding hc [.bus b] hw cleared).answered
  | .countAll bus =>
    obtain ⟨cell, named, rfl⟩ := busNamed?_of_request hq
    simp only [MessageBus.perform, named]
    exact (hw.looked (getElem?_of_busNamed? named) rfl fun c => rfl).answered
  | .countFor bus tag =>
    obtain ⟨cell, named, rfl⟩ := busNamed?_of_request hq
    simp only [MessageBus.perform, named]
    exact (hw.looked (getElem?_of_busNamed? named) rfl fun c => rfl).answered
  | .entries bus tags keep =>
    obtain ⟨cell, named, rfl⟩ := busNamed?_of_request hq
    let routes := cell.registry.entriesFor tags
    have unlabelled (c : Company) :
        Upshot.answered (c, [], .ok (.routes (w.routeNotes routes))) =
          ((Request.entries tags).meet (w.books b) c).answered := by
      rw [books_eq (getElem?_of_busNamed? named)]
      simp [Upshot.answered, MessageBus.answered, Reply.unlabelled, routeNotes, Request.meet,
        routes]
    have shown {result : Exchange × Except Halt Reply}
        (done : Does ends w (.ok (.routes (w.routeNotes routes))) result) :
        Deals ends b w (w.books b) (fun c => ((Request.entries tags).meet (w.books b) c).answered)
          (result.1, MessageBus.answered result.2) :=
      done.deals.answered.congr fun c _ => unlabelled c
    simp only [MessageBus.perform, named]
    cases keep with
    | none => exact shown ⟨hw.idle, .comes⟩
    | some label =>
      have held : KeepsOff ends (fun _ => True) w (w.hold [.bus b]) := hw.hold _
      have placed := (held.aloof.placeSnapshot hc label routes
        (.routes (w.routeNotes routes))).after held
      exact shown (placed.onward (Aloof.whileHolding hc [.bus b] placed.off.aloof))
  | .resolve bus message =>
    obtain ⟨cell, named, rfl⟩ := busNamed?_of_request hq
    have there := getElem?_of_busNamed? named
    have resolved := hw.resolved there message
    have chain : (w.resolve b message).2 = ((w.books b).resolver.resolve message).2.tags :=
      (resolve_eq (List.getElem?_eq_some_iff.mp there).1 message).1
    let names := ((w.books b).resolver.resolve message).2.tags.map (·.name)
    have told : Does ends (w.resolve b message).1 (.ok (Reply.names names))
        ((w.resolve b message).1, .ok (Reply.names names)) :=
      ⟨resolved.off.aloof.idle, .comes⟩
    simp only [MessageBus.perform, named, chain]
    exact (resolved.replied told).answered
  | .showBus bus part tall =>
    obtain ⟨cell, named, rfl⟩ := busNamed?_of_request hq
    simp only [MessageBus.perform, named]
    exact (hw.looked (getElem?_of_busNamed? named) rfl fun c => by cases part <;> rfl).answered
  | .unknown _ | .openMailbox .. | .cloneMailbox _ _ | .forget _ | .showRoutes _
  | .showRoutesText _ _ | .describe _ _ | .compare _ _ | .recorder _ _ | .journal _ _ | .emit _
  | .republish _ | .cloneBus _ _ | .downgrade _ _ | .upgrade _ _ | .dropBus _ | .compareBuses _ _
  | .showWeak _ _ => simp [Step.request?] at hq

/-- A bus that is asked something is there afterwards. -/
theorem Aloof.lt_of_asked {step : Step} (tame : step.Tame ends) {q : Request}
    (hq : step.request? w = some (b, q)) (sound : w.Sound) (hw : w.Aloof ends) :
    b < (MessageBus.perform call none step w).1.buses.length := by
  have grows := (hw.asked hc tame hq sound).off.grows
  match step with
  | .guarded step =>
    have inside : step.Tame ends := tame
    have same : step.request? w = some (b, q) := hq
    have inner := Aloof.lt_of_asked inside same sound hw
    rw [MessageBus.perform]
    split
    · next e => exact (congrArg Prod.fst e) ▸ inner
    · exact inner
  | .openBus id plan =>
    obtain ⟨q, made, same⟩ := Option.map_eq_some_iff.mp hq
    obtain ⟨rfl, rfl⟩ := Prod.mk.inj same
    exact (hw.openBus hc id tame made (k := {})).2
  | .subscribe _ _ _ | .unsubscribe _ _ =>
    obtain ⟨cell, m, named, -⟩ := named_of_request hq
    exact Nat.lt_of_lt_of_le (lt_of_busNamed? named) grows
  | .publish _ _ _ | .clear _ | .countAll _ | .countFor _ _ | .entries _ _ _ | .resolve _ _
  | .showBus _ _ _ =>
    obtain ⟨cell, named, -⟩ := busNamed?_of_request hq
    exact Nat.lt_of_lt_of_le (lt_of_busNamed? named) grows
  | .unknown _ | .openMailbox .. | .cloneMailbox _ _ | .forget _ | .showRoutes _
  | .showRoutesText _ _ | .describe _ _ | .compare _ _ | .recorder _ _ | .journal _ _ | .emit _
  | .republish _ | .cloneBus _ _ | .downgrade _ _ | .upgrade _ _ | .dropBus _ | .compareBuses _ _
  | .showWeak _ _ => simp [Step.request?] at hq

end

end Exchange

end MessageBus
