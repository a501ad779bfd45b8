import MessageBus.Proofs.Exchange.Asking
import MessageBus.Proofs.Exchange.Mute

namespace MessageBus

namespace Outcome

/-- How code has to end to come out in some way, unless it was stopped. -/
def ending : Outcome → Ending
  | .ok none | .error (.stopped _) => .succeed
  | .ok (some refusal) => .refuse refusal
  | .error (.panicked t) => .panic t

/-- Code that does nothing but come out in some way. -/
def mute (a : Outcome) : Reaction := .mk [] (ending a)

theorem outcome_ending {a : Outcome} (unstopped : Except.Unstopped a) :
    (ending a).outcome = a := by
  rcases a with (t | cause) | (_ | refusal)
  · rfl
  · exact absurd rfl (unstopped cause)
  · rfl
  · rfl

end Outcome

theorem Handler.answer_unstopped (h : Handler) (view : Message) :
    Except.Unstopped (h.answer view) := by
  cases h with
  | recording journal => exact unstopped_ok _
  | responding react lenient journal =>
    exact map_unstopped (react view 1).ending.outcome_unstopped _

theorem Handler.answer_mute {answer : Message → Outcome}
    (unstopped : ∀ view, Except.Unstopped (answer view)) :
    (Handler.responding (fun view _ => (answer view).mute) false none).answer = answer := by
  funext view
  have comes : (answer view).mute.ending.outcome = answer view :=
    Outcome.outcome_ending (unstopped view)
  rw [Handler.answer, comes]
  cases answer view <;> rfl

theorem Sink.hears_unstopped (k : Sink) (receipt : Receipt) (n : Nat) :
    Except.Unstopped (k.hears receipt n) := by
  cases k with
  | responding react => exact map_unstopped (react receipt n).ending.outcome_unstopped _
  | recorder | logging => exact unstopped_ok _

theorem SinkPlan.hears_unstopped (plan : SinkPlan) (receipt : Receipt) (n : Nat) :
    Except.Unstopped (plan.hears receipt n) := by
  cases plan with
  | responding react => exact Sink.hears_unstopped (.responding react) receipt n
  | recording | logging => exact unstopped_ok _

/-- A label for a mailbox by its number: as many strokes. -/
def strokes (m : MailboxId) : String := String.ofList (List.replicate m '|')

theorem strokes_inj {i j : MailboxId} : strokes i = strokes j ↔ i = j := by
  refine ⟨fun same => ?_, fun same => same ▸ rfl⟩
  have lengths := congrArg String.length same
  simpa [strokes] using lengths

/-- Makes a mailbox that answers in some way, under a label by its number. -/
def Mailbox.retell (m : Mailbox) (answer : Message → Outcome) : Step :=
  .openMailbox (strokes m.id) m.name m.target
    (.responding (fun view _ => (answer view).mute) false none) none

namespace Request

/-- Sinks that do nothing but come out of their calls as some others do. -/
def hearing (sinks : SinkRole → Receipt → Nat → Except Halt Unit) (role : SinkRole)
    (receipt : Receipt) (n : Nat) : Reaction :=
  Outcome.mute ((sinks role receipt n).map fun _ => none)

theorem hears_hearing {sinks : SinkRole → Receipt → Nat → Except Halt Unit} {role : SinkRole}
    {receipt : Receipt} {n : Nat} (unstopped : Except.Unstopped (sinks role receipt n)) :
    (Sink.responding (hearing sinks role)).hears receipt n = sinks role receipt n := by
  have comes : (hearing sinks role receipt n).ending.outcome =
      (sinks role receipt n).map fun _ => none :=
    Outcome.outcome_ending (map_unstopped unstopped _)
  rw [Sink.hears, comes]
  cases sinks role receipt n <;> rfl

/-- A bus to be made with such sinks, which is assembled if a text is shown for that. -/
def plan (sinks : SinkRole → Receipt → Nat → Except Halt Unit) : Option String → BusPlan
  | none => .responding (hearing sinks .deadLetter) (hearing sinks .failure)
  | some _ =>
    .assembled (some (.responding (hearing sinks .deadLetter)))
      (some (.responding (hearing sinks .failure)))

/-- Asks something of the one bus there is, through the one handle it has. -/
def retell : Request → Step
  | opened shown sinks => .openBus "bus" (plan sinks shown)
  | subscribe m _ numbered => .subscribe "bus" (strokes m.id) numbered
  | unsubscribe m => .unsubscribe "bus" (strokes m.id)
  | publish message times => .publish "bus" message times
  | clear => .clear "bus"
  | countAll => .countAll "bus"
  | countFor tag => .countFor "bus" tag
  | entries tags => .entries "bus" tags none
  | resolve message => .resolve "bus" message
  | showBus part tall => .showBus "bus" part tall

/-- Whether a request makes a bus, with sinks as there can be. -/
def Opens : Request → Prop
  | opened shown sinks =>
    (∀ text ∈ shown, ∀ deadLetters failures,
      text = (builderShape (some deadLetters) (some failures)).inline) ∧
    ∀ role receipt n, Except.Unstopped (sinks role receipt n)
  | _ => False

/-- Whether something can be asked of a bus that is there, among mailboxes that answer in some
ways. -/
def Fits (replies : List (Mailbox × (Message → Outcome))) : Request → Prop
  | opened .. => False
  | subscribe m answer _ => replies[m.id]? = some (m, answer)
  | unsubscribe m => ∃ answer, replies[m.id]? = some (m, answer)
  | _ => True

theorem Fits.mono {answers more : List (Mailbox × (Message → Outcome))} {q : Request}
    (fits : q.Fits answers) (grows : answers <+: more) : q.Fits more := by
  obtain ⟨new, rfl⟩ := grows
  have later {i : Nat} {x : Mailbox × (Message → Outcome)} (there : answers[i]? = some x) :
      (answers ++ new)[i]? = some x :=
    (List.getElem?_append_left (List.getElem?_eq_some_iff.mp there).1).trans there
  cases q with
  | opened => exact fits
  | subscribe m answer numbered => exact later fits
  | unsubscribe m =>
    obtain ⟨answer, there⟩ := fits
    exact ⟨answer, later there⟩
  | _ => trivial

/-- What can be asked of a bus, from when it is made. -/
def Askable (answers : List (Mailbox × (Message → Outcome))) : List Request → Prop
  | [] => True
  | q :: later => q.Opens ∧ ∀ r ∈ later, r.Fits answers

theorem request?_plan {shown : Option String} {sinks : SinkRole → Receipt → Nat → Except Halt Unit}
    (opens : (opened shown sinks).Opens) :
    (plan sinks shown).request? = some (opened shown sinks) := by
  obtain ⟨same, unstopped⟩ := opens
  have hears (role : SinkRole) : (Sink.responding (hearing sinks role)).hears = sinks role :=
    funext fun receipt => funext fun n => hears_hearing (unstopped role receipt n)
  cases shown with
  | none =>
    refine congrArg (fun s => some (opened none s)) (funext fun role => ?_)
    cases role with
    | deadLetter => exact hears .deadLetter
    | failure => exact hears .failure
  | some text =>
    rw [same text rfl]
    refine congrArg (fun s => some (opened (some _) s)) (funext fun role => ?_)
    cases role with
    | deadLetter => exact hears .deadLetter
    | failure => exact hears .failure

/-- A bus that is made by a plan has sinks as there can be. -/
theorem opens_of_plan {plan : BusPlan} {q : Request} (h : plan.request? = some q) : q.Opens := by
  cases plan with
  | responding deadLetters failures =>
    obtain rfl := Option.some.inj h
    refine ⟨by simp, fun role receipt n => ?_⟩
    cases role <;> exact Sink.hears_unstopped (.responding _) receipt n
  | recording | testing =>
    obtain rfl := Option.some.inj h
    exact ⟨by simp, fun _ _ _ => unstopped_ok _⟩
  | logging sink =>
    cases sink with
    | error failure => simp [BusPlan.request?] at h
    | ok sink =>
      obtain rfl := Option.some.inj h
      exact ⟨by simp, fun _ _ _ => unstopped_ok _⟩
  | assembled deadLetters failures =>
    cases deadLetters with
    | none => simp [BusPlan.request?] at h
    | some deadLetters =>
      cases failures with
      | none => simp [BusPlan.request?] at h
      | some failures =>
        obtain rfl := Option.some.inj h
        refine ⟨fun text shown d f => (Option.some.inj shown).symm, fun role receipt n => ?_⟩
        cases role <;> exact SinkPlan.hears_unstopped _ receipt n

end Request

namespace Exchange

variable {w v u : Exchange} {b : BusId} {answers : List (Mailbox × (Message → Outcome))}
  {call : Runner}

/-- The mailboxes there are, each with the way it answers. -/
def replies (w : Exchange) : List (Mailbox × (Message → Outcome)) :=
  w.mailboxes.map fun c => (c.mailbox, c.handler.answer)

theorem mailboxNamed?_eq (w : Exchange) (label : String) :
    w.mailboxNamed? label =
      (w.desk.mailboxes.get? label).bind fun m => (w.replies[m]?).map (·.1) := by
  simp only [mailboxNamed?, replies, List.getElem?_map, Option.map_map]
  rfl

theorem answer?_eq_replies (w : Exchange) (m : MailboxId) :
    w.answer? m = (w.replies[m]?).map (·.2) := by
  simp only [answer?, replies, List.getElem?_map, Option.map_map]
  rfl

theorem replies_of_outline (same : v.outline = w.outline) : v.replies = w.replies := by
  have mailboxes := congrArg (fun x => x.2.1.map fun c => (c.1, c.2.1.answer)) same
  simp only [outline, List.map_map] at mailboxes
  exact mailboxes

theorem Lasting.replies (h : Lasting w v) : w.replies <+: v.replies := by
  have all := h.natures.map fun x => (x.1, x.2.answer)
  rwa [List.map_map, List.map_map] at all

/-- The mailboxes there are have numbers in order, and nothing stops their answers. -/
theorem Sound.replies (sound : w.Sound) :
    (∀ (i : Nat) x, w.replies[i]? = some x → x.1.id = i) ∧
      ∀ x ∈ w.replies, ∀ view, Except.Unstopped (x.2 view) := by
  refine ⟨fun i x hx => ?_, fun x hx => ?_⟩
  · rw [Exchange.replies, List.getElem?_map] at hx
    obtain ⟨cell, there, rfl⟩ := Option.map_eq_some_iff.mp hx
    exact sound.mailboxes i cell.mailbox (by rw [List.getElem?_map, there]; rfl)
  · obtain ⟨cell, -, rfl⟩ := List.mem_map.mp hx
    exact cell.handler.answer_unstopped

theorem Sound.reply_of_named (sound : w.Sound) {id : String} {m : Mailbox}
    (named : w.mailboxNamed? id = some m) :
    w.replies[m.id]? = some (m, (w.answer? m.id).getD fun _ => .ok none) := by
  rw [mailboxNamed?_eq] at named
  obtain ⟨i, -, found⟩ := Option.bind_eq_some_iff.mp named
  obtain ⟨x, there, rfl⟩ := Option.map_eq_some_iff.mp found
  have number : x.1.id = i := sound.replies.1 i x there
  rw [answer?_eq_replies, number, there]
  rfl

/-- What is asked of a bus makes it, or can be asked of it among the mailboxes there are. -/
theorem Sound.request_cases (sound : w.Sound) {step : Step} {q : Request}
    (hq : step.request? w = some (b, q)) :
    (q.Opens ∧ b = w.buses.length) ∨ (q.Fits w.replies ∧ b < w.buses.length) := by
  match step with
  | .guarded step =>
    have same : step.request? w = some (b, q) := hq
    exact Sound.request_cases sound same
  | .openBus id plan =>
    obtain ⟨q, made, same⟩ := Option.map_eq_some_iff.mp hq
    obtain ⟨rfl, rfl⟩ := Prod.mk.inj same
    exact .inl ⟨Request.opens_of_plan made, rfl⟩
  | .subscribe bus id numbered =>
    obtain ⟨cell, m, named, hm, rfl⟩ := named_of_request hq
    exact .inr ⟨sound.reply_of_named hm, lt_of_busNamed? named⟩
  | .unsubscribe bus id =>
    obtain ⟨cell, m, named, hm, rfl⟩ := named_of_request hq
    exact .inr ⟨⟨_, sound.reply_of_named hm⟩, lt_of_busNamed? named⟩
  | .publish _ _ _ | .clear _ | .countAll _ | .countFor _ _ | .entries _ _ _ | .resolve _ _
  | .showBus _ _ _ =>
    obtain ⟨cell, named, rfl⟩ := busNamed?_of_request hq
    exact .inr ⟨trivial, lt_of_busNamed? named⟩
  | .unknown _ | .openMailbox .. | .cloneMailbox _ _ | .forget _ | .showRoutes _
  | .showRoutesText _ _ | .describe _ _ | .compare _ _ | .recorder _ _ | .journal _ _ | .emit _
  | .republish _ | .cloneBus _ _ | .downgrade _ _ | .upgrade _ _ | .dropBus _ | .compareBuses _ _
  | .showWeak _ _ => simp [Step.request?] at hq

/-- The stage on which something is asked of a bus: mailboxes that answer in some ways, with labels
by their numbers, and one bus with its handle. -/
structure Stage (answers : List (Mailbox × (Message → Outcome))) (w : Exchange) : Prop where
  mute : w.Mute
  replies : w.replies = answers
  labels : ∀ i < answers.length, w.desk.mailboxes.get? (strokes i) = some i
  handle : w.desk.buses.get? "bus" = some 0
  bus : w.buses.length = 1

theorem Stage.of_outline (stage : Stage answers w) (same : v.outline = w.outline) :
    Stage answers v where
  mute := stage.mute.of_outline same
  replies := (replies_of_outline same).trans stage.replies
  labels := by
    have desk : v.desk = w.desk := congrArg Prod.fst same
    exact desk ▸ stage.labels
  handle := by
    have desk : v.desk = w.desk := congrArg Prod.fst same
    exact desk ▸ stage.handle
  bus := by
    have lengths := congrArg (fun x => x.2.2.length) same
    simp only [outline, List.length_map] at lengths
    exact lengths.trans stage.bus

theorem Stage.busNamed? (stage : Stage answers w) : ∃ cell, w.busNamed? "bus" = some (0, cell) := by
  have there : 0 < w.buses.length := stage.bus ▸ Nat.one_pos
  refine ⟨w.buses[0], ?_⟩
  rw [Exchange.busNamed?, stage.handle, Option.bind_some, List.getElem?_eq_getElem there]
  rfl

theorem Stage.mailboxNamed? (stage : Stage answers w) {m : Mailbox} {answer : Message → Outcome}
    (there : answers[m.id]? = some (m, answer)) : w.mailboxNamed? (strokes m.id) = some m := by
  have here := (List.getElem?_eq_some_iff.mp there).1
  rw [mailboxNamed?_eq, stage.labels m.id here, Option.bind_some, stage.replies, there]
  rfl

/-- What is asked of the bus on a stage is asked of it by the step that retells it. -/
theorem Stage.requestTo? (stage : Stage answers w) {q : Request} (fits : q.Fits answers) :
    q.retell.requestTo? 0 w = some q := by
  obtain ⟨cell, named⟩ := stage.busNamed?
  cases q with
  | opened => exact fits.elim
  | subscribe m answer numbered =>
    have there : answers[m.id]? = some (m, answer) := fits
    have known : w.answer? m.id = some answer := by
      rw [answer?_eq_replies, stage.replies, there]
      rfl
    simp [Step.requestTo?, Request.retell, Step.request?, named, stage.mailboxNamed? there, known]
  | unsubscribe m =>
    obtain ⟨answer, there⟩ := fits
    simp [Step.requestTo?, Request.retell, Step.request?, named, stage.mailboxNamed? there]
  | _ => simp [Step.requestTo?, Request.retell, Step.request?, named]

/-- What is asked of the bus on a stage leaves the stage as it is. -/
theorem Stage.rests (hc : call.CarriesMute) (stage : Stage answers w) {q : Request}
    (fits : q.Fits answers) : Rests w (perform call none q.retell w) := by
  obtain ⟨cell, named⟩ := stage.busNamed?
  have held : (w.hold [.bus 0]).Mute := stage.mute.of_outline rfl
  cases q with
  | opened => exact fits.elim
  | subscribe m answer numbered =>
    have subscribed : (subscribeMailbox 0 cell m w).1.outline = w.outline :=
      outline_modifyBus (w := w) 0 (fun c => { c with registry := (cell.registry.subscribe m).1 })
        fun _ => rfl
    simp only [Request.retell, perform, named, stage.mailboxNamed? fits]
    exact ⟨subscribed, unstopped_ok _⟩
  | unsubscribe m =>
    obtain ⟨answer, there⟩ := fits
    simp only [Request.retell, perform, named, stage.mailboxNamed? there]
    exact stage.mute.unsubscribeMailbox hc 0 cell m
  | publish message times =>
    simp only [Request.retell, perform, named]
    exact Rests.whileHolding hc stage.handle ((held.publishTimes hc 0 message times).after rfl)
  | clear =>
    simp only [Request.retell, perform, named]
    exact Rests.whileHolding hc stage.handle ((held.clearBus hc 0).after rfl)
  | resolve message =>
    simp only [Request.retell, perform, named]
    exact ⟨outline_resolve 0 message, unstopped_ok _⟩
  | countAll | countFor | entries | showBus =>
    simp only [Request.retell, perform, named]
    exact ⟨rfl, unstopped_ok _⟩

/-- A run goes on after a step that was not stopped. -/
theorem goes_on_of_unstopped (b : BusId) {s : Nat × Step} (steps : List (Nat × Step))
    (unstopped : Except.Unstopped (w.step s.1 s.2).2) :
    w.run (s :: steps) = (w.step s.1 s.2).1.run steps ∧
      dealings b (s :: steps) w =
        ((s.2.requestTo? b w).map fun q => (q, answered (w.step s.1 s.2).2)).toList ++
          dealings b steps (w.step s.1 s.2).1 := by
  obtain ⟨rest, left, on⟩ := goes_on b s steps w
  rw [aborts_of_unstopped unstopped] at left
  obtain rfl : rest = steps := left
  exact on

/-- What can be asked on a stage is asked there, and nothing stops it. -/
theorem Stage.asks (stage : Stage answers w) {asked : List Request}
    (fits : ∀ q ∈ asked, q.Fits answers) :
    (dealings 0 (asked.map fun q => (1, q.retell)) w).map (·.1) = asked ∧
    (∀ x ∈ dealings 0 (asked.map fun q => (1, q.retell)) w, Except.Unstopped x.2) ∧
    Stage answers (w.run (asked.map fun q => (1, q.retell))) := by
  induction asked generalizing w with
  | nil => exact ⟨rfl, by simp [dealings], stage⟩
  | cons q asked ih =>
    have first := fits q List.mem_cons_self
    have rests : Rests w (w.step 1 q.retell) := stage.rests (carriesMute_runner 0) first
    obtain ⟨same, unstopped, later⟩ := ih (stage.of_outline rests.outline)
      fun r hr => fits r (List.mem_cons_of_mem _ hr)
    obtain ⟨ran, dealt⟩ := goes_on_of_unstopped 0 (s := (1, q.retell))
      (asked.map fun q => (1, q.retell)) rests.unstopped
    rw [stage.requestTo? first] at dealt
    rw [List.map_cons, dealt, ran]
    refine ⟨congrArg (List.cons q) same, ?_, later⟩
    exact List.forall_mem_cons.mpr
      ⟨fun cause => answered_stopped.not.mpr (rests.unstopped cause), unstopped⟩

/-- Before there is a bus: mailboxes that answer in some ways have labels by their numbers, which no
other mailbox has. -/
structure Cast (answers : List (Mailbox × (Message → Outcome))) (w : Exchange) : Prop where
  mute : w.Mute
  replies : w.replies = answers
  labels : ∀ i : Nat,
    w.desk.mailboxes.get? (strokes i) = if i < answers.length then some i else none
  handles : w.desk.buses = []
  buses : w.buses = []

theorem cast_empty : Cast [] {} :=
  ⟨⟨by simp [outline], by simp [outline]⟩, rfl, fun _ => rfl, rfl, rfl⟩

/-- A mailbox that is made next. -/
theorem Cast.openMailbox (cast : Cast answers w) {m : Mailbox} {answer : Message → Outcome}
    (number : m.id = answers.length) (unstopped : ∀ view, Except.Unstopped (answer view))
    (depth : Nat) :
    Cast (answers ++ [(m, answer)]) (w.step depth (m.retell answer)).1 ∧
      (w.step depth (m.retell answer)).2 = .ok .done := by
  have length : w.mailboxes.length = answers.length := by
    rw [← cast.replies, Exchange.replies, List.length_map]
  have free : w.desk.mailboxes.get? (strokes m.id) = none := by
    rw [cast.labels, if_neg (number ▸ Nat.lt_irrefl _)]
  let cell : MailboxCell :=
    { mailbox := m, label := strokes m.id
      handler := .responding (fun view _ => (answer view).mute) false none, onDrop := none }
  have made : w.step depth (m.retell answer) =
      ({ w with
        mailboxes := w.mailboxes ++ [cell]
        desk := { w.desk with mailboxes := w.desk.mailboxes.put (strokes m.id) m.id } },
        .ok .done) := by
    simp [Exchange.step, Mailbox.retell, perform, MessageBus.openMailbox, placeMailbox, free,
      releasing, cell, length, ← number]
  rw [made]
  refine ⟨⟨⟨fun x hx => ?_, cast.mute.sinks⟩, ?_, fun i => ?_, cast.handles, cast.buses⟩, rfl⟩
  · have all : x ∈ w.outline.2.1 ++ [(m, cell.handler, none)] := by
      simpa [outline, cell] using hx
    rcases List.mem_append.mp all with old | new
    · exact cast.mute.handlers x old
    · rw [List.mem_singleton.mp new]
      exact ⟨fun _ _ => rfl, rfl⟩
  · have same : cell.handler.answer = answer := Handler.answer_mute unstopped
    rw [Exchange.replies, List.map_append, ← cast.replies, List.map_singleton, same]
    rfl
  · dsimp only
    rw [Shelf.get?_put, cast.labels, List.length_append, List.length_singleton, number]
    by_cases last : i = answers.length
    · rw [last, if_pos rfl, if_pos (Nat.lt_succ_self _)]
    · rw [if_neg (strokes_inj.not.mpr last)]
      have bounds : i < answers.length + 1 ↔ i < answers.length := by omega
      simp only [bounds]

/-- Mailboxes that are made one after another before all else. Nothing is asked of a bus by that. -/
theorem Cast.openMailboxes {more : List (Mailbox × (Message → Outcome))} (cast : Cast answers w)
    (numbers : ∀ (i : Nat) x, (answers ++ more)[i]? = some x → x.1.id = i)
    (unstopped : ∀ x ∈ more, ∀ view, Except.Unstopped (x.2 view)) :
    ∃ v, Cast (answers ++ more) v ∧ ∀ rest,
      w.run (more.map (fun x => (1, x.1.retell x.2)) ++ rest) = v.run rest ∧
      dealings 0 (more.map (fun x => (1, x.1.retell x.2)) ++ rest) w = dealings 0 rest v := by
  induction more generalizing answers w with
  | nil => exact ⟨w, (List.append_nil answers).symm ▸ cast, fun rest => ⟨rfl, rfl⟩⟩
  | cons x more ih =>
    have number : x.1.id = answers.length := numbers answers.length x (by simp)
    obtain ⟨next, made⟩ := cast.openMailbox number (unstopped x List.mem_cons_self) 1
    rw [List.append_cons] at numbers ⊢
    obtain ⟨v, all, on⟩ := ih next numbers fun y hy => unstopped y (List.mem_cons_of_mem _ hy)
    refine ⟨v, all, fun rest => ?_⟩
    obtain ⟨ran, dealt⟩ := goes_on_of_unstopped 0 (s := (1, x.1.retell x.2))
      (more.map (fun x => (1, x.1.retell x.2)) ++ rest) (made ▸ unstopped_ok _)
    exact ⟨ran.trans (on rest).1, dealt.trans (on rest).2⟩

/-- The bus that is made when all mailboxes are there. -/
theorem Cast.openBus (cast : Cast answers w) {q : Request} (opens : q.Opens) (depth : Nat) :
    q.retell.requestTo? 0 w = some q ∧ Except.Unstopped (w.step depth q.retell).2 ∧
      Stage answers (w.step depth q.retell).1 := by
  cases q with
  | opened shown sinks =>
    let deadLetters : Sink := .responding (Request.hearing sinks .deadLetter)
    let failures : Sink := .responding (Request.hearing sinks .failure)
    let v : Exchange :=
      { (w.addBus deadLetters failures).1 with
        desk := { w.desk with buses := w.desk.buses.put "bus" w.buses.length } }
    have free : (w.addBus deadLetters failures).1.desk.buses.get? "bus" = none := by
      simp [addBus, cast.handles, Shelf.get?]
    have placed (reply : Reply) :
        placeBus (runner depth) "bus" w.buses.length reply (w.addBus deadLetters failures).1 =
          (v, .ok reply) := by
      rw [MessageBus.placeBus, free]
      rfl
    have stage : Stage answers v := by
      refine ⟨⟨cast.mute.handlers, fun x hx => ?_⟩, cast.replies, fun i hi => ?_, ?_, ?_⟩
      · have all : x ∈ [(deadLetters, failures)] := by
          simpa [v, outline, addBus, cast.buses, BusCell.sinks] using hx
        rw [List.mem_singleton.mp all]
        exact ⟨fun _ _ => rfl, fun _ _ => rfl⟩
      · exact (cast.labels i).trans (if_pos hi)
      · simp [v, Shelf.get?_put, cast.buses]
      · simp [v, addBus, cast.buses]
    have asks : (Request.opened shown sinks).retell.requestTo? 0 w =
        some (.opened shown sinks) := by
      rw [Step.requestTo?, Request.retell, Step.request?, Request.request?_plan opens, cast.buses]
      rfl
    cases shown with
    | none =>
      have made : w.step depth (Request.retell (.opened none sinks)) = (v, .ok .done) :=
        placed .done
      rw [made]
      exact ⟨asks, unstopped_ok _, stage⟩
    | some text =>
      have made : w.step depth (Request.retell (.opened (some text) sinks)) =
          (v, .ok (.assembled text none)) := by
        rw [opens.1 text rfl]
        exact placed _
      rw [made]
      exact ⟨asks, unstopped_ok _, stage⟩
  | _ => exact opens.elim

/-- A run in which some mailboxes are made, and then one bus that is asked some things. -/
def retold (answers : List (Mailbox × (Message → Outcome))) (asked : List Request) :
    List (Nat × Step) :=
  answers.map (fun x => (1, x.1.retell x.2)) ++ asked.map fun q => (1, q.retell)

/-- Whatever can be asked of a bus is asked of one when it is told again, and nothing stops it. -/
theorem asks_retold (numbers : ∀ (i : Nat) x, answers[i]? = some x → x.1.id = i)
    (unstopped : ∀ x ∈ answers, ∀ view, Except.Unstopped (x.2 view)) {asked : List Request}
    (askable : Request.Askable answers asked) :
    (dealings 0 (retold answers asked) {}).map (·.1) = asked ∧
    (∀ x ∈ dealings 0 (retold answers asked) {}, Except.Unstopped x.2) ∧
    (run {} (retold answers asked)).buses.length ≤ 1 := by
  obtain ⟨w, cast, on⟩ := cast_empty.openMailboxes numbers unstopped
  obtain ⟨ran, dealt⟩ := on (asked.map fun q => (1, q.retell))
  rw [retold, ran, dealt]
  cases asked with
  | nil => exact ⟨rfl, by simp [dealings], by simp [run, cast.buses]⟩
  | cons q asked =>
    obtain ⟨opens, fits⟩ := askable
    obtain ⟨first, well, stage⟩ := cast.openBus opens 1
    obtain ⟨same, each, later⟩ := stage.asks fits
    obtain ⟨ran, dealt⟩ := goes_on_of_unstopped 0 (s := (1, q.retell))
      (asked.map fun q => (1, q.retell)) well
    rw [first] at dealt
    rw [List.map_cons, dealt, ran]
    refine ⟨congrArg (List.cons q) same, ?_, later.bus.le⟩
    exact List.forall_mem_cons.mpr ⟨fun cause => answered_stopped.not.mpr (well cause), each⟩

theorem tame_retold (ends : Ending → Prop) (answers : List (Mailbox × (Message → Outcome)))
    (asked : List Request) : ∀ s ∈ retold answers asked, s.2.Tame ends := by
  intro s hs
  rcases List.mem_append.mp hs with made | dealt
  · obtain ⟨x, -, rfl⟩ := List.mem_map.mp made
    exact .openMailbox _ _ _ (.responding _ _ (fun _ _ => .mk _ (by simp)) fun _ _ _ => rfl)
      (by simp) (by simp)
  · obtain ⟨q, -, rfl⟩ := List.mem_map.mp dealt
    have quiet (a : Outcome) : a.mute.Aloof ends := .mk _ (by simp)
    cases q with
    | opened shown sinks =>
      cases shown with
      | none => exact ⟨fun _ _ => quiet _, fun _ _ => quiet _⟩
      | some text =>
        have hears (role : SinkRole) :
            (SinkPlan.responding (Request.hearing sinks role)).Aloof ends := fun _ _ => quiet _
        exact ⟨by simp [hears], by simp [hears]⟩
    | _ => trivial

end Exchange

end MessageBus
