import MessageBus.Exchange.Scenario

namespace MessageBus

namespace Exchange

/-- The exchange as it is when nobody listens to what is logged. -/
def unheard (w : Exchange) : Exchange := w.heardBy none

/-- Whether something comes out the same whoever listens, and leaves the same exchange. -/
def Blind {α : Type} (run : Exchange → Exchange × α) : Prop :=
  ∀ w, run w.unheard = ((run w).1.unheard, (run w).2)

section

variable (w : Exchange)

@[simp]
theorem unheard_mailboxes : w.unheard.mailboxes = w.mailboxes := rfl

@[simp]
theorem unheard_buses : w.unheard.buses = w.buses := rfl

@[simp]
theorem unheard_recorders : w.unheard.recorders = w.recorders := rfl

@[simp]
theorem unheard_desk : w.unheard.desk = w.desk := rfl

@[simp]
theorem unheard_journals : w.unheard.journals = w.journals := rfl

theorem unheard_withDesk (desk : Desk) :
    ({ w.unheard with desk } : Exchange) = ({ w with desk } : Exchange).unheard := rfl

theorem unheard_withRecorder (recorders : List Recorder) (desk : Desk) :
    ({ w.unheard with recorders, desk } : Exchange) =
      ({ w with recorders, desk } : Exchange).unheard := rfl

@[simp]
theorem unheard_trace : w.unheard.trace = w.trace := rfl

@[simp]
theorem unheard_record (o : Occurrence) : w.unheard.record o = (w.record o).unheard := rfl

@[simp]
theorem unheard_log (e : Log.Event) : w.unheard.log e = (w.log e).unheard := rfl

@[simp]
theorem unheard_announce (a : Announcement) : w.unheard.announce a = (w.announce a).unheard := rfl

@[simp]
theorem unheard_modifyBus (b : BusId) (f : BusCell → BusCell) :
    w.unheard.modifyBus b f = (w.modifyBus b f).unheard := rfl

@[simp]
theorem unheard_modifyMailbox (m : MailboxId) (f : MailboxCell → MailboxCell) :
    w.unheard.modifyMailbox m f = (w.modifyMailbox m f).unheard := rfl

@[simp]
theorem unheard_modifyRecorder (r : RecorderId) (f : Recorder → Recorder) :
    w.unheard.modifyRecorder r f = (w.modifyRecorder r f).unheard := rfl

@[simp]
theorem unheard_note (j : JournalId) (d : DeliveryRecord) :
    w.unheard.note j d = (w.note j d).unheard := rfl

@[simp]
theorem unheard_hold (xs : List Ref) : w.unheard.hold xs = (w.hold xs).unheard := rfl

@[simp]
theorem unheard_holdOnly (xs : List Ref) : w.unheard.holdOnly xs = (w.holdOnly xs).unheard := rfl

@[simp]
theorem unheard_holds (x : Ref) : w.unheard.holds x = w.holds x := rfl

@[simp]
theorem unheard_isAlive (x : Ref) : w.unheard.isAlive x = w.isAlive x := by
  cases x <;> rfl

@[simp]
theorem unheard_contents (x : Ref) : w.unheard.contents x = w.contents x := by
  cases x <;> rfl

@[simp]
theorem unheard_strike (x : Ref) : w.unheard.strike x = (w.strike x).unheard := by
  cases x <;> rfl

@[simp]
theorem unheard_returnedNote (x : ReturnedMessage) :
    w.unheard.returnedNote x = w.returnedNote x := rfl

@[simp]
theorem unheard_failedNote (x : FailedMessage) : w.unheard.failedNote x = w.failedNote x := rfl

@[simp]
theorem unheard_addBus (deadLetters failures : Sink) : w.unheard.addBus deadLetters failures =
    ((w.addBus deadLetters failures).1.unheard, (w.addBus deadLetters failures).2) := rfl

@[simp]
theorem unheard_historySince (length : Nat) :
    w.unheard.historySince length = w.historySince length := rfl

@[simp]
theorem unheard_busNumbers : w.unheard.busNumbers = w.busNumbers := rfl

@[simp]
theorem unheard_busNamed? (label : String) : w.unheard.busNamed? label = w.busNamed? label := rfl

@[simp]
theorem unheard_mailboxNamed? (label : String) :
    w.unheard.mailboxNamed? label = w.mailboxNamed? label := rfl

end

theorem blind_resolve (b : BusId) (m : Message) : Blind fun w => w.resolve b m := by
  intro w
  simp only [resolve, unheard_buses]
  cases w.buses[b]? with
  | none => rfl
  | some cell =>
    dsimp only
    cases cell.resolver.find? m.tag <;> rfl

theorem blind_recorderNamed (label : String) : Blind fun w => w.recorderNamed label := by
  intro w
  simp only [recorderNamed, unheard_desk]
  cases w.desk.recorders.get? label <;> rfl

theorem blind_journalNamed (label : String) : Blind fun w => w.journalNamed label := by
  intro w
  simp only [journalNamed, unheard_desk]
  cases w.desk.journals.get? label <;> rfl

theorem blind_makeSink (plan : SinkPlan) : Blind fun w => w.makeSink plan := by
  intro w
  cases plan with
  | recording label => simp only [makeSink, blind_recorderNamed label w]
  | _ => rfl

theorem blind_makeSink? (plan : Option SinkPlan) : Blind fun w => w.makeSink? plan := by
  intro w
  cases plan with
  | none => rfl
  | some plan => simp only [makeSink?, blind_makeSink plan w]

section

variable {call : Runner} (hc : ∀ work, Blind (call work))

include hc

theorem blind_releaseAll (unwinding : Bool) (xs : List Ref) :
    Blind (releaseAll call unwinding xs) := by
  intro w
  induction xs generalizing unwinding w with
  | nil => rfl
  | cons x rest ih =>
    have first := hc (.release x) (w.holdOnly rest)
    simp only [releaseAll, unheard_holdOnly, first]
    rcases call (.release x) (w.holdOnly rest) with ⟨u, (t | _) | _⟩
    · cases unwinding with
      | true => rfl
      | false => simp only [Bool.false_eq_true, if_false, ih true u]
    · rfl
    · exact ih unwinding u

theorem blind_whileHolding {α : Type} (xs : List Ref) {run : Exchange → Exchange × Except Halt α}
    (h : Blind run) : Blind (whileHolding call xs run) := by
  intro w
  have ran := h (w.hold xs)
  simp only [whileHolding, unheard_hold, ran]
  rcases run (w.hold xs) with ⟨u, (t | _) | a⟩
  · simp only [blind_releaseAll hc _ xs u]
  · rfl
  · simp only [blind_releaseAll hc _ xs u]

theorem blind_release (x : Ref) : Blind (release call x) := by
  intro w
  have left := blind_releaseAll hc false (w.contents x) ((w.strike x).hold (w.contents x))
  simp only [release, unheard_holds, unheard_isAlive, unheard_contents, unheard_strike]
  split
  · rfl
  · cases x with
    | mailbox m =>
      simp only [unheard_mailboxes]
      split
      · rfl
      · next reaction _ => exact hc (.react none reaction) ((w.strike (.mailbox m)).announce _)
    | bus b | recorder r =>
      simp only [unheard_hold, left]
      rcases releaseAll call _ _ _ with ⟨u, _ | _⟩ <;> rfl

theorem blind_respond (mailbox : Mailbox) (view : Message) : Blind (respond call mailbox view) := by
  intro w
  simp only [respond, unheard_mailboxes]
  cases w.mailboxes[mailbox.id]? with
  | none => rfl
  | some cell =>
    dsimp only
    cases cell.handler with
    | recording j => rfl
    | responding react lenient journal =>
      have reacted := hc (.react none (react view (cell.calls + 1)))
      cases journal with
      | none | some j =>
        simp only [unheard_modifyMailbox, unheard_note, unheard_announce, reacted _]
        rcases call _ _ with ⟨u, _ | _⟩ <;> rfl

theorem blind_deliver (mailbox : Mailbox) (m : Message) : Blind (deliver call mailbox m) := by
  intro w
  simp only [deliver]
  cases mailbox.target.narrow m with
  | none => rfl
  | some view => exact blind_respond hc mailbox view w

/-- A sink of user code that is called. -/
theorem blind_ignored (letter : Letter) (reaction : Reaction) :
    Blind fun w => Outcome.ignored (call (.react (some letter) reaction) w) := by
  intro w
  simp only [hc (.react (some letter) reaction) w]
  rcases call (.react (some letter) reaction) w with ⟨u, _ | _⟩ <;> rfl

theorem blind_reportReturned (x : ReturnedMessage) : Blind (reportReturned call x) := by
  intro w
  simp only [reportReturned, unheard_buses]
  cases w.buses[x.bus]? with
  | none => rfl
  | some cell =>
    dsimp only
    cases cell.deadLetters with
    | responding react =>
      simp only [unheard_modifyBus, unheard_returnedNote, unheard_announce]
      exact blind_ignored hc _ _ _
    | recorder id => rfl
    | logging sink => rfl

theorem blind_reportFailed (x : FailedMessage) : Blind (reportFailed call x) := by
  intro w
  simp only [reportFailed, unheard_buses]
  cases w.buses[x.bus]? with
  | none => rfl
  | some cell =>
    dsimp only
    cases cell.failures with
    | responding react =>
      simp only [unheard_modifyBus, unheard_failedNote, unheard_announce]
      exact blind_ignored hc _ _ _
    | recorder id => rfl
    | logging sink => rfl

theorem blind_deliverAll (d : Dispatch) (plan : List (Tag × Subscription)) :
    Blind (deliverAll call d plan) := by
  intro w
  induction plan generalizing w with
  | nil => rfl
  | cons entry rest ih =>
    obtain ⟨tag, s⟩ := entry
    simp only [deliverAll, unheard_log, unheard_record, blind_deliver hc s.mailbox d.message _]
    rcases deliver call s.mailbox d.message _ with ⟨u, h | _ | cause | cause⟩
    · rfl
    · exact ih _
    · simp only [unheard_record, blind_reportFailed hc _ _]
      rcases reportFailed call _ _ with ⟨v, _ | _⟩
      · rfl
      · exact ih _
    · rfl

theorem blind_dispatchAlong (d : Dispatch) (routes : List Route) :
    Blind (dispatchAlong call d routes) := by
  intro w
  simp only [dispatchAlong]
  split
  · simp only [unheard_log, unheard_record, blind_reportReturned hc _ _]
  · simp only [unheard_hold, blind_deliverAll hc d (Route.plan routes) _]
    rcases deliverAll call d (Route.plan routes) _ with ⟨u, (t | _) | e⟩
    · simp only [blind_releaseAll hc _ _ u, unheard_record]
    · rfl
    · simp only [blind_releaseAll hc _ _ u, unheard_record]

theorem blind_publish (b : BusId) (m : Message) : Blind (publish call b m) := by
  intro w
  simp only [publish, blind_resolve b m w]
  have along := blind_dispatchAlong hc ((w.resolve b m).1.nextDispatch b m)
    ((w.resolve b m).1.routesFor b (w.resolve b m).2)
    ((w.resolve b m).1.beginDispatch ((w.resolve b m).1.nextDispatch b m)
      ((w.resolve b m).1.routesFor b (w.resolve b m).2))
  exact congrArg (fun r : Exchange × Except Halt (Option BusError) =>
    (r.1.record (.concluded ((w.resolve b m).1.nextDispatch b m) r.2), r.2)) along

theorem blind_releasing (x : Option Ref) (reply : Reply) : Blind (releasing call x reply) := by
  intro w
  cases x with
  | none => rfl
  | some x =>
    simp only [releasing, hc (.release x) w]
    rcases call (.release x) w with ⟨u, _ | _⟩ <;> rfl

theorem blind_placeBus (label : String) (b : BusId) (reply : Reply) :
    Blind (placeBus call label b reply) := by
  intro w
  exact blind_releasing hc ((w.desk.buses.get? label).map .bus) reply
    { w with desk := { w.desk with buses := w.desk.buses.put label b } }

theorem blind_placeMailbox (label : String) (m : MailboxId) :
    Blind (placeMailbox call label m) := by
  intro w
  exact blind_releasing hc ((w.desk.mailboxes.get? label).map .mailbox) .done
    { w with desk := { w.desk with mailboxes := w.desk.mailboxes.put label m } }

theorem blind_placeSnapshot (label : String) (routes : List Route) (reply : Reply) :
    Blind (placeSnapshot call label routes reply) := by
  intro w
  -- What is put on the desk is put there first: the fields of the exchange are rewritten after it.
  simp only [placeSnapshot, unheard_withDesk]
  simp only [unheard_desk, unheard_hold, blind_releaseAll hc _ _ _]
  rcases releaseAll call _ _ _ with ⟨u, _ | _⟩ <;> rfl

theorem blind_openBus (label : String) (plan : BusPlan) : Blind (openBus call label plan) := by
  intro w
  have placed (u : Exchange) (deadLetters failures : Sink) (reply : Reply) :=
    blind_placeBus hc label u.buses.length reply (u.addBus deadLetters failures).1
  cases plan with
  | responding deadLetters failures => exact placed w _ _ .done
  | recording name =>
    have named := blind_recorderNamed name w
    simp only [openBus, named]
    exact placed (w.recorderNamed name).1 _ _ .done
  | testing name =>
    simp only [openBus, unheard_withRecorder]
    simp only [unheard_desk, unheard_recorders, unheard_addBus, unheard_hold,
      blind_releasing hc _ _ _]
    rcases releasing call _ _ _ with ⟨u, (t | _) | _⟩
    · simp only [blind_releaseAll hc _ _ u]
    · rfl
    · exact blind_placeBus hc label _ .done u.letGo
  | logging sink =>
    cases sink with
    | error failure => rfl
    | ok sink => exact placed w _ _ .done
  | assembled deadLetters failures =>
    have made := blind_makeSink? deadLetters w
    have made' := blind_makeSink? failures (w.makeSink? deadLetters).1
    simp only [openBus, made, made']
    split
    · rfl
    · rfl
    · exact placed ((w.makeSink? deadLetters).1.makeSink? failures).1 _ _ _

theorem blind_openMailbox (label name : String) (target : Target) (conduct : Conduct)
    (onDrop : Option Reaction) : Blind (openMailbox call label name target conduct onDrop) := by
  intro w
  have placed (u : Exchange) (cell : MailboxCell) :=
    blind_placeMailbox hc label u.mailboxes.length { u with mailboxes := u.mailboxes ++ [cell] }
  cases conduct with
  | recording j =>
    simp only [openMailbox, blind_journalNamed j w]
    exact placed (w.journalNamed j).1 _
  | responding react lenient j =>
    cases j with
    | none => exact placed w _
    | some j =>
      simp only [openMailbox, blind_journalNamed j w]
      exact placed (w.journalNamed j).1 _

theorem blind_publishTimes (b : BusId) (m : Message) (n : Nat) :
    Blind (publishTimes call b m n) := by
  intro w
  induction n generalizing w with
  | zero => rfl
  | succ n ih =>
    have once := blind_publish hc b m w
    simp only [publishTimes, once]
    rcases publish call b m w with ⟨u, _ | _ | _⟩
    · rfl
    · exact ih u
    · rfl

theorem blind_clearBus (b : BusId) : Blind (clearBus call b) := by
  intro w
  simp only [clearBus, unheard_buses]
  cases w.buses[b]? with
  | none => rfl
  | some cell =>
    simp only [unheard_modifyBus, unheard_record, unheard_log, unheard_hold,
      blind_releaseAll hc _ _ _]
    rcases releaseAll call _ _ _ with ⟨u, _ | _⟩ <;> rfl

theorem blind_unsubscribeMailbox (b : BusId) (cell : BusCell) (m : Mailbox) :
    Blind (unsubscribeMailbox call b cell m) := by
  intro w
  simp only [unsubscribeMailbox]
  cases cell.registry.unsubscribe m with
  | error e => rfl
  | ok left =>
    simp only [unheard_modifyBus, unheard_record, unheard_log]
    exact blind_releasing hc _ .done _

theorem blind_emptyTray (r : RecorderId) (role : SinkRole) : Blind (emptyTray call r role) := by
  intro w
  simp only [emptyTray, unheard_recorders, unheard_modifyRecorder, unheard_record, unheard_hold,
    blind_releaseAll hc _ _ _]
  rcases releaseAll call _ _ _ with ⟨u, (t | _) | _⟩ <;> rfl

theorem blind_clearRecorder (r : RecorderId) : Blind (clearRecorder call r) := by
  intro w
  have first := blind_emptyTray hc r .deadLetter w
  simp only [clearRecorder, first]
  rcases emptyTray call r .deadLetter w with ⟨u, _ | _⟩
  · rfl
  · have second := blind_emptyTray hc r .failure u
    simp only [second]
    rcases emptyTray call r .failure u with ⟨v, _ | _⟩ <;> rfl

theorem blind_perform (letter : Option Letter) (step : Step) :
    Blind (perform call letter step) := by
  intro w
  -- Each kind of step comes down to what is above; only a guarded step is made of another one.
  match step with
  | .unknown _ => rfl
  | .guarded step =>
    have inner := blind_perform letter step w
    simp only [perform, inner]
    rcases perform call letter step w with ⟨u, (t | _) | _⟩ <;> rfl
  | .openBus id plan => exact blind_openBus hc id plan w
  | .openMailbox id name target conduct onDrop =>
    exact blind_openMailbox hc id name target conduct onDrop w
  | .cloneMailbox id other =>
    simp only [perform, unheard_desk]
    split
    · rfl
    · exact blind_placeMailbox hc other _ w
  | .forget id =>
    simp only [perform, unheard_desk]
    split
    · rfl
    · exact blind_releasing hc _ .done
        { w with desk := { w.desk with mailboxes := w.desk.mailboxes.remove id } }
  | .subscribe bus id numbered =>
    simp only [perform, unheard_busNamed?, unheard_mailboxNamed?]
    split <;> rfl
  | .unsubscribe bus id =>
    simp only [perform, unheard_busNamed?, unheard_mailboxNamed?]
    split
    · exact blind_unsubscribeMailbox hc _ _ _ w
    · rfl
  | .publish bus message times =>
    simp only [perform, unheard_busNamed?]
    split
    · rfl
    · exact blind_whileHolding hc _ (blind_publishTimes hc _ message times) w
  | .republish bus =>
    cases letter with
    | none => rfl
    | some letter =>
      cases bus with
      | none => exact blind_whileHolding hc _ (blind_publishTimes hc _ letter.message 1) w
      | some bus =>
        simp only [perform, unheard_busNamed?]
        split
        · rfl
        · exact blind_whileHolding hc _ (blind_publishTimes hc _ letter.message 1) w
  | .clear bus =>
    simp only [perform, unheard_busNamed?]
    split
    · rfl
    · exact blind_whileHolding hc _ (blind_clearBus hc _) w
  | .entries bus tags keep =>
    simp only [perform, unheard_busNamed?]
    split
    · rfl
    · cases keep with
      | none => rfl
      | some label => exact blind_whileHolding hc _ (blind_placeSnapshot hc label _ _) w
  | .resolve bus message =>
    simp only [perform, unheard_busNamed?]
    split
    · rfl
    · simp only [blind_resolve _ message w]
  | .cloneBus bus other =>
    simp only [perform, unheard_busNamed?]
    split
    · rfl
    · exact blind_placeBus hc other _ .done w
  | .upgrade id keep =>
    simp only [perform, unheard_desk, unheard_isAlive]
    split
    · rfl
    · split
      · cases keep with
        | none => rfl
        | some label => exact blind_placeBus hc label _ _ w
      · rfl
  | .dropBus bus =>
    simp only [perform, unheard_desk]
    split
    · rfl
    · exact blind_releasing hc _ .done
        { w with desk := { w.desk with buses := w.desk.buses.remove bus } }
  | .recorder id query =>
    simp only [perform, unheard_desk]
    split
    · rfl
    · cases query with
      | clear => exact blind_whileHolding hc _ (blind_clearRecorder hc _) w
      | _ => rfl
  | .journal id query => simp only [perform, blind_journalNamed id w, unheard_journals]
  | .emit event => rfl
  | .countAll _ | .countFor _ _ | .showRoutes _ | .showRoutesText _ _ | .describe _ _
  | .compare _ _ | .showBus _ _ _ | .showWeak _ _ | .compareBuses _ _ | .downgrade _ _ =>
    simp only [perform, unheard_busNamed?, unheard_mailboxNamed?, unheard_desk, unheard_isAlive]
    split <;> rfl

theorem blind_performAll (letter : Option Letter) (steps : List Step) :
    Blind (performAll call letter steps) := by
  intro w
  induction steps generalizing w with
  | nil => rfl
  | cons step rest ih =>
    have first := blind_perform hc letter step w
    simp only [performAll, first]
    rcases perform call letter step w with ⟨u, _ | reply⟩
    · rfl
    · exact ih (u.announce (.ran step.word reply))

theorem blind_carryOut (work : Work) : Blind (work.carryOut call) := by
  intro w
  cases work with
  | release x => exact blind_release hc x w
  | react letter reaction =>
    have ran := blind_performAll hc letter reaction.steps w
    simp only [Work.carryOut, ran]
    rcases performAll call letter reaction.steps w with ⟨u, _ | _⟩ <;> rfl

end

/-- Whatever code is run, to whatever depth its calls nest, it does the same whoever listens. -/
theorem blind_runner (depth : Nat) (work : Work) : Blind (runner depth work) := by
  -- What a runner gives rise to is left to the runner one level below.
  induction depth generalizing work with
  | zero => exact fun w => rfl
  | succ depth ih => exact blind_carryOut ih work

theorem blind_step (depth : Nat) (step : Step) : Blind (Exchange.step depth step) :=
  blind_perform (blind_runner depth) none step

theorem blind_playStep (step : Step) : Blind fun w => w.playStep step := by
  intro w
  have same : w.unheard.stepCaught depthLimit step =
      ((w.stepCaught depthLimit step).1.unheard, (w.stepCaught depthLimit step).2) :=
    blind_step depthLimit (.guarded step) w
  simp only [playStep, same, unheard_historySince, unheard_trace, unheard_busNumbers]

theorem blind_play (steps : List Step) : Blind fun w => w.play steps := by
  intro w
  induction steps generalizing w with
  | nil => rfl
  | cons step rest ih =>
    simp only [play, blind_playStep step w, ih (w.playStep step).1]
    split <;> rfl

end Exchange

end MessageBus
