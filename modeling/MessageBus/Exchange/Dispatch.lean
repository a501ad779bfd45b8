import MessageBus.Exchange.Runner

namespace MessageBus

namespace Exchange

def returnedNote (w : Exchange) (r : ReturnedMessage) : SinkNote :=
  .returned (w.desk.buses.labelOf? r.bus) r.message.tag r.shape.inline

def failedNote (w : Exchange) (f : FailedMessage) : SinkNote :=
  .failed (w.desk.buses.labelOf? f.bus) (w.desk.mailboxes.labelOf? f.mailbox.id) f.mailbox.name
    f.mailbox.tag f.message.tag f.cause.message f.cause.queue? f.shape.inline

def resolve (w : Exchange) (b : BusId) (m : Message) : Exchange × List Tag :=
  match w.buses[b]? with
  | none => (w, m.ancestry)
  | some cell =>
    let (resolver, chain) := cell.resolver.resolve m
    let w := match cell.resolver.find? m.tag with
      | some _ => w
      | none => w.log (.resolved m.tag chain.tags.length)
    (w.modifyBus b fun c => { c with resolver }, chain.tags)

end Exchange

/-- The subscriptions of some routes, each with the type it was found under. -/
def Route.plan (routes : List Route) : List (Tag × Subscription) :=
  routes.flatMap fun r => r.subscriptions.map fun s => (r.tag, s)

/-- Only a panic of a sink matters; how it ends otherwise does not. -/
def Outcome.ignored : Exchange × Outcome → Exchange × Except Halt Unit
  | (w, .ok _) => (w, .ok ())
  | (w, .error h) => (w, .error h)

def respond (call : Runner) (mailbox : Mailbox) (view : Message) (w : Exchange) :
    Exchange × Outcome :=
  match w.mailboxes[mailbox.id]? with
  | none => (w, .ok none)
  | some cell =>
    let entry : DeliveryRecord :=
      { mailbox := mailbox.name, target := mailbox.tag, rendered := view.text }
    match cell.handler with
    | .recording j => (w.note j entry, .ok none)
    | .responding react lenient journal =>
      let w := w.modifyMailbox mailbox.id fun c => { c with calls := c.calls + 1 }
      let w := match journal with
        | none => w
        | some j => w.note j entry
      let w := w.announce (.delivered cell.label (cell.calls + 1) view.text)
      match call (.react none (react view (cell.calls + 1))) w with
      | (w, .ok refusal) => (w, .ok (if lenient then none else refusal))
      | (w, .error h) => (w, .error h)

def deliver (call : Runner) (mailbox : Mailbox) (m : Message) (w : Exchange) :
    Exchange × Outcome :=
  match mailbox.target.narrow m with
  | none => (w, .ok (some (mismatch m mailbox.target)))
  | some view => respond call mailbox view w

def reportReturned (call : Runner) (r : ReturnedMessage) (w : Exchange) :
    Exchange × Except Halt Unit :=
  match w.buses[r.bus]? with
  | none => (w, .ok ())
  | some cell =>
    match cell.deadLetters with
    | .responding react =>
      let w := w.modifyBus r.bus fun c => { c with deadLetterCalls := c.deadLetterCalls + 1 }
      let w := w.announce (.sink (w.returnedNote r))
      let letter : Letter := { bus := r.bus, message := r.message }
      let reaction := react r.receipt (cell.deadLetterCalls + 1)
      Outcome.ignored (call (.react (some letter) reaction) w)
    | .recorder id => (w.modifyRecorder id fun c => { c with returned := c.returned.add r }, .ok ())
    | .logging sink => (w.log (sink.returned r.message), .ok ())

def reportFailed (call : Runner) (f : FailedMessage) (w : Exchange) :
    Exchange × Except Halt Unit :=
  match w.buses[f.bus]? with
  | none => (w, .ok ())
  | some cell =>
    match cell.failures with
    | .responding react =>
      let w := w.modifyBus f.bus fun c => { c with failureCalls := c.failureCalls + 1 }
      let w := w.announce (.sink (w.failedNote f))
      let letter : Letter := { bus := f.bus, message := f.message }
      let reaction := react f.receipt (cell.failureCalls + 1)
      Outcome.ignored (call (.react (some letter) reaction) w)
    | .recorder id => (w.modifyRecorder id fun c => { c with failed := c.failed.add f }, .ok ())
    | .logging sink => (w.log (sink.failed f.message f.mailbox.name f.cause), .ok ())

/-- Hands the message of a dispatch to the mailboxes of a plan in turn. A recoverable refusal is
reported to the failure sink before the next mailbox has its turn; a fatal one ends the dispatch. -/
def deliverAll (call : Runner) (d : Dispatch) :
    List (Tag × Subscription) → Exchange → Exchange × Except Halt (Option BusError)
  | [], w => (w, .ok none)
  | (tag, s) :: rest, w =>
    let w := w.log (.delivering d.message.tag tag s.mailbox.name s.seq)
    let (w, outcome) := deliver call s.mailbox d.message (w.record (.invoked d s))
    let w := w.record (.answered d s outcome)
    match outcome with
    | .error h => (w, .error h)
    | .ok none => deliverAll call d rest w
    | .ok (some (.recoverable cause)) =>
      let w := w.log (.refused d.message.tag s.mailbox.name cause)
      let failure : FailedMessage :=
        { bus := d.bus, mailbox := s.mailbox, message := d.message, cause }
      let (w, result) := reportFailed call failure (w.record (.failed d failure))
      let w := w.record (.heard d result)
      match result with
      | .error h => (w, .error h)
      | .ok () => deliverAll call d rest w
    | .ok (some (.fatal cause)) =>
      (w.log (.aborted d.message.tag s.mailbox.name cause),
        .ok (some (.deliveryAborted s.mailbox.name d.message.tag cause)))

/-- Carries out a dispatch along the routes found for it, whose mailboxes are held until it is over.
A message without any route goes to the dead-letter sink. -/
def dispatchAlong (call : Runner) (d : Dispatch) (routes : List Route) (w : Exchange) :
    Exchange × Except Halt (Option BusError) :=
  if routes.isEmpty then
    let w := w.log (.unmatched d.message.tag)
    let returned : ReturnedMessage := { bus := d.bus, message := d.message }
    let (w, result) := reportReturned call returned (w.record (.returned d returned))
    (w.record (.heard d result), result.map fun _ => none)
  else
    let refs := Route.refs routes
    match deliverAll call d (Route.plan routes) (w.hold refs) with
    | (w, .error (.stopped cause)) => (w.letGo, .error (.stopped cause))
    | (w, result) =>
      let (w, after) := releaseAll call (Except.unwinds result) refs w
      (w.record (.released d after), Except.unlessHalted result after)

def Exchange.routesFor (w : Exchange) (b : BusId) (tags : List Tag) : List Route :=
  ((w.buses[b]?).map (·.registry.entriesFor tags)).getD []

/-- The dispatch that begins when a message is published now. -/
def Exchange.nextDispatch (w : Exchange) (b : BusId) (m : Message) : Dispatch :=
  { number := w.dispatches, bus := b, message := m }

/-- Begins a dispatch along some routes, and takes the next number. -/
def Exchange.beginDispatch (w : Exchange) (d : Dispatch) (routes : List Route) : Exchange :=
  { w with dispatches := w.dispatches + 1 }.record (.published d (Route.plan routes))

/-- Publishes a message on a bus: every mailbox subscribed to a type of the message gets it, from
the root down and in the order of subscription, as the subscriptions stand when the publish
begins. -/
def publish (call : Runner) (b : BusId) (m : Message) (w : Exchange) :
    Exchange × Except Halt (Option BusError) :=
  let (w, chain) := w.resolve b m
  let d := w.nextDispatch b m
  let routes := w.routesFor b chain
  let (w, result) := dispatchAlong call d routes (w.beginDispatch d routes)
  (w.record (.concluded d result), result)

end MessageBus
