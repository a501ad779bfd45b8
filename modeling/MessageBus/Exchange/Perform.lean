import MessageBus.Exchange.Dispatch

namespace MessageBus

namespace Exchange

/-- The recorder under a label, which is made when there is none. -/
def recorderNamed (w : Exchange) (label : String) : Exchange × RecorderId :=
  match w.desk.recorders.get? label with
  | some r => (w, r)
  | none =>
    let r := w.recorders.length
    ({ w with
        recorders := w.recorders ++ [({} : Recorder)]
        desk := { w.desk with recorders := w.desk.recorders.put label r } }, r)

/-- The journal under a label, which is made when there is none. -/
def journalNamed (w : Exchange) (label : String) : Exchange × JournalId :=
  match w.desk.journals.get? label with
  | some j => (w, j)
  | none =>
    let j := w.journals.length
    ({ w with
        journals := w.journals ++ [[]]
        desk := { w.desk with journals := w.desk.journals.put label j } }, j)

def makeSink (w : Exchange) : SinkPlan → Exchange × Sink
  | .responding react => (w, .responding react)
  | .recording label =>
    let (w, r) := w.recorderNamed label
    (w, .recorder r)
  | .logging sink => (w, .logging sink)

def makeSink? (w : Exchange) : Option SinkPlan → Exchange × Option Sink
  | none => (w, none)
  | some plan =>
    let (w, sink) := w.makeSink plan
    (w, some sink)

def addBus (w : Exchange) (deadLetters failures : Sink) : Exchange × BusId :=
  ({ w with buses := w.buses ++ [{ deadLetters, failures }] }, w.buses.length)

/-- The entries of some routes, with the labels by which their mailboxes are held now. -/
def routeNotes (w : Exchange) (routes : List Route) : List (Tag × List EntryNote) :=
  routes.map fun r =>
    (r.tag, r.subscriptions.map fun s =>
      { seq := s.seq, name := s.mailbox.name, label := w.desk.mailboxes.labelOf? s.mailbox.id })

def mailboxNamed? (w : Exchange) (label : String) : Option Mailbox :=
  (w.desk.mailboxes.get? label).bind fun m => (w.mailboxes[m]?).map (·.mailbox)

def busNamed? (w : Exchange) (label : String) : Option (BusId × BusCell) :=
  (w.desk.buses.get? label).bind fun b => (w.buses[b]?).map fun cell => (b, cell)

end Exchange

def releasing (call : Runner) (x : Option Ref) (reply : Reply) (w : Exchange) :
    Exchange × Except Halt Reply :=
  match x with
  | none => (w, .ok reply)
  | some x =>
    match call (.release x) w with
    | (w, .ok _) => (w, .ok reply)
    | (w, .error h) => (w, .error h)

/-- Puts a bus on the desk in place of the one that had its label. -/
def placeBus (call : Runner) (label : String) (b : BusId) (reply : Reply) (w : Exchange) :
    Exchange × Except Halt Reply :=
  let old := w.desk.buses.get? label
  let w := { w with desk := { w.desk with buses := w.desk.buses.put label b } }
  releasing call (old.map .bus) reply w

def builderShape (deadLetters failures : Option SinkPlan) : Text.Shape :=
  .record "BusBuilder"
    [("has_dead_letters", .bool deadLetters.isSome), ("has_failures", .bool failures.isSome)] true

/-- Makes a bus and puts it on the desk. A bus that is assembled needs both of its sinks, the one
for dead letters being missed first; a sink that was planned is made all the same. -/
def openBus (call : Runner) (label : String) (plan : BusPlan) (w : Exchange) :
    Exchange × Except Halt Reply :=
  match plan with
  | .responding deadLetters failures =>
    let (w, b) := w.addBus (.responding deadLetters) (.responding failures)
    placeBus call label b .done w
  | .recording name =>
    let (w, r) := w.recorderNamed name
    let (w, b) := w.addBus (.recorder r) (.recorder r)
    placeBus call label b .done w
  | .testing name =>
    let old := w.desk.recorders.get? name
    let r := w.recorders.length
    let w := { w with
      recorders := w.recorders ++ [({} : Recorder)]
      desk := { w.desk with recorders := w.desk.recorders.put name r } }
    let (w, b) := w.addBus (.recorder r) (.recorder r)
    match releasing call (old.map .recorder) .done (w.hold [.bus b]) with
    | (w, .ok _) => placeBus call label b .done w.letGo
    | (w, .error (.stopped cause)) => (w.letGo, .error (.stopped cause))
    | (w, .error (.panicked t)) =>
      let (w, after) := releaseAll call true [.bus b] w
      (w, Except.unlessHalted (.error (.panicked t)) after)
  | .logging (.error failure) => (w, .ok (.logFailure failure))
  | .logging (.ok sink) =>
    let (w, b) := w.addBus (.logging sink) (.logging sink)
    placeBus call label b .done w
  | .assembled deadLetters failures =>
    let shown := (builderShape deadLetters failures).inline
    let (w, deadLetters) := w.makeSink? deadLetters
    let (w, failures) := w.makeSink? failures
    match deadLetters, failures with
    | none, _ => (w, .ok (.assembled shown (some (.missingSink .deadLetter))))
    | some _, none => (w, .ok (.assembled shown (some (.missingSink .failure))))
    | some deadLetters, some failures =>
      let (w, b) := w.addBus deadLetters failures
      placeBus call label b (.assembled shown none) w

/-- Puts a mailbox on the desk in place of the one that had its label. -/
def placeMailbox (call : Runner) (label : String) (m : MailboxId) (w : Exchange) :
    Exchange × Except Halt Reply :=
  let old := w.desk.mailboxes.get? label
  let w := { w with desk := { w.desk with mailboxes := w.desk.mailboxes.put label m } }
  releasing call (old.map .mailbox) .done w

def openMailbox (call : Runner) (label name : String) (target : Target) (conduct : Conduct)
    (onDrop : Option Reaction) (w : Exchange) : Exchange × Except Halt Reply :=
  let (w, handler) : Exchange × Handler :=
    match conduct with
    | .recording journal =>
      let (w, j) := w.journalNamed journal
      (w, .recording j)
    | .responding react lenient none => (w, .responding react lenient none)
    | .responding react lenient (some journal) =>
      let (w, j) := w.journalNamed journal
      (w, .responding react lenient (some j))
  let id := w.mailboxes.length
  let cell : MailboxCell := { mailbox := { id, name, target }, label, handler, onDrop }
  placeMailbox call label id { w with mailboxes := w.mailboxes ++ [cell] }

/-- Publishes a message some times over, until one publish fails. -/
def publishTimes (call : Runner) (b : BusId) (m : Message) :
    Nat → Exchange → Exchange × Except Halt Reply
  | 0, w => (w, .ok .done)
  | n + 1, w =>
    match publish call b m w with
    | (w, .error h) => (w, .error h)
    | (w, .ok (some e)) => (w, .ok (.busError e))
    | (w, .ok none) => publishTimes call b m n w

/-- Removes every subscription of a bus. The lists are let go of only after all of them have been
taken out. -/
def clearBus (call : Runner) (b : BusId) (w : Exchange) : Exchange × Except Halt Reply :=
  match w.buses[b]? with
  | none => (w, .ok .badStep)
  | some cell =>
    let (registry, removed) := cell.registry.clear
    let w := (w.modifyBus b fun c => { c with registry }).record (.cleared b)
    let w := w.log (.cleared removed.length)
    let refs := removed.flatten.map fun s => Ref.mailbox s.mailbox.id
    match releaseAll call false refs (w.hold refs) with
    | (w, .ok ()) => (w, .ok .done)
    | (w, .error h) => (w, .error h)

def subscribeMailbox (b : BusId) (cell : BusCell) (m : Mailbox) (w : Exchange) : Exchange × Nat :=
  let (registry, seq) := cell.registry.subscribe m
  let w := (w.modifyBus b fun c => { c with registry }).record (.subscribed b { seq, mailbox := m })
  (w.log (.subscribed m seq), seq)

/-- Removes the earliest subscription of a mailbox. -/
def unsubscribeMailbox (call : Runner) (b : BusId) (cell : BusCell) (m : Mailbox) (w : Exchange) :
    Exchange × Except Halt Reply :=
  match cell.registry.unsubscribe m with
  | .error e => (w, .ok (.busError e))
  | .ok (registry, removed) =>
    let w := (w.modifyBus b fun c => { c with registry }).record (.unsubscribed b m)
    let w := w.log (.unsubscribed removed.mailbox removed.seq)
    releasing call (some (.mailbox removed.mailbox.id)) .done w

def placeSnapshot (call : Runner) (label : String) (routes : List Route) (reply : Reply)
    (w : Exchange) : Exchange × Except Halt Reply :=
  let old := Route.refs ((w.desk.snapshots.get? label).getD [])
  let w := { w with desk := { w.desk with snapshots := w.desk.snapshots.put label routes } }
  match releaseAll call false old (w.hold old) with
  | (w, .ok ()) => (w, .ok reply)
  | (w, .error h) => (w, .error h)

/-- Empties a tray of a recorder and lets go of what was in it. A panic on the way breaks it, and
what was added by then is lost as well. -/
def emptyTray (call : Runner) (r : RecorderId) (role : SinkRole) (w : Exchange) :
    Exchange × Except Halt Unit :=
  let refs := ((w.recorders[r]?).map (·.refsOf role)).getD []
  let w := (w.modifyRecorder r (·.emptied role)).record (.emptied r role)
  match releaseAll call false refs (w.hold refs) with
  | (w, .error (.panicked t)) =>
    ((w.modifyRecorder r (·.broken role)).record (.emptied r role), .error (.panicked t))
  | result => result

/-- Empties a recorder: first of returned messages, then of failed ones. -/
def clearRecorder (call : Runner) (r : RecorderId) (w : Exchange) :
    Exchange × Except Halt Reply :=
  match emptyTray call r .deadLetter w with
  | (w, .error h) => (w, .error h)
  | (w, .ok ()) =>
    match emptyTray call r .failure w with
    | (w, .error h) => (w, .error h)
    | (w, .ok ()) => (w, .ok .done)

def Exchange.askRecorder (w : Exchange) (recorder : Recorder) : RecorderQuery → Reply
  | .counts => .counts recorder.returned.toList.length recorder.failed.toList.length
  | .returned => .notes (recorder.returned.toList.map w.returnedNote)
  | .failed => .notes (recorder.failed.toList.map w.failedNote)
  | .clear => .done

def askJournal (entries : List DeliveryRecord) : JournalQuery → Reply
  | .entries => .deliveries entries
  | .mailboxes => .names (entries.map (·.mailbox))
  | .count name => .number (entries.countP (·.mailbox == name))
  | .length => .length entries.length

def busShape (cell : BusCell) : BusPart → Text.Shape
  | .whole =>
    .record "Bus" [("registry", cell.registry.shape), ("hierarchy", cell.resolver.shape)] false
  | .registry => cell.registry.shape
  | .resolver => cell.resolver.shape

/-- Performs one step, with the letter at hand when a sink reacts. -/
def perform (call : Runner) (letter : Option Letter) (step : Step) (w : Exchange) :
    Exchange × Except Halt Reply :=
  match step with
  | .unknown _ => (w, .ok .badStep)
  | .guarded step =>
    match perform call letter step w with
    | (w, .error (.panicked t)) => (w, .ok (.panicked t))
    | result => result
  | .openBus id plan => openBus call id plan w
  | .openMailbox id name target conduct onDrop => openMailbox call id name target conduct onDrop w
  | .cloneMailbox id other =>
    match w.desk.mailboxes.get? id with
    | none => (w, .ok .badStep)
    | some m => placeMailbox call other m w
  | .forget id =>
    match w.desk.mailboxes.get? id with
    | none => (w, .ok .badStep)
    | some m =>
      let w := { w with desk := { w.desk with mailboxes := w.desk.mailboxes.remove id } }
      releasing call (some (.mailbox m)) .done w
  | .subscribe bus id numbered =>
    match w.busNamed? bus, w.mailboxNamed? id with
    | some (b, cell), some m =>
      let (w, seq) := subscribeMailbox b cell m w
      (w, .ok (if numbered then .subscribed seq else .done))
    | _, _ => (w, .ok .badStep)
  | .unsubscribe bus id =>
    match w.busNamed? bus, w.mailboxNamed? id with
    | some (b, cell), some m => unsubscribeMailbox call b cell m w
    | _, _ => (w, .ok .badStep)
  | .publish bus message times =>
    match w.busNamed? bus with
    | none => (w, .ok .badStep)
    | some (b, _) => whileHolding call [.bus b] (publishTimes call b message times) w
  | .republish bus =>
    match letter with
    | none => (w, .ok .badStep)
    | some letter =>
      match bus with
      | none =>
        whileHolding call [.bus letter.bus] (publishTimes call letter.bus letter.message 1) w
      | some bus =>
        match w.busNamed? bus with
        | none => (w, .ok .badStep)
        | some (b, _) => whileHolding call [.bus b] (publishTimes call b letter.message 1) w
  | .clear bus =>
    match w.busNamed? bus with
    | none => (w, .ok .badStep)
    | some (b, _) => whileHolding call [.bus b] (clearBus call b) w
  | .countAll bus =>
    match w.busNamed? bus with
    | none => (w, .ok .badStep)
    | some (_, cell) =>
      (w, .ok (.totals cell.registry.size cell.registry.size cell.registry.isEmpty))
  | .countFor bus tag =>
    match w.busNamed? bus with
    | none => (w, .ok .badStep)
    | some (_, cell) => (w, .ok (.number (cell.registry.countFor tag)))
  | .entries bus tags keep =>
    match w.busNamed? bus with
    | none => (w, .ok .badStep)
    | some (b, cell) =>
      let routes := cell.registry.entriesFor tags
      let reply := Reply.routes (w.routeNotes routes)
      match keep with
      | none => (w, .ok reply)
      | some label => whileHolding call [.bus b] (placeSnapshot call label routes reply) w
  | .showRoutes snapshot =>
    match w.desk.snapshots.get? snapshot with
    | none => (w, .ok .badStep)
    | some routes => (w, .ok (.routes (w.routeNotes routes)))
  | .showRoutesText snapshot tall =>
    match w.desk.snapshots.get? snapshot with
    | none => (w, .ok .badStep)
    | some routes => (w, .ok (.text ((Text.Shape.list (routes.map (·.shape))).render tall)))
  | .resolve bus message =>
    match w.busNamed? bus with
    | none => (w, .ok .badStep)
    | some (b, _) =>
      let (w, chain) := w.resolve b message
      (w, .ok (.names (chain.map (·.name))))
  | .describe id tall =>
    match w.mailboxNamed? id with
    | none => (w, .ok .badStep)
    | some m =>
      (w, .ok (.mailbox
        { name := m.name, target := m.tag, shown := m.shape.render tall
          refShown := m.refShape.render tall }))
  | .compare a b =>
    match w.mailboxNamed? a, w.mailboxNamed? b with
    | some a, some b =>
      let same : Bool := a.id = b.id
      (w, .ok (.sameness same (if a.target = b.target then some same else none)))
    | _, _ => (w, .ok .badStep)
  | .showBus bus part tall =>
    match w.busNamed? bus with
    | none => (w, .ok .badStep)
    | some (_, cell) => (w, .ok (.text ((busShape cell part).render tall)))
  | .showWeak id tall =>
    match w.desk.weakBuses.get? id with
    | none => (w, .ok .badStep)
    | some b =>
      let shape := Text.Shape.record "WeakBus" [("alive", .bool (w.isAlive (.bus b)))] true
      (w, .ok (.text (shape.render tall)))
  | .cloneBus bus other =>
    match w.busNamed? bus with
    | none => (w, .ok .badStep)
    | some (b, _) => placeBus call other b .done w
  | .compareBuses a b =>
    match w.busNamed? a, w.busNamed? b with
    | some (a, _), some (b, _) => (w, .ok (.flag (a = b)))
    | _, _ => (w, .ok .badStep)
  | .downgrade bus other =>
    match w.busNamed? bus with
    | none => (w, .ok .badStep)
    | some (b, _) =>
      ({ w with desk := { w.desk with weakBuses := w.desk.weakBuses.put other b } }, .ok .done)
  | .upgrade id keep =>
    match w.desk.weakBuses.get? id with
    | none => (w, .ok .badStep)
    | some b =>
      if w.isAlive (.bus b) then
        match keep with
        | none => (w, .ok (.flag true))
        | some label => placeBus call label b (.flag true) w
      else (w, .ok (.flag false))
  | .dropBus bus =>
    match w.desk.buses.get? bus with
    | none => (w, .ok .badStep)
    | some b =>
      let w := { w with desk := { w.desk with buses := w.desk.buses.remove bus } }
      releasing call (some (.bus b)) .done w
  | .recorder id query =>
    match w.desk.recorders.get? id with
    | none => (w, .ok .badStep)
    | some r =>
      match query with
      | .clear => whileHolding call [.recorder r] (clearRecorder call r) w
      | query => (w, .ok (w.askRecorder ((w.recorders[r]?).getD {}) query))
  | .journal id query =>
    let (w, j) := w.journalNamed id
    (w, .ok (askJournal ((w.journals[j]?).getD []).reverse query))
  | .emit event => (w.log event, .ok .done)

end MessageBus
