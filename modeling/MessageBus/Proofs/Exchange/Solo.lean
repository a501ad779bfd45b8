import MessageBus.Proofs.Exchange.Aloof
import MessageBus.Proofs.Exchange.Replay
import MessageBus.Proofs.Exchange.Resolution

namespace MessageBus

/-- How a sink comes out of its n-th call, with what it is handed then, when nothing stops it; calls
are numbered from one. -/
def Sink.hears : Sink → Receipt → Nat → Except Halt Unit
  | .responding react, receipt, n => (react receipt n).ending.outcome.map fun _ => ()
  | _, _, _ => .ok ()

def SinkPlan.hears : SinkPlan → Receipt → Nat → Except Halt Unit
  | .responding react => (Sink.responding react).hears
  | _ => fun _ _ => .ok ()

/-- How a handler that ends the same way whenever it sees the same of a message answers to that when
nothing stops it. -/
def Handler.answer : Handler → Message → Outcome
  | .recording _, _ => .ok none
  | .responding react lenient _, view =>
    (react view 1).ending.outcome.map fun refusal => if lenient then none else refusal

/-- What a dispatch makes of the answer of a mailbox: one that does not see the message is not asked
for it. -/
def Mailbox.verdict (mailbox : Mailbox) (m : Message) (answer : Message → Outcome) : Outcome :=
  match mailbox.target.narrow m with
  | none => .ok (some (mismatch m mailbox.target))
  | some view => answer view

/-- What a bus keeps for itself. -/
structure Books where
  registry : Registry := {}
  resolver : Resolver := {}

namespace Books

def resolved (k : Books) (m : Message) : Books := { k with resolver := (k.resolver.resolve m).1 }

/-- The routes of a message as it is published now. -/
def routes (k : Books) (m : Message) : List Route :=
  k.registry.entriesFor (k.resolver.resolve m).2.tags

def shape (k : Books) : BusPart → Text.Shape
  | .whole => .record "Bus" [("registry", k.registry.shape), ("hierarchy", k.resolver.shape)] false
  | .registry => k.registry.shape
  | .resolver => k.resolver.shape

end Books

/-- Those that a bus turns to: how each of its sinks will come out of the calls that are yet to be
made, and how the mailboxes answer to what they see of a message. -/
structure Company where
  sinks : SinkRole → Receipt → Nat → Except Halt Unit
  answers : MailboxId → Message → Outcome

/-- What a bus comes to by itself: its company afterwards, the records that it hands to its sinks,
and a result. -/
abbrev Upshot (α : Type) := Company × List Receipt × Except Halt α

/-- Goes on with a result, unless something was stopped. -/
def Upshot.bind {α β : Type} (x : Upshot α) (next : α → Company → Upshot β) : Upshot β :=
  match x with
  | (c, receipts, .error h) => (c, receipts, .error h)
  | (c, receipts, .ok a) =>
    let (c, more, result) := next a c
    (c, receipts ++ more, result)

namespace Company

/-- Those that a bus turns to after a call of one of its sinks. -/
def called (c : Company) (role : SinkRole) : Company :=
  { c with
    sinks := fun r receipt n =>
      if r = role then c.sinks r receipt (n + 1) else c.sinks r receipt n }

/-- Hands a record to a sink. -/
def report (role : SinkRole) (receipt : Receipt) (c : Company) : Upshot Unit :=
  (c.called role, [receipt], c.sinks role receipt 0)

/-- Invokes the mailbox of a subscription. -/
def ask (m : Message) (s : Subscription) (c : Company) : Upshot (Option Refusal) :=
  (c, [], s.mailbox.verdict m (c.answers s.mailbox.id))

/-- What follows when a mailbox has answered: a recoverable refusal is reported before the next
mailbox has its turn, and a fatal one is the end. -/
def settle (m : Message) (s : Subscription) (again : Company → Upshot (Option BusError)) :
    Option Refusal → Company → Upshot (Option BusError)
  | none, c => again c
  | some (.recoverable cause), c =>
    (c.report .failure (.failed s.mailbox m cause)).bind fun _ => again
  | some (.fatal cause), c => (c, [], .ok (some (.deliveryAborted s.mailbox.name m.tag cause)))

/-- Hands a message to some mailboxes in turn. -/
def hand (m : Message) : List Subscription → Company → Upshot (Option BusError)
  | [], c => (c, [], .ok none)
  | s :: rest, c => (c.ask m s).bind (settle m s (hand m rest))

/-- Carries out a dispatch along some routes. -/
def dispatch (m : Message) (routes : List Route) (c : Company) : Upshot (Option BusError) :=
  if routes.isEmpty then (c.report .deadLetter (.returned m)).bind fun _ c => (c, [], .ok none)
  else c.hand m ((Route.plan routes).map (·.2))

/-- Goes on publishing, unless a publish has failed. -/
def proceed (again : Company → Upshot Reply) : Option BusError → Company → Upshot Reply
  | none, c => again c
  | some e, c => (c, [], .ok (.busError e))

def publishTimes (m : Message) (routes : List Route) : Nat → Company → Upshot Reply
  | 0, c => (c, [], .ok .done)
  | n + 1, c => (c.dispatch m routes).bind (proceed (publishTimes m routes n))

end Company

/-- What is asked of a bus, through whichever handle. First of all it is made, with sinks that come
out of their calls in some way, and with a text that shows what it is assembled from, if it is. A
mailbox is subscribed along with the answers that it will give. -/
inductive Request
  | opened (shown : Option String) (sinks : SinkRole → Receipt → Nat → Except Halt Unit)
  | subscribe (m : Mailbox) (answer : Message → Outcome) (numbered : Bool)
  | unsubscribe (m : Mailbox)
  | publish (message : Message) (times : Nat)
  | clear
  | countAll
  | countFor (tag : Tag)
  | entries (tags : List Tag)
  | resolve (message : Message)
  | showBus (part : BusPart) (tall : Bool)

/-- A reply as it is apart from the labels by which mailboxes are held. -/
def Reply.unlabelled : Reply → Reply
  | .routes found => .routes (found.map fun r => (r.1, r.2.map fun e => { e with label := none }))
  | r => r

/-- A result as it is answered: a panic is a reply like any other. -/
def answered : Except Halt Reply → Except Halt Reply
  | .ok reply => .ok reply.unlabelled
  | .error (.panicked t) => .ok (.panicked t)
  | .error (.stopped cause) => .error (.stopped cause)

namespace Request

/-- What a request makes of the books of a bus. -/
def enter : Request → Books → Books
  | opened .., _ => {}
  | subscribe m _ _, k => { k with registry := (k.registry.subscribe m).1 }
  | unsubscribe m, k =>
    match k.registry.unsubscribe m with
    | .error _ => k
    | .ok (registry, _) => { k with registry }
  | publish _ 0, k => k
  | publish m (_ + 1), k => k.resolved m
  | clear, k => { k with registry := k.registry.clear.1 }
  | resolve m, k => k.resolved m
  | countAll, k | countFor _, k | entries _, k | showBus _ _, k => k

/-- What a bus with some books comes to when something is asked of it. -/
def meet (k : Books) : Request → Company → Upshot Reply
  | opened shown sinks, c =>
    ({ c with sinks := fun role receipt n => sinks role receipt (n + 1) }, [],
      .ok (shown.elim .done fun text => .assembled text none))
  | subscribe m answer numbered, c =>
    ({ c with answers := fun i => if i = m.id then answer else c.answers i }, [],
      .ok (if numbered then .subscribed k.registry.nextSeq else .done))
  | unsubscribe m, c =>
    match k.registry.unsubscribe m with
    | .error e => (c, [], .ok (.busError e))
    | .ok _ => (c, [], .ok .done)
  | publish m times, c => c.publishTimes m (k.routes m) times
  | clear, c => (c, [], .ok .done)
  | countAll, c => (c, [], .ok (.totals k.registry.size k.registry.size k.registry.isEmpty))
  | countFor tag, c => (c, [], .ok (.number (k.registry.countFor tag)))
  | entries tags, c =>
    (c, [], .ok (.routes ((k.registry.entriesFor tags).map fun r =>
      (r.tag, r.subscriptions.map fun s => ⟨s.seq, s.mailbox.name, none⟩))))
  | resolve m, c => (c, [], .ok (.names ((k.resolver.resolve m).2.tags.map (·.name))))
  | showBus part tall, c => (c, [], .ok (.text ((k.shape part).render tall)))

/-- What a bus comes to by itself when some things are asked of it in turn: the records that it
hands to its sinks, and what it answers. -/
def meetAll : List Request → Books → Company → List Receipt × List (Except Halt Reply)
  | [], _, _ => ([], [])
  | q :: rest, k, c =>
    let (c, receipts, result) := q.meet k c
    let (more, results) := meetAll rest (q.enter k) c
    (receipts ++ more, answered result :: results)

end Request

/-- What is asked of a bus that is made by a plan. A plan that lacks a part makes none. -/
def BusPlan.request? : BusPlan → Option Request
  | .responding deadLetters failures =>
    some (.opened none fun
      | .deadLetter => (Sink.responding deadLetters).hears
      | .failure => (Sink.responding failures).hears)
  | .recording _ | .testing _ | .logging (.ok _) => some (.opened none fun _ _ _ => .ok ())
  | .assembled (some deadLetters) (some failures) =>
    some (.opened (some (builderShape (some deadLetters) (some failures)).inline) fun
      | .deadLetter => deadLetters.hears
      | .failure => failures.hears)
  | .logging (.error _) | .assembled _ _ => none

namespace Exchange

/-- The registry and the resolver of a bus; those of one that is yet to be made are empty. -/
def books (w : Exchange) (b : BusId) : Books :=
  { registry := w.registryOf b, resolver := w.resolverOf b }

/-- How a mailbox answers whenever it is asked, if it is there. -/
def answer? (w : Exchange) (m : MailboxId) : Option (Message → Outcome) :=
  (w.mailboxes[m]?).map (·.handler.answer)

end Exchange

/-- What a step asks of a bus, and of which one: the one that the handle it names leads to. A bus
that is made takes the next number. -/
def Step.request? (w : Exchange) : Step → Option (BusId × Request)
  | .openBus _ plan => plan.request?.map fun q => (w.buses.length, q)
  | .guarded step => step.request? w
  | .subscribe bus id numbered =>
    (w.busNamed? bus).bind fun x => (w.mailboxNamed? id).map fun m =>
      (x.1, .subscribe m ((w.answer? m.id).getD fun _ => .ok none) numbered)
  | .unsubscribe bus id =>
    (w.busNamed? bus).bind fun x => (w.mailboxNamed? id).map fun m => (x.1, .unsubscribe m)
  | .publish bus message times => (w.busNamed? bus).map fun x => (x.1, .publish message times)
  | .clear bus => (w.busNamed? bus).map fun x => (x.1, .clear)
  | .countAll bus => (w.busNamed? bus).map fun x => (x.1, .countAll)
  | .countFor bus tag => (w.busNamed? bus).map fun x => (x.1, .countFor tag)
  | .entries bus tags _ => (w.busNamed? bus).map fun x => (x.1, .entries tags)
  | .resolve bus message => (w.busNamed? bus).map fun x => (x.1, .resolve message)
  | .showBus bus part tall => (w.busNamed? bus).map fun x => (x.1, .showBus part tall)
  | _ => none

/-- What a step asks of one bus. -/
def Step.requestTo? (b : BusId) (w : Exchange) (step : Step) : Option Request :=
  (step.request? w).bind fun x => if x.1 = b then some x.2 else none

/-- What is asked of a bus by steps from outside, each time with what it answers, until one of them
aborts the program. -/
def Exchange.dealings (b : BusId) :
    List (Nat × Step) → Exchange → List (Request × Except Halt Reply)
  | [], _ => []
  | s :: rest, w =>
    let (v, result) := w.step s.1 s.2
    let dealt := ((s.2.requestTo? b w).map fun q => (q, answered result)).toList
    if Except.aborts result then dealt else dealt ++ v.dealings b rest

/-- What is asked of a bus by steps from outside. -/
def Exchange.requests (b : BusId) (steps : List (Nat × Step)) (w : Exchange) : List Request :=
  (w.dealings b steps).map (·.1)

namespace Exchange

variable {b : BusId} {s : Nat × Step} {steps : List (Nat × Step)} {w : Exchange}

/-- A run goes on with the steps that are left after its first one. An aborted run has none left. -/
theorem goes_on (b : BusId) (s : Nat × Step) (steps : List (Nat × Step)) (w : Exchange) :
    ∃ rest, (rest = if Except.aborts (w.step s.1 s.2).2 then [] else steps) ∧
      w.run (s :: steps) = (w.step s.1 s.2).1.run rest ∧
      dealings b (s :: steps) w =
        ((s.2.requestTo? b w).map fun q => (q, answered (w.step s.1 s.2).2)).toList ++
          dealings b rest (w.step s.1 s.2).1 := by
  refine ⟨_, rfl, ?_, ?_⟩
  · rw [run]
    dsimp only
    split <;> rfl
  · rw [dealings]
    dsimp only
    split
    · exact (List.append_nil _).symm
    · rfl

end Exchange

end MessageBus
