import MessageBus.Message.Resolver
import MessageBus.Registry.Basic

namespace MessageBus.Concurrency

/-- A call that a thread makes on a bus which it shares with other threads. -/
inductive Call
  | subscribe (mailbox : Mailbox)
  | unsubscribe (mailbox : Mailbox)
  | publish (message : Message)

/-- How far a thread is with the call it is making. What comes between two stages happens in one
piece, and other threads may do something in between. -/
inductive Stage
  | idle
  | numbered (mailbox : Mailbox) (seq : Nat)
  | unlisted (subscription : Subscription)
  | unresolved (message : Message)
  | computed (message : Message) (chain : Chain)
  | looking (message : Message) (left : List Tag) (found : List Route)
  | delivering (message : Message) (left : List Subscription)

/-- A thread: the stage it is at and the calls it has yet to make. -/
structure Thread where
  stage : Stage := .idle
  calls : List Call

inductive Action
  | appended (subscription : Subscription)
  | removed (subscription : Subscription)
  | notSubscribed (mailbox : Mailbox)
  | looked (message : Message) (tag : Tag) (found : List Subscription)
  | invoked (message : Message) (subscription : Subscription)
  | stopped (message : Message) (subscription : Subscription)
  | mismatched (message : Message) (subscription : Subscription)
  | returned (message : Message)

abbrev Event := Nat × Action

/-- What the threads share. The history lists what each of them did, the latest first. Whether a
handler stops the delivery of a message, by a fatal refusal or a panic, may depend on all that has
happened; mostly none does. -/
structure Shared where
  registry : Registry := {}
  resolver : Resolver := {}
  history : List Event := []
  stops : List Event → Message → Mailbox → Bool := fun _ _ _ => false

def Shared.record (s : Shared) (thread : Nat) (a : Action) : Shared :=
  { s with history := (thread, a) :: s.history }

/-- Once every type was looked up, the message is handed to what was found, or returned. -/
def conclude (thread : Nat) (m : Message) (found : List Route) (s : Shared) : Stage × Shared :=
  match found with
  | [] => (.idle, s.record thread (.returned m))
  | routes => (.delivering m (routes.flatMap (·.subscriptions)), s)

def begin (thread : Nat) (s : Shared) : Call → Stage × Shared
  | .subscribe m =>
    let (registry, seq) := s.registry.takeSeq
    (.numbered m seq, { s with registry })
  | .unsubscribe m =>
    match s.registry.remove m with
    | none => (.idle, s.record thread (.notSubscribed m))
    | some (registry, removed) =>
      (.unlisted removed, { s with registry }.record thread (.removed removed))
  | .publish m =>
    match s.resolver.find? m.tag with
    | some chain => (.looking m chain.tags [], s)
    | none => (.unresolved m, s)

def proceed (thread : Nat) (s : Shared) : Stage → Stage × Shared
  | .idle => (.idle, s)
  | .numbered mailbox seq =>
    let subscription : Subscription := { seq, mailbox }
    (.idle,
      { s with registry := s.registry.append subscription }.record thread (.appended subscription))
  | .unlisted subscription =>
    (.idle, { s with registry := s.registry.prune subscription.mailbox.tag })
  | .unresolved m =>
    let (resolver, chain) := s.resolver.compute m
    (.computed m chain, { s with resolver })
  | .computed m chain =>
    let (resolver, chain) := s.resolver.keep m.tag chain
    (.looking m chain.tags [], { s with resolver })
  | .looking m [] found => conclude thread m found s
  | .looking m (tag :: left) found =>
    let s := s.record thread (.looked m tag (s.registry.listFor tag))
    (.looking m left (found ++ (s.registry.routeFor tag).toList), s)
  | .delivering _ [] => (.idle, s)
  | .delivering m (subscription :: left) =>
    match subscription.mailbox.target.narrow m with
    | some _ =>
      let stopped := s.stops s.history m subscription.mailbox
      let s := s.record thread (.invoked m subscription)
      if stopped then (.idle, s.record thread (.stopped m subscription))
      else (.delivering m left, s)
    | none => (.idle, s.record thread (.mismatched m subscription))

/-- One step of a thread. A thread that has made all its calls stays as it is. -/
def Thread.step (thread : Nat) (t : Thread) (s : Shared) : Thread × Shared :=
  match t.stage, t.calls with
  | .idle, [] => (t, s)
  | .idle, call :: calls =>
    let (stage, s) := begin thread s call
    ({ stage, calls }, s)
  | stage, calls =>
    let (stage, s) := proceed thread s stage
    ({ stage, calls }, s)

structure Fleet where
  shared : Shared := {}
  threads : List Thread

def Fleet.step (f : Fleet) (thread : Nat) : Fleet :=
  match f.threads[thread]? with
  | none => f
  | some t =>
    let (t, shared) := t.step thread f.shared
    { shared, threads := f.threads.set thread t }

def Fleet.run (f : Fleet) (schedule : List Nat) : Fleet := schedule.foldl Fleet.step f

def Thread.isDone (t : Thread) : Bool :=
  match t.stage, t.calls with
  | .idle, [] => true
  | _, _ => false

/-- Lets one thread go on alone for a number of steps, or until it is done. -/
def Fleet.runAlone (thread : Nat) : Nat → Fleet → Fleet
  | 0, f => f
  | steps + 1, f =>
    if (f.threads[thread]?).all Thread.isDone then f
    else runAlone thread steps (f.step thread)

end MessageBus.Concurrency
