import MessageBus.Exchange.State

namespace MessageBus

def Route.refs (routes : List Route) : List Ref :=
  routes.flatMap fun r => r.subscriptions.map fun s => .mailbox s.mailbox.id

def Registry.refs (r : Registry) : List Ref := r.all.map fun s => .mailbox s.mailbox.id

def Sink.refs : Sink → List Ref
  | .recorder id => [.recorder id]
  | _ => []

/-- What a bus holds, in the order in which it lets go of it. -/
def BusCell.refs (b : BusCell) : List Ref :=
  b.registry.refs ++ b.deadLetters.refs ++ b.failures.refs

def ReturnedMessage.refs (r : ReturnedMessage) : List Ref := [.bus r.bus]

def FailedMessage.refs (f : FailedMessage) : List Ref := [.bus f.bus, .mailbox f.mailbox.id]

/-- What a recorder holds in one role, in the order in which it lets go of it. -/
def Recorder.refsOf (r : Recorder) : SinkRole → List Ref
  | .deadLetter => r.returned.toList.flatMap (·.refs)
  | .failure => r.failed.toList.flatMap (·.refs)

/-- What a recorder holds, in the order in which it lets go of it. -/
def Recorder.refs (r : Recorder) : List Ref := r.refsOf .deadLetter ++ r.refsOf .failure

def Desk.refs (d : Desk) : List Ref :=
  d.mailboxes.map (fun h => .mailbox h.2) ++ d.buses.map (fun h => .bus h.2) ++
    d.recorders.map (fun h => .recorder h.2) ++ d.snapshots.flatMap (fun h => Route.refs h.2)

namespace Exchange

/-- Everything that is held, once for each holder: by the desk, by the buses and recorders that
are still there, and by running code. -/
def refs (w : Exchange) : List Ref :=
  w.desk.refs ++ (w.buses.filter (·.alive)).flatMap (·.refs) ++
    (w.recorders.filter (·.alive)).flatMap (·.refs) ++ w.held.flatten

/-- Whether something is held. Running code is asked first and the recorders last, because they
hold the most. -/
def holds (w : Exchange) (x : Ref) : Bool :=
  w.held.any (·.contains x) || w.desk.refs.contains x ||
    w.buses.any (fun b => b.alive && b.refs.contains x) ||
    w.recorders.any fun r => r.alive && r.refs.contains x

theorem holds_iff (w : Exchange) (x : Ref) : w.holds x = true ↔ x ∈ w.refs := by
  simp only [holds, refs, Bool.or_eq_true, List.any_eq_true, Bool.and_eq_true, List.mem_append,
    List.mem_flatMap, List.mem_filter, List.mem_flatten, List.contains_iff_mem, and_assoc]
  grind

def isAlive (w : Exchange) : Ref → Bool
  | .mailbox m => (w.mailboxes[m]?).any (·.alive)
  | .bus b => (w.buses[b]?).any (·.alive)
  | .recorder r => (w.recorders[r]?).any (·.alive)

def hold (w : Exchange) (xs : List Ref) : Exchange := { w with held := xs :: w.held }

def holdOnly (w : Exchange) (xs : List Ref) : Exchange := { w with held := xs :: w.held.tail }

def letGo (w : Exchange) : Exchange := { w with held := w.held.tail }

def strike (w : Exchange) (x : Ref) : Exchange :=
  let w := match x with
    | .mailbox m => w.modifyMailbox m fun c => { c with alive := false }
    | .bus b => w.modifyBus b fun c => { c with alive := false }
    | .recorder r => w.modifyRecorder r fun c => { c with alive := false }
  w.record (.dropped x)

def contents (w : Exchange) : Ref → List Ref
  | .mailbox _ => []
  | .bus b => ((w.buses[b]?).map (·.refs)).getD []
  | .recorder r => ((w.recorders[r]?).map (·.refs)).getD []

end Exchange

end MessageBus
