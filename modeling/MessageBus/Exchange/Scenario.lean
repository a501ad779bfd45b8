import MessageBus.Exchange.Run

namespace MessageBus

/-- What could be seen of one step of a scenario: its reply, what was announced and logged in its
course, and for every bus on the desk the number of subscriptions and of resolved types. -/
structure Scene where
  reply : Except Halt Reply
  announcements : List Announcement
  events : List Log.Event
  buses : Shelf (Nat × Nat)

namespace Exchange

/-- What happened since the trace had a length, oldest first. -/
def historySince (w : Exchange) (length : Nat) : List Occurrence :=
  (w.trace.take (w.trace.length - length)).reverse

def Occurrence.announcement? : Occurrence → Option Announcement
  | .announced a => some a
  | _ => none

def Occurrence.event? : Occurrence → Option Log.Event
  | .logged e => some e
  | _ => none

/-- The numbers of subscriptions and of resolved types of every bus on the desk. -/
def busNumbers (w : Exchange) : Shelf (Nat × Nat) :=
  w.desk.buses.filterMap fun (label, b) =>
    (w.buses[b]?).map fun cell => (label, cell.registry.size, cell.resolver.size)

/-- How deep the calls that a step sets off may nest. -/
def depthLimit : Nat := 10000

def playStep (w : Exchange) (step : Step) : Exchange × Scene :=
  let (v, reply) := w.stepCaught depthLimit step
  let news := v.historySince w.trace.length
  (v,
    { reply
      announcements := news.filterMap Occurrence.announcement?
      events := news.filterMap Occurrence.event?
      buses := v.busNumbers })

/-- Plays steps one after another, until one of them aborts the program. -/
def play (w : Exchange) : List Step → Exchange × List Scene
  | [] => (w, [])
  | step :: rest =>
    let (w, scene) := w.playStep step
    if Except.aborts scene.reply then (w, [scene])
    else
      let (w, scenes) := w.play rest
      (w, scene :: scenes)

/-- An exchange with a first bus whose sinks only announce what they are handed. -/
def withBus (label : String) : Exchange :=
  let idle : Receipt → Nat → Reaction := fun _ _ => .mk [] .succeed
  (({} : Exchange).play [.openBus label (.responding idle idle)]).1

end Exchange

end MessageBus
