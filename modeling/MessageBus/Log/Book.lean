import MessageBus.Log.Layout

namespace MessageBus.Log

/-- A subscriber, if one listens, with the events that it let through, the latest first. -/
structure Book where
  subscriber : Option Subscriber := none
  latest : List Event := []
  deriving Inhabited

namespace Book

/-- Tells the subscriber of an event, which is kept if it passes. -/
def note (b : Book) (e : Event) : Book :=
  match b.subscriber with
  | none => b
  | some s => if s.filter.allows e then { b with latest := e :: b.latest } else b

/-- What was let through, oldest first. -/
def events (b : Book) : List Event := b.latest.reverse

def text (b : Book) : String :=
  (b.subscriber.map fun s => String.join (b.events.map s.write)).getD ""

end Book

end MessageBus.Log
