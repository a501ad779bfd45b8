import MessageBus.Log.Level
import MessageBus.Mailbox.Delivery

namespace MessageBus.Log

/-- The value of a field of an event. A `shown` text stands as it is, a `said` text is quoted. -/
inductive FieldValue
  | shown (text : String)
  | said (text : String)
  | number (n : Nat)
  | absent
  deriving DecidableEq, Inhabited

/-- Something worth noting that happened: how severe it is, which part of the program notes it,
what it says, and its details in order. -/
structure Event where
  level : Level
  target : String
  message : String
  fields : List (String × FieldValue) := []
  deriving DecidableEq, Inhabited

namespace Event

def resolved (tag : Tag) (depth : Nat) : Event where
  level := .trace
  target := "postal_bus::hierarchy"
  message := "Resolved ancestor chain"
  fields := [("message_type", .shown tag.name), ("depth", .number depth)]

def subscribed (m : Mailbox) (seq : Nat) : Event where
  level := .debug
  target := "postal_bus::registry"
  message := "Mailbox subscribed"
  fields := [("mailbox", .shown m.name), ("target", .shown m.tag.name), ("seq", .number seq)]

def unsubscribed (m : Mailbox) (seq : Nat) : Event where
  level := .debug
  target := "postal_bus::registry"
  message := "Mailbox unsubscribed"
  fields := [("mailbox", .shown m.name), ("target", .shown m.tag.name), ("seq", .number seq)]

def cleared (types : Nat) : Event where
  level := .debug
  target := "postal_bus::registry"
  message := "All subscriptions cleared"
  fields := [("types", .number types)]

def unmatched (tag : Tag) : Event where
  level := .debug
  target := "postal_bus::bus"
  message := "No mailbox matched, returning message"
  fields := [("message_type", .shown tag.name)]

def delivering (tag route : Tag) (mailbox : String) (seq : Nat) : Event where
  level := .trace
  target := "postal_bus::bus"
  message := "Delivering message"
  fields := [("message_type", .shown tag.name), ("target", .shown route.name),
    ("mailbox", .shown mailbox), ("seq", .number seq)]

def refused (tag : Tag) (mailbox : String) (cause : Cause) : Event where
  level := .warn
  target := "postal_bus::bus"
  message := "Mailbox failed, continuing delivery"
  fields := [("message_type", .shown tag.name), ("mailbox", .shown mailbox),
    ("error", .shown cause.message)]

def aborted (tag : Tag) (mailbox : String) (cause : Cause) : Event where
  level := .warn
  target := "postal_bus::bus"
  message := "Mailbox failed fatally, aborting delivery"
  fields := [("message_type", .shown tag.name), ("mailbox", .shown mailbox),
    ("error", .shown cause.message)]

/-- An event that has nothing but its message. -/
def plain (level : Level) (target message : String) : Event where
  level := level
  target := target
  message := message

end Event

end MessageBus.Log
