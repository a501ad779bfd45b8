import MessageBus.Log.Event

namespace MessageBus.Log

/-- A sink that notes dead letters and failures as events, at a level for each, with the message
itself or without it. -/
structure Sink where
  deadLetterLevel : Level := .warn
  failureLevel : Level := .error
  includeMessage : Bool := false
  deriving DecidableEq, Inhabited

namespace Sink

def payload (s : Sink) (m : Message) : FieldValue :=
  if s.includeMessage then .said m.text else .absent

def returned (s : Sink) (m : Message) : Event where
  level := s.deadLetterLevel
  target := "postal_telemetry::sink"
  message := "No mailbox accepted message"
  fields := [("message_type", .shown m.tag.name), ("payload", s.payload m)]

def failed (s : Sink) (m : Message) (mailbox : String) (cause : Cause) : Event where
  level := s.failureLevel
  target := "postal_telemetry::sink"
  message := "Mailbox failed to handle message"
  fields := [("message_type", .shown m.tag.name), ("mailbox", .shown mailbox),
    ("error", .shown cause.message), ("payload", s.payload m)]

def shape (s : Sink) : Text.Shape :=
  .record "LogSink"
    [("dead_letter_level", .tuple "Level" [.word s.deadLetterLevel.title]),
      ("failure_level", .tuple "Level" [.word s.failureLevel.title]),
      ("include_message", .bool s.includeMessage)] true

end Sink

end MessageBus.Log
