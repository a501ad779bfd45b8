import MessageBus.Config.Basic
import MessageBus.Log.Settings
import MessageBus.Log.Sink

namespace MessageBus.Log

def Level.ofText (s : String) : Except Failure Level :=
  match Level.ofText? s with
  | some l => .ok l
  | none => .error (.config ("unknown log level '" ++ s ++ "'"))

def Destination.ofSection (c : Config.Logging) : Except Failure Destination :=
  if c.target = "stdout" then .ok .stdout
  else if c.target = "stderr" then .ok .stderr
  else if c.target = "file" then .ok (.file c.directory)
  else .error (.config ("unknown log target '" ++ c.target ++ "'"))

/-- The settings of a section. Files get no colours. -/
def Settings.ofSection (c : Config.Logging) : Except Failure Settings := do
  let target ← Destination.ofSection c
  let format ← Format.ofName c.format
  return { level := c.level, format, target, ansi := !target.isFile, directives := c.directives }

def Sink.ofSection (c : Config.Sinks) : Except Failure Sink := do
  let deadLetterLevel ← Level.ofText c.deadLetterLevel
  let failureLevel ← Level.ofText c.failureLevel
  return { deadLetterLevel, failureLevel, includeMessage := c.includeMessage }

def Sink.toJson (s : Sink) : Json.Value :=
  .ofMembers
    [("dead_letter_level", .string s.deadLetterLevel.upper),
      ("failure_level", .string s.failureLevel.upper),
      ("includes_message", .bool s.includeMessage), ("is_default", .bool (s = {})),
      ("debug", .string s.shape.inline)]

end MessageBus.Log
