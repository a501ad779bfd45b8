import MessageBus.Datum
import MessageBus.Text.Shape

namespace MessageBus

namespace Config

structure Logging where
  level : String := "info"
  format : String := "compact"
  target : String := "stderr"
  directory : String := "logs"
  directives : List String := []
  deriving DecidableEq, Inhabited

structure Sinks where
  deadLetterLevel : String := "warn"
  failureLevel : String := "error"
  includeMessage : Bool := false
  deriving DecidableEq, Inhabited

end Config

structure Config where
  logging : Config.Logging := {}
  sinks : Config.Sinks := {}
  deriving DecidableEq, Inhabited

namespace Config

namespace Logging

def fields : List (Datum.Field Logging) :=
  [Datum.field "level" Datum.asString fun v c => { c with level := v },
    Datum.field "format" Datum.asString fun v c => { c with format := v },
    Datum.field "target" Datum.asString fun v c => { c with target := v },
    Datum.field "directory" Datum.asString fun v c => { c with directory := v },
    Datum.field "directives" Datum.asStrings fun v c => { c with directives := v }]

def ofDatum : Datum → Except Misfit Logging := Datum.asStructure "LoggingSection" fields {}

def toJson (c : Logging) : Json.Value :=
  .ofMembers
    [("level", .string c.level), ("format", .string c.format), ("target", .string c.target),
      ("directory", .string c.directory), ("directives", .array (c.directives.map .string))]

def shape (c : Logging) : Text.Shape :=
  .record "LoggingSection"
    [("level", .quoted c.level), ("format", .quoted c.format), ("target", .quoted c.target),
      ("directory", .quoted c.directory), ("directives", .list (c.directives.map .quoted))] true

end Logging

namespace Sinks

def fields : List (Datum.Field Sinks) :=
  [Datum.field "dead_letter_level" Datum.asString fun v c => { c with deadLetterLevel := v },
    Datum.field "failure_level" Datum.asString fun v c => { c with failureLevel := v },
    Datum.field "include_message" Datum.asBool fun v c => { c with includeMessage := v }]

def ofDatum : Datum → Except Misfit Sinks := Datum.asStructure "SinksSection" fields {}

def toJson (c : Sinks) : Json.Value :=
  .ofMembers
    [("dead_letter_level", .string c.deadLetterLevel), ("failure_level", .string c.failureLevel),
      ("include_message", .bool c.includeMessage)]

def shape (c : Sinks) : Text.Shape :=
  .record "SinksSection"
    [("dead_letter_level", .quoted c.deadLetterLevel), ("failure_level", .quoted c.failureLevel),
      ("include_message", .bool c.includeMessage)] true

end Sinks

def fields : List (Datum.Field Config) :=
  [Datum.field "logging" Logging.ofDatum fun v c => { c with logging := v },
    Datum.field "sinks" Sinks.ofDatum fun v c => { c with sinks := v }]

def ofDatum : Datum → Except Misfit Config := Datum.asStructure "Config" fields {}

def toJson (c : Config) : Json.Value :=
  .ofMembers [("logging", c.logging.toJson), ("sinks", c.sinks.toJson)]

def shape (c : Config) : Text.Shape :=
  .record "Config" [("logging", c.logging.shape), ("sinks", c.sinks.shape)] true

end Config

end MessageBus
