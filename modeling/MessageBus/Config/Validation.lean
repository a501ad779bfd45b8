import MessageBus.Config.Basic
import MessageBus.Config.Error
import MessageBus.Text.Blank

namespace MessageBus.Config

def levelNames : List String := ["trace", "debug", "info", "warn", "error"]

def formatNames : List String := ["pretty", "compact", "json"]

def targetNames : List String := ["stdout", "stderr", "file"]

def firstBlank? (texts : List String) : Option Nat := texts.findIdx? Text.isBlankText

def checkOneOf (field value : String) (allowed : List String) (what : String) :
    Except ConfigError Unit :=
  if allowed.contains value then .ok ()
  else
    .error (.invalidField field ("unsupported " ++ what ++ " '" ++ value ++
      "'; expected one of: " ++ ", ".intercalate allowed))

def checkDirectory (c : Logging) : Except ConfigError Unit :=
  if c.target = "file" && Text.isBlankText c.directory then
    .error (.invalidField "logging.directory" "a directory is required when logging to a file")
  else .ok ()

def checkDirectives (c : Logging) : Except ConfigError Unit :=
  match firstBlank? c.directives with
  | none => .ok ()
  | some i =>
    .error (.invalidField ("logging.directives[" ++ toString i ++ "]")
      "directive must not be empty")

/-- Checks the fields in order; the first that is wrong is named. -/
def validate (c : Config) : Except ConfigError Unit := do
  checkOneOf "logging.level" c.logging.level levelNames "log level"
  checkOneOf "logging.format" c.logging.format formatNames "log format"
  checkOneOf "logging.target" c.logging.target targetNames "log target"
  checkDirectory c.logging
  checkDirectives c.logging
  checkOneOf "sinks.dead_letter_level" c.sinks.deadLetterLevel levelNames "log level"
  checkOneOf "sinks.failure_level" c.sinks.failureLevel levelNames "log level"

end MessageBus.Config
