import MessageBus.Config.Error
import MessageBus.Config.Layer
import MessageBus.Text.Blank

namespace MessageBus.Config

open Toml (Value)

abbrev Environment := Shelf String

/-- A variable that stands in for a field which no file has set. -/
structure Fallback where
  name : String
  field : String
  deriving DecidableEq, Inhabited

def fallbacks : List Fallback :=
  [{ name := "POSTAL_LOG_LEVEL", field := "logging.level" },
    { name := "POSTAL_LOG_FORMAT", field := "logging.format" }]

/-- The text that a fallback puts into its field: nothing when the file has the field or the
variable is not set. -/
def Fallback.text? (f : Fallback) (file : Option Value) (env : Environment) :
    Except ConfigError (Option String) :=
  if file.any fun v => v.hasPath f.field then .ok none
  else
    match env.get? f.name with
    | none => .ok none
    | some text =>
      if Text.isBlankText text then .error (.blankVariable f.name)
      else .ok (some (Text.trim text))

/-- Applies some fallbacks in order, and counts those that had a text to put. An error leaves what
the fallbacks before it put. -/
def applyEach (file : Option Value) (env : Environment) :
    List Fallback → Value → Nat → Value × Except ConfigError Nat
  | [], merged, count => (merged, .ok count)
  | f :: rest, merged, count =>
    match f.text? file env with
    | .error e => (merged, .error e)
    | .ok none => applyEach file env rest merged count
    | .ok (some text) =>
      applyEach file env rest (merged.setField f.field (.string text)) (count + 1)

def applyFallbacks (merged : Value) (file : Option Value) (env : Environment) :
    Value × Except ConfigError Nat :=
  applyEach file env fallbacks merged 0

end MessageBus.Config
