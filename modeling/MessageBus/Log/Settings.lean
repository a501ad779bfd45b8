import MessageBus.Log.Failure
import MessageBus.Log.Filter

namespace MessageBus.Log

/-- How an event is written: over several lines, on one line, or as a JSON object. -/
inductive Format
  | pretty | compact | json
  deriving DecidableEq, Inhabited, Repr

namespace Format

def all : List Format := [pretty, compact, json]

def name : Format → String
  | pretty => "pretty" | compact => "compact" | json => "json"

def title : Format → String
  | pretty => "Pretty" | compact => "Compact" | json => "Json"

def ofName (s : String) : Except Failure Format :=
  match all.find? (·.name == s) with
  | some f => .ok f
  | none => .error (.config ("unknown log format '" ++ s ++ "'"))

end Format

inductive Rotation
  | daily | hourly | never
  deriving DecidableEq, Inhabited, Repr

namespace Rotation

def all : List Rotation := [daily, hourly, never]

def name : Rotation → String
  | daily => "daily" | hourly => "hourly" | never => "never"

def title : Rotation → String
  | daily => "Daily" | hourly => "Hourly" | never => "Never"

end Rotation

/-- Where events are written: to a standard stream or to files in a directory. -/
inductive Destination
  | stdout | stderr
  | file (directory : String)
  deriving DecidableEq, Inhabited, Repr

namespace Destination

def isFile : Destination → Bool
  | file _ => true
  | _ => false

def shape : Destination → Text.Shape
  | stdout => .word "Stdout"
  | stderr => .word "Stderr"
  | file d => .tuple "File" [.quoted d]

end Destination

structure Settings where
  level : String := "info"
  format : Format := .compact
  target : Destination := .stderr
  rotation : Rotation := .daily
  filePrefix : String := "postal"
  timestamps : Bool := true
  ansi : Bool := true
  directives : List String := []
  deriving DecidableEq, Inhabited

namespace Settings

def ofLevel (level : String) : Settings := { level }

def withFormat (s : Settings) (f : Format) : Settings := { s with format := f }

def withTarget (s : Settings) (d : Destination) : Settings := { s with target := d }

/-- Logs to files in a directory, and then without colours. -/
def withFileLogging (s : Settings) (directory : String) : Settings :=
  { s with target := .file directory, ansi := false }

def withRotation (s : Settings) (r : Rotation) : Settings := { s with rotation := r }

def withDirective (s : Settings) (d : String) : Settings :=
  { s with directives := s.directives ++ [d] }

def withoutTimestamps (s : Settings) : Settings := { s with timestamps := false }

def withoutAnsi (s : Settings) : Settings := { s with ansi := false }

def shape (s : Settings) : Text.Shape :=
  .record "LogConfig"
    [("level", .quoted s.level), ("format", .word s.format.title), ("target", s.target.shape),
      ("rotation", .word s.rotation.title), ("file_prefix", .quoted s.filePrefix),
      ("timestamps", .bool s.timestamps), ("ansi", .bool s.ansi),
      ("directives", .list (s.directives.map .quoted))] true

/-- The failure that a bad directive amounts to; `about` says which directive it is. -/
def directiveFailure (about : String) : DirectiveError → Failure
  | .miscut t => .crash t
  | e => .config (about ++ e.message)

def addDirectives (f : Filter) : List String → Except Failure Filter
  | [] => .ok f
  | s :: rest =>
    match Directive.parse s with
    | .error e => .error (directiveFailure ("directive '" ++ s ++ "': ") e)
    | .ok d => addDirectives (f.add d) rest

/-- The filter of the level, which may itself be a list of directives, and of the directives added
to it. -/
def filter (s : Settings) : Except Failure Filter :=
  match Filter.parseList s.level with
  | .error e => .error (directiveFailure "" e)
  | .ok ds => addDirectives (ds.foldl Filter.add {}) s.directives

end Settings

end MessageBus.Log
