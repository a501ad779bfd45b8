import MessageBus.Config.Fallback
import MessageBus.Config.Validation
import MessageBus.Disk
import MessageBus.Toml.Reader

namespace MessageBus.Config

open Toml (Value)

def defaultsText : String :=
  "# Built-in defaults. Every key can be overridden by postal.toml.\n\n" ++
    "[logging]\nlevel = \"info\"\nformat = \"compact\"\ntarget = \"stderr\"\n" ++
    "directory = \"logs\"\ndirectives = []\n\n" ++
    "[sinks]\ndead_letter_level = \"warn\"\nfailure_level = \"error\"\ninclude_message = false\n"

def sizeLimit : Nat := 1048576

/-- Reads a layer; `origin` says where its text comes from. -/
def parseLayer (text origin : String) : Except ConfigError Value :=
  match Toml.parse text with
  | some v => .ok v
  | none => .error (.badSyntax origin text)

def defaultLayer : Except ConfigError Value := parseLayer defaultsText "<embedded defaults>"

def finish (merged : Value) (origin : String) : Except ConfigError Config :=
  match ofDatum (.ofToml merged) with
  | .error misfit => .error (.wrongType origin misfit)
  | .ok c => (validate c).map fun _ => c

def ofToml (text : String) : Except ConfigError Config := do
  let overlay ← parseLayer text "<string>"
  let base ← defaultLayer
  finish (base.merge overlay) "<string>"

def fileLayer (disk : Disk) (path : String) : Except ConfigError (Option Value) :=
  match disk.read path with
  | .error .missing => .ok none
  | .error e => .error (.unreadable path e.message)
  | .ok text =>
    if sizeLimit < text.utf8ByteSize then
      .error (.tooLarge path text.utf8ByteSize sizeLimit)
    else (parseLayer text path).map some

/-- The configuration of a file over the defaults, the fields it leaves unset being filled from
the environment. -/
def load (disk : Disk) (path : Option String) (env : Environment) : Except ConfigError Config := do
  let base ← defaultLayer
  let file ← match path with
    | none => .ok none
    | some path => fileLayer disk path
  let (merged, applied) := applyFallbacks ((file.map base.merge).getD base) file env
  let _ ← applied
  finish merged "<merged config>"

end MessageBus.Config
