import MessageBus.Json.Writer
import MessageBus.Log.Settings

namespace MessageBus.Log

/-- What stands for the time of an event, and for the place in the program that notes it. -/
def timeMark : String := "<time>"

def placeMark : String := "<source>"

/-- A control character that a terminal could obey is spelled out. -/
def tameChar (c : Char) : List Char :=
  let n := c.toNat
  if n == 0x1b || n == 0x7f then ['\\', 'x'] ++ Text.hexDigits n
  else if n == 0x07 || n == 0x08 || n == 0x0c then ['\\', 'x', '0'] ++ Text.hexDigits n
  else if 0x80 ≤ n && n ≤ 0x9f then ['\\', 'u', '\x7b'] ++ Text.hexDigits n ++ ['\x7d']
  else [c]

def tame (s : String) : String := String.ofList (s.toList.flatMap tameChar)

/-- The text of a field value, unless the field is absent. -/
def FieldValue.text? : FieldValue → Option String
  | .shown t => some t
  | .said t => some (Text.quote t)
  | .number n => some (toString n)
  | .absent => none

def styled (code s : String) : String := "\x1b[" ++ code ++ "m" ++ s ++ "\x1b[0m"

def Level.colour : Level → String
  | error => "31" | warn => "33" | info => "32" | debug => "34" | trace => "35"

/-- The name of a level, five characters wide. -/
def Level.padded (l : Level) : String :=
  String.ofList (List.replicate (5 - l.upper.length) ' ') ++ l.upper

/-- The fields of an event that are present, with their texts. -/
def Event.shownFields (e : Event) : List (String × String) :=
  e.fields.filterMap fun (name, v) => v.text?.map fun t => (name, t)

/-- The time in front of a line, if it is wanted. -/
def timeColumn (ansi timestamps : Bool) : String :=
  if !timestamps then ""
  else (if ansi then styled "2" timeMark else timeMark) ++ " "

def levelColumn (ansi : Bool) (l : Level) : String :=
  (if ansi then styled l.colour l.padded else l.padded) ++ " "

def compactLine (ansi timestamps : Bool) (e : Event) : String :=
  let origin := if ansi then styled "2" e.target ++ styled "2" ":" else e.target ++ ":"
  let field (f : String × String) : String :=
    if ansi then " " ++ styled "3" f.1 ++ styled "2" "=" ++ f.2 else " " ++ f.1 ++ "=" ++ f.2
  timeColumn ansi timestamps ++ levelColumn ansi e.level ++ origin ++ " " ++ tame e.message ++
    String.join (e.shownFields.map field)

/-- An event over several lines, the last of them empty. -/
def prettyLines (ansi timestamps : Bool) (e : Event) : String :=
  let colour := "\x1b[" ++ e.level.colour ++ "m"
  let bold (s : String) : String := styled ("1;" ++ e.level.colour) s ++ colour
  let origin := if ansi then bold e.target ++ ": " ++ colour else e.target ++ ": "
  let field (f : String × String) : String :=
    if ansi then ", " ++ bold f.1 ++ ": " ++ f.2 else ", " ++ f.1 ++ ": " ++ f.2
  let place := if ansi then styled "2;3" "at" else "at"
  "  " ++ timeColumn ansi timestamps ++ levelColumn ansi e.level ++ origin ++ tame e.message ++
    String.join (e.shownFields.map field) ++ (if ansi then "\x1b[0m" else "") ++
    "\n    " ++ place ++ " " ++ placeMark ++ "\n"

def FieldValue.json? : FieldValue → Option String
  | .shown t => some (Json.quote t)
  | .said t => some (Json.quote t)
  | .number n => some (toString n)
  | .absent => none

def jsonLine (timestamps : Bool) (e : Event) : String :=
  let field (f : String × FieldValue) : String :=
    match f.2.json? with
    | none => ""
    | some t => "," ++ Json.quote f.1 ++ ":" ++ t
  "\x7b" ++ (if timestamps then "\"timestamp\":" ++ Json.quote timeMark ++ "," else "") ++
    "\"level\":" ++ Json.quote e.level.upper ++ ",\"fields\":\x7b\"message\":" ++
    Json.quote e.message ++ String.join (e.fields.map field) ++ "\x7d,\"target\":" ++
    Json.quote e.target ++ "\x7d"

structure Subscriber where
  filter : Filter
  format : Format
  ansi : Bool
  timestamps : Bool
  deriving DecidableEq, Inhabited

namespace Subscriber

def write (s : Subscriber) (e : Event) : String :=
  match s.format with
  | .compact => compactLine s.ansi s.timestamps e ++ "\n"
  | .pretty => prettyLines s.ansi s.timestamps e ++ "\n"
  | .json => jsonLine s.timestamps e ++ "\n"

def text (s : Subscriber) (events : List Event) : String :=
  String.join ((events.filter s.filter.allows).map s.write)

def lines (s : Subscriber) (events : List Event) : List String := Text.lines (s.text events)

/-- Writes plain lines, without colours and times, up to a level of detail. -/
def capturing (l : Level) : Subscriber :=
  { filter := .upTo l, format := .compact, ansi := false, timestamps := false }

end Subscriber

/-- The subscriber that some settings ask for, wherever it writes. -/
def Settings.subscriber (s : Settings) : Except Failure Subscriber :=
  s.filter.map fun filter =>
    { filter, format := s.format, ansi := s.ansi, timestamps := s.timestamps }

end MessageBus.Log
