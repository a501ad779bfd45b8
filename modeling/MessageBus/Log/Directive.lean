import MessageBus.Log.Event
import MessageBus.Pattern.Check
import MessageBus.Text.Lines
import MessageBus.Text.Numeral
import MessageBus.Text.Quoted

namespace MessageBus.Log

/-- A rule of a filter: how much it lets through, and to what it applies. It may be bound to a
target, to a span, and to fields, each by name and perhaps by value. -/
structure Directive where
  target : Option String := none
  span : Option String := none
  fields : List (String × Option String) := []
  verbosity : Verbosity := .upTo .trace
  deriving DecidableEq, Inhabited

/-- Why a text is no directive. A text that is cut inside a character is a fault of the reader. -/
inductive DirectiveError
  | invalid
  | badLevel
  | badField (fault : Pattern.Fault)
  | miscut (text : String)
  deriving DecidableEq, Inhabited

def DirectiveError.message : DirectiveError → String
  | invalid => "invalid filter directive"
  | badLevel =>
    "error parsing level filter: expected one of \"off\", \"error\", \"warn\", \"info\", " ++
      "\"debug\", \"trace\", or a number 0-5"
  | badField fault => "invalid field filter: " ++ fault.message
  | miscut t => t

/-- The characters before and after a byte position, unless it falls inside a character; then that
character and the position at which it begins. The text begins at `pos`, and `before` holds the
characters passed over, the last first. -/
def splitAtByte (n : Nat) :
    Nat → List Char → List Char → Except (Char × Nat) (List Char × List Char)
  | _, before, [] => .ok (before.reverse, [])
  | pos, before, c :: cs =>
    if n ≤ pos then .ok (before.reverse, c :: cs)
    else if n < pos + c.utf8Size then .error (c, pos)
    else splitAtByte n (pos + c.utf8Size) (c :: before) cs

def miscutAt (edge : String) (n : Nat) (c : Char) (pos : Nat) : DirectiveError :=
  .miscut (edge ++ " byte index " ++ toString n ++ " is not a char boundary; it is inside '" ++
    String.ofList (Text.quoteChar c) ++ "' (bytes " ++ toString pos ++ ".." ++
    toString (pos + c.utf8Size) ++ " of string)")

namespace Directive

/-- Where the reader of a directive is; the numbers are the byte positions at which the part it is
reading began. -/
inductive Stage
  | start
  | word (start : Nat)
  | span (start : Nat)
  | field (start : Nat)
  | fieldsEnd
  | target
  | level (start : Nat)
  | complete
  deriving DecidableEq, Inhabited

def readVerbosity (s : String) : Except DirectiveError Verbosity :=
  if s == "" then .ok (.upTo .trace)
  else
    match Verbosity.ofText? s with
    | some v => .ok v
    | none => .error .badLevel

/-- A lone word is a level if it names one, and else a target. -/
def withWord (d : Directive) (s : String) : Directive :=
  if s == "" then { d with verbosity := .upTo .trace, target := none }
  else
    match Verbosity.ofText? s with
    | some v => { d with verbosity := v, target := none }
    | none => { d with verbosity := .upTo .trace, target := some s }

/-- A field by name, or by name and value. The value is a number or a pattern for texts. -/
def readField (s : String) : Except DirectiveError (String × Option String) :=
  match s, Text.parts '=' s with
  | "", _ => .error .invalid
  | _, name :: value :: _ =>
    match if Text.isNumeral value.toList then none else Pattern.fault? value.toList with
    | some fault => .error (.badField fault)
    | none => .ok (name, some value)
  | _, [name] => .ok (name, none)
  | _, [] => .error .invalid

/-- How far the reader is: its stage, the text it has not cut anything out of yet and the byte
position at which that begins, and what it read; the fields are listed the last first. -/
structure Progress where
  stage : Stage := .start
  uncut : List Char
  position : Nat := 0
  fields : List (String × Option String) := []
  directive : Directive := {}

namespace Progress

/-- The part of the text from one byte position to another, or to the end. Nothing in front of it is
cut any more. -/
def cut (g : Progress) (start : Nat) (stop : Option Nat) :
    Except DirectiveError (String × Progress) :=
  match splitAtByte start g.position [] g.uncut with
  | .error (c, pos) => .error (miscutAt "start" start c pos)
  | .ok (_, after) =>
    match stop with
    | none => .ok (String.ofList after, { g with uncut := after, position := start })
    | some stop =>
      match splitAtByte stop start [] after with
      | .error (c, pos) => .error (miscutAt "end" stop c pos)
      | .ok (between, after) =>
        .ok (String.ofList between, { g with uncut := after, position := stop })

def result (g : Progress) : Directive := { g.directive with fields := g.fields.reverse }

/-- Goes on to a stage, with something more read. -/
def next (g : Progress) (stage : Stage) (f : Directive → Directive) : Progress :=
  { g with stage, directive := f g.directive }

def takeField (g : Progress) (start stop : Nat) (stage : Stage) : Except DirectiveError Progress :=
  match g.cut start (some stop) with
  | .error e => .error e
  | .ok (t, g) => (readField t).map fun f => { g with stage, fields := f :: g.fields }

def takeLevel (g : Progress) (start : Nat) (stop : Option Nat) : Except DirectiveError Progress :=
  match g.cut start stop with
  | .error e => .error e
  | .ok (t, g) => (readVerbosity t).map fun v => g.next .complete ({ · with verbosity := v })

def takeWord (g : Progress) (start : Nat) : Except DirectiveError Progress :=
  (g.cut start none).map fun (t, g) => g.next .complete (·.withWord t)

def readChar (g : Progress) (pos : Nat) (c : Char) : Except DirectiveError Progress :=
  match g.stage with
  | .start =>
    if c == '[' then .ok (g.next (.span (pos + 1)) id)
    else if c == '-' || c == ':' || c == '_' || Text.isAlphanumeric c then
      .ok (g.next (.word pos) id)
    else .error .invalid
  | .word start =>
    if c == '=' then
      (g.cut start (some pos)).map fun (t, g) =>
        g.next (.level (pos + 1)) ({ · with target := some t })
    else if c == '[' then
      (g.cut start (some pos)).map fun (t, g) =>
        g.next (.span (pos + 1)) ({ · with target := some t })
    else if c == ',' then g.takeWord start
    else .ok g
  | .span start =>
    if c == ']' then
      (g.cut start (some pos)).map fun (t, g) => g.next .target ({ · with span := some t })
    else if c == '\x7b' then
      (g.cut start (some pos)).map fun (t, g) =>
        g.next (.field (pos + 1)) ({ · with span := if t == "" then none else some t })
    else .ok g
  | .field start =>
    if c == '\x7d' then g.takeField start pos .fieldsEnd
    else if c == ',' then g.takeField start pos (.field (pos + 1))
    else .ok g
  | .fieldsEnd => if c == ']' then .ok (g.next .target id) else .error .invalid
  | .target => if c == '=' then .ok (g.next (.level (pos + 1)) id) else .error .invalid
  | .level start => if c == ',' then g.takeLevel start (some pos) else .ok g
  | .complete => .error .invalid

def finish (g : Progress) : Except DirectiveError Progress :=
  match g.stage with
  | .word start => g.takeWord start
  | .level start => g.takeLevel start none
  | .target => .ok g
  | .complete => .ok g
  | _ => .error .invalid

/-- Reads characters, the first of them at a byte position, and then takes what is left. -/
def readChars (g : Progress) (pos : Nat) : List Char → Except DirectiveError Progress
  | [] => g.finish
  | c :: cs =>
    match g.readChar pos c with
    | .error e => .error e
    | .ok g => readChars g (pos + c.utf8Size) cs

end Progress

/-- Reads a directive. White space around it is passed over; positions are counted from the first
character after it, and the parts are cut out of the text as it was given. -/
def parse (s : String) : Except DirectiveError Directive :=
  (Progress.readChars { uncut := s.toList } 0 (Text.trimChars s.toList)).map Progress.result

end Directive

end MessageBus.Log
