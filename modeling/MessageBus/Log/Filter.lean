import MessageBus.Log.Directive

namespace MessageBus.Log

/-- A directive that applies to events: it is bound at most to a target and to the presence of
fields. -/
structure Rule where
  target : Option String
  fields : List String
  verbosity : Verbosity
  deriving DecidableEq, Inhabited

/-- The rule a directive gives for events. A directive bound to a span, or to the value of a
field, gives none. -/
def Directive.rule? (d : Directive) : Option Rule :=
  if d.span.isNone && d.fields.all (·.2.isNone) then
    some { target := d.target, fields := d.fields.map (·.1), verbosity := d.verbosity }
  else none

namespace Rule

/-- Whether the rule applies to an event: the target of the event begins with that of the rule,
and the event has every field of the rule. -/
def covers (r : Rule) (e : Event) : Bool :=
  (r.target.all fun t => t.toList.isPrefixOf e.target.toList) &&
    r.fields.all fun f => f == "message" || e.fields.any (·.1 == f)

def compareTexts : List String → List String → Ordering
  | [], [] => .eq
  | [], _ :: _ => .lt
  | _ :: _, [] => .gt
  | a :: as, b :: bs => (compare a b).then (compareTexts as bs)

/-- How specific a rule is compared with another: by the length of its target, then by the number
of its fields; the texts settle what is left. -/
def compareSpecific (a b : Rule) : Ordering :=
  let length (r : Rule) : Nat := (r.target.map fun t => t.utf8ByteSize + 1).getD 0
  (compare (length a) (length b)).then <|
    (compare a.fields.length b.fields.length).then <|
      (compare (a.target.getD "") (b.target.getD "")).then (compareTexts a.fields b.fields)

end Rule

/-- The rules of a filter, the most specific first. -/
structure Filter where
  rules : List Rule := []
  deriving DecidableEq, Inhabited

namespace Filter

/-- Puts a rule at its place, instead of one with the same target and fields. -/
def insert (r : Rule) : List Rule → List Rule
  | [] => [r]
  | s :: rest =>
    match r.compareSpecific s with
    | .eq => r :: rest
    | .gt => r :: s :: rest
    | .lt => s :: insert r rest

/-- Adds a directive; one that gives no rule for events changes nothing. -/
def add (f : Filter) (d : Directive) : Filter :=
  match d.rule? with
  | none => f
  | some r => { rules := insert r f.rules }

def upTo (l : Level) : Filter :=
  { rules := [{ target := none, fields := [], verbosity := .upTo l }] }

/-- Whether an event passes: the first rule that covers it decides, and without one it does not. -/
def allows (f : Filter) (e : Event) : Bool :=
  match f.rules.find? (·.covers e) with
  | none => false
  | some r => r.verbosity.allows e.level

def parseList (s : String) : Except DirectiveError (List Directive) :=
  ((Text.parts ',' s).filter (· ≠ "")).mapM Directive.parse

end Filter

end MessageBus.Log
