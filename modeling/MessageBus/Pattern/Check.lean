import MessageBus.Pattern.Reader

namespace MessageBus.Pattern

inductive Fault
  | malformed
  | wordEdge
  deriving DecidableEq, Inhabited

def Fault.message : Fault → String
  | malformed => "error building NFA"
  | wordEdge =>
    "unsupported regex feature for DFAs: cannot build DFAs for regexes with Unicode word " ++
      "boundaries; switch to ASCII word boundaries, or heuristically enable Unicode word " ++
      "boundaries or use a different regex engine"

/-- What is in force at a place of a pattern: whether letters match in any case, and whether it
matches characters or bytes. -/
structure Mode where
  caseless : Bool := false
  unicode : Bool := true

def Mode.switch (m : Mode) (s : Switches) : Mode :=
  { caseless := s.caseless.getD m.caseless, unicode := s.unicode.getD m.unicode }

mutual

/-- Whether what a class lists can be matched. There are no tables of characters, neither for the
other case of a letter nor for what is a digit, a space or part of a word. Bytes are matched
only within ASCII. -/
def ClassSet.matchable (m : Mode) : ClassSet → Bool
  | .empty => true
  | .char c => if m.unicode then !m.caseless else c.toNat < 0x80
  | .range first last => if m.unicode then !m.caseless else first.toNat < 0x80 && last.toNat < 0x80
  | .named negated => if m.unicode then !m.caseless else !negated
  | .shorthand negated => !m.unicode && !negated
  | .nested negated set => (m.unicode || !negated) && set.matchable m
  | .union sets => ClassSet.allMatchable m sets
  | .combined left right => left.matchable m && right.matchable m

def ClassSet.allMatchable (m : Mode) : List ClassSet → Bool
  | [] => true
  | set :: rest => set.matchable m && ClassSet.allMatchable m rest

end

mutual

/-- Checks a pattern in a mode. Says which mode is in force after it, and whether a word is to end
or begin somewhere in it by the letters of Unicode; `none` if it cannot be matched. -/
def survey (m : Mode) : Pattern → Option (Mode × Bool)
  | .empty => some (m, false)
  | .anchor => some (m, false)
  | .switches s => some (m.switch s, false)
  | .literal c asByte =>
    let refused := if m.unicode then m.caseless else asByte && 0x80 ≤ c.toNat
    if refused then none else some (m, false)
  | .dot => if m.unicode then some (m, false) else none
  | .wordEdge => some (m, m.unicode)
  | .shorthand negated => if m.unicode || negated then none else some (m, false)
  | .oneOf negated set =>
    if (m.unicode || !negated) && set.matchable m then some (m, false) else none
  | .repeated p => survey m p
  | .group s p => (survey (m.switch s) p).map fun (_, edge) => (m, edge)
  | .sequence ps => surveyAll m false ps
  | .alternatives ps => surveyAll m false ps

/-- Checks patterns one after another; `edge` says whether an edge of a word was seen before. -/
def surveyAll (m : Mode) (edge : Bool) : List Pattern → Option (Mode × Bool)
  | [] => some (m, edge)
  | p :: ps =>
    match survey m p with
    | none => none
    | some (m, later) => surveyAll m (edge || later) ps

end

/-- What is wrong with a text as a pattern. -/
def fault? (cs : List Char) : Option Fault :=
  match (parse cs).bind (survey {}) with
  | none => some .malformed
  | some (_, true) => some .wordEdge
  | some (_, false) => none

end MessageBus.Pattern
