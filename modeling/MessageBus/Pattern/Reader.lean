import MessageBus.Number.Digits
import MessageBus.Pattern.Basic
import MessageBus.Text.Alphanumeric
import MessageBus.Text.Blank

namespace MessageBus.Pattern

/-- The text after white space and comments, which reach to the end of their line; `comment` says
whether the text begins inside one. -/
def skipFiller (comment : Bool) : List Char → List Char
  | [] => []
  | c :: cs =>
    if comment then skipFiller (c ≠ '\n') cs
    else if c == '#' then skipFiller true cs
    else if Text.isBlank c then skipFiller false cs
    else c :: cs

/-- The text from the next character that counts. -/
def skip (spaced : Bool) (cs : List Char) : List Char := if spaced then skipFiller false cs else cs

/-- What stands behind the next character, past white space and the mark of one comment. -/
def peek (spaced : Bool) (cs : List Char) : Option Char :=
  if !spaced then cs.head?
  else
    match cs.dropWhile Text.isBlank with
    | '#' :: rest => ((rest.dropWhile Text.isBlank).head?).orElse fun _ => cs.head?
    | c :: _ => some c
    | [] => cs.head?

/-- What an escape stands for. -/
inductive Atom
  | literal (c : Char) (asByte : Bool)
  | anchor
  | wordEdge
  | shorthand (negated : Bool)

def readHex (spaced : Bool) : Nat → Nat → List Char → Option (Nat × List Char)
  | 0, n, cs => some (n, cs)
  | digits + 1, n, cs =>
    match skip spaced cs with
    | c :: rest =>
      match digitValue? c with
      | some d => readHex spaced digits (16 * n + d) rest
      | none => none
    | [] => none

/-- A character by its number. -/
def readCode (spaced : Bool) (digits : Nat) (cs : List Char) : Option (Atom × List Char) :=
  (readHex spaced digits 0 cs).bind fun (n, rest) =>
    if n.isValidChar then some (.literal (Char.ofNat n) (digits == 2), skip spaced rest) else none

/-- What a backslash and the text after it stand for, and what follows. Classes by a property of
Unicode are not known. -/
def readEscape (spaced : Bool) : List Char → Option (Atom × List Char)
  | [] => none
  | 'x' :: rest => readCode spaced 2 rest
  | 'u' :: rest => readCode spaced 4 rest
  | 'U' :: rest => readCode spaced 8 rest
  | c :: rest =>
    if c == 'd' || c == 's' || c == 'w' then some (.shorthand false, rest)
    else if c == 'D' || c == 'S' || c == 'W' then some (.shorthand true, rest)
    else if c == 'a' then some (.literal (Char.ofNat 7) false, rest)
    else if c == 'f' then some (.literal (Char.ofNat 12) false, rest)
    else if c == 'n' then some (.literal '\n' false, rest)
    else if c == 'r' then some (.literal '\r' false, rest)
    else if c == 't' then some (.literal '\t' false, rest)
    else if c == 'v' then some (.literal (Char.ofNat 11) false, rest)
    else if c == 'A' || c == 'z' then some (.anchor, rest)
    else if c == 'b' || c == 'B' || c == '<' || c == '>' then some (.wordEdge, rest)
    else if c.toNat < 0x80 && !c.isAlphanum then some (.literal c false, rest)
    else none

def className (s : String) : Bool :=
  ["alnum", "alpha", "ascii", "blank", "cntrl", "digit", "graph", "lower", "print", "punct",
    "space", "upper", "word", "xdigit"].contains s

/-- A class by its name after the opening bracket: `:name:]` or, negated, `:^name:]`. -/
def readNamed (cs : List Char) : Option (ClassSet × List Char) :=
  match cs with
  | ':' :: rest =>
    let (negated, rest) : Bool × List Char := match rest with
      | '^' :: rest => (true, rest)
      | rest => (false, rest)
    let name := rest.takeWhile (· ≠ ':')
    match rest.drop name.length with
    | ':' :: ']' :: rest =>
      if className (String.ofList name) then some (.named negated, rest) else none
    | _ => none
  | _ => none

/-- One character or escape of a class, and the text after it. -/
def readMember (spaced : Bool) : List Char → Option (Atom × List Char)
  | [] => none
  | '\\' :: rest => readEscape spaced rest
  | c :: rest => some (.literal c false, rest)

/-- A character, an escape or a range of a class, and the text after it. A hyphen makes a range
unless a bracket or another hyphen follows it. -/
def readRange (spaced : Bool) (cs : List Char) : Option (ClassSet × List Char) :=
  match readMember spaced cs with
  | none => none
  | some (first, rest) =>
    match skip spaced rest with
    | [] => none
    | next :: rest =>
      let after := peek spaced rest
      if next ≠ '-' || after == some ']' || after == some '-' then
        match first with
        | .literal c _ => some (.char c, next :: rest)
        | .shorthand negated => some (.shorthand negated, next :: rest)
        | _ => none
      else
        match first, readMember spaced (skip spaced rest) with
        | .literal lo _, some (.literal hi _, rest) =>
          if lo.toNat ≤ hi.toNat then some (.range lo hi, rest) else none
        | _, _ => none

/-- The hyphens that open a class stand for themselves. -/
def readHyphens (spaced : Bool) : Nat → List ClassSet → List Char → List ClassSet × List Char
  | 0, sets, cs => (sets, cs)
  | fuel + 1, sets, cs =>
    match cs with
    | '-' :: rest => readHyphens spaced fuel (.char '-' :: sets) (skip spaced rest)
    | cs => (sets, cs)

/-- The beginning of a class after its bracket: whether it is negated, and what it lists by its
first hyphens or a closing bracket that comes first. -/
def openClass (spaced : Bool) (fuel : Nat) (cs : List Char) :
    Bool × List ClassSet × List Char :=
  let cs := skip spaced cs
  let (negated, cs) : Bool × List Char := match cs with
    | '^' :: rest => (true, skip spaced rest)
    | cs => (false, cs)
  match readHyphens spaced fuel [] cs with
  | ([], ']' :: rest) => (negated, [.char ']'], skip spaced rest)
  | (sets, cs) => (negated, sets, cs)

/-- What was combined so far, together with the parts listed since. -/
def ClassSet.join (left : Option ClassSet) (parts : List ClassSet) : ClassSet :=
  match left with
  | none => .ofParts parts.reverse
  | some left => .combined left (.ofParts parts.reverse)

/-- The rest of a class: `left` is what was combined so far, `parts` what was listed since, the last
first. Classes nest at most `room` deep. -/
def readClass (spaced : Bool) :
    Nat → Nat → Option ClassSet → List ClassSet → List Char →
      Option (ClassSet × List Char)
  | 0, _, _, _, _ => none
  | fuel + 1, room, left, parts, cs =>
    match skip spaced cs with
    | [] => none
    | ']' :: rest => some (.join left parts, rest)
    | '&' :: '&' :: rest => readClass spaced fuel room (some (.join left parts)) [] rest
    | '-' :: '-' :: rest => readClass spaced fuel room (some (.join left parts)) [] rest
    | '~' :: '~' :: rest => readClass spaced fuel room (some (.join left parts)) [] rest
    | '[' :: rest =>
      match readNamed rest, room with
      | some (set, rest), _ => readClass spaced fuel room left (set :: parts) rest
      | none, 0 => none
      | none, room + 1 =>
        let (negated, listed, rest) := openClass spaced fuel rest
        match readClass spaced fuel room none listed rest with
        | none => none
        | some (set, rest) =>
          readClass spaced fuel (room + 1) left (.nested negated set :: parts) rest
    | cs =>
      match readRange spaced cs with
      | none => none
      | some (set, rest) => readClass spaced fuel room left (set :: parts) rest

/-- Reads switches up to a colon or a closing parenthesis: `seen` are those read so far, `on`
whether the next one is turned on, `dangling` whether a minus sign came last. Answers whether the
switches are for a group. -/
def readSwitches :
    List Char → Bool → Bool → Switches → List Char → Option (Bool × Switches × List Char)
  | _, _, _, _, [] => none
  | seen, on, dangling, s, c :: rest =>
    if c == ':' || c == ')' then
      if dangling || (c == ')' && seen.isEmpty) then none else some (c == ':', s, rest)
    else if c == '-' then if on then readSwitches seen false true s rest else none
    else if seen.contains c then none
    else if c == 'i' then readSwitches (c :: seen) on false { s with caseless := some on } rest
    else if c == 'u' then readSwitches (c :: seen) on false { s with unicode := some on } rest
    else if c == 'x' then readSwitches (c :: seen) on false { s with spaced := some on } rest
    else if c == 'm' || c == 's' || c == 'U' || c == 'R' then
      readSwitches (c :: seen) on false s rest
    else none

def readName (cs : List Char) : Option (String × List Char) :=
  let name := cs.takeWhile (· ≠ '>')
  let isName := match name with
    | [] => false
    | c :: rest =>
      (c == '_' || Text.isAlphabetic c) &&
        rest.all fun c => c == '_' || c == '.' || c == '[' || c == ']' || Text.isAlphanumeric c
  match cs.drop name.length with
  | '>' :: rest => if isName then some (String.ofList name, rest) else none
  | _ => none

/-- What an opening parenthesis begins: switches for what follows, or a group with a name or with
switches of its own. -/
inductive Opening
  | switches (s : Switches)
  | group (name : Option String) (s : Switches)

/-- Reads the beginning of a group after its parenthesis. One cannot look around. -/
def readOpening (spaced : Bool) (cs : List Char) : Option (Opening × List Char) :=
  let named (rest : List Char) : Option (Opening × List Char) :=
    (readName rest).map fun (name, rest) => (.group (some name) {}, rest)
  match skip spaced cs with
  | '?' :: '=' :: _ => none
  | '?' :: '!' :: _ => none
  | '?' :: '<' :: '=' :: _ => none
  | '?' :: '<' :: '!' :: _ => none
  | '?' :: 'P' :: '<' :: rest => named rest
  | '?' :: '<' :: rest => named rest
  | '?' :: rest =>
    (readSwitches [] true false {} rest).map fun (grouped, s, rest) =>
      (if grouped then .group none s else .switches s, rest)
  | cs => some (.group none {}, cs)

/-- How far the reader of a pattern is: whether white space does not count, the names of groups, the
alternatives that are complete, and the parts of the one it is reading, the last first. -/
structure Progress where
  spaced : Bool := false
  names : List String := []
  complete : List Pattern := []
  parts : List Pattern := []

namespace Progress

def add (g : Progress) (p : Pattern) : Progress := { g with parts := p :: g.parts }

def next (g : Progress) : Progress :=
  { g with complete := .ofSequence g.parts.reverse :: g.complete, parts := [] }

def pattern (g : Progress) : Pattern := .ofAlternatives g.next.complete.reverse

def repeatLast (g : Progress) : Option Progress :=
  match g.parts with
  | [] => none
  | .switches _ :: _ => none
  | p :: parts => some { g with parts := .repeated p :: parts }

end Progress

/-- Reads up to the parenthesis that closes the group, or to the end. Groups nest at most `room`
deep. An opening brace is refused: the value of a field never closes it. -/
def readParts : Nat → Nat → Progress → List Char → Option (Progress × List Char)
  | 0, _, _, _ => none
  | fuel + 1, room, g, cs =>
    match skip g.spaced cs with
    | [] => some (g, [])
    | ')' :: rest => some (g, ')' :: rest)
    | '|' :: rest => readParts fuel room g.next rest
    | '\x7b' :: _ => none
    | '(' :: rest =>
      match readOpening g.spaced rest, room with
      | none, _ => none
      | some (.switches s, rest), _ =>
        let g := g.add (.switches s)
        readParts fuel room { g with spaced := s.spaced.getD g.spaced } rest
      | some (.group _ _, _), 0 => none
      | some (.group name s, rest), room + 1 =>
        if name.any g.names.contains then none
        else
          let inner : Progress :=
            { spaced := s.spaced.getD g.spaced, names := name.toList ++ g.names }
          match readParts fuel room inner rest with
          | some (inner, ')' :: rest) =>
            let g := { g with names := inner.names }
            readParts fuel (room + 1) (g.add (.group s inner.pattern)) rest
          | _ => none
    | '[' :: rest =>
      let (negated, listed, rest) := openClass g.spaced fuel rest
      match readClass g.spaced fuel room none listed rest with
      | none => none
      | some (set, rest) => readParts fuel room (g.add (.oneOf negated set)) rest
    | '.' :: rest => readParts fuel room (g.add .dot) rest
    | '^' :: rest => readParts fuel room (g.add .anchor) rest
    | '$' :: rest => readParts fuel room (g.add .anchor) rest
    | '\\' :: rest =>
      match readEscape g.spaced rest with
      | none => none
      | some (.literal c asByte, rest) => readParts fuel room (g.add (.literal c asByte)) rest
      | some (.anchor, rest) => readParts fuel room (g.add .anchor) rest
      | some (.wordEdge, rest) => readParts fuel room (g.add .wordEdge) rest
      | some (.shorthand negated, rest) => readParts fuel room (g.add (.shorthand negated)) rest
    | c :: rest =>
      if c == '?' || c == '*' || c == '+' then
        match g.repeatLast with
        | none => none
        | some g => readParts fuel room g (if rest.head? == some '?' then rest.drop 1 else rest)
      else readParts fuel room (g.add (.literal c false)) rest

def parse (cs : List Char) : Option Pattern :=
  match readParts (cs.length + 1) nestingLimit {} cs with
  | some (g, []) => if g.pattern.exceeds nestingLimit then none else some g.pattern
  | _ => none

end MessageBus.Pattern
