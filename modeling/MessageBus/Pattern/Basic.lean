namespace MessageBus

/-- What a class of characters lists: single characters, ranges, classes with a name or a one-letter
escape, further classes in brackets, and intersections or differences of such lists. -/
inductive Pattern.ClassSet
  | empty
  | char (c : Char)
  | range (first last : Char)
  | named (negated : Bool)
  | shorthand (negated : Bool)
  | nested (negated : Bool) (set : Pattern.ClassSet)
  | union (sets : List Pattern.ClassSet)
  | combined (left right : Pattern.ClassSet)
  deriving Inhabited

/-- The switches that a pattern turns on or off for a part of itself: letters of any case,
characters instead of bytes, and white space that does not count. -/
structure Pattern.Switches where
  caseless : Option Bool := none
  unicode : Option Bool := none
  spaced : Option Bool := none
  deriving DecidableEq, Inhabited

/-- A pattern. A literal may be written by its byte. -/
inductive Pattern
  | empty
  | switches (s : Pattern.Switches)
  | literal (c : Char) (asByte : Bool)
  | dot
  | anchor
  | wordEdge
  | shorthand (negated : Bool)
  | oneOf (negated : Bool) (set : Pattern.ClassSet)
  | repeated (p : Pattern)
  | group (s : Pattern.Switches) (p : Pattern)
  | sequence (ps : List Pattern)
  | alternatives (ps : List Pattern)
  deriving Inhabited

namespace Pattern

/-- The union of the parts of a list; one part stands for itself. -/
def ClassSet.ofParts : List ClassSet → ClassSet
  | [] => .empty
  | [set] => set
  | sets => .union sets

def ofSequence : List Pattern → Pattern
  | [] => .empty
  | [p] => p
  | ps => .sequence ps

/-- Patterns of which one has to match; one pattern stands for itself. -/
def ofAlternatives : List Pattern → Pattern
  | [p] => p
  | ps => .alternatives ps

mutual

/-- Whether the parts of a list nest deeper than a limit. -/
def ClassSet.exceeds : Nat → ClassSet → Bool
  | 0, .nested _ _ => true
  | 0, .union _ => true
  | 0, .combined _ _ => true
  | n + 1, .nested _ set => set.exceeds n
  | n + 1, .union sets => ClassSet.anyExceeds n sets
  | n + 1, .combined left right => left.exceeds n || right.exceeds n
  | _, _ => false

def ClassSet.anyExceeds : Nat → List ClassSet → Bool
  | _, [] => false
  | n, set :: rest => set.exceeds n || ClassSet.anyExceeds n rest

end

mutual

def exceeds : Nat → Pattern → Bool
  | 0, .oneOf _ _ => true
  | 0, .repeated _ => true
  | 0, .group _ _ => true
  | 0, .sequence _ => true
  | 0, .alternatives _ => true
  | n + 1, .oneOf _ set => set.exceeds n
  | n + 1, .repeated p => p.exceeds n
  | n + 1, .group _ p => p.exceeds n
  | n + 1, .sequence ps => anyExceeds n ps
  | n + 1, .alternatives ps => anyExceeds n ps
  | _, _ => false

def anyExceeds : Nat → List Pattern → Bool
  | _, [] => false
  | n, p :: rest => p.exceeds n || anyExceeds n rest

end

/-- How deep the parts of a pattern may nest. -/
def nestingLimit : Nat := 250

end Pattern

end MessageBus
