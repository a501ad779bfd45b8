import MessageBus.Message.Tag

namespace MessageBus

/-- A message: the name of its own type, the message it is when seen as its parent type, unless
that is the root, and the outline it is shown by. -/
inductive Message
  | top (name : String) (shape : Text.Shape)
  | sub (name : String) (parent : Message) (shape : Text.Shape)
  deriving Inhabited

namespace Message

def tag : Message → Tag
  | top n _ => .child n .root
  | sub n p _ => .child n p.tag

def shape : Message → Text.Shape
  | top _ s => s
  | sub _ _ s => s

/-- The message seen as its parent type; seen as the root it has no data of its own. -/
def parent? : Message → Option Message
  | top _ _ => none
  | sub _ p _ => some p

/-- The types the message belongs to, from the root down to its own. -/
def ancestry (m : Message) : List Tag := m.tag.lineage

/-- The message seen as the ancestor type with a tag, found by walking up from the message. -/
def project (t : Tag) : Message → Option Message
  | top n s => if t = (top n s).tag then some (top n s) else none
  | sub n p s => if t = (sub n p s).tag then some (sub n p s) else project t p

/-- Whether the message is of a type, itself or as one of its ancestors. -/
def isA (m : Message) (t : Tag) : Bool := (m.project t).isSome

/-- The message seen as one of its types. What the walk finds is checked to be of that very type. -/
def view? (m : Message) (t : Tag) : Option Message :=
  (m.project t).bind fun v => if v.tag = t then some v else none

def text (m : Message) : String := m.shape.inline

theorem tag_ne_root (m : Message) : m.tag ≠ .root := by
  cases m <;> simp [tag]

end Message

/-- What a mailbox listens for: a type, seen through the walk up the message or, when `blind`,
never seen at all although messages of the type are routed to it. -/
structure Target where
  tag : Tag
  blind : Bool := false
  deriving DecidableEq, Inhabited

/-- A message as a target sees it. The root sees every message whole. -/
def Target.narrow (t : Target) (m : Message) : Option Message :=
  if t.blind then none
  else if t.tag = .root then some m
  else m.project t.tag

end MessageBus
