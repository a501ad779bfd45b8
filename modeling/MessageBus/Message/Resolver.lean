import MessageBus.Message.Basic

namespace MessageBus

/-- A chain of types as it was computed once; chains computed at different times differ in their
number. -/
structure Chain where
  number : Nat
  tags : List Tag
  deriving DecidableEq, Inhabited

/-- The chains computed so far, one for each type of a resolved message. -/
structure Resolver where
  chains : List (Tag × Chain) := []
  computed : Nat := 0

namespace Resolver

def find? (r : Resolver) (t : Tag) : Option Chain :=
  (r.chains.find? (·.1 == t)).map (·.2)

/-- Computes the chain of a message anew, without keeping it. -/
def compute (r : Resolver) (m : Message) : Resolver × Chain :=
  ({ r with computed := r.computed + 1 }, { number := r.computed, tags := m.ancestry })

/-- Keeps a chain for a type, unless one is kept already, and answers the one that is kept. -/
def keep (r : Resolver) (t : Tag) (c : Chain) : Resolver × Chain :=
  match r.find? t with
  | some old => (r, old)
  | none => ({ r with chains := r.chains ++ [(t, c)] }, c)

theorem find?_keep (r : Resolver) (t : Tag) (c : Chain) :
    (r.keep t c).1.find? t = some (r.keep t c).2 := by
  unfold keep
  split
  · next old h => exact h
  · next h =>
    have hnone : r.chains.find? (·.1 == t) = none := by simpa [find?] using h
    simp [find?, List.find?_append, hnone]

/-- The chain of a message: the one kept for its type, else a new one, which is then kept. -/
def resolve (r : Resolver) (m : Message) : Resolver × Chain :=
  match r.find? m.tag with
  | some c => (r, c)
  | none =>
    let (r, c) := r.compute m
    r.keep m.tag c

def size (r : Resolver) : Nat := r.chains.length

def shape (r : Resolver) : Text.Shape :=
  .record "TypeHierarchy" [("cached_types", .nat r.size)] true

end Resolver

end MessageBus
