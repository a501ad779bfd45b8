import MessageBus.Text.Shape

namespace MessageBus

/-- A message type: the root, which every message belongs to, or a type declared below a parent. -/
inductive Tag
  | root
  | child (name : String) (parent : Tag)
  deriving DecidableEq, Inhabited

namespace Tag

def name : Tag → String
  | root => "dyn postal_bus::hierarchy::Message"
  | child n _ => n

/-- The types a type belongs to, from the root down to itself. -/
def lineage : Tag → List Tag
  | root => [root]
  | child n p => lineage p ++ [child n p]

/-- The number of declared types above and including this one. -/
def depth : Tag → Nat
  | root => 0
  | child _ p => depth p + 1

def shape (t : Tag) : Text.Shape := .tuple "TypeTag" [.quoted t.name]

theorem lineage_ne_nil (t : Tag) : t.lineage ≠ [] := by
  cases t <;> simp [lineage]

theorem root_mem_lineage (t : Tag) : root ∈ t.lineage := by
  induction t with
  | root => simp [lineage]
  | child n p ih => simp [lineage, ih]

end Tag

end MessageBus
