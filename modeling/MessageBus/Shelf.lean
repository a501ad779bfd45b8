namespace MessageBus

/-- Values under labels, in ascending order of the labels. -/
abbrev Shelf (α : Type) := List (String × α)

namespace Shelf

variable {α : Type}

def get? : Shelf α → String → Option α
  | [], _ => none
  | (l, v) :: rest, label => if label = l then some v else get? rest label

/-- Puts a value under a label, in place of the one that was there. -/
def put : Shelf α → String → α → Shelf α
  | [], label, value => [(label, value)]
  | (l, v) :: rest, label, value =>
    if label = l then (label, value) :: rest
    else if label < l then (label, value) :: (l, v) :: rest
    else (l, v) :: put rest label value

def remove : Shelf α → String → Shelf α
  | [], _ => []
  | (l, v) :: rest, label => if label = l then rest else (l, v) :: remove rest label

/-- The first label with a value. -/
def labelOf? [DecidableEq α] : Shelf α → α → Option String
  | [], _ => none
  | (l, v) :: rest, value => if v = value then some l else labelOf? rest value

theorem get?_put (s : Shelf α) (label : String) (value : α) (other : String) :
    (s.put label value).get? other = if other = label then some value else s.get? other := by
  induction s with
  | nil => rfl
  | cons entry rest ih =>
    obtain ⟨l, v⟩ := entry
    by_cases hl : label = l
    · subst hl
      by_cases ho : other = label <;> simp [put, get?, ho]
    · by_cases hlt : label < l
      · simp [put, get?, hl, hlt]
      · by_cases ho : other = l
        · have : other ≠ label := fun h => hl (h.symm.trans ho)
          simp [put, get?, hl, hlt, ho, Ne.symm hl]
        · simp [put, get?, hl, hlt, ho, ih]

end Shelf

end MessageBus
