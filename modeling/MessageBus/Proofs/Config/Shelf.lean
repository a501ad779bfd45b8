import MessageBus.Shelf
import Mathlib

namespace MessageBus.Shelf

variable {α : Type} {s t : Shelf α} {label : String} {value : α}

/-- The labels stand in ascending order, each of them once. -/
def Sorted (s : Shelf α) : Prop := s.Pairwise fun a b => a.1 < b.1

theorem sorted_nil : Sorted ([] : Shelf α) := List.Pairwise.nil

theorem mem_of_mem_put {entry : String × α} (h : entry ∈ s.put label value) :
    entry = (label, value) ∨ entry ∈ s := by
  induction s with
  | nil => exact .inl (List.mem_singleton.mp h)
  | cons first rest ih =>
    obtain ⟨l, v⟩ := first
    rw [put] at h
    split at h
    · rcases List.mem_cons.mp h with h | h
      · exact .inl h
      · exact .inr (List.mem_cons_of_mem _ h)
    · split at h
      · exact List.mem_cons.mp h
      · rcases List.mem_cons.mp h with h | h
        · exact .inr (h ▸ List.mem_cons_self)
        · exact (ih h).imp_right (List.mem_cons_of_mem _)

theorem mem_of_mem_remove {entry : String × α} (h : entry ∈ s.remove label) : entry ∈ s := by
  induction s with
  | nil => exact h
  | cons first rest ih =>
    rw [remove] at h
    split at h
    · exact List.mem_cons_of_mem _ h
    · rcases List.mem_cons.mp h with h | h
      · exact h ▸ List.mem_cons_self
      · exact List.mem_cons_of_mem _ (ih h)

theorem Sorted.put (h : s.Sorted) (label : String) (value : α) : (s.put label value).Sorted := by
  induction s with
  | nil => exact List.pairwise_singleton _ _
  | cons first rest ih =>
    obtain ⟨l, v⟩ := first
    obtain ⟨above, tail⟩ := List.pairwise_cons.mp h
    rw [Shelf.put]
    split
    · next same =>
      subst same
      exact List.pairwise_cons.mpr ⟨above, tail⟩
    · next other =>
      split
      · next below =>
        have before_all : ∀ entry ∈ (l, v) :: rest, label < entry.1 := by
          intro entry he
          rcases List.mem_cons.mp he with rfl | he
          · exact below
          · exact lt_trans below (above entry he)
        exact List.pairwise_cons.mpr ⟨before_all, h⟩
      · next not_below =>
        have beyond : l < label := lt_of_le_of_ne (not_lt.mp not_below) (Ne.symm other)
        have still_above : ∀ entry ∈ Shelf.put rest label value, l < entry.1 := by
          intro entry he
          rcases mem_of_mem_put he with rfl | he
          · exact beyond
          · exact above entry he
        exact List.pairwise_cons.mpr ⟨still_above, ih tail⟩

theorem mem_of_get? (h : s.get? label = some value) : (label, value) ∈ s := by
  induction s with
  | nil => simp [get?] at h
  | cons first rest ih =>
    obtain ⟨l, v⟩ := first
    rw [get?] at h
    split at h
    · next same =>
      rw [same, Option.some.inj h]
      exact List.mem_cons_self
    · exact List.mem_cons_of_mem _ (ih h)

/-- A label below all others has no value. -/
theorem get?_eq_none_of_lt (h : ∀ entry ∈ s, label < entry.1) : s.get? label = none := by
  cases hl : s.get? label with
  | none => rfl
  | some value => exact absurd (h _ (mem_of_get? hl)) (lt_irrefl _)

theorem Sorted.get?_of_mem (h : s.Sorted) (hm : (label, value) ∈ s) :
    s.get? label = some value := by
  induction s with
  | nil => simp at hm
  | cons first rest ih =>
    obtain ⟨l, v⟩ := first
    obtain ⟨above, tail⟩ := List.pairwise_cons.mp h
    rcases List.mem_cons.mp hm with e | hm
    · obtain ⟨rfl, rfl⟩ := Prod.mk.inj e
      simp [get?]
    · have ne : label ≠ l := ne_of_gt (above _ hm)
      rw [get?, if_neg ne]
      exact ih tail hm

@[simp]
theorem get?_cons_self (label : String) (value : α) (rest : Shelf α) :
    get? ((label, value) :: rest) label = some value := by
  simp [get?]

theorem get?_cons_of_ne {l : String} (ne : label ≠ l) (v : α) (rest : Shelf α) :
    get? ((l, v) :: rest) label = get? rest label := by
  simp [get?, ne]

/-- The first label does not come again. -/
theorem Sorted.ne_of_get? {l : String} {v : α} {rest : Shelf α} (h : Sorted ((l, v) :: rest))
    (found : rest.get? label = some value) : label ≠ l := by
  rintro rfl
  simp [get?_eq_none_of_lt (List.pairwise_cons.mp h).1] at found

/-- The first label is the least that has a value. -/
theorem Sorted.le_of_get? {l : String} {v : α} {rest : Shelf α} (h : Sorted ((l, v) :: rest))
    (found : get? ((l, v) :: rest) label = some value) : l ≤ label := by
  rcases List.mem_cons.mp (mem_of_get? found) with first | later
  · exact le_of_eq (Prod.mk.inj first).1.symm
  · exact le_of_lt ((List.pairwise_cons.mp h).1 _ later)

/-- Two shelves are the same when they have the same value under every label. -/
theorem Sorted.ext (hs : s.Sorted) (ht : t.Sorted) (h : ∀ label, s.get? label = t.get? label) :
    s = t := by
  induction s generalizing t with
  | nil =>
    cases t with
    | nil => rfl
    | cons first rest => simpa [get?] using h first.1
  | cons first rest ih =>
    obtain ⟨l, v⟩ := first
    obtain ⟨above, tail⟩ := List.pairwise_cons.mp hs
    cases t with
    | nil => simpa [get?] using h l
    | cons first' rest' =>
      obtain ⟨l', v'⟩ := first'
      obtain ⟨above', tail'⟩ := List.pairwise_cons.mp ht
      -- The first labels are equal, as each shelf has a value under the first label of the other.
      have same : l = l' := by
        have mine : get? ((l, v) :: rest) l = some v := by simp [get?]
        have yours : get? ((l', v') :: rest') l' = some v' := by simp [get?]
        have le : l ≤ l' := hs.le_of_get? ((h l').trans yours)
        have ge : l' ≤ l := ht.le_of_get? ((h l).symm.trans mine)
        exact le_antisymm le ge
      subst same
      have value : v = v' := by simpa [get?] using h l
      have rests : rest = rest' := by
        apply ih tail tail'
        intro label
        by_cases e : label = l
        · rw [e, get?_eq_none_of_lt above, get?_eq_none_of_lt above']
        · simpa [get?, e] using h label
      rw [value, rests]

end MessageBus.Shelf
