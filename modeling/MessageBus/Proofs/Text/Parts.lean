import MessageBus.Text.Lines
import Mathlib

namespace MessageBus.Text

variable {mark : Char} {cs front back : List Char} {s : String}

theorem splitOn_ne_nil (mark : Char) (cs : List Char) : splitOn mark cs ≠ [] := by
  cases cs with
  | nil => simp [splitOn]
  | cons c cs =>
    rw [splitOn]
    split
    · simp
    · split <;> simp

/-- The pieces of a text have none of the marks, and with a mark between each two of them they are
the text. -/
theorem splitOn_spec (mark : Char) (cs : List Char) :
    [mark].intercalate (splitOn mark cs) = cs ∧ ∀ piece ∈ splitOn mark cs, mark ∉ piece := by
  induction cs with
  | nil => simp [splitOn, List.intercalate]
  | cons c cs ih =>
    obtain ⟨joined, clean⟩ := ih
    rw [splitOn]
    cases pieces : splitOn mark cs with
    | nil => exact absurd pieces (splitOn_ne_nil mark cs)
    | cons piece rest =>
      rw [pieces] at joined clean
      by_cases hc : c = mark
      · rw [if_pos (by simpa using hc), ← hc]
        refine ⟨?_, by simpa [hc] using clean⟩
        rw [← hc] at joined
        rw [← joined]
        rfl
      · rw [if_neg (by simpa using hc)]
        refine ⟨?_, ?_⟩
        · rw [← joined]
          cases rest <;> rfl
        · simp only [List.forall_mem_cons] at clean ⊢
          exact ⟨by simp [Ne.symm hc, clean.1], clean.2⟩

/-- A text without the mark is in one piece. -/
theorem splitOn_eq_self (h : ∀ c ∈ cs, (c == mark) = false) : splitOn mark cs = [cs] := by
  induction cs with
  | nil => rfl
  | cons c cs ih =>
    have rest := ih fun d hd => h d (List.mem_cons_of_mem _ hd)
    simp [splitOn, h c List.mem_cons_self, rest]

theorem parts_eq_self (h : ∀ c ∈ s.toList, (c == mark) = false) : parts mark s = [s] := by
  simp [parts, splitOn_eq_self h]

theorem beq_mark_of_not_mem (h : mark ∉ cs) : ∀ c ∈ cs, (c == mark) = false :=
  fun _ hc => beq_eq_false_iff_ne.mpr (ne_of_mem_of_not_mem hc h)

/-- The last piece is what stands after the last mark. -/
theorem splitOn_append_mark (front : List Char) (h : mark ∉ back) :
    splitOn mark (front ++ mark :: back) = splitOn mark front ++ [back] := by
  induction front with
  | nil => simp [splitOn, splitOn_eq_self (beq_mark_of_not_mem h)]
  | cons c front ih =>
    rw [List.cons_append, splitOn, ih, splitOn]
    split
    · rfl
    · cases pieces : splitOn mark front with
      | nil => exact absurd pieces (splitOn_ne_nil mark front)
      | cons piece rest => rfl

theorem not_mem_of_cutLast?_eq_none (h : cutLast? mark cs = none) : mark ∉ cs := by
  induction cs with
  | nil => exact List.not_mem_nil
  | cons c cs ih =>
    rw [cutLast?] at h
    cases cut : cutLast? mark cs with
    | some found => simp [cut] at h
    | none =>
      have first : ¬ c = mark := by simpa [cut] using h
      exact List.not_mem_cons_of_ne_of_not_mem (Ne.symm first) (ih cut)

theorem eq_append_of_cutLast? (h : cutLast? mark cs = some (front, back)) :
    cs = front ++ mark :: back ∧ mark ∉ back := by
  induction cs generalizing front with
  | nil => simp [cutLast?] at h
  | cons c cs ih =>
    rw [cutLast?] at h
    cases cut : cutLast? mark cs with
    | some found =>
      -- A mark that comes later is the last one, whatever the first character is.
      obtain ⟨before, after⟩ := found
      obtain ⟨rfl, rfl⟩ : c :: before = front ∧ after = back := by simpa [cut] using h
      obtain ⟨joined, clean⟩ := ih cut
      exact ⟨congrArg (c :: ·) joined, clean⟩
    | none =>
      obtain ⟨rfl, rfl, rfl⟩ : c = mark ∧ [] = front ∧ cs = back := by simpa [cut] using h
      exact ⟨rfl, not_mem_of_cutLast?_eq_none cut⟩

/-- The part after the last mark is the last one, and the others are those of the text before it. -/
theorem parts_of_lastPart? {parents leaf : String} (h : lastPart? mark s = some (parents, leaf)) :
    s = parents ++ String.singleton mark ++ leaf ∧ mark ∉ leaf.toList ∧
      parts mark s = parts mark parents ++ [leaf] := by
  obtain ⟨⟨front, back⟩, cut, same⟩ := Option.map_eq_some_iff.mp h
  obtain ⟨rfl, rfl⟩ := Prod.mk.inj same
  obtain ⟨joined, clean⟩ := eq_append_of_cutLast? cut
  refine ⟨?_, by simpa using clean, ?_⟩
  · apply String.toList_inj.mp
    simpa using joined
  · simp [parts, joined, splitOn_append_mark front clean]

/-- A text without a last mark has none. -/
theorem parts_of_lastPart?_eq_none (h : lastPart? mark s = none) :
    mark ∉ s.toList ∧ parts mark s = [s] := by
  have absent := not_mem_of_cutLast?_eq_none (Option.map_eq_none_iff.mp h)
  exact ⟨absent, parts_eq_self (beq_mark_of_not_mem absent)⟩

end MessageBus.Text
