import MessageBus.Proofs.Message.Lineage

namespace MessageBus

namespace Message

theorem mem_ancestry_top {n : String} {s : Text.Shape} {t : Tag} :
    t ∈ (top n s).ancestry ↔ t = .root ∨ t = (top n s).tag := by
  simp [ancestry, tag, Tag.lineage]

theorem mem_ancestry_sub {n : String} {p : Message} {s : Text.Shape} {t : Tag} :
    t ∈ (sub n p s).ancestry ↔ t ∈ p.ancestry ∨ t = (sub n p s).tag := by
  simp [ancestry, tag, Tag.lineage]

/-- Walking up from a message one comes by every type it belongs to, except for the root, and by no
other type. -/
theorem isSome_project (m : Message) (t : Tag) :
    (m.project t).isSome = true ↔ t ∈ m.ancestry ∧ t ≠ .root := by
  induction m with
  | top n s =>
    have own : (top n s).tag ≠ .root := tag_ne_root _
    rw [mem_ancestry_top, project]
    by_cases ht : t = (top n s).tag
    · rw [if_pos ht, ht]
      exact ⟨fun _ => ⟨.inr rfl, own⟩, fun _ => rfl⟩
    · rw [if_neg ht]
      exact ⟨fun h => absurd h (by simp), fun ⟨h, ne⟩ => (h.elim ne ht).elim⟩
  | sub n p s ih =>
    have own : (sub n p s).tag ≠ .root := tag_ne_root _
    rw [mem_ancestry_sub, project]
    by_cases ht : t = (sub n p s).tag
    · rw [if_pos ht, ht]
      exact ⟨fun _ => ⟨.inr rfl, own⟩, fun _ => rfl⟩
    · rw [if_neg ht, ih]
      exact and_congr_left fun _ => (or_iff_left ht).symm

end Message

/-- A target that is not blind sees the messages that belong to its type, and no others. -/
theorem Target.isSome_narrow {t : Target} (ht : t.blind = false) (m : Message) :
    (t.narrow m).isSome = true ↔ t.tag ∈ m.ancestry := by
  rw [narrow, ht]
  by_cases hr : t.tag = .root
  · have belongs : Tag.root ∈ m.ancestry := Tag.root_mem_lineage m.tag
    simp [hr, belongs]
  · simp [hr, Message.isSome_project]

end MessageBus
