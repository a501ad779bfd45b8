import MessageBus.Message.Fixtures
import MessageBus.Proofs.Message.Narrowing

namespace MessageBus

namespace Tag

theorem head?_lineage (t : Tag) : t.lineage.head? = some root := by
  induction t with
  | root => rfl
  | child n p ih => rw [lineage, List.head?_append, ih, Option.some_or]

theorem getLast?_lineage (t : Tag) : t.lineage.getLast? = some t := by
  cases t <;> simp [lineage]

/-- A type belongs to all that its ancestors belong to, in the same order. -/
theorem lineage_prefix {t u : Tag} (h : u ∈ t.lineage) : u.lineage <+: t.lineage := by
  induction t with
  | root =>
    rw [List.mem_singleton.mp h]
  | child n p ih =>
    rcases List.mem_append.mp h with h | h
    · exact (ih h).trans (List.prefix_append _ _)
    · rw [List.mem_singleton.mp h]

end Tag

namespace Message

/-- Whether a view is reached from a message by going on to the parent any number of times. -/
def Ascends (m v : Message) : Prop := Relation.ReflTransGen (fun x y => x.parent? = some y) m v

theorem ascends_top {n : String} {s : Text.Shape} {v : Message} :
    (top n s).Ascends v ↔ v = top n s := by
  rw [Ascends, Relation.ReflTransGen.cases_head_iff]
  simp [parent?, eq_comm]

theorem ascends_sub {n : String} {p : Message} {s : Text.Shape} {v : Message} :
    (sub n p s).Ascends v ↔ v = sub n p s ∨ p.Ascends v := by
  rw [Ascends, Relation.ReflTransGen.cases_head_iff]
  simp [parent?, Ascends, eq_comm]

/-- A view belongs to the first of the types that the message belongs to. -/
theorem Ascends.tag_mem {m v : Message} (h : m.Ascends v) : v.tag ∈ m.ancestry := by
  induction m with
  | top n s =>
    rw [ascends_top.mp h]
    exact mem_ancestry_top.mpr (.inr rfl)
  | sub n p s ih =>
    rcases ascends_sub.mp h with rfl | h
    · exact mem_ancestry_sub.mpr (.inr rfl)
    · exact mem_ancestry_sub.mpr (.inl (ih h))

/-- No view of the parent is of the message's own type. -/
theorem Ascends.tag_ne {n : String} {p v : Message} (h : p.Ascends v) (s : Text.Shape) :
    v.tag ≠ (sub n p s).tag := by
  have distinct := Tag.nodup_lineage (sub n p s).tag
  rw [tag, Tag.lineage, List.nodup_append] at distinct
  exact distinct.2.2 _ h.tag_mem _ (List.mem_singleton.mpr rfl)

/-- The walk for a type finds the view of that type, if there is one. -/
theorem project_eq_some_iff {m v : Message} {t : Tag} :
    m.project t = some v ↔ m.Ascends v ∧ v.tag = t := by
  induction m with
  | top n s =>
    rw [project, ascends_top]
    by_cases ht : t = (top n s).tag
    · rw [if_pos ht, Option.some.injEq, ht]
      constructor
      · rintro rfl
        exact ⟨rfl, rfl⟩
      · rintro ⟨rfl, -⟩
        rfl
    · rw [if_neg ht]
      constructor
      · intro found
        simp at found
      · rintro ⟨rfl, own⟩
        exact absurd own.symm ht
  | sub n p s ih =>
    rw [project, ascends_sub]
    by_cases ht : t = (sub n p s).tag
    · rw [if_pos ht, Option.some.injEq, ht]
      constructor
      · rintro rfl
        exact ⟨.inl rfl, rfl⟩
      · rintro ⟨rfl | above, own⟩
        · rfl
        · exact absurd own (above.tag_ne s)
    · rw [if_neg ht, ih]
      constructor
      · rintro ⟨above, own⟩
        exact ⟨.inr above, own⟩
      · rintro ⟨rfl | above, own⟩
        · exact absurd own.symm ht
        · exact ⟨above, own⟩

theorem project_eq_none_iff {m : Message} {t : Tag} :
    m.project t = none ↔ t ∉ m.ancestry ∨ t = .root := by
  rw [← Option.not_isSome_iff_eq_none, isSome_project]
  tauto

/-- Every walk finds what it looks for, so that the check on what was found always passes. -/
theorem view?_eq_project (m : Message) (t : Tag) : m.view? t = m.project t := by
  rw [view?]
  cases found : m.project t with
  | none => rfl
  | some v => simp [(project_eq_some_iff.mp found).2]

/-- Seen from one of its views a message looks as it does from itself, further up. -/
theorem project_of_view {m v : Message} {t : Tag} (h : m.Ascends v) (ht : t ∈ v.ancestry) :
    v.project t = m.project t := by
  by_cases root : t = .root
  · rw [project_eq_none_iff.mpr (.inr root), project_eq_none_iff.mpr (.inr root)]
  · obtain ⟨w, hw⟩ := Option.isSome_iff_exists.mp ((v.isSome_project t).mpr ⟨ht, root⟩)
    obtain ⟨above, own⟩ := project_eq_some_iff.mp hw
    rw [hw, project_eq_some_iff.mpr ⟨h.trans above, own⟩]

/-- The same message with other data in its fields, be it another message that is embedded there. -/
def holding (s : Text.Shape) : Message → Message
  | top n _ => top n s
  | sub n p _ => sub n p s

@[simp] theorem tag_holding (m : Message) (s : Text.Shape) : (m.holding s).tag = m.tag := by
  cases m <;> rfl

@[simp] theorem shape_holding (m : Message) (s : Text.Shape) : (m.holding s).shape = s := by
  cases m <;> rfl

theorem ancestry_holding (m : Message) (s : Text.Shape) : (m.holding s).ancestry = m.ancestry := by
  rw [ancestry, tag_holding, ancestry]

/-- What is in the fields of a message is not seen, but for the message itself. -/
theorem project_holding (m : Message) (s : Text.Shape) (t : Tag) :
    (m.holding s).project t = if t = m.tag then some (m.holding s) else m.project t := by
  by_cases own : t = m.tag
  · rw [if_pos own]
    cases m <;> exact if_pos own
  · rw [if_neg own]
    cases m <;> exact (if_neg own).trans (if_neg own).symm

/-- The types that a message belongs to, which its own type decides, are those by which one comes on
the way up through its views, and no other type is ever seen. What is in the fields of a message is
nothing to that: with whatever else in them, other messages included, it is seen as the same types,
and as all but its own it looks the same. -/
theorem views_follow_ancestry (m : Message) :
    (m.ancestry.head? = some .root ∧ m.ancestry.getLast? = some m.tag ∧ m.ancestry.Nodup ∧
      ∀ t ∈ m.ancestry, t.lineage <+: m.ancestry ∧ t.lineage.getLast? = some t) ∧
    (∀ t, (m.project t).isSome = true ↔ t ∈ m.ancestry ∧ t ≠ .root) ∧
    (∀ t v, m.project t = some v ↔ m.Ascends v ∧ v.tag = t) ∧
    (∀ u ∈ m.ancestry, ∀ t ∈ u.lineage, m.view? t = (m.view? u).bind (·.view? t)) ∧
    (∀ t, m.isA t = true ↔ (m.view? t).isSome = true) ∧
    (∀ t ∉ m.ancestry, m.project t = none ∧ m.isA t = false ∧ ∀ v, m.Ascends v → v.tag ≠ t) ∧
    (∀ s, (m.holding s).shape = s ∧ (m.holding s).ancestry = m.ancestry ∧
      (∀ t, (m.holding s).isA t = m.isA t) ∧
      ∀ t ≠ m.tag, (m.holding s).project t = m.project t) := by
  refine ⟨⟨Tag.head?_lineage _, Tag.getLast?_lineage _, Tag.nodup_lineage _, fun t ht =>
    ⟨Tag.lineage_prefix ht, Tag.getLast?_lineage t⟩⟩, m.isSome_project,
    fun t v => project_eq_some_iff, ?_, ?_, ?_, fun s => ?_⟩
  · intro u hu t ht
    rw [view?_eq_project, view?_eq_project]
    cases found : m.project u with
    | none =>
      -- Only the root is not seen, and it belongs to nothing but itself.
      have root : u = .root := (project_eq_none_iff.mp found).resolve_left (not_not_intro hu)
      rw [root] at ht
      exact project_eq_none_iff.mpr (.inr (List.mem_singleton.mp ht))
    | some v =>
      obtain ⟨above, rfl⟩ := project_eq_some_iff.mp found
      rw [Option.bind_some, view?_eq_project, project_of_view above ht]
  · intro t
    rw [isA, view?_eq_project]
  · intro t off
    have unseen : m.project t = none := project_eq_none_iff.mpr (.inl off)
    exact ⟨unseen, by rw [isA, unseen]; rfl, fun v above own => off (own ▸ above.tag_mem)⟩
  · refine ⟨m.shape_holding s, m.ancestry_holding s, fun t => ?_, fun t other => ?_⟩
    · rw [Bool.eq_iff_iff, isA, isA, isSome_project, isSome_project, ancestry_holding]
    · rw [project_holding, if_neg other]

/-- A hybrid embeds a dog, and is none. A cat becomes none either when it embeds what the hybrid
does. -/
theorem views_follow_ancestry_hybrid :
    let m := Fixtures.hybrid "rex" 4 true false none
    let dog := Fixtures.dog "rex" 4 true
    let host := (Fixtures.cat "rex" 4 false).holding m.shape
    m.shape.field? "dog" = some dog.shape ∧ m.project dog.tag = none ∧ m.isA dog.tag = false ∧
      m.view? Fixtures.Kind.cat.tag = some (Fixtures.cat "rex" 4 false) ∧
      host.shape.field? "dog" = some dog.shape ∧ host.isA dog.tag = false := by
  intro m dog host
  obtain ⟨-, -, -, -, -, unreached, -⟩ := views_follow_ancestry m
  obtain ⟨-, -, -, -, -, -, fields⟩ := views_follow_ancestry (Fixtures.cat "rex" 4 false)
  have holds : m.shape.field? "dog" = some dog.shape := rfl
  obtain ⟨unseen, isNone, -⟩ := unreached dog.tag (by decide)
  obtain ⟨held, -, same, -⟩ := fields m.shape
  exact ⟨holds, unseen, isNone, rfl, held ▸ holds, (same dog.tag).trans rfl⟩

end Message

end MessageBus
