import MessageBus.Proofs.Message.Lineage

namespace MessageBus

namespace Resolver

/-- A resolver serves when it keeps, once for each type, the chain that it answered to the messages
of the type, and keeps no others. -/
structure Serves (r : Resolver) (answers : List (Message × Chain)) : Prop where
  once : (r.chains.map (·.1)).Nodup
  kept : ∀ t c, r.find? t = some c ↔ ∃ m, m.tag = t ∧ (m, c) ∈ answers
  exact : ∀ m c, (m, c) ∈ answers → c.tags = m.ancestry

/-- What a resolver answered is what would be computed anew, and the same chain for all messages of
one type. It has kept nothing else, and as many chains as there were types asked for. -/
structure Agrees (r : Resolver) (answers : List (Message × Chain)) : Prop where
  exact : ∀ m c, (m, c) ∈ answers → c.tags = m.ancestry
  shared : ∀ m c m' c', (m, c) ∈ answers → (m', c') ∈ answers → m.tag = m'.tag → c = c'
  sound : r.Sound
  size : r.size = (answers.map (·.1.tag)).toFinset.card

/-- Whether one resolver has lost and replaced nothing of what another one keeps. -/
def Extends (r' r : Resolver) : Prop := ∀ t c, r.find? t = some c → r'.find? t = some c

variable {r r' : Resolver} {answers more : List (Message × Chain)} {m : Message} {c : Chain}

theorem find?_eq_none_iff {t : Tag} : r.find? t = none ↔ t ∉ r.chains.map (·.1) := by
  simp only [find?, Option.map_eq_none_iff, List.find?_eq_none, List.mem_map, not_exists, not_and,
    beq_iff_eq]

theorem serves_empty : ({} : Resolver).Serves [] := ⟨by simp, by simp [find?], by simp⟩

theorem Serves.known (h : r.Serves answers) (hc : r.find? m.tag = some c) :
    r.Serves (answers ++ [(m, c)]) := by
  constructor
  · exact h.once
  · intro t d
    simp only [List.mem_append, List.mem_singleton, Prod.mk.injEq, h.kept]
    constructor
    · rintro ⟨m', tag, asked⟩
      exact ⟨m', tag, .inl asked⟩
    · rintro ⟨m', rfl, asked | ⟨rfl, rfl⟩⟩
      · exact ⟨m', rfl, asked⟩
      · exact (h.kept _ _).mp hc
  · intro m' d asked
    rcases List.mem_append.mp asked with asked | new
    · exact h.exact m' d asked
    · obtain ⟨rfl, rfl⟩ := Prod.mk.inj (List.mem_singleton.mp new)
      obtain ⟨m'', tag, asked⟩ := (h.kept _ _).mp hc
      rw [h.exact m'' d asked, Message.ancestry, tag]
      rfl

theorem Serves.compute (h : r.Serves answers) (m : Message) : (r.compute m).1.Serves answers :=
  ⟨h.once, h.kept, h.exact⟩

/-- Of several chains for one type, however late they come, the first one is kept and answered. -/
theorem Serves.keep (h : r.Serves answers) (hc : c.tags = m.ancestry) :
    (r.keep m.tag c).1.Serves (answers ++ [(m, (r.keep m.tag c).2)]) := by
  cases kept : r.find? m.tag with
  | some old =>
    rw [Resolver.keep, kept]
    exact h.known kept
  | none =>
    have new : (r.keep m.tag c).2 = c := by rw [Resolver.keep, kept]
    rw [new]
    constructor
    · rw [Resolver.keep, kept, List.map_append]
      refine List.nodup_append.mpr ⟨h.once, by simp, fun t ht u hu => ?_⟩
      rw [List.mem_singleton.mp hu]
      rintro rfl
      exact find?_eq_none_iff.mp kept ht
    · intro t d
      simp only [List.mem_append, List.mem_singleton, Prod.mk.injEq]
      by_cases ht : t = m.tag
      · subst ht
        rw [find?_keep, new, Option.some.injEq]
        constructor
        · rintro rfl
          exact ⟨m, rfl, .inr ⟨rfl, rfl⟩⟩
        · rintro ⟨m', tag, asked | ⟨-, rfl⟩⟩
          · rw [(h.kept m.tag d).mpr ⟨m', tag, asked⟩] at kept
            simp at kept
          · rfl
      · rw [find?_keep_of_ne r ht, h.kept]
        constructor
        · rintro ⟨m', tag, asked⟩
          exact ⟨m', tag, .inl asked⟩
        · rintro ⟨m', tag, asked | ⟨rfl, -⟩⟩
          · exact ⟨m', tag, asked⟩
          · exact absurd tag.symm ht
    · intro m' d asked
      rcases List.mem_append.mp asked with asked | added
      · exact h.exact m' d asked
      · obtain ⟨rfl, rfl⟩ := Prod.mk.inj (List.mem_singleton.mp added)
        exact hc

theorem Serves.agrees (h : r.Serves answers) : r.Agrees answers := by
  constructor
  · exact h.exact
  · intro m c m' c' asked asked' same
    have first := (h.kept m.tag c).mpr ⟨m, rfl, asked⟩
    have second := (h.kept m.tag c').mpr ⟨m', same.symm, asked'⟩
    exact Option.some.inj (first.symm.trans second)
  · intro t c hc
    obtain ⟨m, rfl, asked⟩ := (h.kept t c).mp hc
    exact h.exact m c asked
  · have types : (answers.map (·.1.tag)).toFinset = (r.chains.map (·.1)).toFinset := by
      ext t
      have asked : t ∈ answers.map (·.1.tag) ↔ r.find? t ≠ none := by
        rw [Option.ne_none_iff_exists', List.mem_map]
        simp only [h.kept, Prod.exists]
        exact ⟨fun ⟨m, c, mem, tag⟩ => ⟨c, m, tag, mem⟩, fun ⟨c, m, tag, mem⟩ => ⟨m, c, mem, tag⟩⟩
      rw [List.mem_toFinset, List.mem_toFinset, asked, Ne, find?_eq_none_iff, not_not]
    rw [types, List.toFinset_card_of_nodup h.once, List.length_map]
    rfl

/-- What is kept for what was answered stays kept for as long as answers go on. -/
theorem Serves.extends (h : r.Serves answers) (h' : r'.Serves (answers ++ more)) :
    r'.Extends r := by
  intro t c hc
  obtain ⟨m, tag, asked⟩ := (h.kept t c).mp hc
  exact (h'.kept t c).mpr ⟨m, tag, List.mem_append_left _ asked⟩

end Resolver

/-- A resolver at work: the chains that were computed for messages, and those that the messages were
answered with. -/
structure Service where
  resolver : Resolver := {}
  computed : List (Message × Chain) := []
  answers : List (Message × Chain) := []

namespace Service

/-- What happens to a resolver in one piece: a message finds the chain kept for its type; a chain is
computed; or a computed one is offered to be kept, and the one that is kept is the answer. -/
inductive Step : Service → Service → Prop
  | known (s : Service) (m : Message) (c : Chain) (kept : s.resolver.find? m.tag = some c) :
      Step s { s with answers := s.answers ++ [(m, c)] }
  | compute (s : Service) (m : Message) :
      Step s { s with
        resolver := (s.resolver.compute m).1
        computed := s.computed ++ [(m, (s.resolver.compute m).2)] }
  | keep (s : Service) (m : Message) (c : Chain) (ready : (m, c) ∈ s.computed) :
      Step s { s with
        resolver := (s.resolver.keep m.tag c).1
        answers := s.answers ++ [(m, (s.resolver.keep m.tag c).2)] }

/-- What becomes of a resolver while any number of callers resolve messages, each at its own
pace. -/
def Runs : Service → Service → Prop := Relation.ReflTransGen Step

/-- What holds of a resolver at work at every moment. -/
structure Regular (s : Service) : Prop where
  serves : s.resolver.Serves s.answers
  ready : ∀ m c, (m, c) ∈ s.computed → c.tags = m.ancestry

variable {s s' : Service}

theorem Step.regular (step : Step s s') (h : s.Regular) : s'.Regular := by
  cases step with
  | known m c kept => exact ⟨h.serves.known kept, h.ready⟩
  | compute m =>
    refine ⟨h.serves.compute m, fun m' c computed => ?_⟩
    rcases List.mem_append.mp computed with old | new
    · exact h.ready m' c old
    · obtain ⟨rfl, rfl⟩ := Prod.mk.inj (List.mem_singleton.mp new)
      rfl
  | keep m c ready => exact ⟨h.serves.keep (h.ready m c ready), h.ready⟩

theorem Step.answers_prefix (step : Step s s') : s.answers <+: s'.answers := by
  cases step with
  | known | keep => exact List.prefix_append _ _
  | compute => exact List.prefix_rfl

theorem Runs.regular (run : Runs s s') (h : s.Regular) : s'.Regular := by
  induction run with
  | refl => exact h
  | tail _ step ih => exact step.regular ih

theorem Runs.answers_prefix (run : Runs s s') : s.answers <+: s'.answers := by
  induction run with
  | refl => exact List.prefix_rfl
  | tail _ step ih => exact ih.trans step.answers_prefix

theorem regular_new : ({} : Service).Regular := ⟨Resolver.serves_empty, by simp⟩

theorem Runs.extends (run : Runs s s') (h : s.Regular) : s'.resolver.Extends s.resolver := by
  obtain ⟨more, e⟩ := run.answers_prefix
  have later := (run.regular h).serves
  rw [← e] at later
  exact h.serves.extends later

/-- To resolve a message in one go is to look for its chain, and to compute and keep one that is
missing. -/
theorem runs_resolve (s : Service) (m : Message) : ∃ computed, Runs s
    ⟨(s.resolver.resolve m).1, computed, s.answers ++ [(m, (s.resolver.resolve m).2)]⟩ := by
  rw [Resolver.resolve]
  cases kept : s.resolver.find? m.tag with
  | some c => exact ⟨s.computed, .single (.known s m c kept)⟩
  | none =>
    refine ⟨s.computed ++ [(m, (s.resolver.compute m).2)], ?_⟩
    exact .tail (.single (.compute s m))
      (.keep _ m _ (List.mem_append_right _ (List.mem_singleton.mpr rfl)))

end Service

end MessageBus
