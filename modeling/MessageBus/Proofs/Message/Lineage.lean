import MessageBus.Message.Resolver
import Mathlib

namespace MessageBus

namespace Tag

theorem depth_le_of_mem_lineage {t u : Tag} (h : u ∈ t.lineage) : u.depth ≤ t.depth := by
  induction t with
  | root => simp_all [lineage]
  | child n p ih =>
    rcases List.mem_append.mp h with h | h
    · exact Nat.le_succ_of_le (ih h)
    · exact Nat.le_of_eq (congrArg depth (List.mem_singleton.mp h))

/-- No type belongs to itself twice. -/
theorem nodup_lineage (t : Tag) : t.lineage.Nodup := by
  induction t with
  | root => simp [lineage]
  | child n p ih =>
    refine List.nodup_append.mpr ⟨ih, by simp, fun u hu v hv e => ?_⟩
    have below := depth_le_of_mem_lineage hu
    rw [e, List.mem_singleton.mp hv, depth] at below
    omega

end Tag

namespace Resolver

/-- Every chain that is kept is the one of its type. -/
def Sound (r : Resolver) : Prop := ∀ t c, r.find? t = some c → c.tags = t.lineage

theorem sound_empty : ({} : Resolver).Sound := by simp [Sound, find?]

/-- Keeping a chain for a type leaves what is kept for the other types. -/
theorem find?_keep_of_ne (r : Resolver) {t u : Tag} (h : u ≠ t) (c : Chain) :
    (r.keep t c).1.find? u = r.find? u := by
  rw [keep]
  cases r.find? t with
  | some old => rfl
  | none =>
    have other : ¬ t = u := fun e => h e.symm
    simp [find?, List.find?_append, other]

/-- Resolving a message keeps a chain for its type, and none is lost or replaced. -/
theorem find?_resolve (r : Resolver) (m : Message) (t : Tag) :
    (r.resolve m).1.find? t = if t = m.tag then some (r.resolve m).2 else r.find? t := by
  rw [resolve]
  cases h : r.find? m.tag with
  | some c =>
    by_cases ht : t = m.tag
    · simp [ht, h]
    · simp [ht]
  | none =>
    dsimp only
    by_cases ht : t = m.tag
    · rw [ht, find?_keep, if_pos rfl]
    · rw [if_neg ht, find?_keep_of_ne _ ht]
      rfl

/-- A sound resolver answers the types a message belongs to. -/
theorem Sound.tags_resolve {r : Resolver} (h : r.Sound) (m : Message) :
    (r.resolve m).2.tags = m.ancestry := by
  rw [resolve]
  cases hc : r.find? m.tag with
  | some c => exact h m.tag c hc
  | none =>
    have unkept : (r.compute m).1.find? m.tag = none := hc
    simp only [keep, unkept]
    rfl

theorem Sound.resolve {r : Resolver} (h : r.Sound) (m : Message) : (r.resolve m).1.Sound := by
  intro t c hc
  rw [find?_resolve] at hc
  split at hc
  · next ht =>
    rw [← Option.some.inj hc, h.tags_resolve, ht]
    rfl
  · exact h t c hc

theorem Sound.tags_keep {r : Resolver} (h : r.Sound) {t : Tag} {c : Chain}
    (hc : c.tags = t.lineage) : (r.keep t c).2.tags = t.lineage := by
  rw [keep]
  cases kept : r.find? t with
  | some old => exact h t old kept
  | none => exact hc

theorem Sound.keep {r : Resolver} (h : r.Sound) {t : Tag} {c : Chain}
    (hc : c.tags = t.lineage) : (r.keep t c).1.Sound := by
  intro u d hd
  by_cases hu : u = t
  · subst hu
    rw [find?_keep] at hd
    rw [← Option.some.inj hd]
    exact h.tags_keep hc
  · rw [find?_keep_of_ne r hu] at hd
    exact h u d hd

end Resolver

end MessageBus
