import MessageBus.Proofs.Registry.Numbering

namespace MessageBus

namespace Roll

variable {S S' : Roll} {m x : Mailbox}

/-- The mailboxes of some subscriptions, in order. -/
def mailboxes (S : Roll) : List Mailbox := S.map (·.mailbox)

/-- The subscriptions of a mailbox, in order. -/
def of (S : Roll) (m : Mailbox) : Roll := S.filter (·.mailbox = m)

/-- The mailboxes of the subscriptions that are not of one mailbox, in order. -/
def others (S : Roll) (m : Mailbox) : List Mailbox := S.mailboxes.filter (· ≠ m)

theorem of_append (S T : Roll) (m : Mailbox) : Roll.of (S ++ T) m = S.of m ++ T.of m :=
  List.filter_append S T

theorem mailboxes_append (S T : Roll) : Roll.mailboxes (S ++ T) = S.mailboxes ++ T.mailboxes :=
  List.map_append

theorem others_append (S T : Roll) (m : Mailbox) :
    Roll.others (S ++ T) m = S.others m ++ T.others m := by
  rw [others, mailboxes_append, List.filter_append]
  rfl

theorem mailboxes_listFor (S : Roll) (t : Tag) :
    Roll.mailboxes (S.listFor t) = S.mailboxes.filter (·.tag = t) := by
  rw [mailboxes, mailboxes, List.filter_map]
  rfl

theorem others_listFor (S : Roll) (m : Mailbox) (t : Tag) :
    Roll.others (S.listFor t) m = (S.others m).filter (·.tag = t) := by
  rw [others, mailboxes_listFor, List.filter_filter, others, List.filter_filter]
  exact List.filter_congr fun x _ => Bool.and_comm _ _

theorem exists_of_ne_nil (h : S.of m ≠ []) : ∃ s ∈ S, s.mailbox = m := by
  obtain ⟨s, hs⟩ := List.exists_mem_of_ne_nil _ h
  exact ⟨s, by simpa [of] using hs⟩

/-- All subscriptions of a mailbox are in the list of its type. -/
theorem of_listFor (S : Roll) (m : Mailbox) : Roll.of (S.listFor m.tag) m = S.of m := by
  rw [of, listFor, List.filter_filter]
  refine List.filter_congr fun s _ => ?_
  by_cases h : s.mailbox = m <;> simp [h]

theorem mailboxes_eq_others (none_of : S.of m = []) : S.mailboxes = S.others m := by
  rw [others, eq_comm, List.filter_eq_self]
  intro x hx
  obtain ⟨s, hs, rfl⟩ := List.mem_map.mp hx
  simpa using List.filter_eq_nil_iff.mp none_of s hs

/-- Mailboxes are told apart by their identity. -/
def Known (S : Roll) (x : Mailbox) : Prop := ∀ s ∈ S, s.mailbox.id = x.id → s.mailbox = x

theorem without_eq (known : S.Known x) : S.without x.id = S.eraseP (·.mailbox = x) := by
  induction S with
  | nil => rfl
  | cons s S ih =>
    have rest := ih fun t ht => known t (List.mem_cons_of_mem s ht)
    by_cases h : s.mailbox = x
    · simp [without, h]
    · have ne : s.mailbox.id ≠ x.id := fun e => h (known s List.mem_cons_self e)
      simp only [without, List.eraseP_cons, h, ne, decide_false] at rest ⊢
      rw [rest]

theorem of_without_self (known : S.Known m) : Roll.of (S.without m.id) m = (S.of m).tail := by
  rw [without_eq known]
  induction S with
  | nil => rfl
  | cons s S ih =>
    have rest := ih fun t ht => known t (List.mem_cons_of_mem s ht)
    by_cases h : s.mailbox = m
    · simp [of, h]
    · simpa [of, h] using rest

/-- Taking back a subscription of another mailbox leaves those of a mailbox alone. -/
theorem of_without_other (known : S.Known x) (ne : x ≠ m) :
    Roll.of (S.without x.id) m = S.of m := by
  rw [without_eq known]
  induction S with
  | nil => rfl
  | cons s S ih =>
    have rest := ih fun t ht => known t (List.mem_cons_of_mem s ht)
    by_cases h : s.mailbox = x
    · simp [of, h, ne]
    · simp only [of] at rest
      simp [of, h, List.filter_cons, rest]

/-- Taking back a subscription of a mailbox leaves those of the others alone. -/
theorem others_without_self (known : S.Known m) : Roll.others (S.without m.id) m = S.others m := by
  rw [without_eq known]
  induction S with
  | nil => rfl
  | cons s S ih =>
    have rest := ih fun t ht => known t (List.mem_cons_of_mem s ht)
    by_cases h : s.mailbox = m
    · simp [others, mailboxes, h]
    · simpa [others, mailboxes, h] using rest

theorem others_without_other (known : S.Known x) (ne : x ≠ m) :
    Roll.others (S.without x.id) m = (S.others m).erase x := by
  rw [without_eq known]
  induction S with
  | nil => rfl
  | cons s S ih =>
    have rest := ih fun t ht => known t (List.mem_cons_of_mem s ht)
    simp only [others, mailboxes] at rest
    by_cases h : s.mailbox = x
    · simp [others, mailboxes, h, ne]
    · by_cases hm : s.mailbox = m
      · simpa [others, mailboxes, h, hm, ne.symm] using rest
      · simpa [others, mailboxes, h, hm] using rest

end Roll

namespace Registry

variable {r r' : Registry} {S S' : Roll}

/-- What a registry keeps, but for the numbers: for each type the mailboxes that are subscribed to
it, in order. -/
def unnumbered (r : Registry) : List (Tag × List Mailbox) :=
  r.routes.map fun entry => (entry.1, Roll.mailboxes entry.2.reverse)

/-- A list that is kept is that of its type, and only types with subscriptions have one. -/
theorem Filled.mem_unnumbered (filled : r.Filled) (lists : r.Lists S)
    {entry : Tag × List Mailbox} : entry ∈ r.unnumbered ↔
      entry.2 = Roll.mailboxes (S.listFor entry.1) ∧ entry.2 ≠ [] := by
  rw [unnumbered, List.mem_map]
  constructor
  · rintro ⟨kept, member, rfl⟩
    have some_left : kept.2.reverse ≠ [] := by simpa using filled kept member
    refine ⟨congrArg Roll.mailboxes (lists.reverse_entry member), ?_⟩
    simpa [Roll.mailboxes] using some_left
  · rintro ⟨same, nonempty⟩
    have some_left : S.listFor entry.1 ≠ [] := by
      intro e
      rw [same, e] at nonempty
      exact nonempty rfl
    obtain ⟨s, hs⟩ := List.exists_mem_of_ne_nil _ some_left
    obtain ⟨member, tag⟩ := Roll.mem_listFor.mp hs
    obtain ⟨kept, there, key⟩ := List.mem_map.mp (lists.tag_mem member)
    refine ⟨kept, there, Prod.ext (key.trans tag) ?_⟩
    rw [same, lists.reverse_entry there, key, tag]

theorem Lists.nodup_unnumbered (lists : r.Lists S) : r.unnumbered.Nodup := by
  refine List.Nodup.of_map Prod.fst ?_
  rw [unnumbered, List.map_map]
  exact lists.nodup

/-- Registries with the same mailboxes in the list of every type keep the same, but for the numbers
and the order of the types. -/
theorem Lists.perm_unnumbered (lists : r.Lists S) (filled : r.Filled) (lists' : r'.Lists S')
    (filled' : r'.Filled)
    (same : ∀ t, Roll.mailboxes (S.listFor t) = Roll.mailboxes (S'.listFor t)) :
    r.unnumbered.Perm r'.unnumbered := by
  rw [List.perm_ext_iff_of_nodup lists.nodup_unnumbered lists'.nodup_unnumbered]
  intro entry
  rw [filled.mem_unnumbered lists, filled'.mem_unnumbered lists', same]

end Registry

end MessageBus
