import MessageBus.Proofs.Registry.Roll

namespace MessageBus

/-- What tells mailboxes apart. -/
def Mailbox.key (m : Mailbox) : MailboxId × Tag := (m.id, m.tag)

namespace Roll

/-- The subscriptions of one mailbox. -/
def countOf (S : Roll) (k : MailboxId × Tag) : Nat := S.countP (·.mailbox.key = k)

theorem listFor_erase (S : Roll) (x : Subscription) (t : Tag) : Roll.listFor (S.erase x) t =
    if t = x.mailbox.tag then (S.listFor t).erase x else S.listFor t := by
  induction S with
  | nil => simp [listFor]
  | cons y S ih =>
    rw [List.erase_cons]
    by_cases same : y = x
    · subst same
      by_cases ht : t = y.mailbox.tag
      · simp [listFor, ht]
      · simp [listFor, ht, Ne.symm ht]
    · simp only [listFor] at ih
      by_cases hy : y.mailbox.tag = t
      · by_cases ht : t = x.mailbox.tag
        · simp [listFor, same, hy, ← ht, ih]
        · simp [listFor, same, hy, ht, ih]
      · simp [listFor, same, hy, ih]

/-- Without the earliest subscription of a mailbox is without that subscription. -/
theorem without_eq_erase {S : Roll} {m : MailboxId} {x : Subscription}
    (h : S.find? (·.mailbox.id = m) = some x) : S.without m = S.erase x := by
  induction S with
  | nil => simp at h
  | cons y S ih =>
    rw [List.find?_cons] at h
    rw [without, List.eraseP_cons, List.erase_cons]
    by_cases hy : y.mailbox.id = m
    · simp only [hy, decide_true, Option.some.injEq] at h
      rw [decide_eq_true hy, cond_true, if_pos (by simpa using h)]
    · simp only [hy, decide_false] at h
      have other : y ≠ x := by
        rintro rfl
        exact hy (by simpa using List.find?_some h)
      rw [decide_eq_false hy, cond_false, if_neg (by simpa using other)]
      exact congrArg (y :: ·) (ih h)

theorem find?_key (S : Roll) (m : Mailbox) : S.find? (·.mailbox.key = m.key) =
    (S.listFor m.tag).find? (·.mailbox.id = m.id) := by
  rw [listFor, List.find?_filter]
  congr 1
  funext x
  simp [Mailbox.key, Prod.ext_iff, and_comm]

end Roll

namespace Registry

variable {r left : Registry} {S : Roll} {m : Mailbox} {x : Subscription}

/-- What is removed for a mailbox is its earliest subscription in the list of its type. -/
theorem Lists.remove (h : r.Lists S) (found : r.remove m = some (left, x)) :
    (S.listFor m.tag).find? (·.mailbox.id = m.id) = some x ∧ left.Lists (S.erase x) ∧
      left.nextSeq = r.nextSeq := by
  rw [Registry.remove, takeFirst_eq, h.listFor] at found
  obtain ⟨⟨y, rest⟩, taken, e⟩ := Option.map_eq_some_iff.mp found
  obtain ⟨y', first, e'⟩ := Option.map_eq_some_iff.mp taken
  obtain ⟨rfl, rfl⟩ := Prod.mk.inj e'
  obtain ⟨rfl, rfl⟩ := Prod.mk.inj e
  have tag : y'.mailbox.tag = m.tag := (Roll.mem_listFor.mp (List.mem_of_find?_eq_some first)).2
  refine ⟨first, ⟨nodup_setList h.nodup _ _, fun t => ?_⟩, rfl⟩
  rw [listFor_setList, Roll.listFor_erase, tag, List.reverse_reverse, h.listFor]
  split
  · next ht => rw [ht, Roll.without_eq_erase first]
  · rfl

theorem Lists.mem_of_remove (h : r.Lists S) (found : r.remove m = some (left, x)) :
    x ∈ S ∧ x.mailbox.key = m.key := by
  have first := (h.remove found).1
  obtain ⟨mem, tag⟩ := Roll.mem_listFor.mp (List.mem_of_find?_eq_some first)
  have id : x.mailbox.id = m.id := by simpa using List.find?_some first
  exact ⟨mem, Prod.ext id tag⟩

theorem mem_setList {routes : List (Tag × List Subscription)} {tag : Tag}
    {subs : List Subscription} {entry : Tag × List Subscription}
    (h : entry ∈ setList routes tag subs) : entry = (tag, subs) ∨ entry ∈ routes := by
  induction routes with
  | nil => exact .inl (List.mem_singleton.mp h)
  | cons first rest ih =>
    obtain ⟨u, old⟩ := first
    rw [setList] at h
    split at h
    · exact (List.mem_cons.mp h).imp_right (List.mem_cons_of_mem _)
    · rcases List.mem_cons.mp h with h | h
      · exact .inr (h ▸ List.mem_cons_self)
      · exact (ih h).imp_right (List.mem_cons_of_mem _)

/-- Removing a subscription changes the list of the mailbox's type only. -/
theorem mem_routes_of_remove (found : r.remove m = some (left, x))
    {entry : Tag × List Subscription} (he : entry ∈ left.routes) :
    entry.1 = m.tag ∨ entry ∈ r.routes := by
  obtain ⟨rest, -, e⟩ := Option.map_eq_some_iff.mp found
  rw [← (Prod.mk.inj e).1] at he
  rcases mem_setList he with rfl | he
  · exact .inl rfl
  · exact .inr he

theorem mem_of_mem_prune {tag : Tag} {entry : Tag × List Subscription}
    (he : entry ∈ (r.prune tag).routes) : entry ∈ r.routes := by
  rw [Registry.prune] at he
  split at he
  · exact List.mem_of_mem_filter he
  · exact he

/-- A type that was to be forgotten is kept only if its list is not empty. -/
theorem Lists.ne_nil_of_prune (h : r.Lists S) {tag : Tag} {entry : Tag × List Subscription}
    (he : entry ∈ (r.prune tag).routes) (ht : entry.1 = tag) : entry.2 ≠ [] := by
  rw [Registry.prune] at he
  split at he
  · exact absurd ht (by simpa using (List.mem_filter.mp he).2)
  · next filled =>
    intro empty
    rw [h.listFor, ← ht, ← h.reverse_entry he, empty] at filled
    exact filled rfl

/-- Only a mailbox without a subscription has none to remove. -/
theorem Lists.not_mem_of_remove (h : r.Lists S) (absent : r.remove m = none) :
    ∀ x ∈ S, x.mailbox.key ≠ m.key := by
  intro x hx same
  obtain ⟨id, tag⟩ := Prod.mk.inj same
  rw [Registry.remove, takeFirst_eq, h.listFor, Option.map_eq_none_iff,
    Option.map_eq_none_iff] at absent
  have listed : x ∈ S.listFor m.tag := Roll.mem_listFor.mpr ⟨hx, tag⟩
  simpa [id] using List.find?_eq_none.mp absent x listed

end Registry

end MessageBus
