import MessageBus.Proofs.Registry.Ledger
import MessageBus.Proofs.Registry.Removal

namespace MessageBus

def Operation.isSubscribe : Operation → Bool
  | subscribe _ => true
  | _ => false

namespace Ledger

variable {l : Ledger}

/-- The live subscriptions are numbered in the order in which they were made, and the next number is
greater than all of theirs. -/
structure Ascending (l : Ledger) : Prop where
  increasing : (l.live.map (·.seq)).Pairwise (· < ·)
  below : ∀ s ∈ l.live, s.seq < l.nextSeq

theorem Ascending.sublist (h : l.Ascending) {S : Roll} (part : List.Sublist S l.live) :
    Ascending { l with live := S } :=
  ⟨h.increasing.sublist (part.map _), fun s hs => h.below s (part.subset hs)⟩

theorem Ascending.perform (h : l.Ascending) (d : Directory) (op : Operation) :
    (l.perform d op).1.Ascending := by
  cases op with
  | subscribe m =>
    constructor
    · rw [Ledger.perform, List.map_append]
      refine List.pairwise_append.mpr
        ⟨h.increasing, List.pairwise_singleton _ _, fun n hn k hk => ?_⟩
      obtain ⟨s, hs, rfl⟩ := List.mem_map.mp hn
      rw [List.mem_singleton.mp hk]
      exact h.below s hs
    · intro s hs
      rcases List.mem_append.mp hs with hs | hs
      · exact Nat.lt_succ_of_lt (h.below s hs)
      · rw [List.mem_singleton.mp hs]
        exact Nat.lt_succ_self _
  | unsubscribe m =>
    rw [Ledger.perform]
    split
    · exact h
    · exact h.sublist List.eraseP_sublist
  | clear => exact h.sublist (List.nil_sublist _)

theorem Ascending.performAll (h : l.Ascending) (d : Directory) (ops : List Operation) :
    (l.performAll d ops).1.Ascending := by
  induction ops generalizing l with
  | nil => exact h
  | cons op ops ih => exact ih (h.perform d op)

/-- Only subscribing uses up a number. -/
theorem nextSeq_perform (l : Ledger) (d : Directory) (op : Operation) :
    (l.perform d op).1.nextSeq = l.nextSeq + if op.isSubscribe then 1 else 0 := by
  cases op with
  | subscribe m => rfl
  | unsubscribe m =>
    rw [Ledger.perform]
    split <;> rfl
  | clear => rfl

theorem nextSeq_performAll (l : Ledger) (d : Directory) (ops : List Operation) :
    (l.performAll d ops).1.nextSeq = l.nextSeq + ops.countP Operation.isSubscribe := by
  induction ops generalizing l with
  | nil => rfl
  | cons op ops ih =>
    rw [performAll, ih, nextSeq_perform, List.countP_cons]
    omega

end Ledger

namespace Registry

variable {d : Directory} {r : Registry} {l : Ledger} {S : Roll}

/-- Whether every type that has a list has subscriptions. -/
def Filled (r : Registry) : Prop := ∀ entry ∈ r.routes, entry.2 ≠ []

theorem Filled.append (h : r.Filled) (s : Subscription) : (r.append s).Filled := by
  intro entry he
  rcases mem_setList he with rfl | he
  · exact List.cons_ne_nil _ _
  · exact h entry he

/-- A list that loses its last subscription is forgotten. -/
theorem Filled.unsubscribe (h : r.Filled) (lists : r.Lists S) {m : Mailbox} {left : Registry}
    {x : Subscription} (done : r.unsubscribe m = .ok (left, x)) : left.Filled := by
  rw [Registry.unsubscribe] at done
  split at done
  · simp at done
  · next shorter y found =>
    rw [← (Prod.mk.inj (Except.ok.inj done)).1]
    intro entry he
    rcases mem_routes_of_remove found (mem_of_mem_prune he) with own | other
    · exact (lists.remove found).2.1.ne_nil_of_prune he own
    · exact h entry other

theorem Filled.perform (h : r.Filled) (lists : r.Lists S) (d : Directory) (op : Operation) :
    (r.perform d op).1.Filled := by
  cases op with
  | subscribe m => exact Filled.append (r := r.takeSeq.1) h _
  | unsubscribe m =>
    rw [Registry.perform]
    split
    · exact h
    · next done => exact h.unsubscribe lists done
  | clear => exact fun entry he => absurd he List.not_mem_nil

theorem Filled.performAll (h : r.Filled) (kept : r.Keeps d l) (ops : List Operation) :
    (r.performAll d ops).1.Filled := by
  induction ops generalizing r l with
  | nil => exact h
  | cons op ops ih => exact ih (h.perform kept.lists d op) (kept.perform op).2

/-- Types have a list for as long as there are subscriptions to them, and subscriptions are numbered
in the order in which they were made. -/
structure Tidy (r : Registry) : Prop where
  keys : (r.routes.map (·.1)).Nodup
  filled : r.Filled
  typed : ∀ entry ∈ r.routes, ∀ s ∈ entry.2, s.mailbox.tag = entry.1
  increasing : ∀ t, ((r.listFor t).map (·.seq)).Pairwise (· < ·)
  distinct : (r.all.map (·.seq)).Nodup
  below : ∀ s ∈ r.all, s.seq < r.nextSeq

theorem Keeps.tidy (h : r.Keeps d l) (numbered : l.Ascending) (filled : r.Filled) : r.Tidy where
  keys := h.lists.nodup
  filled := filled
  typed := by
    intro entry he s hs
    have listed : s ∈ l.live.listFor entry.1 := by
      rw [← h.lists.reverse_entry he]
      exact List.mem_reverse.mpr hs
    exact (Roll.mem_listFor.mp listed).2
  increasing := by
    intro t
    rw [h.lists.listFor]
    exact numbered.increasing.sublist (List.filter_sublist.map _)
  distinct := by
    rw [(h.lists.perm_all.map _).nodup_iff]
    exact numbered.increasing.imp Nat.ne_of_lt
  below := by
    intro s hs
    rw [h.nextSeq]
    exact numbered.below s (h.lists.perm_all.mem_iff.mp hs)

/-- There are as many lists as types with subscriptions. -/
theorem Tidy.length_routes (h : r.Tidy) :
    r.routes.length = (r.all.map (·.mailbox.tag)).toFinset.card := by
  have same : (r.all.map (·.mailbox.tag)).toFinset = (r.routes.map (·.1)).toFinset := by
    ext t
    simp only [List.mem_toFinset, List.mem_map, all, List.mem_flatMap, List.mem_reverse]
    constructor
    · rintro ⟨s, ⟨entry, he, hs⟩, rfl⟩
      exact ⟨entry, he, (h.typed entry he s hs).symm⟩
    · rintro ⟨entry, he, rfl⟩
      obtain ⟨s, hs⟩ := List.exists_mem_of_ne_nil _ (h.filled entry he)
      exact ⟨s, ⟨entry, he, hs⟩, h.typed entry he s hs⟩
  rw [same, List.toFinset_card_of_nodup h.keys, List.length_map]

/-- Whatever is asked of a registry from its beginning on, it stays tidy, and has numbered all that
was ever subscribed. What it shows of itself is the number of types with live subscriptions, and
that of the subscriptions. While fewer than 2 ^ 64 were made, 64 bits hold every number. -/
theorem performAll_tidy (d : Directory) (ops : List Operation) :
    let r := (({} : Registry).performAll d ops).1
    let S := (({} : Ledger).performAll d ops).1.live
    r.Tidy ∧ r.all.Perm S ∧ r.nextSeq = ops.countP Operation.isSubscribe ∧
    r.shape = .record "SubscriptionRegistry"
      [("types", .nat (S.map (·.mailbox.tag)).toFinset.card), ("subscription_count", .nat S.length)]
      true ∧
    (ops.countP Operation.isSubscribe < 2 ^ 64 →
      r.nextSeq.toUInt64.toNat = r.nextSeq ∧ ∀ s ∈ r.all, s.seq.toUInt64.toNat = s.seq) := by
  intro r S
  have start : ({} : Registry).Keeps d {} := ⟨lists_empty, rfl, by simp⟩
  have kept := (start.performAll ops).2
  have numbered : Ledger.Ascending (({} : Ledger).performAll d ops).1 :=
    Ledger.Ascending.performAll ⟨List.Pairwise.nil, by simp⟩ d ops
  have filled : r.Filled := Filled.performAll (by simp [Filled]) start ops
  have tidy : r.Tidy := kept.tidy numbered filled
  have count : r.nextSeq = ops.countP Operation.isSubscribe := by
    rw [kept.nextSeq, Ledger.nextSeq_performAll]
    exact Nat.zero_add _
  have types : (r.all.map (·.mailbox.tag)).toFinset = (S.map (·.mailbox.tag)).toFinset :=
    List.toFinset_eq_of_perm _ _ (kept.lists.perm_all.map _)
  refine ⟨tidy, kept.lists.perm_all, count, ?_, fun few => ?_⟩
  · rw [shape, tidy.length_routes, types, kept.lists.size]
  · rw [← count] at few
    have fits {n : Nat} (hn : n ≤ r.nextSeq) : n.toUInt64.toNat = n :=
      Nat.mod_eq_of_lt (Nat.lt_of_le_of_lt hn few)
    exact ⟨fits (Nat.le_refl _), fun s hs => fits (Nat.le_of_lt (tidy.below s hs))⟩

/-- A mailbox comes, goes and comes again, one that was never there fails to go, and all is cleared
before both of them come. -/
def comings : List Operation :=
  [.subscribe 0, .unsubscribe 0, .subscribe 0, .unsubscribe 1, .clear, .subscribe 1, .subscribe 0]

theorem performAll_tidy_comings :
    let r := (({} : Registry).performAll ⟨fun _ => "box", fun _ => default⟩ comings).1
    r.Tidy ∧ r.all.map (·.seq) = [2, 3] ∧ r.nextSeq = 4 ∧ r.nextSeq.toUInt64.toNat = 4 ∧
      r.shape = .record "SubscriptionRegistry" [("types", .nat 1), ("subscription_count", .nat 2)]
        true := by
  intro r
  obtain ⟨tidy, -, count, shown, fits⟩ := performAll_tidy ⟨fun _ => "box", fun _ => default⟩ comings
  have made : r.nextSeq = 4 := count
  exact ⟨tidy, by decide, made, (fits (by decide)).1.trans made, shown⟩

end Registry

end MessageBus
