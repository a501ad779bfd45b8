import MessageBus.Registry.Basic
import Mathlib

namespace MessageBus

/-- Subscriptions to any types as one list, in the order in which they were made. -/
abbrev Roll := List Subscription

namespace Roll

/-- The subscriptions to one type. -/
def listFor (S : Roll) (t : Tag) : List Subscription := S.filter (·.mailbox.tag = t)

/-- The roll without the earliest subscription of a mailbox. -/
def without (S : Roll) (m : MailboxId) : Roll := S.eraseP (·.mailbox.id = m)

/-- The route to one type, if there are subscriptions to it. -/
def route? (S : Roll) (t : Tag) : Option Route :=
  if S.listFor t = [] then none else some { tag := t, subscriptions := S.listFor t }

theorem mem_listFor {S : Roll} {t : Tag} {s : Subscription} :
    s ∈ S.listFor t ↔ s ∈ S ∧ s.mailbox.tag = t := by
  simp [listFor]

theorem listFor_append (S T : Roll) (t : Tag) :
    Roll.listFor (S ++ T) t = S.listFor t ++ T.listFor t := by
  simp [listFor]

theorem mem_of_mem_without {S : Roll} {m : MailboxId} {s : Subscription}
    (h : s ∈ S.without m) : s ∈ S :=
  List.mem_of_mem_eraseP h

/-- The earliest subscription of a mailbox is also the earliest in the list of its type. -/
theorem find?_listFor (S : Roll) (m : Mailbox)
    (hm : ∀ s ∈ S, s.mailbox.id = m.id → s.mailbox.tag = m.tag) :
    (S.listFor m.tag).find? (·.mailbox.id = m.id) = S.find? (·.mailbox.id = m.id) := by
  induction S with
  | nil => rfl
  | cons s S ih =>
    have tail := ih fun x hx => hm x (List.mem_cons_of_mem s hx)
    simp only [listFor] at tail ⊢
    by_cases hid : s.mailbox.id = m.id
    · have htag := hm s (by simp) hid
      simp [hid, htag]
    · by_cases htag : s.mailbox.tag = m.tag <;> simp [hid, htag, tail]

/-- Taking back a subscription of a mailbox changes the list of its own type and no other. -/
theorem listFor_without (S : Roll) (m : Mailbox) (t : Tag)
    (hm : ∀ s ∈ S, s.mailbox.id = m.id → s.mailbox.tag = m.tag) :
    Roll.listFor (S.without m.id) t =
      if t = m.tag then Roll.without (S.listFor t) m.id else S.listFor t := by
  induction S with
  | nil => simp [listFor, without]
  | cons s S ih =>
    have tail := ih fun x hx => hm x (List.mem_cons_of_mem s hx)
    simp only [listFor, without] at tail ⊢
    by_cases hid : s.mailbox.id = m.id
    · have htag := hm s (by simp) hid
      by_cases ht : t = m.tag
      · simp [hid, htag, ht]
      · simp [hid, htag, ht, Ne.symm ht]
    · by_cases htag : s.mailbox.tag = t
      · simp only [hid, htag, decide_false, decide_true, List.eraseP_cons_of_neg,
          List.filter_cons_of_pos, tail, Bool.false_eq_true, not_false_eq_true]
        split <;> rfl
      · simp [hid, htag, tail]

/-- Lists of distinct types have, between them, what belongs to one of the types, each of it
once. -/
theorem countP_lists (S : Roll) (p : Subscription → Bool) (tags : List Tag) (hn : tags.Nodup) :
    (tags.flatMap S.listFor).countP p = S.countP fun s => p s && decide (s.mailbox.tag ∈ tags) := by
  induction tags with
  | nil => simp
  | cons t tags ih =>
    obtain ⟨absent, hn⟩ := List.nodup_cons.mp hn
    rw [List.flatMap_cons, List.countP_append, ih hn, listFor, List.countP_filter]
    clear ih
    -- As the types are distinct, no subscription is counted under two of them.
    induction S with
    | nil => rfl
    | cons s S ih =>
      have one : s.mailbox.tag = t → s.mailbox.tag ∉ tags := fun e => e ▸ absent
      simp only [List.mem_cons, Bool.decide_or] at ih
      simp only [List.countP_cons, List.mem_cons, Bool.decide_or]
      by_cases ht : s.mailbox.tag = t
      · simp [ht, absent]
        omega
      · simp [ht]
        omega

/-- Lists of distinct types that cover a roll have all of it between them. -/
theorem perm_lists (S : Roll) {tags : List Tag} (hn : tags.Nodup)
    (hc : ∀ s ∈ S, s.mailbox.tag ∈ tags) : (tags.flatMap S.listFor).Perm S := by
  refine List.perm_iff_count.mpr fun x => ?_
  rw [List.count, countP_lists S _ tags hn]
  refine List.countP_congr fun s hs => ?_
  simp [hc s hs]

end Roll

namespace Registry

theorem takeFirst_eq (id : MailboxId) (S : List Subscription) :
    takeFirst id S = (S.find? (·.mailbox.id = id)).map fun s => (s, Roll.without S id) := by
  induction S with
  | nil => rfl
  | cons s S ih =>
    by_cases h : s.mailbox.id = id
    · simp [takeFirst, Roll.without, h]
    · simp only [takeFirst, h, if_false, ih, List.find?_cons, decide_false, Roll.without,
        List.eraseP_cons]
      cases S.find? fun x => decide (x.mailbox.id = id) <;> simp

theorem map_fst_setList (routes : List (Tag × List Subscription)) (t : Tag)
    (subs : List Subscription) :
    (setList routes t subs).map (·.1) =
      if t ∈ routes.map (·.1) then routes.map (·.1) else routes.map (·.1) ++ [t] := by
  induction routes with
  | nil => simp [setList]
  | cons entry rest ih =>
    obtain ⟨u, old⟩ := entry
    by_cases h : u = t
    · simp [setList, h]
    · simp only [setList, h, if_false, List.map_cons, ih, List.mem_cons, Ne.symm h, false_or]
      split <;> simp

/-- A registry lists a roll when it has one list for each type and the list of every type is that
part of the roll. -/
structure Lists (r : Registry) (S : Roll) : Prop where
  nodup : (r.routes.map (·.1)).Nodup
  listFor : ∀ t, r.listFor t = S.listFor t

variable {r : Registry} {S : Roll}

theorem lists_empty : ({} : Registry).Lists [] := ⟨by simp, by simp [listFor, Roll.listFor]⟩

theorem nodup_setList {routes : List (Tag × List Subscription)} (h : (routes.map (·.1)).Nodup)
    (t : Tag) (subs : List Subscription) : ((setList routes t subs).map (·.1)).Nodup := by
  rw [map_fst_setList]
  split
  · exact h
  · next ht =>
    rw [List.nodup_append]
    refine ⟨h, by simp, ?_⟩
    intro a ha b hb
    rw [List.mem_singleton.mp hb]
    exact fun e => ht (e ▸ ha)

theorem listFor_setList (r : Registry) (t u : Tag) (subs : List Subscription) :
    ({ r with routes := setList r.routes t subs } : Registry).listFor u =
      if u = t then subs.reverse else r.listFor u := by
  simp only [listFor, find?_setList]
  split <;> rfl

theorem Lists.append (h : r.Lists S) (s : Subscription) :
    (r.append s).Lists (S ++ [s]) := by
  refine ⟨nodup_setList h.nodup _ _, fun t => ?_⟩
  rw [listFor_append, Roll.listFor_append, h.listFor]
  by_cases ht : t = s.mailbox.tag
  · simp [Roll.listFor, ht]
  · simp [Roll.listFor, ht, Ne.symm ht]

theorem Lists.subscribe (h : r.Lists S) (m : Mailbox) :
    (r.subscribe m).1.Lists (S ++ [{ seq := r.nextSeq, mailbox := m }]) :=
  Lists.append (r := r.takeSeq.1) ⟨h.nodup, h.listFor⟩ _

theorem lists_clear (r : Registry) : r.clear.1.Lists [] :=
  ⟨by simp [clear], by simp [listFor, clear, Roll.listFor]⟩

theorem Lists.prune (h : r.Lists S) (t : Tag) : (r.prune t).Lists S := by
  by_cases ht : r.listFor t = []
  · rw [Registry.prune, if_pos ht]
    refine ⟨h.nodup.sublist (List.filter_sublist.map _), fun u => ?_⟩
    by_cases hu : u = t
    · have none_left : (dropList r.routes t).find? (·.1 == t) = none := by
        simp [dropList]
      rw [hu, ← h.listFor, ht]
      simp [Registry.listFor, none_left]
    · have other : (dropList r.routes t).find? (·.1 == u) = r.routes.find? (·.1 == u) := by
        rw [dropList, List.find?_filter]
        congr 1
        funext entry
        by_cases he : entry.1 = u
        · simp [he, hu]
        · simp [he]
      rw [← h.listFor]
      simp only [Registry.listFor, other]
  · rwa [Registry.prune, if_neg ht]

/-- What an unsubscribe finds is the earliest subscription of the mailbox on the roll. -/
theorem Lists.takeFirst (h : r.Lists S) (m : Mailbox)
    (hm : ∀ s ∈ S, s.mailbox.id = m.id → s.mailbox.tag = m.tag) :
    Registry.takeFirst m.id (r.listFor m.tag) =
      (S.find? (·.mailbox.id = m.id)).map fun s => (s, Roll.without (S.listFor m.tag) m.id) := by
  rw [takeFirst_eq, h.listFor, Roll.find?_listFor S m hm]

theorem Lists.unsubscribe_none (h : r.Lists S) (m : Mailbox)
    (hm : ∀ s ∈ S, s.mailbox.id = m.id → s.mailbox.tag = m.tag)
    (hs : S.find? (·.mailbox.id = m.id) = none) :
    r.unsubscribe m = .error (.notSubscribed m.name m.tag) := by
  simp [Registry.unsubscribe, remove, h.takeFirst m hm, hs]

theorem Lists.unsubscribe_some (h : r.Lists S) (m : Mailbox)
    (hm : ∀ s ∈ S, s.mailbox.id = m.id → s.mailbox.tag = m.tag) {s : Subscription}
    (hs : S.find? (·.mailbox.id = m.id) = some s) :
    ∃ r', r.unsubscribe m = .ok (r', s) ∧ r'.Lists (S.without m.id) ∧ r'.nextSeq = r.nextSeq := by
  let left : Registry :=
    { r with routes := setList r.routes m.tag (Roll.without (S.listFor m.tag) m.id).reverse }
  have lists : left.Lists (S.without m.id) := by
    refine ⟨nodup_setList h.nodup _ _, fun t => ?_⟩
    rw [listFor_setList, Roll.listFor_without S m t hm, List.reverse_reverse, h.listFor]
    split
    · next ht => rw [ht]
    · rfl
  have seq : (left.prune m.tag).nextSeq = r.nextSeq := by
    simp only [Registry.prune]
    split <;> rfl
  refine ⟨left.prune m.tag, ?_, lists.prune m.tag, seq⟩
  simp [Registry.unsubscribe, remove, h.takeFirst m hm, hs, left]

theorem Lists.entriesFor (h : r.Lists S) (tags : List Tag) :
    r.entriesFor tags = tags.filterMap S.route? := by
  have each : r.routeFor = S.route? := by
    funext t
    rw [routeFor, h.listFor, Roll.route?]
    cases S.listFor t <;> simp
  rw [Registry.entriesFor, each]

/-- No route is without subscriptions. -/
theorem subscriptions_ne_nil {tags : List Tag} {route : Route} (h : route ∈ r.entriesFor tags) :
    route.subscriptions ≠ [] := by
  obtain ⟨t, -, ht⟩ := List.mem_filterMap.mp h
  rw [routeFor] at ht
  split at ht
  · simp at ht
  · rw [← Option.some.inj ht]
    simp

theorem Lists.countFor (h : r.Lists S) (t : Tag) : r.countFor t = (S.listFor t).length := by
  rw [Registry.countFor, h.listFor]

/-- The list kept with a type is the one that is found for it. -/
theorem Lists.reverse_entry (h : r.Lists S) {entry : Tag × List Subscription}
    (he : entry ∈ r.routes) : entry.2.reverse = S.listFor entry.1 := by
  have found : r.routes.find? (·.1 == entry.1) = some entry := by
    -- A type has one entry, so the first one found for it is this one.
    have hn := h.nodup
    generalize r.routes = routes at he hn
    induction routes with
    | nil => simp at he
    | cons first rest ih =>
      simp only [List.map_cons, List.nodup_cons] at hn
      rcases List.mem_cons.mp he with rfl | he
      · simp
      · have ne : first.1 ≠ entry.1 := fun e => hn.1 (e ▸ List.mem_map_of_mem he)
        rw [List.find?_cons_of_neg (by simpa using ne)]
        exact ih he hn.2
  rw [← h.listFor, Registry.listFor, found]
  rfl

theorem Lists.tag_mem (h : r.Lists S) {s : Subscription} (hs : s ∈ S) :
    s.mailbox.tag ∈ r.routes.map (·.1) := by
  by_contra absent
  have unlisted : r.listFor s.mailbox.tag = [] := by
    have : r.routes.find? (·.1 == s.mailbox.tag) = none := by
      rw [List.find?_eq_none]
      intro entry he e
      exact absent (List.mem_map.mpr ⟨entry, he, by simpa using e⟩)
    simp [Registry.listFor, this]
  have listed : s ∈ S.listFor s.mailbox.tag := Roll.mem_listFor.mpr ⟨hs, rfl⟩
  rw [← h.listFor, unlisted] at listed
  simp at listed

/-- A registry has the subscriptions of the roll that it lists, in some order. -/
theorem Lists.perm_all (h : r.Lists S) : r.all.Perm S := by
  have lists : r.all = (r.routes.map (·.1)).flatMap S.listFor := by
    rw [all, List.flatMap_map]
    exact List.flatMap_congr fun entry he => h.reverse_entry he
  rw [lists]
  exact Roll.perm_lists S h.nodup fun s hs => h.tag_mem hs

theorem size_eq_length_all (r : Registry) : r.size = r.all.length := by
  rw [size, all]
  induction r.routes with
  | nil => rfl
  | cons entry rest ih => simp [ih]

theorem Lists.size (h : r.Lists S) : r.size = S.length := by
  rw [size_eq_length_all, h.perm_all.length_eq]

theorem Lists.isEmpty (h : r.Lists S) : r.isEmpty = true ↔ S = [] := by
  simp only [Registry.isEmpty, List.all_eq_true, List.isEmpty_iff]
  constructor
  · intro empty
    have none_left : r.all = [] := by
      rw [all, List.flatMap_eq_nil_iff]
      intro entry he
      rw [empty entry he, List.reverse_nil]
    exact List.nil_perm.mp (none_left ▸ h.perm_all)
  · rintro rfl entry he
    simpa [Roll.listFor] using h.reverse_entry he

end Registry

end MessageBus
