import MessageBus.Proofs.Config.Shelf
import MessageBus.Proofs.Exchange.Drops
import MessageBus.Proofs.Registry.Removal

namespace MessageBus

/-- The dispatch that an occurrence is a call for, or the end of one. -/
def Occurrence.call? : Occurrence → Option Dispatch
  | .invoked d _ | .answered d _ _ | .returned d _ | .failed d _ | .heard d _ => some d
  | _ => none

/-- By a history, a dispatch has begun and no mailbox of its plan is struck off. -/
def Intact (d : Dispatch) (h : List Occurrence) : Prop :=
  ∃ plan, .published d plan ∈ h ∧ ∀ s ∈ plan.map (·.2), .dropped (.mailbox s.mailbox.id) ∉ h

/-- A history in which every call for a dispatch finds the mailboxes of its plan there. -/
def Attended (h : List Occurrence) : Prop :=
  ∀ h₁ o h₂, h = h₁ ++ o :: h₂ → ∀ d ∈ o.call?, Intact d h₁

theorem Attended.snoc {h : List Occurrence} (ha : Attended h) {o : Occurrence}
    (ho : ∀ d ∈ o.call?, Intact d h) : Attended (h ++ [o]) := by
  intro h₁ x h₂ e
  rcases List.eq_nil_or_concat h₂ with rfl | ⟨mid, last, rfl⟩
  · obtain ⟨rfl, same⟩ := List.append_inj' e rfl
    exact List.singleton_inj.mp same ▸ ho
  · rw [List.concat_eq_append, ← List.cons_append, ← List.append_assoc] at e
    exact ha h₁ x mid (List.append_inj' e rfl).1

theorem Attended.append {h new : List Occurrence} (ha : Attended h)
    (hn : ∀ o ∈ new, o.call? = none) : Attended (h ++ new) := by
  induction new generalizing h with
  | nil => rwa [List.append_nil]
  | cons o new ih =>
    have next := ha.snoc (o := o) (by simp [hn o List.mem_cons_self])
    have all := ih next fun o ho => hn o (List.mem_cons_of_mem _ ho)
    rwa [List.append_assoc] at all

namespace Registry

variable {r left : Registry} {m : Mailbox} {s x : Subscription} {t : Tag}

theorem mem_all_of_listFor (h : s ∈ r.listFor t) : s ∈ r.all := by
  rw [listFor, List.mem_reverse] at h
  cases found : r.routes.find? (·.1 == t) with
  | none => simp [found] at h
  | some entry =>
    simp only [found, Option.map_some, Option.getD_some] at h
    exact List.mem_flatMap.mpr ⟨entry, List.mem_of_find?_eq_some found, List.mem_reverse.mpr h⟩

theorem mem_all_subscribe (h : s ∈ (r.subscribe m).1.all) : s ∈ r.all ∨ s.mailbox = m := by
  obtain ⟨entry, he, hs⟩ := List.mem_flatMap.mp h
  rcases mem_setList he with rfl | he
  · rw [List.mem_reverse, List.mem_cons] at hs
    rcases hs with rfl | hs
    · exact .inr rfl
    · exact .inl (mem_all_of_listFor (List.mem_reverse.mpr hs))
  · exact .inl (List.mem_flatMap.mpr ⟨entry, he, hs⟩)

theorem mem_all_of_unsubscribe (h : r.unsubscribe m = .ok (left, x)) (hs : s ∈ left.all) :
    s ∈ r.all := by
  rw [unsubscribe] at h
  split at h
  · exact absurd h (by simp)
  · next r' found removed =>
    obtain ⟨entry, he, hs⟩ := List.mem_flatMap.mp hs
    rw [← (Prod.mk.inj (Except.ok.inj h)).1] at he
    obtain ⟨⟨_, rest⟩, taken, e⟩ := Option.map_eq_some_iff.mp removed
    have he := mem_of_mem_prune he
    rw [← (Prod.mk.inj e).1] at he
    rcases mem_setList he with rfl | he
    · rw [takeFirst_eq] at taken
      obtain ⟨_, -, same⟩ := Option.map_eq_some_iff.mp taken
      rw [List.mem_reverse, List.mem_reverse, ← (Prod.mk.inj same).2] at hs
      exact mem_all_of_listFor (Roll.mem_of_mem_without hs)
    · exact List.mem_flatMap.mpr ⟨entry, he, hs⟩

theorem id_of_unsubscribe (h : r.unsubscribe m = .ok (left, x)) : x.mailbox.id = m.id := by
  rw [unsubscribe] at h
  split at h
  · exact absurd h (by simp)
  · next r' found removed =>
    obtain ⟨⟨y, rest⟩, taken, e⟩ := Option.map_eq_some_iff.mp removed
    rw [takeFirst_eq] at taken
    obtain ⟨z, first, same⟩ := Option.map_eq_some_iff.mp taken
    have id := List.find?_some first
    rw [← (Prod.mk.inj (Except.ok.inj h)).2, ← (Prod.mk.inj e).2, ← (Prod.mk.inj same).1]
    exact of_decide_eq_true id

theorem mem_refs_entriesFor {tags : List Tag} {y : Ref} (h : y ∈ Route.refs (r.entriesFor tags)) :
    y ∈ r.refs := by
  obtain ⟨route, hr, hy⟩ := List.mem_flatMap.mp h
  obtain ⟨t, -, ht⟩ := List.mem_filterMap.mp hr
  obtain ⟨s, hs, rfl⟩ := List.mem_map.mp hy
  refine List.mem_map_of_mem (mem_all_of_listFor (t := t) ?_)
  rw [routeFor] at ht
  split at ht
  · simp at ht
  · next listed =>
    rw [listed]
    rwa [← Option.some.inj ht] at hs

end Registry

theorem Tray.mem_add {α : Type} {t : Tray α} {a b : α} (h : a ∈ (t.add b).toList) :
    a = b ∨ a ∈ t.toList := by
  cases t with
  | intact latest =>
    rw [toList_add, List.mem_append, List.mem_singleton] at h
    exact h.symm
  | broken => exact .inr h

namespace Recorder

variable {c : Recorder} {role : SinkRole} {x : Ref}

theorem mem_refs : x ∈ c.refs ↔ (∃ r ∈ c.returned.toList, x = .bus r.bus) ∨
    ∃ f ∈ c.failed.toList, x = .bus f.bus ∨ x = .mailbox f.mailbox.id := by
  simp [refs, refsOf, ReturnedMessage.refs, FailedMessage.refs]

theorem mem_refs_emptied (h : x ∈ (c.emptied role).refs) : x ∈ c.refs := by
  have gone {α : Type} (t : Tray α) : t.emptied.toList = [] := by cases t <;> rfl
  rw [mem_refs] at h ⊢
  cases role with
  | deadLetter => exact h.imp_left (by simp [emptied, gone])
  | failure => exact h.imp_right (by simp [emptied, gone])

theorem mem_refs_broken (h : x ∈ (c.broken role).refs) : x ∈ c.refs := by
  rw [mem_refs] at h ⊢
  cases role with
  | deadLetter => exact h.imp_left (by simp [broken, Tray.toList])
  | failure => exact h.imp_right (by simp [broken, Tray.toList])

end Recorder

namespace Desk

variable {d d' : Desk} {label : String}

theorem mem_refs_of_mailbox {m : MailboxId}
    (h : d.mailboxes.get? label = some m) : .mailbox m ∈ d.refs := by
  have kept := Shelf.mem_of_get? h
  simp only [Desk.refs, List.mem_append, List.mem_map]
  exact .inl (.inl (.inl ⟨_, kept, rfl⟩))

theorem mem_refs_of_bus {b : BusId}
    (h : d.buses.get? label = some b) : .bus b ∈ d.refs := by
  have kept := Shelf.mem_of_get? h
  simp only [Desk.refs, List.mem_append, List.mem_map]
  exact .inl (.inl (.inr ⟨_, kept, rfl⟩))

theorem mem_refs_of_recorder {r : RecorderId}
    (h : d.recorders.get? label = some r) : .recorder r ∈ d.refs := by
  have kept := Shelf.mem_of_get? h
  simp only [Desk.refs, List.mem_append, List.mem_map]
  exact .inl (.inr ⟨_, kept, rfl⟩)

/-- What holds of all that a desk held, and of what its handles were changed to, holds of all that
it holds then. -/
theorem forall_refs {P : Ref → Prop} (old : ∀ x ∈ d.refs, P x)
    (mailboxes : ∀ h ∈ d'.mailboxes, h ∈ d.mailboxes ∨ P (.mailbox h.2))
    (buses : ∀ h ∈ d'.buses, h ∈ d.buses ∨ P (.bus h.2))
    (recorders : ∀ h ∈ d'.recorders, h ∈ d.recorders ∨ P (.recorder h.2))
    (snapshots : ∀ h ∈ d'.snapshots, h ∈ d.snapshots ∨ ∀ x ∈ Route.refs h.2, P x) :
    ∀ x ∈ d'.refs, P x := by
  simp only [Desk.refs, List.forall_mem_append, List.forall_mem_map, List.forall_mem_flatMap]
    at old ⊢
  obtain ⟨⟨⟨m, b⟩, r⟩, s⟩ := old
  refine ⟨⟨⟨fun h hh => ?_, fun h hh => ?_⟩, fun h hh => ?_⟩, fun h hh => ?_⟩
  · exact (mailboxes h hh).elim (m h) id
  · exact (buses h hh).elim (b h) id
  · exact (recorders h hh).elim (r h) id
  · exact (snapshots h hh).elim (s h) id

end Desk

namespace Exchange

variable {w v u : Exchange} {x : Ref}

/-- Mailboxes have their places in the list of all of them as identities. -/
def Identified (w : Exchange) : Prop :=
  ∀ (i : Nat) (m : Mailbox), (w.mailboxes.map (·.mailbox))[i]? = some m → m.id = i

/-- An exchange in which whatever is held is there and in which no call for a dispatch missed a
mailbox of its plan. -/
structure Sustained (w : Exchange) : Prop where
  alive : ∀ x ∈ w.refs, w.isAlive x = true
  mortal : w.Mortal
  attended : Attended w.history
  ids : w.Identified

/-- A change that strikes nothing off, calls nothing, and has nothing held that is not there. -/
structure Mild (w v : Exchange) : Prop extends Spares w v where
  refs : ∀ x ∈ v.refs, x ∈ w.refs ∨ v.isAlive x = true
  history : ∃ new, v.history = w.history ++ new ∧ ∀ o ∈ new, o.call? = none
  ids : w.Identified → v.Identified

theorem mem_modify {α : Type} {l : List α} {i : Nat} {f : α → α} {a : α} (h : a ∈ l.modify i f) :
    a ∈ l ∨ ∃ c, l[i]? = some c ∧ a = f c := by
  obtain ⟨j, hj⟩ := List.mem_iff_getElem?.mp h
  rw [List.getElem?_modify] at hj
  split at hj
  · next same =>
    obtain ⟨c, hc, e⟩ := Option.map_eq_some_iff.mp hj
    exact .inr ⟨c, same ▸ hc, e.symm⟩
  · exact .inl (List.mem_of_getElem? (by simpa using hj))

theorem Spares.isAlive (h : Spares w v) (ha : w.isAlive x = true) : v.isAlive x = true := by
  rw [isAlive_iff] at ha ⊢
  rcases h.status x with same | new
  · exact same.trans ha
  · simp [new] at ha

theorem Mild.sustained (h : Mild w v) (hw : w.Sustained) : v.Sustained := by
  obtain ⟨new, hist, quiet⟩ := h.history
  refine ⟨fun x hx => ?_, h.toSpares.mortal hw.mortal, ?_, h.ids hw.ids⟩
  · exact (h.refs x hx).elim (fun old => h.toSpares.isAlive (hw.alive x old)) id
  · exact hist ▸ hw.attended.append quiet

namespace Mild

theorem trans (h : Mild w v) (h' : Mild v u) : Mild w u := by
  obtain ⟨new, hist, quiet⟩ := h.history
  obtain ⟨new', hist', quiet'⟩ := h'.history
  refine ⟨h.toSpares.trans h'.toSpares, fun x hx => ?_, ⟨new ++ new', ?_, ?_⟩, h'.ids ∘ h.ids⟩
  · rcases h'.refs x hx with old | there
    · exact (h.refs x old).imp_right h'.toSpares.isAlive
    · exact .inr there
  · rw [hist', hist, List.append_assoc]
  · exact List.forall_mem_append.mpr ⟨quiet, quiet'⟩

theorem of_still (status : v.status? = w.status?) (trace : v.trace = w.trace)
    (mailboxes : v.mailboxes = w.mailboxes)
    (refs : ∀ x ∈ v.refs, x ∈ w.refs ∨ v.isAlive x = true) : Mild w v := by
  refine ⟨.of_still status trace, refs, ⟨[], ?_, by simp⟩, ?_⟩
  · simp [Exchange.history, trace]
  · rw [Identified, Identified, mailboxes]
    exact id

theorem record (h : Mild w v) (o : Occurrence) (ho : ∀ x, o ≠ .dropped x) (hc : o.call? = none) :
    Mild w (v.record o) := by
  obtain ⟨new, hist, quiet⟩ := h.history
  refine ⟨h.toSpares.record o ho, h.refs, ⟨new ++ [o], ?_, ?_⟩, h.ids⟩
  · rw [history_record, hist, List.append_assoc]
  · exact List.forall_mem_append.mpr ⟨quiet, by simpa using hc⟩

theorem refl (w : Exchange) : Mild w w := of_still rfl rfl rfl fun _ => .inl

theorem log (h : Mild w v) (e : Log.Event) : Mild w (v.log e) :=
  h.trans ((of_still rfl rfl rfl fun _ => .inl : Mild v { v with book := v.book.note e }).record
    (.logged e) (by simp) rfl)

theorem announce (h : Mild w v) (a : Announcement) : Mild w (v.announce a) :=
  h.record (.announced a) (by simp) rfl

theorem note (w : Exchange) (j : JournalId) (entry : DeliveryRecord) : Mild w (w.note j entry) :=
  of_still rfl rfl rfl fun _ => .inl

theorem called (w : Exchange) (m : MailboxId) :
    Mild w (w.modifyMailbox m fun c => { c with calls := c.calls + 1 }) := by
  refine ⟨.modifyMailbox w m _ fun _ => rfl, fun _ => .inl, ⟨[], ?_, by simp⟩, ?_⟩
  · simp [Exchange.history, modifyMailbox]
  · have same := map_modify_of_still (·.mailbox) (fun c => { c with calls := c.calls + 1 })
      (fun _ => rfl) m w.mailboxes
    rw [Identified, Identified, modifyMailbox, same]
    exact id

/-- New handles are of things that are there. -/
theorem handles {desk : Desk}
    (mailboxes : ∀ h ∈ desk.mailboxes, h ∈ w.desk.mailboxes ∨ w.isAlive (.mailbox h.2) = true)
    (buses : ∀ h ∈ desk.buses, h ∈ w.desk.buses ∨ w.isAlive (.bus h.2) = true)
    (recorders : ∀ h ∈ desk.recorders, h ∈ w.desk.recorders ∨ w.isAlive (.recorder h.2) = true)
    (snapshots : ∀ h ∈ desk.snapshots, h ∈ w.desk.snapshots ∨
      ∀ x ∈ Route.refs h.2, w.isAlive x = true) : Mild w { w with desk } := by
  have all : ∀ x ∈ desk.refs, x ∈ w.refs ∨ w.isAlive x = true := by
    refine Desk.forall_refs (fun x hx => .inl (mem_refs_of_desk hx)) ?_ ?_ ?_ ?_
    · exact fun h hh => (mailboxes h hh).imp_right .inr
    · exact fun h hh => (buses h hh).imp_right .inr
    · exact fun h hh => (recorders h hh).imp_right .inr
    · exact fun h hh => (snapshots h hh).imp_right fun there x hx => .inr (there x hx)
  refine of_still rfl rfl rfl fun x hx => ?_
  rcases mem_refs.mp hx with hx | ⟨c, hc, there, hx⟩ | ⟨c, hc, there, hx⟩ | ⟨xs, hxs, hx⟩
  · exact all x hx
  · exact .inl (mem_refs_of_bus hc there hx)
  · exact .inl (mem_refs_of_recorder hc there hx)
  · exact .inl (mem_refs_of_held hxs hx)

theorem held {held : List (List Ref)}
    (h : ∀ xs ∈ held, ∀ x ∈ xs, x ∈ w.refs ∨ w.isAlive x = true) : Mild w { w with held } := by
  refine of_still rfl rfl rfl fun x hx => ?_
  rcases mem_refs.mp hx with hx | ⟨c, hc, there, hx⟩ | ⟨c, hc, there, hx⟩ | ⟨xs, hxs, hx⟩
  · exact .inl (mem_refs_of_desk hx)
  · exact .inl (mem_refs_of_bus hc there hx)
  · exact .inl (mem_refs_of_recorder hc there hx)
  · exact h xs hxs x hx

theorem modifyBus {b : BusId} {f : BusCell → BusCell} (alive : ∀ c, (f c).alive = c.alive)
    (refs : ∀ cell, w.buses[b]? = some cell → cell.alive = true →
      ∀ x ∈ (f cell).refs, x ∈ cell.refs ∨ w.isAlive x = true) : Mild w (w.modifyBus b f) := by
  have spares := Spares.modifyBus w b f alive
  have still : (w.modifyBus b f).history = w.history := rfl
  refine ⟨spares, fun x hx => ?_, ⟨[], by simp [still], by simp⟩, id⟩
  rcases mem_refs.mp hx with hx | ⟨c, hc, there, hx⟩ | ⟨c, hc, there, hx⟩ | ⟨xs, hxs, hx⟩
  · exact .inl (mem_refs_of_desk hx)
  · rcases mem_modify hc with hc | ⟨cell, hcell, rfl⟩
    · exact .inl (mem_refs_of_bus hc there hx)
    · rw [alive] at there
      rcases refs cell hcell there x hx with hx | hx
      · exact .inl (mem_refs_of_bus (List.mem_of_getElem? hcell) there hx)
      · exact .inr (spares.isAlive hx)
  · exact .inl (mem_refs_of_recorder hc there hx)
  · exact .inl (mem_refs_of_held hxs hx)

theorem modifyRecorder {r : RecorderId} {f : Recorder → Recorder}
    (alive : ∀ c, (f c).alive = c.alive)
    (refs : ∀ c, ∀ x ∈ (f c).refs, x ∈ c.refs ∨ w.isAlive x = true) :
    Mild w (w.modifyRecorder r f) := by
  have spares := Spares.modifyRecorder w r f alive
  have still : (w.modifyRecorder r f).history = w.history := rfl
  refine ⟨spares, fun x hx => ?_, ⟨[], by simp [still], by simp⟩, id⟩
  rcases mem_refs.mp hx with hx | ⟨c, hc, there, hx⟩ | ⟨c, hc, there, hx⟩ | ⟨xs, hxs, hx⟩
  · exact .inl (mem_refs_of_desk hx)
  · exact .inl (mem_refs_of_bus hc there hx)
  · rcases mem_modify hc with hc | ⟨cell, hcell, rfl⟩
    · exact .inl (mem_refs_of_recorder hc there hx)
    · rw [alive] at there
      rcases refs cell x hx with hx | hx
      · exact .inl (mem_refs_of_recorder (List.mem_of_getElem? hcell) there hx)
      · exact .inr (spares.isAlive hx)
  · exact .inl (mem_refs_of_held hxs hx)

theorem resolve (w : Exchange) (b : BusId) (m : Message) : Mild w (w.resolve b m).1 := by
  cases hb : w.buses[b]? with
  | none =>
    rw [resolve_none hb]
    exact refl w
  | some cell =>
    obtain ⟨u, logged, e⟩ := resolve_some hb m
    have told : Mild w u := by
      rcases logged with rfl | ⟨line, rfl⟩
      · exact refl _
      · exact (refl w).log line
    rw [e]
    exact told.trans (modifyBus (fun _ => rfl) fun _ _ _ _ => .inl)

theorem addRecorder (w : Exchange) (label : String) : Mild w (w.addRecorder label) := by
  have spares := Spares.addRecorder w label
  have still : (w.addRecorder label).history = w.history := rfl
  refine ⟨spares, fun x hx => ?_, ⟨[], by simp [still], by simp⟩, id⟩
  have new : (w.addRecorder label).isAlive (.recorder w.recorders.length) = true := by
    simp [Exchange.isAlive, Exchange.addRecorder]
  rcases mem_refs.mp hx with hx | ⟨c, hc, there, hx⟩ | ⟨c, hc, there, hx⟩ | ⟨xs, hxs, hx⟩
  · have old : ∀ x ∈ w.desk.refs, x ∈ w.refs ∨ (w.addRecorder label).isAlive x = true :=
      fun x hx => .inl (mem_refs_of_desk hx)
    have all : ∀ x ∈ (w.addRecorder label).desk.refs,
        x ∈ w.refs ∨ (w.addRecorder label).isAlive x = true := by
      refine Desk.forall_refs old (fun _ => .inl) (fun _ => .inl) (fun h hh => ?_) fun _ => .inl
      rcases Shelf.mem_of_mem_put hh with rfl | hh
      · exact .inr (.inr new)
      · exact .inl hh
    exact all x hx
  · exact .inl (mem_refs_of_bus hc there hx)
  · rcases List.mem_append.mp hc with hc | hc
    · exact .inl (mem_refs_of_recorder hc there hx)
    · rw [List.mem_singleton.mp hc] at hx
      simp [Recorder.refs, Recorder.refsOf, Tray.toList] at hx
  · exact .inl (mem_refs_of_held hxs hx)

theorem addBus {deadLetters failures : Sink} (hd : ∀ x ∈ deadLetters.refs, w.isAlive x = true)
    (hf : ∀ x ∈ failures.refs, w.isAlive x = true) :
    Mild w (w.addBus deadLetters failures).1 := by
  have spares := Spares.addBus w deadLetters failures
  have still : (w.addBus deadLetters failures).1.history = w.history := rfl
  refine ⟨spares, fun x hx => ?_, ⟨[], by simp [still], by simp⟩, id⟩
  rcases mem_refs.mp hx with hx | ⟨c, hc, there, hx⟩ | ⟨c, hc, there, hx⟩ | ⟨xs, hxs, hx⟩
  · exact .inl (mem_refs_of_desk hx)
  · rcases List.mem_append.mp hc with hc | hc
    · exact .inl (mem_refs_of_bus hc there hx)
    · -- A new bus has no subscriptions, so it holds its sinks only.
      rw [List.mem_singleton.mp hc, BusCell.refs, List.append_assoc] at hx
      have sinks : x ∈ deadLetters.refs ++ failures.refs := by
        simpa [Registry.refs, Registry.all] using hx
      exact .inr (spares.isAlive ((List.mem_append.mp sinks).elim (hd x) (hf x)))
  · exact .inl (mem_refs_of_recorder hc there hx)
  · exact .inl (mem_refs_of_held hxs hx)

theorem mailbox {cell : MailboxCell} (h : cell.mailbox.id = w.mailboxes.length) :
    Mild w { w with mailboxes := w.mailboxes ++ [cell] } := by
  refine ⟨Spares.mailbox w cell, fun _ => .inl, ⟨[], by simp [Exchange.history], by simp⟩,
    fun ids i m hm => ?_⟩
  rw [List.map_append] at hm
  rcases Nat.lt_or_ge i (w.mailboxes.map (·.mailbox)).length with below | above
  · exact ids i m ((List.getElem?_append_left below).symm.trans hm)
  · rw [List.getElem?_append_right above, List.map_singleton, List.getElem?_singleton] at hm
    split at hm
    · next first =>
      rw [List.length_map] at above first
      rw [← Option.some.inj hm, h]
      exact Nat.le_antisymm above (Nat.sub_eq_zero_iff_le.mp first)
    · simp at hm

/-- A registry whose subscriptions were listed before, or are of mailboxes that are held. -/
theorem relisted {b : BusId} {cell : BusCell} {registry : Registry}
    (hb : w.buses[b]? = some cell) (listed : ∀ s ∈ registry.all,
      s ∈ cell.registry.all ∨ w.isAlive (.mailbox s.mailbox.id) = true) :
    Mild w (w.modifyBus b fun c => { c with registry }) := by
  refine modifyBus (fun _ => rfl) fun c hc _ x hx => ?_
  obtain rfl := Option.some.inj (hb.symm.trans hc)
  simp only [BusCell.refs, Registry.refs, List.mem_append, List.mem_map] at hx ⊢
  rcases hx with (⟨s, hs, rfl⟩ | hx) | hx
  · exact (listed s hs).imp_left fun hs => .inl (.inl ⟨s, hs, rfl⟩)
  · exact .inl (.inl (.inr hx))
  · exact .inl (.inr hx)

theorem subscribed {b : BusId} {cell : BusCell} {m : Mailbox} (hb : w.buses[b]? = some cell)
    (hm : w.isAlive (.mailbox m.id) = true) : Mild w (subscribeMailbox b cell m w).1 := by
  refine ((relisted hb fun s hs => ?_).record _ (by simp) rfl).log _
  rcases Registry.mem_all_subscribe hs with hs | rfl
  · exact .inl hs
  · exact .inr hm

theorem unsubscribed {b : BusId} {cell : BusCell} {m : Mailbox} {registry : Registry}
    {s : Subscription} (hb : w.buses[b]? = some cell)
    (h : cell.registry.unsubscribe m = .ok (registry, s)) :
    Mild w ((w.modifyBus b fun c => { c with registry }).record (.unsubscribed b m)) :=
  (relisted hb fun _ hx => .inl (Registry.mem_all_of_unsubscribe h hx)).record _ (by simp) rfl

theorem cleared {b : BusId} {cell : BusCell} (hb : w.buses[b]? = some cell) :
    Mild w ((w.modifyBus b fun c => { c with registry := cell.registry.clear.1 }).record
      (.cleared b)) := by
  refine (relisted hb fun s hs => ?_).record _ (by simp) rfl
  simp [Registry.clear, Registry.all] at hs

theorem emptied (w : Exchange) (r : RecorderId) (role : SinkRole) :
    Mild w ((w.modifyRecorder r (·.emptied role)).record (.emptied r role)) := by
  refine (modifyRecorder (fun c => ?_) fun c x hx => ?_).record _ (by simp) rfl
  · cases role <;> rfl
  · exact .inl (Recorder.mem_refs_emptied hx)

theorem broken (w : Exchange) (r : RecorderId) (role : SinkRole) :
    Mild w ((w.modifyRecorder r (·.broken role)).record (.emptied r role)) := by
  refine (modifyRecorder (fun c => ?_) fun c x hx => ?_).record _ (by simp) rfl
  · cases role <;> rfl
  · exact .inl (Recorder.mem_refs_broken hx)

theorem keepReturned {x : ReturnedMessage} (hx : w.isAlive (.bus x.bus) = true) :
    Mild w (w.keepReturned x) := by
  rw [Exchange.keepReturned]
  split
  · exact refl w
  · refine modifyRecorder (fun _ => rfl) fun c y hy => ?_
    rw [Recorder.mem_refs] at hy ⊢
    rcases hy with ⟨r, hr, rfl⟩ | hy
    · rcases Tray.mem_add hr with rfl | hr
      · exact .inr hx
      · exact .inl (.inl ⟨r, hr, rfl⟩)
    · exact .inl (.inr hy)

theorem keepFailed {x : FailedMessage} (hb : w.isAlive (.bus x.bus) = true)
    (hm : w.isAlive (.mailbox x.mailbox.id) = true) : Mild w (w.keepFailed x) := by
  rw [Exchange.keepFailed]
  split
  · exact refl w
  · refine modifyRecorder (fun _ => rfl) fun c y hy => ?_
    rw [Recorder.mem_refs] at hy ⊢
    rcases hy with hy | ⟨f, hf, hy⟩
    · exact .inl (.inl hy)
    · rcases Tray.mem_add hf with rfl | hf
      · exact .inr (hy.elim (· ▸ hb) (· ▸ hm))
      · exact .inl (.inr ⟨f, hf, hy⟩)

theorem begun (w : Exchange) (d : Dispatch) (routes : List Route) :
    Mild w (w.beginDispatch d routes) :=
  (of_still rfl rfl rfl fun _ => .inl : Mild w { w with dispatches := w.dispatches + 1 }).record _
    (by simp) rfl

end Mild

theorem mem_refs_strike {y : Ref} (h : y ∈ (w.strike x).refs) : y ∈ w.refs := by
  cases x with
  | mailbox m => exact h
  | bus b =>
    rcases mem_refs.mp h with h | ⟨c, hc, there, h⟩ | ⟨c, hc, there, h⟩ | ⟨xs, hxs, h⟩
    · exact mem_refs_of_desk h
    · rcases mem_modify hc with hc | ⟨cell, -, rfl⟩
      · exact mem_refs_of_bus hc there h
      · simp at there
    · exact mem_refs_of_recorder hc there h
    · exact mem_refs_of_held hxs h
  | recorder r =>
    rcases mem_refs.mp h with h | ⟨c, hc, there, h⟩ | ⟨c, hc, there, h⟩ | ⟨xs, hxs, h⟩
    · exact mem_refs_of_desk h
    · exact mem_refs_of_bus hc there h
    · rcases mem_modify hc with hc | ⟨cell, -, rfl⟩
      · exact mem_refs_of_recorder hc there h
      · simp at there
    · exact mem_refs_of_held hxs h

theorem isAlive_strike_of_ne {y : Ref} (ne : y ≠ x) (there : w.isAlive y = true) :
    (w.strike x).isAlive y = true := by
  rw [isAlive_iff] at there ⊢
  rwa [status?_strike, if_neg ne]

theorem ne_of_not_held {y : Ref} (free : w.holds x = false) (held : y ∈ w.refs) : y ≠ x := by
  rintro rfl
  rw [← holds_iff, free] at held
  simp at held

/-- What is struck off was not held, so whatever is held is still there. -/
theorem Sustained.strike (hw : w.Sustained) (free : w.holds x = false)
    (there : w.isAlive x = true) : (w.strike x).Sustained := by
  refine ⟨fun y hy => ?_, mortal_strike hw.mortal there, ?_, ?_⟩
  · have held := mem_refs_strike hy
    exact isAlive_strike_of_ne (ne_of_not_held free held) (hw.alive y held)
  · rw [history_strike]
    exact hw.attended.append (by simp [Occurrence.call?])
  · cases x with
    | mailbox m =>
      have same := map_modify_of_still (·.mailbox) (fun c => { c with alive := false })
        (fun _ => rfl) m w.mailboxes
      rw [Identified, Exchange.strike, record, modifyMailbox, same]
      exact hw.ids
    | bus | recorder => exact hw.ids

end Exchange

end MessageBus
