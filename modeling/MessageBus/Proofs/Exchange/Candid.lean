import MessageBus.Proofs.Exchange.Reach

namespace MessageBus

/-- A mailbox has ended one of the calls of its handler, with what it saw of a message, with a
refusal of its own. -/
def MailboxCell.HasRefused (c : MailboxCell) (view : Message) (r : Refusal) : Prop :=
  ∃ react journal n, c.handler = .responding react false journal ∧ 0 < n ∧ n ≤ c.calls ∧
    (react view n).ending = .refuse r

namespace Exchange

/-- A mailbox stays what it is, and its calls only become more. -/
structure Ages (c c' : MailboxCell) : Prop where
  mailbox : c'.mailbox = c.mailbox
  handler : c'.handler = c.handler
  calls : c.calls ≤ c'.calls

theorem Ages.refl (c : MailboxCell) : Ages c c := ⟨rfl, rfl, Nat.le_refl _⟩

theorem Ages.trans {a b c : MailboxCell} (h : Ages a b) (h' : Ages b c) : Ages a c :=
  ⟨h'.mailbox.trans h.mailbox, h'.handler.trans h.handler, Nat.le_trans h.calls h'.calls⟩

theorem Ages.hasRefused {c c' : MailboxCell} (h : Ages c c') {view : Message} {r : Refusal}
    (hr : c.HasRefused view r) : c'.HasRefused view r := by
  obtain ⟨react, journal, n, handler, pos, le, ending⟩ := hr
  exact ⟨react, journal, n, h.handler.trans handler, pos, Nat.le_trans le h.calls, ending⟩

/-- Whether the mailboxes bear out what an occurrence says of them: one that was subscribed is
there, and one that refused a message that it sees did so itself. -/
def Vouched (w : Exchange) : Occurrence → Prop
  | .subscribed _ s => s.mailbox ∈ w.mailboxes.map (·.mailbox)
  | .answered d s (.ok (some r)) => ∀ view, s.mailbox.target.narrow d.message = some view →
      ∃ c, w.mailboxes[s.mailbox.id]? = some c ∧ c.HasRefused view r
  | _ => True

/-- A relation between exchanges before and after: no mailbox is lost or changed, and the mailboxes
bear out what happened in between. -/
structure Candid (w v : Exchange) : Prop where
  buses : w.buses.length ≤ v.buses.length
  cells : ∀ (i : Nat) (c : MailboxCell), w.mailboxes[i]? = some c →
    ∃ c', v.mailboxes[i]? = some c' ∧ Ages c c'
  answers : ∃ new, v.history = w.history ++ new ∧ ∀ o ∈ new, v.Vouched o

theorem Vouched.mono {w v : Exchange} (cells : ∀ (i : Nat) (c : MailboxCell),
    w.mailboxes[i]? = some c → ∃ c', v.mailboxes[i]? = some c' ∧ Ages c c') {o : Occurrence}
    (h : w.Vouched o) : v.Vouched o := by
  match o with
  | .subscribed b s =>
    obtain ⟨c, member, same⟩ := List.mem_map.mp h
    obtain ⟨i, hi⟩ := List.mem_iff_getElem?.mp member
    obtain ⟨c', hc', ages⟩ := cells i c hi
    exact List.mem_map.mpr ⟨c', List.mem_of_getElem? hc', ages.mailbox.trans same⟩
  | .answered d s (.ok (some r)) =>
    intro view seen
    obtain ⟨c, hc, refused⟩ := h view seen
    obtain ⟨c', hc', ages⟩ := cells _ c hc
    exact ⟨c', hc', ages.hasRefused refused⟩
  | .answered _ _ (.ok none) | .answered _ _ (.error _) | .published .. | .invoked .. | .returned ..
  | .failed .. | .heard .. | .released .. | .concluded .. | .unsubscribed .. | .cleared ..
  | .emptied .. | .dropped .. | .logged .. | .announced .. => trivial

namespace Candid

theorem refl (w : Exchange) : Candid w w :=
  ⟨Nat.le_refl _, fun _ c hc => ⟨c, hc, .refl c⟩, [], by simp, by simp⟩

theorem trans {u v w : Exchange} (h : Candid u v) (h' : Candid v w) : Candid u w := by
  obtain ⟨new, hist, vouched⟩ := h.answers
  obtain ⟨new', hist', vouched'⟩ := h'.answers
  refine ⟨Nat.le_trans h.buses h'.buses, ?_, new ++ new', ?_, ?_⟩
  · intro i c hc
    obtain ⟨c', hc', ages⟩ := h.cells i c hc
    obtain ⟨c'', hc'', ages'⟩ := h'.cells i c' hc'
    exact ⟨c'', hc'', ages.trans ages'⟩
  · rw [hist', hist, List.append_assoc]
  · intro o ho
    rcases List.mem_append.mp ho with ho | ho
    · exact (vouched o ho).mono h'.cells
    · exact vouched' o ho

/-- A change that leaves the mailboxes alone. -/
theorem of_still {w v : Exchange} (hb : w.buses.length ≤ v.buses.length)
    (hm : v.mailboxes = w.mailboxes) (ht : v.trace = w.trace) : Candid w v := by
  refine ⟨hb, fun i c hc => ⟨c, hm ▸ hc, .refl c⟩, [], ?_, by simp⟩
  rw [history, ht, List.append_nil]
  rfl

theorem record (w : Exchange) (o : Occurrence) (ho : (w.record o).Vouched o) :
    Candid w (w.record o) :=
  ⟨Nat.le_refl _, fun _ c hc => ⟨c, hc, .refl c⟩, [o], history_record w o, by simpa using ho⟩

theorem log (w : Exchange) (e : Log.Event) : Candid w (w.log e) :=
  (of_still (Nat.le_refl _) rfl rfl : Candid w { w with book := w.book.note e }).trans
    (record _ (.logged e) trivial)

theorem modifyMailbox (w : Exchange) (m : MailboxId) (f : MailboxCell → MailboxCell)
    (hf : ∀ c, Ages c (f c)) : Candid w (w.modifyMailbox m f) := by
  refine ⟨Nat.le_refl _, fun i c hc => ?_, [], by simp [Exchange.modifyMailbox, history], by simp⟩
  rw [Exchange.modifyMailbox, List.getElem?_modify, hc]
  by_cases hi : m = i
  · exact ⟨f c, by simp [hi], hf c⟩
  · exact ⟨c, by simp [hi], .refl c⟩

theorem move {w v : Exchange} (step : Move w v) : Candid w v := by
  have told (u : Exchange) (o : Occurrence) (ho : (u.record o).Vouched o) (h : Candid w u) :
      Candid w (u.record o) := h.trans (record u o ho)
  cases step with
  | desk | held | journals | recorder => exact of_still (Nat.le_refl _) rfl rfl
  | logged e => exact log w e
  | announced a => exact told w _ trivial (refl w)
  | bus deadLetters failures => exact of_still (by simp [addBus]) rfl rfl
  | mailbox cell =>
    refine ⟨Nat.le_refl _, fun i c hc => ⟨c, ?_, .refl c⟩, [], by simp [history], by simp⟩
    rw [List.getElem?_append_left (List.getElem?_eq_some_iff.mp hc).1]
    exact hc
  | called m =>
    exact modifyMailbox w m _ fun c => ⟨rfl, rfl, Nat.le_succ _⟩
  | struck x =>
    cases x with
    | mailbox m =>
      exact told _ _ trivial (modifyMailbox w m _ fun c => ⟨rfl, rfl, Nat.le_refl _⟩)
    | bus b => exact told _ _ trivial (of_still (by simp [modifyBus]) rfl rfl)
    | recorder r => exact told _ _ trivial (of_still (Nat.le_refl _) rfl rfl)
  | resolved b m =>
    cases hb : w.buses[b]? with
    | none =>
      rw [resolve_none hb]
      exact refl w
    | some cell =>
      obtain ⟨u, hu, e⟩ := resolve_some hb m
      have logged : Candid w u := by
        rcases hu with rfl | ⟨line, rfl⟩
        · exact refl _
        · exact log w line
      rw [e]
      exact logged.trans (of_still (by simp [modifyBus]) rfl rfl)
  | subscribed b cell m _ hm =>
    have changed : Candid w
        (w.modifyBus b fun c => { c with registry := (cell.registry.subscribe m).1 }) :=
      of_still (by simp [modifyBus]) rfl rfl
    have made : Candid w ((w.modifyBus b fun c =>
        { c with registry := (cell.registry.subscribe m).1 }).record
          (.subscribed b { seq := (cell.registry.subscribe m).2, mailbox := m })) :=
      told _ _ hm changed
    exact made.trans (log _ _)
  | unsubscribed | cleared => exact told _ _ trivial (of_still (by simp [modifyBus]) rfl rfl)
  | returnedCalled | failedCalled => exact of_still (by simp [modifyBus]) rfl rfl
  | emptied | broken => exact told _ _ trivial (of_still (Nat.le_refl _) rfl rfl)

theorem steady : Steady Candid where
  refl := refl
  trans := trans
  move := move

/-- What a mailbox refuses that it sees, its handler refuses. -/
theorem hasRefused_of_deliver {call : Runner} (hc : Keeps Candid call)
    (ends : ∀ letter reaction u, (call (.react letter reaction) u).2 = reaction.ending.outcome ∨
      ∃ h, (call (.react letter reaction) u).2 = .error h)
    {mailbox : Mailbox} {m view : Message} {w : Exchange} {r : Refusal}
    (seen : mailbox.target.narrow m = some view)
    (refused : (deliver call mailbox m w).2 = .ok (some r)) :
    ∃ c, (deliver call mailbox m w).1.mailboxes[mailbox.id]? = some c ∧ c.HasRefused view r := by
  rw [deliver, seen] at refused ⊢
  simp only [respond] at refused ⊢
  cases hcell : w.mailboxes[mailbox.id]? with
  | none => simp [hcell] at refused
  | some cell =>
    simp only [hcell] at refused ⊢
    cases hh : cell.handler with
    | recording j => simp [hh] at refused
    | responding react lenient journal =>
      simp only [hh] at refused ⊢
      -- The call is counted before the handler runs, and what it runs only adds to the count.
      generalize hasked : announce _ (.delivered cell.label (cell.calls + 1) view.text) = asked
        at refused ⊢
      have once : asked.mailboxes[mailbox.id]? = some { cell with calls := cell.calls + 1 } := by
        rw [← hasked]
        cases journal <;>
          simp [announce, Exchange.record, note, Exchange.modifyMailbox, hcell]
      generalize react_eq : react view (cell.calls + 1) = reaction at refused ⊢
      have ran := hc (.react none reaction) asked trivial
      have ended := ends none reaction asked
      generalize call (.react none reaction) asked = result at ran ended refused ⊢
      obtain ⟨u, h | refusal⟩ := result
      · simp at refused
      · obtain ⟨c, hc', ages⟩ := ran.cells _ _ once
        cases lenient with
        | true => simp at refused
        | false =>
          have own : reaction.ending = .refuse r := by
            simp only [Bool.false_eq_true, if_false, Except.ok.injEq] at refused
            subst refused
            rcases ended with ended | ⟨h, ended⟩
            · cases he : reaction.ending <;> simp_all [Ending.outcome]
            · simp at ended
          exact ⟨c, hc', react, journal, cell.calls + 1, ages.handler.trans hh, Nat.succ_pos _,
            ages.calls, react_eq ▸ own⟩

theorem traced (depth : Nat) (hc : Keeps Candid (runner depth)) : Traced Candid (runner depth) where
  toSteady := steady
  grows h := h.buses
  keeps := hc
  begun {w b m _ c} _ _ := by
    have numbered : Candid w { w with dispatches := w.dispatches + 1 } :=
      of_still (Nat.le_refl _) rfl rfl
    exact numbered.trans (record _ (.published (w.nextDispatch b m) _) trivial)
  invoked w d s := record w _ trivial
  answered w d s := by
    have delivered := steady.deliver hc s.mailbox d.message w
    refine delivered.trans (record _ _ ?_)
    cases e : (deliver (runner depth) s.mailbox d.message w).2 with
    | error h => trivial
    | ok refusal =>
      cases refusal with
      | none => trivial
      | some r => exact fun view seen => hasRefused_of_deliver hc (runner_react depth) seen e
  returned w d x _ := by
    refine (record w (.returned d x) trivial).trans ?_
    rw [keepReturned]
    split
    · exact refl _
    · exact of_still (Nat.le_refl _) rfl rfl
  failed w d x _ := by
    refine (record w (.failed d x) trivial).trans ?_
    rw [keepFailed]
    split
    · exact refl _
    · exact of_still (Nat.le_refl _) rfl rfl
  heard w d result := record w _ trivial
  released w d result := record w _ trivial
  concluded w d result := record w _ trivial

/-- Every run is candid. -/
theorem run (w : Exchange) (steps : List (Nat × Step)) : Candid w (w.run steps) := by
  have respected (depth : Nat) : Respected Candid (runner depth) :=
    Respected.runner (fun depth hc => (traced depth hc).respected) refl depth
  exact Respected.run respected w steps

end Candid

end Exchange

end MessageBus
