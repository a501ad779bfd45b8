import MessageBus.Proofs.Dispatch.Agenda
import MessageBus.Proofs.Dispatch.Custody
import MessageBus.Proofs.Exchange.Replay

namespace MessageBus.Exchange

variable {w : Exchange} {b : BusId}

/-- What is live after a history that begins with nothing is what was made in it and not undone. -/
theorem mem_live_of_kept {a c : List Occurrence} {s : Subscription}
    (others : ∀ m, .unsubscribed b m ∈ c → m.id ≠ s.mailbox.id) (uncleared : .cleared b ∉ c) :
    s ∈ live b (a ++ .subscribed b s :: c) := by
  have kept {S : Roll} (hs : s ∈ S) : s ∈ c.foldl (Occurrence.amend b) S := by
    induction c generalizing S with
    | nil => exact hs
    | cons o c ih =>
      refine ih (fun m hm => others m (List.mem_cons_of_mem _ hm))
        (fun hc => uncleared (List.mem_cons_of_mem _ hc)) ?_
      cases o with
      | subscribed e x =>
        rw [Occurrence.amend]
        split
        · exact List.mem_append_left _ hs
        · exact hs
      | unsubscribed e m =>
        rw [Occurrence.amend]
        split
        · next here =>
          rw [Roll.without, List.mem_eraseP_of_neg]
          · exact hs
          · simpa [eq_comm] using others m (here ▸ List.mem_cons_self)
        · exact hs
      | cleared e =>
        rw [Occurrence.amend, if_neg]
        · exact hs
        · exact fun here => uncleared (here ▸ List.mem_cons_self)
      | _ => exact hs
  rw [live_append, List.foldl_cons, Occurrence.amend, if_pos rfl]
  exact kept (List.mem_append_right _ (List.mem_singleton.mpr rfl))

/-- Clearing a bus takes out all lists first. Whatever happens then is up to what is dropped. -/
theorem clearBus_replays {cell : BusCell} (hb : w.buses[b]? = some cell) (depth : Nat) :
    let v := (clearBus (runner depth) b w).1
    ∃ dropped, v.history = w.history ++
        .cleared b :: .logged (.cleared cell.registry.clear.2.length) :: dropped ∧
      v.registryOf b =
        dropped.foldl (Occurrence.replay b) { routes := [], nextSeq := cell.registry.nextSeq } := by
  intro v
  let refs : List Ref := cell.registry.clear.2.flatten.map fun s => .mailbox s.mailbox.id
  let taken := (w.modifyBus b fun c => { c with registry := cell.registry.clear.1 }).record
    (.cleared b)
  let told := taken.log (.cleared cell.registry.clear.2.length)
  obtain ⟨at_b, -⟩ := getElem?_modifyBus
    (fun c => { c with registry := cell.registry.clear.1 }) hb
  have here : told.registryOf b = { routes := [], nextSeq := cell.registry.nextSeq } :=
    registryOf_eq at_b
  have first : told.history = w.history ++
      [.cleared b, .logged (.cleared cell.registry.clear.2.length)] := by
    have start : (w.modifyBus b fun c => { c with registry := cell.registry.clear.1 }).history =
        w.history := rfl
    rw [history_log, history_record, start, List.append_assoc]
    rfl
  have goes : Leads told (releaseAll (runner depth) false refs (told.hold refs)).1 :=
    Leads.steady.released (lawful_leads.runner depth) refs told
  have same : v = (releaseAll (runner depth) false refs (told.hold refs)).1 := by
    simp only [v, clearBus, hb]
    split <;> next e => exact (congrArg Prod.fst e).symm
  obtain ⟨dropped, hist, registry⟩ := goes.replays b
  refine ⟨dropped, ?_, ?_⟩
  · rw [same, hist, first, List.append_assoc]
    rfl
  · rw [same, registry, here]

/-- What is still held is not struck off. -/
theorem releasing_of_held (depth : Nat) {x : Ref} (held : w.holds x = true) (reply : Reply) :
    releasing (runner (depth + 1)) (some x) reply w = (w, .ok reply) := by
  have still : release (runner depth) x w = (w, .ok none) := by
    rw [release, held]
    rfl
  simp only [releasing, runner, Work.carryOut, still]

/-- Taking back a subscription of a mailbox that has a handle strikes nothing off. -/
theorem unsubscribeMailbox_of_handle {cell : BusCell} {m : Mailbox} {registry : Registry}
    {s : Subscription} (taken : cell.registry.unsubscribe m = .ok (registry, s))
    (handle : .mailbox m.id ∈ w.desk.refs) (depth : Nat) :
    (unsubscribeMailbox (runner depth) b cell m w).1.history =
        w.history ++ [.unsubscribed b m, .logged (.unsubscribed s.mailbox s.seq)] ∧
      (0 < depth → (unsubscribeMailbox (runner depth) b cell m w).2 = .ok .done) := by
  let left := w.modifyBus b fun c => { c with registry }
  let told := (left.record (.unsubscribed b m)).log (.unsubscribed s.mailbox s.seq)
  have same : unsubscribeMailbox (runner depth) b cell m w =
      releasing (runner depth) (some (.mailbox s.mailbox.id)) .done told := by
    simp only [unsubscribeMailbox, taken, told, left]
  have still : told.holds (.mailbox s.mailbox.id) = true := by
    rw [Registry.id_of_unsubscribe taken, holds_iff]
    exact mem_refs_of_desk handle
  have hist : told.history =
      w.history ++ [.unsubscribed b m, .logged (.unsubscribed s.mailbox s.seq)] := by
    have start : left.history = w.history := rfl
    rw [history_log, history_record, start, List.append_assoc]
    rfl
  rw [same]
  cases depth with
  | zero => exact ⟨hist, fun h => absurd h (Nat.lt_irrefl 0)⟩
  | succ depth =>
    rw [releasing_of_held depth still]
    exact ⟨hist, fun _ => rfl⟩

/-- A mailbox that is named by a label has a handle. -/
theorem Sound.handle_of_named (h : w.Sound) {label : String} {m : Mailbox}
    (hm : w.mailboxNamed? label = some m) : .mailbox m.id ∈ w.desk.refs := by
  simp only [mailboxNamed?, Option.bind_eq_some_iff, Option.map_eq_some_iff] at hm
  obtain ⟨i, hi, cell, hcell, rfl⟩ := hm
  have id : cell.mailbox.id = i := h.mailboxes i _ (by simp [hcell])
  rw [id]
  exact Desk.mem_refs_of_mailbox hi

/-- After a clear, a bus has the subscriptions that are live by what happened since. -/
theorem Reachable.clearBus_live (hw : w.Reachable) {cell : BusCell} (hb : w.buses[b]? = some cell)
    (depth : Nat) {o : Occurrence} {dropped : List Occurrence} (aside : o.Aside)
    (hist : (clearBus (runner depth) b w).1.history = w.history ++ .cleared b :: o :: dropped) :
    (((clearBus (runner depth) b w).1.registryOf b).all).Perm (live b dropped) ∧
      ∀ s ∈ cell.registry.all, s ∉ live b dropped := by
  have goes : Leads w (clearBus (runner depth) b w).1 :=
    Leads.steady.clearBus (lawful_leads.runner depth) b w
  have later : (clearBus (runner depth) b w).1.Sound := goes.sound hw.sound
  have there := Nat.lt_of_lt_of_le (List.getElem?_eq_some_iff.mp hb).1 goes.length_buses
  have here := List.getElem?_eq_getElem there
  have since : live b (clearBus (runner depth) b w).1.history = live b dropped := by
    rw [hist, live_append, List.foldl_cons, Occurrence.amend, if_pos rfl, List.foldl_cons]
    have quiet : ∀ p ∈ [o], p.Aside := by simpa using aside
    have still : o.amend b [] = [] := foldl_amend_of_aside quiet []
    rw [still, live]
  constructor
  · rw [registryOf_eq here, ← since]
    exact (later.fits b _ here).lists.perm_all
  · intro s hs alive
    have before : s ∈ live b w.history := (hw.sound.fits b cell hb).lists.perm_all.mem_iff.mp hs
    have made : .subscribed b s ∈ .cleared b :: o :: dropped :=
      List.mem_cons_of_mem _ (List.mem_cons_of_mem _ (subscribed_of_live alive))
    exact later.not_live_of_later here hist made before

/-- A clear leaves in a registry exactly what the code that was run for dropped mailboxes made of an
empty one, with the numbering carried on: nothing that was subscribed before is left, and what was
subscribed meanwhile and not undone is. In every run, a mailbox is struck off, which is when the
code for its loss is run, at most once, and only when nobody holds it any more and no dispatch that
has it in its plan has a call to make. Taking back a subscription strikes nothing off, for the
caller has a handle of the mailbox. -/
theorem clear_and_drop :
    (∀ (w : Exchange) (b : BusId) (cell : BusCell), w.buses[b]? = some cell → ∀ depth,
      let v := (clearBus (runner depth) b w).1
      ∃ dropped, v.history = w.history ++
          .cleared b :: .logged (.cleared cell.registry.clear.2.length) :: dropped ∧
        v.registryOf b =
          dropped.foldl (Occurrence.replay b)
            { routes := [], nextSeq := cell.registry.nextSeq } ∧
        (w.Reachable →
          (∀ s ∈ cell.registry.all, s ∉ (v.registryOf b).all) ∧
          ∀ a s c, dropped = a ++ .subscribed b s :: c →
            (∀ m, .unsubscribed b m ∈ c → m.id ≠ s.mailbox.id) → .cleared b ∉ c →
            s ∈ (v.registryOf b).all)) ∧
    (∀ (steps : List (Nat × Step)) (m : MailboxId),
      drops (.mailbox m) (run {} steps).history ≤ 1 ∧
      ∀ h h', (run {} steps).history = h ++ .dropped (.mailbox m) :: h' →
        (∃ u : Exchange, u.Reachable ∧ u.history = h ∧ u.Unheld m ∧
          Leads (u.strike (.mailbox m)) (run {} steps)) ∧
        (∀ b, .dropped (.bus b) ∉ h → ∀ s ∈ live b h, s.mailbox.id ≠ m) ∧
        ∀ d plan, .published d plan ∈ h → m ∈ plan.map (·.2.mailbox.id) → ∀ o ∈ own d.number h',
          (∃ after, o = .released d after) ∨ ∃ result, o = .concluded d result) ∧
    ∀ (w : Exchange), w.Reachable → ∀ (depth : Nat) (letter : Option Letter) (bus id : String),
      ∃ new, (perform (runner depth) letter (.unsubscribe bus id) w).1.history = w.history ++ new ∧
        ∀ o ∈ new, (∃ b m, o = .unsubscribed b m) ∨ ∃ e, o = .logged e := by
  refine ⟨?_, ?_, ?_⟩
  · intro w b cell hb depth v
    obtain ⟨dropped, hist, registry⟩ := clearBus_replays hb depth
    refine ⟨dropped, hist, registry, fun hw => ?_⟩
    obtain ⟨listed, gone⟩ := hw.clearBus_live hb depth (by trivial) hist
    refine ⟨fun s hs still => gone s hs (listed.mem_iff.mp still), ?_⟩
    intro a s c e others uncleared
    exact listed.mem_iff.mpr (e ▸ mem_live_of_kept others uncleared)
  · intro steps m
    refine ⟨?_, fun h h' hist => ?_⟩
    · have once := (Reachable.mortal (reachable_run steps)).once (.mailbox m)
      split at once <;> omega
    · obtain ⟨free, unlisted⟩ := Reachable.at_drop (reachable_run steps) hist
      refine ⟨free, unlisted, fun d plan begun member => ?_⟩
      exact (sustained_run steps).calls_over (lawful_orderly.run {} steps) hist begun member
  · intro w hw depth letter bus id
    rw [perform]
    split
    · next b cell m hb hm =>
      cases taken : cell.registry.unsubscribe m with
      | error e =>
        refine ⟨[], ?_, by simp⟩
        simp only [unsubscribeMailbox, taken, List.append_nil]
      | ok result =>
        have handle := hw.sound.handle_of_named hm
        obtain ⟨hist, -⟩ := unsubscribeMailbox_of_handle (b := b) taken handle depth
        exact ⟨_, hist, by simp⟩
    · exact ⟨[], (List.append_nil _).symm, by simp⟩

/-- A bus that alone holds a mailbox, which when it is dropped has another one take its place. -/
def bequest : List (Nat × Step) :=
  let mailbox (id : String) (onDrop : Option Reaction) : Nat × Step :=
    (1, .openMailbox id id { tag := .child "Note" .root }
      (.responding (fun _ _ => .mk [] .succeed) false none) onDrop)
  [(1, .openBus "bus" (.recording "tray")),
    mailbox "owner" (some (.mk [.subscribe "bus" "heir" false] .succeed)), mailbox "heir" none,
    (1, .subscribe "bus" "owner" false), (2, .forget "owner")]

theorem clear_and_drop_bequest :
    let w := run {} bequest
    let v := (clearBus (runner 5) 0 w).1
    let owner : Subscription :=
      { seq := 0, mailbox := ⟨0, "owner", { tag := .child "Note" .root }⟩ }
    let heir : Subscription :=
      { seq := 1, mailbox := ⟨1, "heir", { tag := .child "Note" .root }⟩ }
    w.Reachable ∧ owner ∈ (w.registryOf 0).all ∧ owner ∉ (v.registryOf 0).all ∧
      heir ∈ (v.registryOf 0).all ∧
      ∃ h h', (run {} (bequest ++ [(5, .clear "bus")])).history =
          h ++ .dropped (.mailbox 0) :: h' ∧
        ∃ u : Exchange, u.Reachable ∧ u.history = h ∧ u.Unheld 0 := by
  intro w v owner heir
  obtain ⟨cleared, dropped, -⟩ := clear_and_drop
  have comes : w.Reachable := reachable_run bequest
  have there : 0 < (run {} bequest).buses.length := by decide +kernel
  have all : (w.registryOf 0).all = [owner] := by
    subst w owner
    cbv
  have old : owner ∈ (w.registryOf 0).all := all ▸ List.mem_singleton_self owner
  have fifth : (run {} (bequest ++ [(5, .clear "bus")])).history[4]? =
      some (.dropped (.mailbox 0)) := by cbv
  obtain ⟨later, hist, -, kept⟩ := cleared w 0 _ (List.getElem?_eq_getElem there) 5
  obtain ⟨gone, made⟩ := kept comes
  have since : v.history.drop 4 = [.dropped (.mailbox 0), .announced (.dropped "owner")] ++
      .subscribed 0 heir :: [.logged (.subscribed heir.mailbox 1),
        .announced (.ran "subscribe" .done)] := by
    subst v w heir
    cbv
  have before : w.history.length = 2 := by
    subst w
    cbv
  have left : v.history.drop 4 = later := by
    rw [hist, List.drop_append, List.drop_eq_nil_of_le (by omega), before]
    rfl
  rw [left] at since
  obtain ⟨h, h', split⟩ := List.append_of_mem (List.mem_of_getElem? fifth)
  obtain ⟨⟨u, reached, now, unheld, -⟩, -⟩ := (dropped _ 0).2 h h' split
  have listed : owner ∈ w.buses[0].registry.all := by
    rw [← registryOf_eq (List.getElem?_eq_getElem there)]
    exact old
  have inherits : heir ∈ (v.registryOf 0).all := made _ heir _ since (by simp) (by simp)
  exact ⟨comes, old, gone owner listed, inherits, h, h', split, u, reached, now, unheld⟩

end MessageBus.Exchange
