import MessageBus.Proofs.Exchange.Sustained

namespace MessageBus.Exchange

/-- What becomes of a sustained exchange is sustained, and what running code held it holds still. -/
structure Sheltered (w v : Exchange) : Prop where
  sustained : v.Sustained
  held : v.held = w.held
  history : w.history <+: v.history

/-- Whether the bus of the letter that a piece of work is about is held by running code. -/
def Backed (w : Exchange) : Work → Prop
  | .react (some letter) _ => .bus letter.bus ∈ w.held.flatten
  | _ => True

/-- A runner shelters when everything it does shelters. -/
def Shelters (call : Runner) : Prop :=
  ∀ work w, w.Sustained → w.Backed work → Sheltered w (call work w).1

variable {w v u : Exchange} {x : Ref} {xs : List Ref}

theorem Sustained.sheltered (hw : w.Sustained) : Sheltered w w := ⟨hw, rfl, List.prefix_refl _⟩

theorem Sheltered.trans (h : Sheltered w v) (h' : Sheltered v u) : Sheltered w u :=
  ⟨h'.sustained, h'.held.trans h.held, h.history.trans h'.history⟩

theorem Mild.sheltered (h : Mild w v) (held : v.held = w.held) (hw : w.Sustained) :
    Sheltered w v := by
  obtain ⟨new, hist, -⟩ := h.history
  exact ⟨h.sustained hw, held, new, hist.symm⟩

/-- A change that is mild, after something else. -/
theorem Sheltered.mild (h : Sheltered w v) (mild : Mild v u) (held : u.held = v.held) :
    Sheltered w u :=
  h.trans (mild.sheltered held h.sustained)

theorem Sheltered.log (h : Sheltered w v) (e : Log.Event) : Sheltered w (v.log e) :=
  h.mild ((Mild.refl v).log e) rfl

theorem Sheltered.announce (h : Sheltered w v) (a : Announcement) : Sheltered w (v.announce a) :=
  h.mild ((Mild.refl v).announce a) rfl

theorem Sustained.held_alive (hw : w.Sustained) (hx : x ∈ w.held.flatten) :
    w.isAlive x = true := by
  obtain ⟨xs, hxs, hx⟩ := List.mem_flatten.mp hx
  exact hw.alive x (mem_refs_of_held hxs hx)

theorem Sustained.hold (hw : w.Sustained) (hx : ∀ x ∈ xs, w.isAlive x = true) :
    (w.hold xs).Sustained := by
  refine (Mild.held fun ys hys y hy => ?_ : Mild w (w.hold xs)).sustained hw
  rcases List.mem_cons.mp hys with rfl | hys
  · exact .inr (hx y hy)
  · exact .inl (mem_refs_of_held hys hy)

/-- What is held last may be let go of in part. -/
theorem Sheltered.holdOnly (h : Sheltered (u.hold (x :: xs)) v) :
    Sheltered (u.hold xs) (v.holdOnly xs) := by
  have mild : Mild v (v.holdOnly xs) := by
    refine Mild.held fun ys hys y hy => .inl ?_
    have last : v.held = (x :: xs) :: u.held := h.held
    rw [last] at hys
    rcases List.mem_cons.mp hys with rfl | hys
    · exact mem_refs_of_held (last ▸ List.mem_cons_self) (List.mem_cons_of_mem _ hy)
    · exact mem_refs_of_held (last ▸ List.mem_cons_of_mem _ hys) hy
  refine ⟨mild.sustained h.sustained, ?_, h.history⟩
  rw [Exchange.holdOnly, h.held]
  rfl

/-- What was held last is let go of. -/
theorem Sheltered.letGo (h : Sheltered (u.hold xs) v) : Sheltered u v.letGo := by
  have mild : Mild v v.letGo :=
    Mild.held fun ys hys y hy => .inl (mem_refs_of_held (List.mem_of_mem_tail hys) hy)
  refine ⟨mild.sustained h.sustained, ?_, h.history⟩
  rw [Exchange.letGo, h.held]
  rfl

theorem held_keepReturned (w : Exchange) (x : ReturnedMessage) :
    (w.keepReturned x).held = w.held := by
  rw [keepReturned]
  split <;> rfl

theorem held_keepFailed (w : Exchange) (x : FailedMessage) : (w.keepFailed x).held = w.held := by
  rw [keepFailed]
  split <;> rfl

theorem held_resolve (w : Exchange) (b : BusId) (m : Message) :
    (w.resolve b m).1.held = w.held := by
  cases hb : w.buses[b]? with
  | none => rw [resolve_none hb]
  | some cell =>
    obtain ⟨u, rfl | ⟨_, rfl⟩, e⟩ := resolve_some hb m <;> rw [e] <;> rfl

section

variable {call : Runner} (hc : Shelters call)

include hc

theorem Sheltered.releaseAll (unwinding : Bool) (h : Sheltered (u.hold xs) v) :
    Sheltered u (releaseAll call unwinding xs v).1 := by
  induction xs generalizing unwinding v with
  | nil => exact h.letGo
  | cons x rest ih =>
    have gone := h.holdOnly.trans (hc (.release x) (v.holdOnly rest) h.holdOnly.sustained trivial)
    rw [MessageBus.releaseAll]
    rcases e : call (.release x) (v.holdOnly rest) with ⟨v', (t | _) | _⟩ <;> rw [e] at gone
    · cases unwinding with
      | true => exact gone.letGo
      | false => exact ih true gone
    · exact gone.letGo
    · exact ih unwinding gone

theorem Sheltered.whileHolding {α : Type} {run : Exchange → Exchange × Except Halt α}
    (h : Sheltered (w.hold xs) (run (w.hold xs)).1) :
    Sheltered w (MessageBus.whileHolding call xs run w).1 := by
  rw [MessageBus.whileHolding]
  rcases e : run (w.hold xs) with ⟨u, (t | _) | a⟩ <;> rw [e] at h
  · exact h.releaseAll hc true
  · exact h.letGo
  · exact h.releaseAll hc false

theorem Sustained.released (hw : w.Sustained) (hx : ∀ x ∈ xs, w.isAlive x = true) :
    Sheltered w (releaseAll call false xs (w.hold xs)).1 :=
  (hw.hold hx).sheltered.releaseAll hc false

omit hc in
theorem mem_refs_of_contents {y : Ref} (there : w.isAlive x = true) (hy : y ∈ w.contents x) :
    y ∈ w.refs := by
  cases x with
  | mailbox m => exact absurd hy List.not_mem_nil
  | bus b =>
    simp only [Exchange.contents, isAlive, Option.any_eq_true] at hy there
    obtain ⟨c, hc, there⟩ := there
    rw [hc] at hy
    exact mem_refs_of_bus (List.mem_of_getElem? hc) there hy
  | recorder r =>
    simp only [Exchange.contents, isAlive, Option.any_eq_true] at hy there
    obtain ⟨c, hc, there⟩ := there
    rw [hc] at hy
    exact mem_refs_of_recorder (List.mem_of_getElem? hc) there hy

theorem Sustained.release (hw : w.Sustained) (x : Ref) :
    Sheltered w (release call x w).1 := by
  rw [MessageBus.release]
  split
  · exact hw.sheltered
  · next h =>
    simp only [Bool.or_eq_true, Bool.not_eq_true', not_or, Bool.not_eq_false,
      Bool.not_eq_true] at h
    obtain ⟨free, there⟩ := h
    have struck : Sheltered w (w.strike x) := by
      refine ⟨hw.strike free there, by cases x <;> rfl, ?_⟩
      exact ⟨_, (history_strike w x).symm⟩
    have left : Sheltered w
        (MessageBus.releaseAll call false (w.contents x)
          ((w.strike x).hold (w.contents x))).1 := by
      refine struck.trans (struck.sustained.released hc fun y hy => ?_)
      have held := mem_refs_of_contents there hy
      exact isAlive_strike_of_ne (ne_of_not_held free held) (hw.alive y held)
    cases x with
    | mailbox m =>
      dsimp only
      split
      · exact struck
      · next label reaction _ =>
        have told := struck.announce (.dropped label)
        exact told.trans (hc (.react none reaction) _ told.sustained trivial)
    | bus b => dsimp only; split <;> next e => simpa [e] using left
    | recorder r => dsimp only; split <;> next e => simpa [e] using left

theorem Sustained.releasing (hw : w.Sustained) (x : Option Ref) (reply : Reply) :
    Sheltered w (releasing call x reply w).1 := by
  cases x with
  | none => exact hw.sheltered
  | some x =>
    have gone := hc (.release x) w hw trivial
    simp only [MessageBus.releasing]
    split <;> next e => simpa [e] using gone

omit hc in
theorem Sustained.desk_alive (hw : w.Sustained) (hx : x ∈ w.desk.refs) : w.isAlive x = true :=
  hw.alive x (mem_refs_of_desk hx)

theorem Sustained.placeBus (hw : w.Sustained) {b : BusId} (hb : w.isAlive (.bus b) = true)
    (label : String) (reply : Reply) : Sheltered w (placeBus call label b reply w).1 := by
  let desk : Desk := { w.desk with buses := w.desk.buses.put label b }
  have placed : Mild w { w with desk } := by
    refine Mild.handles (fun _ => .inl) (fun h hh => ?_) (fun _ => .inl) fun _ => .inl
    rcases Shelf.mem_of_mem_put hh with rfl | hh
    · exact .inr hb
    · exact .inl hh
  have first := placed.sheltered rfl hw
  exact first.trans (first.sustained.releasing hc _ _)

theorem Sustained.placeMailbox (hw : w.Sustained) {m : MailboxId}
    (hm : w.isAlive (.mailbox m) = true) (label : String) :
    Sheltered w (placeMailbox call label m w).1 := by
  let desk : Desk := { w.desk with mailboxes := w.desk.mailboxes.put label m }
  have placed : Mild w { w with desk } := by
    refine Mild.handles (fun h hh => ?_) (fun _ => .inl) (fun _ => .inl) fun _ => .inl
    rcases Shelf.mem_of_mem_put hh with rfl | hh
    · exact .inr hm
    · exact .inl hh
  have first := placed.sheltered rfl hw
  exact first.trans (first.sustained.releasing hc _ _)

theorem Sustained.placeSnapshot (hw : w.Sustained) {routes : List Route}
    (hr : ∀ x ∈ Route.refs routes, w.isAlive x = true) (label : String) (reply : Reply) :
    Sheltered w (placeSnapshot call label routes reply w).1 := by
  let desk : Desk := { w.desk with snapshots := w.desk.snapshots.put label routes }
  have placed : Mild w { w with desk } := by
    refine Mild.handles (fun _ => .inl) (fun _ => .inl) (fun _ => .inl) fun h hh => ?_
    rcases Shelf.mem_of_mem_put hh with rfl | hh
    · exact .inr hr
    · exact .inl hh
  have first := placed.sheltered rfl hw
  have old : ∀ x ∈ Route.refs ((w.desk.snapshots.get? label).getD []), w.isAlive x = true := by
    intro x hx
    cases kept : w.desk.snapshots.get? label with
    | none => simp [kept, Route.refs] at hx
    | some routes =>
      refine hw.desk_alive ?_
      simp only [Desk.refs, List.mem_append, List.mem_flatMap]
      exact .inr ⟨_, Shelf.mem_of_get? kept, by simpa [kept] using hx⟩
  have left := first.trans (first.sustained.released hc old)
  simp only [MessageBus.placeSnapshot]
  split <;> next e => exact (congrArg Prod.fst e).subst left

omit hc in
theorem Sustained.journalNamed (hw : w.Sustained) (label : String) :
    Sheltered w (w.journalNamed label).1 := by
  rw [Exchange.journalNamed]
  split
  · exact hw.sheltered
  · refine Mild.sheltered ?_ rfl hw
    exact Mild.of_still rfl rfl rfl fun _ => .inl

theorem Sustained.openMailbox (hw : w.Sustained) (label name : String) (target : Target)
    (conduct : Conduct) (onDrop : Option Reaction) :
    Sheltered w (openMailbox call label name target conduct onDrop w).1 := by
  have place {u : Exchange} (hu : u.Sustained) (handler : Handler) :
      Sheltered u (MessageBus.placeMailbox call label u.mailboxes.length
        { u with
          mailboxes := u.mailboxes ++
            [{ mailbox := ⟨u.mailboxes.length, name, target⟩, label, handler, onDrop }] }).1 := by
    let cell : MailboxCell :=
      { mailbox := ⟨u.mailboxes.length, name, target⟩, label, handler, onDrop }
    have kept : Mild u { u with mailboxes := u.mailboxes ++ [cell] } := .mailbox rfl
    have made := kept.sheltered rfl hu
    exact made.trans (made.sustained.placeMailbox hc (by simp [isAlive, cell]) _)
  cases conduct with
  | recording j =>
    have named := hw.journalNamed j
    exact named.trans (place named.sustained _)
  | responding react lenient j =>
    cases j with
    | none => exact place hw _
    | some j =>
      have named := hw.journalNamed j
      exact named.trans (place named.sustained _)

omit hc in
theorem Sustained.bus_alive (hw : w.Sustained) {b : BusId} {cell : BusCell}
    (hb : w.buses[b]? = some cell) (there : w.isAlive (.bus b) = true) :
    ∀ x ∈ cell.refs, w.isAlive x = true := by
  intro x hx
  simp only [isAlive, hb, Option.any_some] at there
  exact hw.alive x (mem_refs_of_bus (List.mem_of_getElem? hb) there hx)

theorem Sustained.clearBus (hw : w.Sustained) {b : BusId} (there : w.isAlive (.bus b) = true) :
    Sheltered w (clearBus call b w).1 := by
  rw [MessageBus.clearBus]
  split
  · exact hw.sheltered
  · next cell hb =>
    have cleared := ((Mild.cleared hb).sheltered rfl hw).log
      (.cleared cell.registry.clear.2.length)
    let refs : List Ref := cell.registry.clear.2.flatten.map fun s => .mailbox s.mailbox.id
    have kept : ∀ x ∈ refs, w.isAlive x = true := by
      intro x hx
      refine hw.bus_alive hb there x ?_
      rw [BusCell.refs, List.append_assoc]
      exact List.mem_append_left _ (by rwa [Registry.refs, Registry.all, List.flatMap_def])
    have left := cleared.trans (cleared.sustained.released hc fun x hx =>
      (Mild.cleared hb).isAlive (kept x hx))
    dsimp only
    split <;> next e => exact (congrArg Prod.fst e).subst left

theorem Sustained.unsubscribeMailbox (hw : w.Sustained) {b : BusId} {cell : BusCell}
    (hb : w.buses[b]? = some cell) (m : Mailbox) :
    Sheltered w (unsubscribeMailbox call b cell m w).1 := by
  rw [MessageBus.unsubscribeMailbox]
  split
  · exact hw.sheltered
  · next registry s h =>
    have taken := ((Mild.unsubscribed hb h).sheltered rfl hw).log
      (.unsubscribed s.mailbox s.seq)
    exact taken.trans (taken.sustained.releasing hc _ _)

theorem Sustained.emptyTray (hw : w.Sustained) {r : RecorderId}
    (there : w.isAlive (.recorder r) = true) (role : SinkRole) :
    Sheltered w (emptyTray call r role w).1 := by
  let refs : List Ref := ((w.recorders[r]?).map (·.refsOf role)).getD []
  have kept : ∀ x ∈ refs, w.isAlive x = true := by
    intro x hx
    refine hw.alive x (mem_refs_of_contents there ?_)
    simp only [refs, contents] at hx ⊢
    cases hr : w.recorders[r]? with
    | none => simp [hr] at hx
    | some c =>
      rw [hr] at hx
      cases role with
      | deadLetter => exact List.mem_append_left _ hx
      | failure => exact List.mem_append_right _ hx
  have emptied := (Mild.emptied w r role).sheltered rfl hw
  have left := emptied.trans (emptied.sustained.released hc fun x hx =>
    (Mild.emptied w r role).isAlive (kept x hx))
  simp only [MessageBus.emptyTray]
  split
  · next u t e =>
    rw [e] at left
    exact left.mild (.broken u r role) rfl
  · exact left

theorem Sustained.clearRecorder (hw : w.Sustained) {r : RecorderId}
    (held : .recorder r ∈ w.held.flatten) : Sheltered w (clearRecorder call r w).1 := by
  have first := hw.emptyTray hc (hw.held_alive held) .deadLetter
  rw [MessageBus.clearRecorder]
  rcases e : MessageBus.emptyTray call r .deadLetter w with ⟨u, _ | _⟩ <;> rw [e] at first
  · exact first
  · have held' : .recorder r ∈ u.held.flatten := first.held ▸ held
    have second := first.trans
      (first.sustained.emptyTray hc (first.sustained.held_alive held') .failure)
    dsimp only
    split <;> next e => simpa [e] using second

omit hc in
theorem Sustained.makeSink (hw : w.Sustained) (plan : SinkPlan) :
    Mild w (w.makeSink plan).1 ∧ (w.makeSink plan).1.held = w.held ∧
      ∀ x ∈ (w.makeSink plan).2.refs, (w.makeSink plan).1.isAlive x = true := by
  cases plan with
  | responding react => exact ⟨.refl w, rfl, by simp [Exchange.makeSink, Sink.refs]⟩
  | logging sink => exact ⟨.refl w, rfl, by simp [Exchange.makeSink, Sink.refs]⟩
  | recording label =>
    simp only [Exchange.makeSink, recorderNamed]
    split
    · next r h =>
      refine ⟨.refl w, rfl, fun x hx => ?_⟩
      rw [List.mem_singleton.mp hx]
      exact hw.desk_alive (Desk.mem_refs_of_recorder h)
    · refine ⟨.addRecorder w label, rfl, fun x hx => ?_⟩
      rw [List.mem_singleton.mp hx]
      simp [isAlive]

/-- A new bus is there, and what it holds is. -/
theorem Sustained.placeNew (hw : w.Sustained) {deadLetters failures : Sink}
    (hd : ∀ x ∈ deadLetters.refs, w.isAlive x = true)
    (hf : ∀ x ∈ failures.refs, w.isAlive x = true) (label : String) (reply : Reply) :
    Sheltered w (MessageBus.placeBus call label (w.addBus deadLetters failures).2 reply
      (w.addBus deadLetters failures).1).1 := by
  have made := (Mild.addBus hd hf).sheltered rfl hw
  exact made.trans (made.sustained.placeBus hc (by simp [isAlive, addBus]) label reply)

theorem Sustained.openBus (hw : w.Sustained) (label : String) (plan : BusPlan) :
    Sheltered w (openBus call label plan w).1 := by
  cases plan with
  | responding deadLetters failures =>
    exact hw.placeNew hc (by simp [Sink.refs]) (by simp [Sink.refs]) label _
  | recording name =>
    obtain ⟨made, held, shown⟩ := hw.makeSink (.recording name)
    have first := made.sheltered held hw
    exact first.trans (first.sustained.placeNew hc shown shown label _)
  | testing name =>
    let r : RecorderId := w.recorders.length
    have made := (Mild.addRecorder w name).sheltered rfl hw
    have shown : ∀ x ∈ (Sink.recorder r).refs, (w.addRecorder name).isAlive x = true := by
      intro x hx
      rw [List.mem_singleton.mp hx]
      simp [isAlive, addRecorder, r]
    have bus := made.mild (Mild.addBus shown shown) rfl
    have held : ∀ x ∈ [Ref.bus w.buses.length],
        ((w.addRecorder name).addBus (.recorder r) (.recorder r)).1.isAlive x = true := by
      intro x hx
      rw [List.mem_singleton.mp hx]
      simp [isAlive, addBus, addRecorder]
    have gone := (bus.sustained.hold held).releasing hc
      ((w.desk.recorders.get? name).map .recorder) .done
    simp only [MessageBus.openBus]
    split
    · next u _ e =>
      have hu : Sheltered _ u := (congrArg Prod.fst e).subst gone
      have there : u.isAlive (.bus w.buses.length) = true := by
        refine hu.sustained.held_alive ?_
        rw [hu.held]
        exact List.mem_cons_self
      exact (bus.trans hu.letGo).trans (hu.letGo.sustained.placeBus hc there _ _)
    · next u _ e =>
      have hu : Sheltered _ u := (congrArg Prod.fst e).subst gone
      exact bus.trans hu.letGo
    · next u _ e =>
      have hu : Sheltered _ u := (congrArg Prod.fst e).subst gone
      exact bus.trans (hu.releaseAll hc true)
  | logging sink =>
    cases sink with
    | error failure => exact hw.sheltered
    | ok sink => exact hw.placeNew hc (by simp [Sink.refs]) (by simp [Sink.refs]) label _
  | assembled deadLetters failures =>
    cases deadLetters with
    | none =>
      cases failures with
      | none => exact hw.sheltered
      | some failures =>
        obtain ⟨made, held, -⟩ := hw.makeSink failures
        exact made.sheltered held hw
    | some deadLetters =>
      obtain ⟨made, held, shown⟩ := hw.makeSink deadLetters
      have first := made.sheltered held hw
      cases failures with
      | none => exact first
      | some failures =>
        obtain ⟨made', held', shown'⟩ := first.sustained.makeSink failures
        have second := first.mild made' held'
        exact second.trans (second.sustained.placeNew hc
          (fun x hx => made'.isAlive (shown x hx)) shown' label _)

/-- A sink of user code tells of its call and reacts. -/
theorem Sustained.told (hw : w.Sustained) (a : Announcement) {letter : Letter}
    (hl : .bus letter.bus ∈ w.held.flatten) (reaction : Reaction) :
    Sheltered w (Outcome.ignored (call (.react (some letter) reaction) (w.announce a))).1 := by
  have told := hw.sheltered.announce a
  have reacted := told.trans (hc (.react (some letter) reaction) _ told.sustained hl)
  simp only [Outcome.ignored]
  split <;> next e => exact (congrArg Prod.fst e).subst reacted

theorem Sustained.reportReturned {x : ReturnedMessage} (hw : (w.keepReturned x).Sustained)
    (hb : x.bus < w.buses.length) (hx : .bus x.bus ∈ w.held.flatten) :
    Sheltered (w.keepReturned x) (reportReturned call x w).1 := by
  have here := List.getElem?_eq_getElem hb
  simp only [MessageBus.reportReturned, keepReturned, returnedBox, here, Option.bind_some] at hw ⊢
  cases sink : w.buses[x.bus].deadLetters with
  | responding react =>
    rw [sink] at hw
    have counted := hw.sheltered.mild (u := w.modifyBus x.bus fun c =>
      { c with deadLetterCalls := c.deadLetterCalls + 1 })
      (Mild.modifyBus (fun _ => rfl) fun _ _ _ _ => .inl) rfl
    exact counted.trans (counted.sustained.told hc _ hx _)
  | recorder id =>
    rw [sink] at hw
    exact hw.sheltered
  | logging sink' =>
    rw [sink] at hw
    exact hw.sheltered.log _

theorem Sustained.reportFailed {x : FailedMessage} (hw : (w.keepFailed x).Sustained)
    (hb : x.bus < w.buses.length) (hx : .bus x.bus ∈ w.held.flatten) :
    Sheltered (w.keepFailed x) (reportFailed call x w).1 := by
  have here := List.getElem?_eq_getElem hb
  simp only [MessageBus.reportFailed, keepFailed, failedBox, here, Option.bind_some] at hw ⊢
  cases sink : w.buses[x.bus].failures with
  | responding react =>
    rw [sink] at hw
    have counted := hw.sheltered.mild (u := w.modifyBus x.bus fun c =>
      { c with failureCalls := c.failureCalls + 1 })
      (Mild.modifyBus (fun _ => rfl) fun _ _ _ _ => .inl) rfl
    exact counted.trans (counted.sustained.told hc _ hx _)
  | recorder id =>
    rw [sink] at hw
    exact hw.sheltered
  | logging sink' =>
    rw [sink] at hw
    exact hw.sheltered.log _

/-- Handing a message to a mailbox strikes nothing off of itself. -/
theorem Sustained.deliver (hw : w.Sustained) (mailbox : Mailbox) (m : Message) :
    Sheltered w (deliver call mailbox m w).1 := by
  have told {u : Exchange} (hu : Sheltered w u) (a : Announcement) (reaction : Reaction) :
      Sheltered w (call (.react none reaction) (u.announce a)).1 := by
    have announced := hu.announce a
    exact announced.trans (hc (.react none reaction) _ announced.sustained trivial)
  rw [MessageBus.deliver]
  split
  · exact hw.sheltered
  · rw [respond]
    split
    · exact hw.sheltered
    · dsimp only
      split
      · exact hw.sheltered.mild (.note w _ _) rfl
      · next cell _ _ react lenient journal _ =>
        have called := hw.sheltered.mild (.called w mailbox.id) rfl
        cases journal with
        | none =>
          dsimp only
          split <;> next e => exact (congrArg Prod.fst e).subst (told called _ _)
        | some j =>
          have noted (entry : DeliveryRecord) := called.mild (.note _ j entry) rfl
          dsimp only
          split <;> next e => exact (congrArg Prod.fst e).subst (told (noted _) _ _)

omit hc in
/-- A call for a dispatch whose mailboxes are all there. -/
theorem Sheltered.calling (h : Sheltered w v) {d : Dispatch} (intact : Intact d v.history)
    {o : Occurrence} (ho : o.call? = some d) : Sheltered w (v.record o) := by
  have quiet : ∀ x, o ≠ .dropped x := by
    rintro x rfl
    simp [Occurrence.call?] at ho
  have spares := (Spares.refl v).record o quiet
  refine h.trans ⟨⟨fun x hx => spares.isAlive (h.sustained.alive x hx), ?_, ?_, ?_⟩, rfl, ?_⟩
  · exact spares.mortal h.sustained.mortal
  · rw [history_record]
    refine h.sustained.attended.snoc fun e he => ?_
    rw [ho, Option.mem_some] at he
    exact he ▸ intact
  · exact h.sustained.ids
  · exact ⟨[o], (history_record v o).symm⟩

/-- A dispatch with a plan is under way: it has begun, and running code holds its bus and the
mailboxes of its plan. -/
structure Serving (d : Dispatch) (plan : List (Tag × Subscription)) (w : Exchange) : Prop where
  begun : .published d plan ∈ w.history
  bus : .bus d.bus ∈ w.held.flatten
  mailboxes : ∀ s ∈ plan.map (·.2), .mailbox s.mailbox.id ∈ w.held.flatten

omit hc in
theorem Serving.later {d : Dispatch} {plan : List (Tag × Subscription)} (hs : Serving d plan w)
    (h : Sheltered w v) : Serving d plan v :=
  ⟨h.history.subset hs.begun, h.held ▸ hs.bus, h.held ▸ hs.mailboxes⟩

omit hc in
theorem Serving.intact {d : Dispatch} {plan : List (Tag × Subscription)} (hs : Serving d plan w)
    (hw : w.Sustained) : Intact d w.history :=
  ⟨plan, hs.begun, fun s member => hw.mortal.not_dropped (hw.held_alive (hs.mailboxes s member))⟩

omit hc in
theorem lt_of_isAlive {b : BusId} (there : w.isAlive (.bus b) = true) : b < w.buses.length := by
  simp only [isAlive, Option.any_eq_true] at there
  obtain ⟨_, hb, -⟩ := there
  exact (List.getElem?_eq_some_iff.mp hb).1

theorem Sustained.deliverAll (hw : w.Sustained) {d : Dispatch}
    {plan rest : List (Tag × Subscription)} (hs : Serving d plan w) (part : rest ⊆ plan) :
    Sheltered w (deliverAll call d rest w).1 := by
  induction rest generalizing w with
  | nil => exact hw.sheltered
  | cons entry rest ih =>
    obtain ⟨tag, s⟩ := entry
    have later := List.subset_of_cons_subset part
    have calling {v : Exchange} (h : Sheltered w v) {o : Occurrence} (ho : o.call? = some d) :
        Sheltered w (v.record o) := h.calling ((hs.later h).intact h.sustained) ho
    have logged := hw.sheltered.log (.delivering d.message.tag tag s.mailbox.name s.seq)
    have invoked := calling logged (o := .invoked d s) rfl
    have ran := invoked.trans (invoked.sustained.deliver hc s.mailbox d.message)
    simp only [MessageBus.deliverAll]
    generalize MessageBus.deliver call s.mailbox d.message _ = result at ran ⊢
    obtain ⟨u, outcome⟩ := result
    have answered := calling ran (o := .answered d s outcome) rfl
    -- Only a mailbox that failed recoverably leads on through the failure sink.
    obtain h | _ | cause | cause := outcome
    · exact answered
    · exact answered.trans (ih answered.sustained (hs.later answered) later)
    · let x : FailedMessage := { bus := d.bus, mailbox := s.mailbox, message := d.message, cause }
      have refused := answered.log (.refused d.message.tag s.mailbox.name cause)
      have failed := calling refused (o := .failed d x) rfl
      have serving := hs.later failed
      have bus := failed.sustained.held_alive serving.bus
      have member : s ∈ plan.map (·.2) := List.mem_map_of_mem (part List.mem_cons_self)
      have mailbox := failed.sustained.held_alive (serving.mailboxes s member)
      have kept := failed.mild (.keepFailed (x := x) bus mailbox) (held_keepFailed _ x)
      have reported := kept.trans (kept.sustained.reportFailed hc (lt_of_isAlive bus) serving.bus)
      dsimp only
      generalize MessageBus.reportFailed call x _ = sunk at reported ⊢
      obtain ⟨v, result⟩ := sunk
      have heard := calling reported (o := .heard d result) rfl
      cases result with
      | error h => exact heard
      | ok => exact heard.trans (ih heard.sustained (hs.later heard) later)
    · exact answered.log _

theorem Sustained.dispatchAlong (hw : w.Sustained) {d : Dispatch} {routes : List Route}
    (begun : .published d (Route.plan routes) ∈ w.history) (bus : .bus d.bus ∈ w.held.flatten)
    (there : ∀ x ∈ Route.refs routes, w.isAlive x = true) :
    Sheltered w (dispatchAlong call d routes w).1 := by
  simp only [MessageBus.dispatchAlong]
  split
  · next empty =>
    have serving : Serving d (Route.plan routes) w :=
      ⟨begun, bus, by simp [Route.plan, List.isEmpty_iff.mp empty]⟩
    have calling {v : Exchange} (h : Sheltered w v) {o : Occurrence} (ho : o.call? = some d) :
        Sheltered w (v.record o) := h.calling ((serving.later h).intact h.sustained) ho
    let x : ReturnedMessage := { bus := d.bus, message := d.message }
    have logged := hw.sheltered.log (.unmatched d.message.tag)
    have returned := calling logged (o := .returned d x) rfl
    have bus := returned.sustained.held_alive (serving.later returned).bus
    have kept := returned.mild (.keepReturned (x := x) bus) (held_keepReturned _ x)
    have reported := kept.trans
      (kept.sustained.reportReturned hc (lt_of_isAlive bus) (serving.later returned).bus)
    exact calling reported (o := .heard d _) rfl
  · have held := hw.hold there
    have serving : Serving d (Route.plan routes) (w.hold (Route.refs routes)) := by
      refine ⟨begun, List.mem_append_right _ bus, fun s hs => List.mem_append_left _ ?_⟩
      obtain ⟨entry, he, rfl⟩ := List.mem_map.mp hs
      obtain ⟨r, hr, he⟩ := List.mem_flatMap.mp he
      obtain ⟨_, listed, rfl⟩ := List.mem_map.mp he
      exact List.mem_flatMap.mpr ⟨r, hr, List.mem_map_of_mem listed⟩
    have delivered := held.deliverAll hc serving (List.Subset.refl _)
    rcases e : MessageBus.deliverAll call d (Route.plan routes) _ with ⟨u, (t | _) | x⟩ <;>
      rw [e] at delivered
    · exact (delivered.releaseAll hc true).mild ((Mild.refl _).record _ (by simp) rfl) rfl
    · exact delivered.letGo
    · exact (delivered.releaseAll hc false).mild ((Mild.refl _).record _ (by simp) rfl) rfl

theorem Sustained.publish (hw : w.Sustained) {b : BusId} (bus : .bus b ∈ w.held.flatten)
    (m : Message) : Sheltered w (publish call b m w).1 := by
  let d := (w.resolve b m).1.nextDispatch b m
  let routes := (w.resolve b m).1.routesFor b (w.resolve b m).2
  have resolved := (Mild.resolve w b m).sheltered (held_resolve w b m) hw
  have begun := resolved.mild (.begun _ d routes) rfl
  have there : ∀ x ∈ Route.refs routes, (w.resolve b m).1.isAlive x = true := by
    intro x hx
    simp only [routes, routesFor] at hx
    cases hb : (w.resolve b m).1.buses[b]? with
    | none => simp [hb, Route.refs] at hx
    | some cell =>
      rw [hb] at hx
      refine resolved.sustained.bus_alive hb (resolved.sustained.held_alive ?_) x ?_
      · exact resolved.held ▸ bus
      · rw [BusCell.refs, List.append_assoc]
        exact List.mem_append_left _ (Registry.mem_refs_entriesFor hx)
  have started : .published d (Route.plan routes) ∈
      ((w.resolve b m).1.beginDispatch d routes).history := by simp [beginDispatch]
  have along := begun.trans (begun.sustained.dispatchAlong hc started (begun.held ▸ bus) there)
  exact along.mild ((Mild.refl _).record _ (by simp) rfl) rfl

theorem Sustained.publishTimes (hw : w.Sustained) {b : BusId} (bus : .bus b ∈ w.held.flatten)
    (m : Message) (n : Nat) : Sheltered w (publishTimes call b m n w).1 := by
  induction n generalizing w with
  | zero => exact hw.sheltered
  | succ n ih =>
    have once := hw.publish hc bus m
    have later := ih once.sustained (once.held ▸ bus)
    rw [MessageBus.publishTimes]
    rcases e : MessageBus.publish call b m w with ⟨u, _ | _ | _⟩ <;> rw [e] at once later
    · exact once
    · exact once.trans later
    · exact once

/-- A bus is held while messages are published on it. -/
theorem Sustained.published (hw : w.Sustained) {b : BusId} (there : w.isAlive (.bus b) = true)
    (m : Message) (n : Nat) :
    Sheltered w (whileHolding call [.bus b] (MessageBus.publishTimes call b m n) w).1 := by
  have held : (w.hold [.bus b]).Sustained := hw.hold (by simpa using there)
  exact Sheltered.whileHolding hc (held.publishTimes hc List.mem_cons_self m n)

omit hc in
theorem Sustained.named_alive (hw : w.Sustained) {label : String} {b : BusId} {cell : BusCell}
    (h : w.busNamed? label = some (b, cell)) : w.isAlive (.bus b) = true := by
  simp only [busNamed?, Option.bind_eq_some_iff, Option.map_eq_some_iff, Prod.mk.injEq] at h
  obtain ⟨_, hb, _, _, rfl, _⟩ := h
  exact hw.desk_alive (Desk.mem_refs_of_bus hb)

omit hc in
theorem Sustained.mailbox_alive (hw : w.Sustained) {label : String} {m : Mailbox}
    (h : w.mailboxNamed? label = some m) : w.isAlive (.mailbox m.id) = true := by
  simp only [mailboxNamed?, Option.bind_eq_some_iff, Option.map_eq_some_iff] at h
  obtain ⟨i, hi, cell, hcell, rfl⟩ := h
  have id : cell.mailbox.id = i := hw.ids i _ (by simp [hcell])
  rw [id]
  exact hw.desk_alive (Desk.mem_refs_of_mailbox hi)

theorem Sustained.perform (hw : w.Sustained) {letter : Option Letter}
    (hl : ∀ l ∈ letter, .bus l.bus ∈ w.held.flatten) (step : Step) :
    Sheltered w (perform call letter step w).1 := by
  match step with
  | .unknown _ => exact hw.sheltered
  | .guarded step =>
    have inner := Sustained.perform hw hl step
    simp only [MessageBus.perform]
    split
    · next e => exact (congrArg Prod.fst e).subst inner
    · exact inner
  | .openBus id plan => exact hw.openBus hc id plan
  | .openMailbox id name target conduct onDrop =>
    exact hw.openMailbox hc id name target conduct onDrop
  | .cloneMailbox id other =>
    simp only [MessageBus.perform]
    split
    · exact hw.sheltered
    · next hm => exact hw.placeMailbox hc (hw.desk_alive (Desk.mem_refs_of_mailbox hm)) _
  | .forget id =>
    simp only [MessageBus.perform]
    split
    · exact hw.sheltered
    · let desk : Desk := { w.desk with mailboxes := w.desk.mailboxes.remove id }
      have forgotten : Mild w { w with desk } :=
        Mild.handles (fun _ hh => .inl (Shelf.mem_of_mem_remove hh)) (fun _ => .inl) (fun _ => .inl)
          fun _ => .inl
      have first := forgotten.sheltered rfl hw
      exact first.trans (first.sustained.releasing hc _ _)
  | .subscribe bus id numbered =>
    simp only [MessageBus.perform]
    split
    · next b cell m hb hm =>
      exact (Mild.subscribed (getElem?_of_busNamed? hb) (hw.mailbox_alive hm)).sheltered rfl hw
    · exact hw.sheltered
  | .unsubscribe bus id =>
    simp only [MessageBus.perform]
    split
    · next b cell m hb hm => exact hw.unsubscribeMailbox hc (getElem?_of_busNamed? hb) m
    · exact hw.sheltered
  | .publish bus message times =>
    simp only [MessageBus.perform]
    split
    · exact hw.sheltered
    · next hb => exact hw.published hc (hw.named_alive hb) _ _
  | .republish bus =>
    cases letter with
    | none => exact hw.sheltered
    | some letter =>
      cases bus with
      | none => exact hw.published hc (hw.held_alive (hl letter rfl)) _ _
      | some bus =>
        simp only [MessageBus.perform]
        split
        · exact hw.sheltered
        · next hb => exact hw.published hc (hw.named_alive hb) _ _
  | .clear bus =>
    simp only [MessageBus.perform]
    split
    · exact hw.sheltered
    · next b _ hb =>
      have there := hw.named_alive hb
      have held : (w.hold [.bus b]).Sustained := hw.hold (by simpa using there)
      exact Sheltered.whileHolding hc (held.clearBus hc there)
  | .entries bus tags keep =>
    simp only [MessageBus.perform]
    split
    · exact hw.sheltered
    · next b cell hb =>
      cases keep with
      | none => exact hw.sheltered
      | some label =>
        have there := hw.named_alive hb
        have held : (w.hold [.bus b]).Sustained := hw.hold (by simpa using there)
        refine Sheltered.whileHolding hc (held.placeSnapshot hc (fun x hx => ?_) _ _)
        refine hw.bus_alive (getElem?_of_busNamed? hb) there x ?_
        rw [BusCell.refs, List.append_assoc]
        exact List.mem_append_left _ (Registry.mem_refs_entriesFor hx)
  | .resolve bus message =>
    simp only [MessageBus.perform]
    split
    · exact hw.sheltered
    · exact (Mild.resolve w _ message).sheltered (held_resolve w _ message) hw
  | .cloneBus bus other =>
    simp only [MessageBus.perform]
    split
    · exact hw.sheltered
    · next hb => exact hw.placeBus hc (hw.named_alive hb) _ _
  | .downgrade bus other =>
    simp only [MessageBus.perform]
    split
    · exact hw.sheltered
    · refine Mild.sheltered ?_ rfl hw
      exact Mild.of_still rfl rfl rfl fun _ => .inl
  | .upgrade id keep =>
    simp only [MessageBus.perform]
    split
    · exact hw.sheltered
    · split
      · next there =>
        cases keep with
        | none => exact hw.sheltered
        | some label => exact hw.placeBus hc there _ _
      · exact hw.sheltered
  | .dropBus bus =>
    simp only [MessageBus.perform]
    split
    · exact hw.sheltered
    · let desk : Desk := { w.desk with buses := w.desk.buses.remove bus }
      have forgotten : Mild w { w with desk } :=
        Mild.handles (fun _ => .inl) (fun _ hh => .inl (Shelf.mem_of_mem_remove hh)) (fun _ => .inl)
          fun _ => .inl
      have first := forgotten.sheltered rfl hw
      exact first.trans (first.sustained.releasing hc _ _)
  | .recorder id query =>
    simp only [MessageBus.perform]
    split
    · exact hw.sheltered
    · next r hr =>
      cases query with
      | clear =>
        have there := hw.desk_alive (Desk.mem_refs_of_recorder hr)
        have held : (w.hold [.recorder r]).Sustained := hw.hold (by simpa using there)
        exact Sheltered.whileHolding hc (held.clearRecorder hc List.mem_cons_self)
      | _ => exact hw.sheltered
  | .journal id query => exact hw.journalNamed id
  | .emit event => exact hw.sheltered.log event
  | .countAll _ | .countFor _ _ | .showRoutes _ | .showRoutesText _ _ | .describe _ _
  | .compare _ _ | .showBus _ _ _ | .showWeak _ _ | .compareBuses _ _ =>
    simp only [MessageBus.perform]
    split <;> exact hw.sheltered

theorem Sustained.performAll (hw : w.Sustained) {letter : Option Letter}
    (hl : ∀ l ∈ letter, .bus l.bus ∈ w.held.flatten) (steps : List Step) :
    Sheltered w (performAll call letter steps w).1 := by
  induction steps generalizing w with
  | nil => exact hw.sheltered
  | cons step rest ih =>
    have first := hw.perform hc hl step
    rw [MessageBus.performAll]
    rcases e : MessageBus.perform call letter step w with ⟨u, _ | reply⟩ <;> rw [e] at first
    · exact first
    · have told := first.announce (.ran step.word reply)
      exact told.trans (ih told.sustained (told.held ▸ hl))

theorem Shelters.carryOut : Shelters (Work.carryOut call) := by
  intro work w hw backed
  cases work with
  | release x => exact hw.release hc x
  | react letter reaction =>
    have hl : ∀ l ∈ letter, .bus l.bus ∈ w.held.flatten := by
      rintro l rfl
      exact backed
    have ran := hw.performAll hc hl reaction.steps
    simp only [Work.carryOut]
    split <;> next e => exact (congrArg Prod.fst e).subst ran

end

/-- To whatever depth the calls of user code nest, it shelters. -/
theorem shelters_runner (depth : Nat) : Shelters (runner depth) := by
  induction depth with
  | zero => exact fun _ w hw _ => hw.sheltered
  | succ depth ih => exact Shelters.carryOut ih

theorem sustained_empty : Sustained {} := by
  refine ⟨by simp [refs, Desk.refs], ?_, ?_, by simp [Identified]⟩
  · exact Reachable.mortal .refl
  · intro h₁ o h₂ e
    simp [history] at e

theorem sustained_run (steps : List (Nat × Step)) : (run {} steps).Sustained := by
  suffices h : ∀ w : Exchange, w.Sustained → (w.run steps).Sustained from h {} sustained_empty
  induction steps with
  | nil => exact fun _ hw => hw
  | cons s steps ih =>
    intro w hw
    have first : (w.step s.1 s.2).1.Sustained :=
      (hw.perform (shelters_runner s.1) (by simp) s.2).sustained
    exact run_cons (fun _ => first) fun _ => ih _ first

end MessageBus.Exchange
