import MessageBus.Proofs.Exchange.Attested
import MessageBus.Proofs.Exchange.Clearing

namespace MessageBus

/-- A handler whose code does nothing but end in some way. -/
def Handler.Mute : Handler → Prop
  | .recording _ => True
  | .responding react _ _ => ∀ view n, (react view n).steps = []

def Sink.Mute : Sink → Prop
  | .responding react => ∀ receipt n, (react receipt n).steps = []
  | _ => True

/-- Nothing was stopped: what was done came to its end, or was left by a panic. -/
def Except.Unstopped {α : Type} (r : Except Halt α) : Prop := ∀ cause, r ≠ .error (.stopped cause)

theorem unstopped_ok {α : Type} (a : α) : Except.Unstopped (.ok a) := nofun

theorem Ending.outcome_unstopped (e : Ending) : Except.Unstopped e.outcome := by
  cases e <;> nofun

theorem map_unstopped {α β : Type} {r : Except Halt α} (unstopped : Except.Unstopped r)
    (f : α → β) : Except.Unstopped (r.map f) := by
  rcases r with (t | cause) | a
  · nofun
  · exact absurd rfl (unstopped cause)
  · exact unstopped_ok (f a)

theorem error_unstopped {α β : Type} {h : Halt}
    (unstopped : Except.Unstopped (.error h : Except Halt α)) :
    Except.Unstopped (.error h : Except Halt β) :=
  fun cause same => unstopped cause (congrArg _ (Except.error.inj same))

/-- Nothing that was not stopped has aborted the program. -/
theorem aborts_of_unstopped {α : Type} {r : Except Halt α} (unstopped : Except.Unstopped r) :
    Except.aborts r = false := by
  rcases r with (t | cause) | a
  · rfl
  · exact absurd rfl (unstopped cause)
  · rfl

theorem Except.unlessHalted_ok {α : Type} (r : Except Halt α) :
    Except.unlessHalted r (.ok ()) = r := by
  cases r <;> rfl

namespace Exchange

/-- The handles there are, and what mailboxes and buses are made of for good. -/
def outline (w : Exchange) :
    Desk × List (Mailbox × Handler × Option Reaction) × List (Sink × Sink) :=
  (w.desk, w.mailboxes.map fun c => (c.mailbox, c.handler, c.onDrop), w.buses.map (·.sinks))

/-- All user code there is does nothing but end in some way, and none is run when a mailbox is
gone. -/
structure Mute (w : Exchange) : Prop where
  handlers : ∀ x ∈ w.outline.2.1, x.2.1.Mute ∧ x.2.2 = none
  sinks : ∀ x ∈ w.outline.2.2, x.1.Mute ∧ x.2.Mute

/-- What is done leaves the handles as they are, makes nothing new, and is not stopped. -/
structure Rests {α : Type} (w : Exchange) (result : Exchange × Except Halt α) : Prop where
  outline : result.1.outline = w.outline
  unstopped : Except.Unstopped result.2

end Exchange

/-- A runner that carries out mute code: it comes to its end, and nothing else comes of a mailbox
that is gone or of something that is held elsewhere. -/
structure Runner.CarriesMute (call : Runner) : Prop where
  reacts : ∀ letter (reaction : Reaction) (w : Exchange), reaction.steps = [] →
    call (.react letter reaction) w = (w, reaction.ending.outcome)
  releases : ∀ m (w : Exchange), w.Mute →
    ∃ v : Exchange, v.outline = w.outline ∧ call (.release (.mailbox m)) w = (v, .ok none)
  keeps : ∀ x (w : Exchange), w.holds x = true → call (.release x) w = (w, .ok none)

namespace Exchange

variable {w v u : Exchange} {b : BusId} {α : Type}

theorem Mute.of_outline (h : w.Mute) (same : v.outline = w.outline) : v.Mute :=
  ⟨same ▸ h.handlers, same ▸ h.sinks⟩

theorem Mute.handler (h : w.Mute) {cell : MailboxCell} (there : cell ∈ w.mailboxes) :
    cell.handler.Mute ∧ cell.onDrop = none :=
  h.handlers _ (List.mem_map_of_mem there)

theorem Mute.busSinks (h : w.Mute) {cell : BusCell} (there : cell ∈ w.buses) :
    cell.deadLetters.Mute ∧ cell.failures.Mute :=
  h.sinks _ (List.mem_map_of_mem there)

theorem Rests.after {result : Exchange × Except Halt α} (h : Rests v result)
    (first : v.outline = w.outline) : Rests w result :=
  ⟨h.outline.trans first, h.unstopped⟩

theorem outline_modifyBus (b : BusId) (f : BusCell → BusCell) (still : ∀ c, (f c).sinks = c.sinks) :
    (w.modifyBus b f).outline = w.outline := by
  rw [outline, outline, modifyBus, map_modify_of_still _ f still]

theorem outline_modifyMailbox (m : MailboxId) (f : MailboxCell → MailboxCell)
    (still : ∀ c, ((f c).mailbox, (f c).handler, (f c).onDrop) = (c.mailbox, c.handler, c.onDrop)) :
    (w.modifyMailbox m f).outline = w.outline := by
  rw [outline, outline, modifyMailbox, map_modify_of_still _ f still]

theorem outline_resolve (b : BusId) (m : Message) : (w.resolve b m).1.outline = w.outline := by
  cases hb : w.buses[b]? with
  | none => rw [resolve_none hb]
  | some cell =>
    obtain ⟨u, hu, resolves⟩ := resolve_some hb m
    have kept := outline_modifyBus (w := u) b
      (fun c => { c with resolver := (cell.resolver.resolve m).1 }) fun _ => rfl
    rw [resolves]
    refine kept.trans ?_
    rcases hu with rfl | ⟨e, rfl⟩ <;> rfl

theorem carriesMute_runner (depth : Nat) : Runner.CarriesMute (runner (depth + 1)) where
  reacts letter reaction w still := by
    simp only [runner, Work.carryOut, still, performAll]
  releases m w hw := by
    simp only [runner, Work.carryOut, MessageBus.release]
    split
    · exact ⟨w, rfl, rfl⟩
    · have struck : (w.strike (.mailbox m)).outline = w.outline :=
        outline_modifyMailbox (w := w) m (fun c => { c with alive := false }) fun _ => rfl
      have silent : ((w.strike (.mailbox m)).mailboxes[m]?).bind
          (fun c => c.onDrop.map fun r => (c.label, r)) = none := by
        cases there : (w.strike (.mailbox m)).mailboxes[m]? with
        | none => rfl
        | some cell =>
          have quiet := ((hw.of_outline struck).handler (List.mem_of_getElem? there)).2
          rw [Option.bind_some, quiet]
          rfl
      exact ⟨w.strike (.mailbox m), struck, by simp only [silent]⟩
  keeps x w held := by
    simp only [runner, Work.carryOut, MessageBus.release, held, Bool.true_or, if_true]

section

variable {call : Runner} (hc : call.CarriesMute)

include hc

theorem Mute.releaseAll (unwinding : Bool) {xs : List Ref}
    (mailboxes : ∀ x ∈ xs, ∃ m, x = .mailbox m) (hw : w.Mute) :
    ∃ v : Exchange, v.outline = w.outline ∧ releaseAll call unwinding xs w = (v, .ok ()) := by
  induction xs generalizing w with
  | nil => exact ⟨w.letGo, rfl, rfl⟩
  | cons x rest ih =>
    obtain ⟨m, rfl⟩ := mailboxes x List.mem_cons_self
    have held : (w.holdOnly rest).outline = w.outline := rfl
    obtain ⟨u, same, gone⟩ := hc.releases m (w.holdOnly rest) (hw.of_outline held)
    obtain ⟨v, same', left⟩ := ih (fun y hy => mailboxes y (List.mem_cons_of_mem _ hy))
      (hw.of_outline (same.trans held))
    refine ⟨v, same'.trans (same.trans held), ?_⟩
    rw [MessageBus.releaseAll, gone]
    exact left

theorem Mute.released {xs : List Ref} (mailboxes : ∀ x ∈ xs, ∃ m, x = .mailbox m) (hw : w.Mute) :
    ∃ v : Exchange, v.outline = w.outline ∧
      MessageBus.releaseAll call false xs (w.hold xs) = (v, .ok ()) :=
  Mute.releaseAll hc false mailboxes (hw.of_outline (v := w.hold xs) rfl)

/-- A bus with a handle is not gone when it is let go of. -/
theorem Rests.whileHolding {label : String} (handle : w.desk.buses.get? label = some b)
    {run : Exchange → Exchange × Except Halt α} (h : Rests w (run (w.hold [.bus b]))) :
    Rests w (whileHolding call [.bus b] run w) := by
  rw [MessageBus.whileHolding]
  generalize run (w.hold [.bus b]) = result at h ⊢
  obtain ⟨u, r⟩ := result
  have desk : u.desk = w.desk := congrArg Prod.fst h.outline
  have there : Ref.bus b ∈ (u.holdOnly []).desk.refs :=
    Desk.mem_refs_of_bus (show u.desk.buses.get? label = some b from desk ▸ handle)
  have kept := hc.keeps (.bus b) (u.holdOnly []) ((holds_iff _ _).mpr (mem_refs_of_desk there))
  have left : releaseAll call (Except.unwinds r) [.bus b] u = ((u.holdOnly []).letGo, .ok ()) := by
    rw [MessageBus.releaseAll, kept]
    rfl
  split
  · next same => exact absurd (congrArg Prod.snd same) (h.unstopped _)
  · next same =>
    obtain ⟨rfl, rfl⟩ := Prod.mk.inj same
    rw [left]
    dsimp only
    rw [Except.unlessHalted_ok]
    exact ⟨h.outline, h.unstopped⟩

theorem Mute.respond (mailbox : Mailbox) (view : Message) (hw : w.Mute) :
    Rests w (respond call mailbox view w) := by
  rw [MessageBus.respond]
  cases there : w.mailboxes[mailbox.id]? with
  | none => exact ⟨rfl, unstopped_ok _⟩
  | some cell =>
    have mute := (hw.handler (List.mem_of_getElem? there)).1
    have called := outline_modifyMailbox (w := w) mailbox.id
      (fun c => { c with calls := c.calls + 1 }) fun _ => rfl
    dsimp only
    cases handler : cell.handler with
    | recording j => exact ⟨rfl, unstopped_ok _⟩
    | responding react lenient journal =>
      rw [handler] at mute
      have still : (react view (cell.calls + 1)).steps = [] := mute _ _
      have unstopped := (react view (cell.calls + 1)).ending.outcome_unstopped
      dsimp only
      rw [hc.reacts _ _ _ still]
      cases ended : (react view (cell.calls + 1)).ending.outcome with
      | ok refusal => cases journal <;> exact ⟨called, unstopped_ok _⟩
      | error h =>
        rw [ended] at unstopped
        cases journal <;> exact ⟨called, unstopped⟩

theorem Mute.deliver (mailbox : Mailbox) (m : Message) (hw : w.Mute) :
    Rests w (deliver call mailbox m w) := by
  rw [MessageBus.deliver]
  cases mailbox.target.narrow m with
  | none => exact ⟨rfl, unstopped_ok _⟩
  | some view => exact hw.respond hc mailbox view

/-- A sink of mute code is called and comes to its end. -/
theorem Rests.heard (called : v.outline = w.outline) (note : SinkNote) (letter : Option Letter)
    {reaction : Reaction} (still : reaction.steps = []) :
    Rests w (Outcome.ignored (call (.react letter reaction) (v.announce (.sink note)))) := by
  have unstopped := reaction.ending.outcome_unstopped
  rw [hc.reacts _ _ _ still]
  cases ended : reaction.ending.outcome with
  | ok refusal => exact ⟨called, unstopped_ok _⟩
  | error h =>
    rw [ended] at unstopped
    exact ⟨called, error_unstopped unstopped⟩

theorem Mute.reportReturned (x : ReturnedMessage) (hw : w.Mute) :
    Rests w (reportReturned call x w) := by
  rw [MessageBus.reportReturned]
  cases there : w.buses[x.bus]? with
  | none => exact ⟨rfl, unstopped_ok _⟩
  | some cell =>
    have mute := (hw.busSinks (List.mem_of_getElem? there)).1
    dsimp only
    cases sink : cell.deadLetters with
    | responding react =>
      rw [sink] at mute
      have called := outline_modifyBus (w := w) x.bus
        (fun c => { c with deadLetterCalls := c.deadLetterCalls + 1 }) fun _ => rfl
      exact Rests.heard hc called _ _ (mute _ _)
    | recorder | logging => exact ⟨rfl, unstopped_ok _⟩

theorem Mute.reportFailed (x : FailedMessage) (hw : w.Mute) :
    Rests w (reportFailed call x w) := by
  rw [MessageBus.reportFailed]
  cases there : w.buses[x.bus]? with
  | none => exact ⟨rfl, unstopped_ok _⟩
  | some cell =>
    have mute := (hw.busSinks (List.mem_of_getElem? there)).2
    dsimp only
    cases sink : cell.failures with
    | responding react =>
      rw [sink] at mute
      have called := outline_modifyBus (w := w) x.bus
        (fun c => { c with failureCalls := c.failureCalls + 1 }) fun _ => rfl
      exact Rests.heard hc called _ _ (mute _ _)
    | recorder | logging => exact ⟨rfl, unstopped_ok _⟩

theorem Mute.deliverAll (d : Dispatch) (plan : List (Tag × Subscription)) (hw : w.Mute) :
    Rests w (deliverAll call d plan w) := by
  induction plan generalizing w with
  | nil => exact ⟨rfl, unstopped_ok _⟩
  | cons entry rest ih =>
    obtain ⟨tag, s⟩ := entry
    let asking := (w.log (.delivering d.message.tag tag s.mailbox.name s.seq)).record (.invoked d s)
    have asked : Rests w (MessageBus.deliver call s.mailbox d.message asking) :=
      ((hw.of_outline (v := asking) rfl).deliver hc s.mailbox d.message).after rfl
    simp only [MessageBus.deliverAll]
    generalize MessageBus.deliver call s.mailbox d.message _ = result at asked ⊢
    obtain ⟨u, outcome⟩ := result
    have later {v : Exchange} (same : v.outline = w.outline) :
        Rests w (MessageBus.deliverAll call d rest v) :=
      (ih (hw.of_outline same)).after same
    rcases outcome with h | _ | cause | cause
    case error => exact ⟨asked.outline, error_unstopped asked.unstopped⟩
    case ok.none => exact later asked.outline
    case ok.some.fatal => exact ⟨asked.outline, unstopped_ok _⟩
    case ok.some.recoverable =>
      let x : FailedMessage := { bus := d.bus, mailbox := s.mailbox, message := d.message, cause }
      let refused := ((u.record (.answered d s (.ok (some (.recoverable cause))))).log
        (.refused d.message.tag s.mailbox.name cause)).record (.failed d x)
      have reported : Rests w (MessageBus.reportFailed call x refused) :=
        ((hw.of_outline (v := refused) asked.outline).reportFailed hc x).after asked.outline
      dsimp only
      generalize MessageBus.reportFailed call x _ = sunk at reported ⊢
      obtain ⟨v, r⟩ := sunk
      cases r with
      | error h => exact ⟨reported.outline, error_unstopped reported.unstopped⟩
      | ok => exact later reported.outline

theorem Mute.dispatchAlong (d : Dispatch) (routes : List Route) (hw : w.Mute) :
    Rests w (dispatchAlong call d routes w) := by
  rw [MessageBus.dispatchAlong]
  split
  · let x : ReturnedMessage := { bus := d.bus, message := d.message }
    let told := (w.log (.unmatched d.message.tag)).record (.returned d x)
    have reported : Rests w (MessageBus.reportReturned call x told) :=
      ((hw.of_outline (v := told) rfl).reportReturned hc x).after rfl
    dsimp only
    generalize MessageBus.reportReturned call x _ = sunk at reported ⊢
    obtain ⟨v, r⟩ := sunk
    exact ⟨reported.outline, map_unstopped reported.unstopped _⟩
  · have delivered : Rests w
        (MessageBus.deliverAll call d (Route.plan routes) (w.hold (Route.refs routes))) :=
      ((hw.of_outline (v := w.hold (Route.refs routes)) rfl).deliverAll hc d _).after rfl
    dsimp only
    generalize MessageBus.deliverAll call d _ _ = result at delivered ⊢
    obtain ⟨u, r⟩ := result
    have mailboxes : ∀ x ∈ Route.refs routes, ∃ m, x = .mailbox m := by
      intro x hx
      obtain ⟨r, -, here⟩ := List.mem_flatMap.mp hx
      obtain ⟨s, -, rfl⟩ := List.mem_map.mp here
      exact ⟨_, rfl⟩
    obtain ⟨v, same, left⟩ :=
      Mute.releaseAll hc (Except.unwinds r) mailboxes (hw.of_outline delivered.outline)
    split
    · next deep => exact absurd (congrArg Prod.snd deep) (delivered.unstopped _)
    · next went =>
      obtain ⟨rfl, rfl⟩ := Prod.mk.inj went
      rw [left]
      dsimp only
      rw [Except.unlessHalted_ok]
      exact ⟨same.trans delivered.outline, delivered.unstopped⟩

theorem Mute.publish (b : BusId) (m : Message) (hw : w.Mute) :
    Rests w (publish call b m w) := by
  have resolved := outline_resolve (w := w) b m
  let d := (w.resolve b m).1.nextDispatch b m
  let routes := (w.resolve b m).1.routesFor b (w.resolve b m).2
  let begun := (w.resolve b m).1.beginDispatch d routes
  have dispatched : Rests w (MessageBus.dispatchAlong call d routes begun) :=
    ((hw.of_outline (v := begun) resolved).dispatchAlong hc d routes).after resolved
  exact ⟨dispatched.outline, dispatched.unstopped⟩

theorem Mute.publishTimes (b : BusId) (m : Message) (n : Nat) (hw : w.Mute) :
    Rests w (publishTimes call b m n w) := by
  induction n generalizing w with
  | zero => exact ⟨rfl, unstopped_ok _⟩
  | succ n ih =>
    have published := hw.publish hc b m
    rw [MessageBus.publishTimes]
    generalize MessageBus.publish call b m w = result at published ⊢
    obtain ⟨u, r⟩ := result
    rcases r with h | _ | e
    case error => exact ⟨published.outline, error_unstopped published.unstopped⟩
    case ok.none => exact (ih (hw.of_outline published.outline)).after published.outline
    case ok.some => exact ⟨published.outline, unstopped_ok _⟩

theorem Mute.unsubscribeMailbox (b : BusId) (cell : BusCell) (m : Mailbox) (hw : w.Mute) :
    Rests w (unsubscribeMailbox call b cell m w) := by
  rw [MessageBus.unsubscribeMailbox]
  split
  · exact ⟨rfl, unstopped_ok _⟩
  · next registry s _ =>
    let told := ((w.modifyBus b fun c => { c with registry }).record (.unsubscribed b m)).log
      (.unsubscribed s.mailbox s.seq)
    have taken : told.outline = w.outline :=
      outline_modifyBus (w := w) b (fun c => { c with registry }) fun _ => rfl
    obtain ⟨v, same, gone⟩ := hc.releases s.mailbox.id told (hw.of_outline taken)
    rw [MessageBus.releasing, gone]
    exact ⟨same.trans taken, unstopped_ok _⟩

theorem Mute.clearBus (b : BusId) (hw : w.Mute) : Rests w (clearBus call b w) := by
  rw [MessageBus.clearBus]
  split
  · exact ⟨rfl, unstopped_ok _⟩
  · next cell _ =>
    let removed := cell.registry.clear.2
    let refs := removed.flatten.map fun s => Ref.mailbox s.mailbox.id
    let told := ((w.modifyBus b fun c => { c with registry := cell.registry.clear.1 }).record
      (.cleared b)).log (.cleared removed.length)
    have taken : told.outline = w.outline :=
      outline_modifyBus (w := w) b (fun c => { c with registry := cell.registry.clear.1 })
        fun _ => rfl
    have mailboxes : ∀ x ∈ refs, ∃ m, x = .mailbox m := by
      intro x hx
      obtain ⟨s, -, rfl⟩ := List.mem_map.mp hx
      exact ⟨_, rfl⟩
    obtain ⟨v, same, left⟩ := (hw.of_outline taken).released hc mailboxes
    dsimp only
    rw [left]
    exact ⟨same.trans taken, unstopped_ok _⟩

end

end Exchange

end MessageBus
