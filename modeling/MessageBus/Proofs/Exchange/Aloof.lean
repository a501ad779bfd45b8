import MessageBus.Proofs.Exchange.Attested

namespace MessageBus

section

variable (ends : Ending → Prop)

mutual

/-- A step that is no operation on a bus. What it makes keeps off the buses as well, and drop code
ends in one of some ways. -/
inductive Step.Aloof : Step → Prop
  | unknown (word : String) : Step.Aloof (.unknown word)
  | guarded {step : Step} (inner : Step.Aloof step) : Step.Aloof (.guarded step)
  | openMailbox (id name : String) (target : Target) {conduct : Conduct} {onDrop : Option Reaction}
      (conducted : Conduct.Aloof conduct) (dropped : ∀ r ∈ onDrop, Reaction.Aloof r)
      (ended : ∀ r ∈ onDrop, ends r.ending) :
      Step.Aloof (.openMailbox id name target conduct onDrop)
  | cloneMailbox (id other : String) : Step.Aloof (.cloneMailbox id other)
  | forget (id : String) : Step.Aloof (.forget id)
  | showRoutes (snapshot : String) : Step.Aloof (.showRoutes snapshot)
  | showRoutesText (snapshot : String) (tall : Bool) : Step.Aloof (.showRoutesText snapshot tall)
  | describe (id : String) (tall : Bool) : Step.Aloof (.describe id tall)
  | compare (a b : String) : Step.Aloof (.compare a b)
  | recorder (id : String) (query : RecorderQuery) : Step.Aloof (.recorder id query)
  | journal (id : String) (query : JournalQuery) : Step.Aloof (.journal id query)
  | emit (event : Log.Event) : Step.Aloof (.emit event)

/-- User code that performs no operation on a bus. -/
inductive Reaction.Aloof : Reaction → Prop
  | mk {steps : List Step} (ending : Ending) (each : ∀ step ∈ steps, Step.Aloof step) :
      Reaction.Aloof (.mk steps ending)

/-- A handler that performs no operation on a bus. How it ends depends on what it sees of a message,
but not on how often it was called. -/
inductive Conduct.Aloof : Conduct → Prop
  | recording (journal : String) : Conduct.Aloof (.recording journal)
  | responding {react : Message → Nat → Reaction} (lenient : Bool) (journal : Option String)
      (each : ∀ view n, Reaction.Aloof (react view n))
      (same : ∀ view n k, (react view n).ending = (react view k).ending) :
      Conduct.Aloof (.responding react lenient journal)

end

theorem Reaction.Aloof.steps {ends : Ending → Prop} {reaction : Reaction}
    (h : reaction.Aloof ends) : ∀ step ∈ reaction.steps, step.Aloof ends := by
  cases h with
  | mk ending each => exact each

def Handler.Aloof : Handler → Prop
  | .recording _ => True
  | .responding react _ _ =>
    (∀ view n, (react view n).Aloof ends) ∧
      ∀ view n k, (react view n).ending = (react view k).ending

def Sink.Aloof : Sink → Prop
  | .responding react => ∀ receipt n, (react receipt n).Aloof ends
  | _ => True

/-- What stops running code that keeps off the buses: drop code that panics, or the depth. -/
def Halt.Allowed : Halt → Prop
  | .panicked t => ends (.panic t)
  | .stopped .aborted => ∃ t, ends (.panic t)
  | .stopped .exhausted => True

/-- A result that is the expected one, unless the code was stopped in an allowed way. -/
inductive Yields {α : Type} (expected : Except Halt α) : Except Halt α → Prop
  | comes : Yields expected expected
  | halts (h : Halt) (allowed : h.Allowed ends) : Yields expected (.error h)

end

namespace Yields

variable {ends : Ending → Prop} {α : Type} {expected r s : Except Halt α}

theorem trans (h : Yields ends expected r) (h' : Yields ends r s) : Yields ends expected s := by
  cases h' with
  | comes => exact h
  | halts halt allowed => exact .halts halt allowed

/-- What is done afterwards either leaves a result as it is or is stopped itself. -/
theorem unlessHalted {after : Except Halt Unit} (h : Yields ends (.ok ()) after)
    (r : Except Halt α) : Yields ends r (Except.unlessHalted r after) := by
  cases h with
  | comes => exact .comes
  | halts halt allowed => exact .halts halt allowed

end Yields

/-- What a bus hands to a sink. -/
def Occurrence.receipt? (b : BusId) : Occurrence → Option Receipt
  | .returned _ x => if x.bus = b then some x.receipt else none
  | .failed _ x => if x.bus = b then some x.receipt else none
  | _ => none

/-- A bus, whether it is still there or not. -/
def BusCell.face (c : BusCell) : BusCell := { c with alive := true }

/-- What user code there is in a mailbox. -/
def MailboxCell.conduct (c : MailboxCell) : Handler × Option Reaction := (c.handler, c.onDrop)

namespace Exchange

/-- The records that a bus has handed to its sinks, oldest first. -/
def receipts (w : Exchange) (b : BusId) : List Receipt :=
  (w.trace.filterMap (Occurrence.receipt? b)).reverse

/-- What there is to be seen of a bus: the bus itself and what its sinks were handed. -/
def front (w : Exchange) (b : BusId) : Option BusCell × List Receipt :=
  ((w.buses[b]?).map (·.face), w.receipts b)

/-- The handlers, the sinks and the drop code there is keep off the buses. -/
structure Aloof (ends : Ending → Prop) (w : Exchange) : Prop where
  handlers : ∀ cell ∈ w.mailboxes, cell.handler.Aloof ends
  drops : ∀ cell ∈ w.mailboxes, ∀ r ∈ cell.onDrop, r.Aloof ends ∧ ends r.ending
  sinks : ∀ cell ∈ w.buses, cell.deadLetters.Aloof ends ∧ cell.failures.Aloof ends

/-- What becomes of an exchange whose user code keeps off the buses, when nothing is done to some of
the buses: they are as before, and so are the handlers. -/
structure KeepsOff (ends : Ending → Prop) (P : BusId → Prop) (w v : Exchange) : Prop where
  aloof : v.Aloof ends
  grows : w.buses.length ≤ v.buses.length
  front : ∀ b, P b → v.front b = w.front b
  handlers : w.mailboxes.map (·.handler) <+: v.mailboxes.map (·.handler)

/-- Something that is done to no bus, and comes out as expected unless it is stopped. -/
structure Does (ends : Ending → Prop) {α : Type} (w : Exchange) (expected : Except Halt α)
    (result : Exchange × Except Halt α) : Prop where
  off : KeepsOff ends (fun _ => True) w result.1
  yields : Yields ends expected result.2

end Exchange

/-- A runner of user code that keeps off the buses. Code that reacts ends as it says, and when
something is let go of nothing comes of it but that drop code is run. -/
structure Runner.Aloof (ends : Ending → Prop) (call : Runner) : Prop where
  reacts : ∀ letter (reaction : Reaction) (w : Exchange), w.Aloof ends → reaction.Aloof ends →
    Exchange.Does ends w reaction.ending.outcome (call (.react letter reaction) w)
  releases : ∀ x (w : Exchange), w.Aloof ends →
    ∃ refusal, Exchange.Does ends w (.ok refusal) (call (.release x) w)

namespace Exchange

variable {ends : Ending → Prop} {P Q : BusId → Prop} {w v u : Exchange} {α : Type}

theorem KeepsOff.trans (h : KeepsOff ends P w v) (h' : KeepsOff ends P v u) :
    KeepsOff ends P w u where
  aloof := h'.aloof
  grows := h.grows.trans h'.grows
  front b hb := (h'.front b hb).trans (h.front b hb)
  handlers := h.handlers.trans h'.handlers

theorem KeepsOff.mono (h : KeepsOff ends P w v) (sub : ∀ b, Q b → P b) : KeepsOff ends Q w v :=
  { h with front := fun b hb => h.front b (sub b hb) }

/-- Nothing else there is in buses and mailboxes matters but user code. -/
theorem Aloof.of_conducts (hw : w.Aloof ends)
    (mailboxes : v.mailboxes.map (·.conduct) = w.mailboxes.map (·.conduct))
    (buses : v.buses.map (·.sinks) = w.buses.map (·.sinks)) : v.Aloof ends := by
  have sameMailbox {cell : MailboxCell} (hc : cell ∈ v.mailboxes) :
      ∃ c ∈ w.mailboxes, c.handler = cell.handler ∧ c.onDrop = cell.onDrop := by
    have there := List.mem_map_of_mem (f := MailboxCell.conduct) hc
    rw [mailboxes] at there
    obtain ⟨c, hc, same⟩ := List.mem_map.mp there
    exact ⟨c, hc, Prod.mk.inj same⟩
  refine ⟨fun cell hc => ?_, fun cell hc => ?_, fun cell hc => ?_⟩
  · obtain ⟨c, hc, handler, -⟩ := sameMailbox hc
    exact handler ▸ hw.handlers c hc
  · obtain ⟨c, hc, -, onDrop⟩ := sameMailbox hc
    exact onDrop ▸ hw.drops c hc
  · have there := List.mem_map_of_mem (f := BusCell.sinks) hc
    rw [buses] at there
    obtain ⟨c, hc, same⟩ := List.mem_map.mp there
    obtain ⟨deadLetters, failures⟩ := Prod.mk.inj same
    rw [← deadLetters, ← failures]
    exact hw.sinks c hc

/-- The handlers stay as they are with the user code of the mailboxes. -/
theorem handlers_prefix
    (mailboxes : v.mailboxes.map (·.conduct) = w.mailboxes.map (·.conduct)) :
    w.mailboxes.map (·.handler) <+: v.mailboxes.map (·.handler) := by
  have handlers := congrArg (List.map Prod.fst) mailboxes
  rw [List.map_map, List.map_map] at handlers
  exact handlers ▸ List.prefix_refl _

/-- Nothing but what is not to be seen of buses and mailboxes may differ. -/
theorem Aloof.keepsOff (hw : w.Aloof ends)
    (conducts : v.mailboxes.map (·.conduct) = w.mailboxes.map (·.conduct))
    (faces : v.buses.map (·.face) = w.buses.map (·.face))
    (receipts : ∀ b, v.receipts b = w.receipts b) : KeepsOff ends P w v where
  aloof := by
    have buses := congrArg (List.map BusCell.sinks) faces
    rw [List.map_map, List.map_map] at buses
    exact hw.of_conducts conducts buses
  grows := by
    have lengths := congrArg List.length faces
    rw [List.length_map, List.length_map] at lengths
    exact lengths.ge
  front b _ := by
    rw [Exchange.front, Exchange.front, ← List.getElem?_map, ← List.getElem?_map, faces, receipts b]
  handlers := handlers_prefix conducts

theorem Aloof.idle (hw : w.Aloof ends) : KeepsOff ends P w w :=
  hw.keepsOff rfl rfl fun _ => rfl

theorem Aloof.hold (hw : w.Aloof ends) (xs : List Ref) : KeepsOff ends P w (w.hold xs) :=
  hw.keepsOff rfl rfl fun _ => rfl

theorem Aloof.strike (hw : w.Aloof ends) (x : Ref) : KeepsOff ends P w (w.strike x) := by
  cases x with
  | mailbox m =>
    have conducts := map_modify_of_still MailboxCell.conduct
      (fun c => { c with alive := false }) (fun _ => rfl) m w.mailboxes
    exact hw.keepsOff conducts rfl fun _ => rfl
  | bus b =>
    have faces := map_modify_of_still BusCell.face
      (fun c => { c with alive := false }) (fun _ => rfl) b w.buses
    exact hw.keepsOff rfl faces fun _ => rfl
  | recorder r => exact hw.keepsOff rfl rfl fun _ => rfl

/-- A new mailbox. -/
theorem Aloof.mailbox (hw : w.Aloof ends) (cell : MailboxCell) (handler : cell.handler.Aloof ends)
    (onDrop : ∀ r ∈ cell.onDrop, r.Aloof ends ∧ ends r.ending) :
    KeepsOff ends P w { w with mailboxes := w.mailboxes ++ [cell] } := by
  refine ⟨⟨fun c hc => ?_, fun c hc => ?_, hw.sinks⟩, Nat.le_refl _, fun _ _ => rfl, ?_⟩
  · rcases List.mem_append.mp hc with old | new
    · exact hw.handlers c old
    · exact List.mem_singleton.mp new ▸ handler
  · rcases List.mem_append.mp hc with old | new
    · exact hw.drops c old
    · exact List.mem_singleton.mp new ▸ onDrop
  · rw [List.map_append]
    exact List.prefix_append _ _

theorem Does.after {expected : Except Halt α} {result : Exchange × Except Halt α}
    (h : Does ends v expected result) (first : KeepsOff ends (fun _ => True) w v) :
    Does ends w expected result :=
  ⟨first.trans h.off, h.yields⟩

theorem Does.onward {expected r : Except Halt α} {result : Exchange × Except Halt α}
    (h : Does ends w expected (v, r)) (h' : Does ends v r result) : Does ends w expected result :=
  ⟨h.off.trans h'.off, h.yields.trans h'.yields⟩

/-- What was done went well, and something else is answered. -/
theorem Does.ended {β : Type} {a x : α} {result : Exchange × Except Halt α}
    (h : Does ends w (.ok a) result) (e : result = (u, .ok x)) (expected : Except Halt β) :
    Does ends w expected (u, expected) := by
  subst e
  exact ⟨h.off, .comes⟩

/-- What was done was stopped, whatever was to be answered. -/
theorem Does.stopped {β : Type} {a : α} {halt : Halt} {result : Exchange × Except Halt α}
    (h : Does ends w (.ok a) result) (e : result = (u, .error halt)) (expected : Except Halt β) :
    Does ends w expected (u, .error halt) := by
  subst e
  refine ⟨h.off, ?_⟩
  cases h.yields with
  | halts _ allowed => exact .halts halt allowed

section

variable {call : Runner} (hc : call.Aloof ends)

include hc

theorem Aloof.releaseAll (unwinding : Bool) (xs : List Ref) (hw : w.Aloof ends) :
    Does ends w (.ok ()) (releaseAll call unwinding xs w) := by
  induction xs generalizing unwinding w with
  | nil => exact ⟨hw.keepsOff rfl rfl fun _ => rfl, .comes⟩
  | cons x rest ih =>
    have held : KeepsOff ends (fun _ => True) w (w.holdOnly rest) :=
      hw.keepsOff rfl rfl fun _ => rfl
    obtain ⟨refusal, gone⟩ := hc.releases x (w.holdOnly rest) held.aloof
    rw [MessageBus.releaseAll]
    generalize call (.release x) (w.holdOnly rest) = result at gone ⊢
    obtain ⟨u, r⟩ := result
    obtain ⟨off, yields⟩ := gone.after held
    have dropped : KeepsOff ends (fun _ => True) w u.letGo :=
      off.trans (off.aloof.keepsOff rfl rfl fun _ => rfl)
    cases yields with
    | comes => exact (ih unwinding off.aloof).after off
    | halts h allowed =>
      cases h with
      | stopped cause => exact ⟨dropped, .halts (.stopped cause) allowed⟩
      | panicked t =>
        cases unwinding with
        | true => exact ⟨dropped, .halts (.stopped .aborted) ⟨t, allowed⟩⟩
        | false =>
          have left := (ih true off.aloof).after off
          have panics : Yields ends (.ok ()) (.error (.panicked t) : Except Halt Unit) :=
            .halts (.panicked t) allowed
          exact ⟨left.off, panics.trans (left.yields.unlessHalted _)⟩

theorem Aloof.released (xs : List Ref) (hw : w.Aloof ends) :
    Does ends w (.ok ()) (MessageBus.releaseAll call false xs (w.hold xs)) := by
  have held : KeepsOff ends (fun _ => True) w (w.hold xs) := hw.hold xs
  exact (held.aloof.releaseAll hc false xs).after held

theorem Aloof.release (x : Ref) (hw : w.Aloof ends) :
    ∃ refusal, Does ends w (.ok refusal) (release call x w) := by
  rw [MessageBus.release]
  split
  · exact ⟨none, hw.idle, .comes⟩
  · have struck : KeepsOff ends (fun _ => True) w (w.strike x) := hw.strike x
    have left := (struck.aloof.released hc (w.contents x)).after struck
    cases x with
    | mailbox m =>
      dsimp only
      split
      · exact ⟨none, struck, .comes⟩
      · next label reaction found =>
        obtain ⟨cell, there, drop⟩ := Option.bind_eq_some_iff.mp found
        obtain ⟨r, onDrop, same⟩ := Option.map_eq_some_iff.mp drop
        obtain ⟨-, rfl⟩ := Prod.mk.inj same
        obtain ⟨aloof, ended⟩ := struck.aloof.drops cell (List.mem_of_getElem? there) r onDrop
        have told : KeepsOff ends (fun _ => True) w
            ((w.strike (.mailbox m)).announce (.dropped label)) :=
          struck.trans (struck.aloof.keepsOff rfl rfl fun _ => rfl)
        obtain ⟨off, yields⟩ := (hc.reacts none r _ told.aloof aloof).after told
        generalize call _ _ = result at off yields ⊢
        obtain ⟨u, outcome⟩ := result
        -- Drop code may end with a refusal, which counts for nothing, or panic.
        rcases ending : r.ending with _ | refusal | t <;> rw [ending] at yields ended
        · exact ⟨none, off, yields⟩
        · exact ⟨some refusal, off, yields⟩
        · refine ⟨none, off, ?_⟩
          cases yields with
          | comes => exact .halts (.panicked t) ended
          | halts h allowed => exact .halts h allowed
    | bus b | recorder r =>
      dsimp only
      split
      · next e => exact ⟨none, left.stopped e _⟩
      · next e => exact ⟨none, left.ended e _⟩

theorem Aloof.releasing (x : Option Ref) (reply : Reply) (hw : w.Aloof ends) :
    Does ends w (.ok reply) (releasing call x reply w) := by
  cases x with
  | none => exact ⟨hw.idle, .comes⟩
  | some x =>
    obtain ⟨refusal, gone⟩ := hc.releases x w hw
    rw [MessageBus.releasing]
    split
    · next e => exact gone.ended e _
    · next e => exact gone.stopped e _

/-- What was done while some things were held is left as it is when they are let go of. -/
theorem Aloof.whileHolding (xs : List Ref) {run : Exchange → Exchange × Except Halt α}
    (ran : (run (w.hold xs)).1.Aloof ends) :
    Does ends (run (w.hold xs)).1 (run (w.hold xs)).2 (whileHolding call xs run w) := by
  rw [MessageBus.whileHolding]
  generalize run (w.hold xs) = result at ran ⊢
  obtain ⟨u, r⟩ := result
  have left := Aloof.releaseAll hc (Except.unwinds r) xs ran
  have carried : KeepsOff ends (fun _ => True) u u.letGo := ran.keepsOff rfl rfl fun _ => rfl
  split
  · next same =>
    obtain ⟨rfl, rfl⟩ := Prod.mk.inj same
    exact ⟨carried, .comes⟩
  · next same =>
    obtain ⟨rfl, rfl⟩ := Prod.mk.inj same
    exact ⟨left.off, left.yields.unlessHalted r⟩

theorem Aloof.placeMailbox (label : String) (m : MailboxId) (hw : w.Aloof ends) :
    Does ends w (.ok .done) (placeMailbox call label m w) := by
  have placed : KeepsOff ends (fun _ => True) w
      { w with desk := { w.desk with mailboxes := w.desk.mailboxes.put label m } } :=
    hw.keepsOff rfl rfl fun _ => rfl
  exact (placed.aloof.releasing hc _ _).after placed

omit hc in
theorem Aloof.journalNamed (label : String) (hw : w.Aloof ends) :
    KeepsOff ends P w (w.journalNamed label).1 := by
  rw [Exchange.journalNamed]
  split
  · exact hw.idle
  · exact hw.keepsOff rfl rfl fun _ => rfl

theorem Aloof.openMailbox (label name : String) (target : Target) {conduct : Conduct}
    {onDrop : Option Reaction} (conducted : conduct.Aloof ends)
    (dropped : ∀ r ∈ onDrop, r.Aloof ends) (ended : ∀ r ∈ onDrop, ends r.ending)
    (hw : w.Aloof ends) :
    Does ends w (.ok .done) (openMailbox call label name target conduct onDrop w) := by
  have place {u : Exchange} (first : KeepsOff ends (fun _ => True) w u) {handler : Handler}
      (aloof : handler.Aloof ends) :
      Does ends w (.ok .done) (MessageBus.placeMailbox call label u.mailboxes.length
        { u with
          mailboxes := u.mailboxes ++
            [{ mailbox := ⟨u.mailboxes.length, name, target⟩, label, handler, onDrop }] }) := by
    have made := first.trans (first.aloof.mailbox
      { mailbox := ⟨u.mailboxes.length, name, target⟩, label, handler, onDrop } aloof
      fun r hr => ⟨dropped r hr, ended r hr⟩)
    exact (made.aloof.placeMailbox hc label _).after made
  cases conducted with
  | recording journal => exact place (hw.journalNamed journal) trivial
  | responding lenient journal each same =>
    cases journal with
    | none => exact place hw.idle ⟨each, same⟩
    | some journal => exact place (hw.journalNamed journal) ⟨each, same⟩

theorem Aloof.emptyTray (r : RecorderId) (role : SinkRole) (hw : w.Aloof ends) :
    Does ends w (.ok ()) (emptyTray call r role w) := by
  have emptied : KeepsOff ends (fun _ => True) w
      ((w.modifyRecorder r (·.emptied role)).record (.emptied r role)) :=
    hw.keepsOff rfl rfl fun _ => rfl
  have left := (emptied.aloof.released hc
    (((w.recorders[r]?).map (·.refsOf role)).getD [])).after emptied
  simp only [MessageBus.emptyTray]
  split
  · next u t e =>
    have stopped : Does ends w (.ok ()) (u, .error (.panicked t)) := left.stopped e _
    have broken : KeepsOff ends (fun _ => True) u
        ((u.modifyRecorder r (·.broken role)).record (.emptied r role)) :=
      stopped.off.aloof.keepsOff rfl rfl fun _ => rfl
    exact ⟨stopped.off.trans broken, stopped.yields⟩
  · exact left

theorem Aloof.clearRecorder (r : RecorderId) (hw : w.Aloof ends) :
    Does ends w (.ok .done) (clearRecorder call r w) := by
  have first := hw.emptyTray hc r .deadLetter
  rw [MessageBus.clearRecorder]
  split
  · next e => exact first.stopped e _
  · next u e =>
    have empty : Does ends w (.ok ()) (u, .ok ()) := first.ended e _
    have second := (empty.off.aloof.emptyTray hc r .failure).after empty.off
    split
    · next e => exact second.stopped e _
    · next e => exact second.ended e _

/-- A step that is no operation on a bus does nothing to a bus, and is stopped only as allowed. -/
theorem Aloof.perform (letter : Option Letter) {step : Step} (aloof : step.Aloof ends)
    (hw : w.Aloof ends) : ∃ reply, Does ends w (.ok reply) (perform call letter step w) := by
  cases aloof with
  | unknown word => exact ⟨.badStep, hw.idle, .comes⟩
  | guarded inner =>
    obtain ⟨reply, done⟩ := Aloof.perform letter inner hw
    simp only [MessageBus.perform]
    split
    · next u t e => exact ⟨.panicked t, (e ▸ done).off, .comes⟩
    · exact ⟨reply, done⟩
  | openMailbox id name target conducted dropped ended =>
    exact ⟨.done, hw.openMailbox hc id name target conducted dropped ended⟩
  | cloneMailbox id other =>
    simp only [MessageBus.perform]
    split
    · exact ⟨.badStep, hw.idle, .comes⟩
    · exact ⟨.done, hw.placeMailbox hc other _⟩
  | forget id =>
    simp only [MessageBus.perform]
    split
    · exact ⟨.badStep, hw.idle, .comes⟩
    · have taken : KeepsOff ends (fun _ => True) w
          { w with desk := { w.desk with mailboxes := w.desk.mailboxes.remove id } } :=
        hw.keepsOff rfl rfl fun _ => rfl
      exact ⟨.done, (taken.aloof.releasing hc _ _).after taken⟩
  | recorder id query =>
    simp only [MessageBus.perform]
    split
    · exact ⟨.badStep, hw.idle, .comes⟩
    · next r _ =>
      cases query with
      | clear =>
        have held : KeepsOff ends (fun _ => True) w (w.hold [.recorder r]) := hw.hold _
        have cleared := (held.aloof.clearRecorder hc r).after held
        exact ⟨.done, cleared.onward (Aloof.whileHolding hc [.recorder r] cleared.off.aloof)⟩
      | _ => exact ⟨_, hw.idle, .comes⟩
  | journal id query => exact ⟨_, hw.journalNamed id, .comes⟩
  | emit event => exact ⟨.done, hw.keepsOff rfl rfl fun _ => rfl, .comes⟩
  | showRoutes | showRoutesText | describe | compare =>
    simp only [MessageBus.perform]
    split <;> exact ⟨_, hw.idle, .comes⟩

theorem Aloof.performAll (letter : Option Letter) {steps : List Step}
    (each : ∀ step ∈ steps, step.Aloof ends) (hw : w.Aloof ends) :
    Does ends w (.ok ()) (performAll call letter steps w) := by
  induction steps generalizing w with
  | nil => exact ⟨hw.idle, .comes⟩
  | cons step rest ih =>
    obtain ⟨reply, done⟩ := hw.perform hc letter (each step List.mem_cons_self)
    rw [MessageBus.performAll]
    split
    · next e => exact done.stopped e _
    · next u reply' e =>
      have went : Does ends w (.ok ()) (u, .ok ()) := done.ended e _
      have told : KeepsOff ends (fun _ => True) w (u.announce (.ran step.word reply')) :=
        went.off.trans (went.off.aloof.keepsOff rfl rfl fun _ => rfl)
      exact (ih (fun s hs => each s (List.mem_cons_of_mem _ hs)) told.aloof).after told

theorem Aloof.carryOut : Runner.Aloof ends (Work.carryOut call) where
  reacts letter reaction w hw aloof := by
    have ran := hw.performAll hc letter aloof.steps
    rw [Work.carryOut]
    split
    · next e => exact ran.stopped e _
    · next e => exact ran.ended e _
  releases x w hw := hw.release hc x

omit hc in
/-- User code that keeps off the buses is run without anything being done to them, to whatever depth
its calls nest. -/
theorem aloof_runner (ends : Ending → Prop) (depth : Nat) : Runner.Aloof ends (runner depth) := by
  induction depth with
  | zero =>
    exact ⟨fun _ _ w hw _ => ⟨hw.idle, .halts (.stopped .exhausted) trivial⟩,
      fun _ w hw => ⟨none, hw.idle, .halts (.stopped .exhausted) trivial⟩⟩
  | succ depth ih => exact Aloof.carryOut ih

end

end Exchange

end MessageBus
