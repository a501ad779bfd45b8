import MessageBus.Proofs.Exchange.Solo

namespace MessageBus

namespace BusCell

def sink (c : BusCell) : SinkRole → Sink
  | .deadLetter => c.deadLetters
  | .failure => c.failures

def calls (c : BusCell) : SinkRole → Nat
  | .deadLetter => c.deadLetterCalls
  | .failure => c.failureCalls

/-- A bus after a call of one of its sinks. -/
def called (c : BusCell) : SinkRole → BusCell
  | .deadLetter => { c with deadLetterCalls := c.deadLetterCalls + 1 }
  | .failure => { c with failureCalls := c.failureCalls + 1 }

/-- How a sink will come out of a call that is yet to be made, with what it is handed then; the next
one is counted as none. -/
def ahead (c : BusCell) (role : SinkRole) (receipt : Receipt) (n : Nat) : Except Halt Unit :=
  (c.sink role).hears receipt (c.calls role + n + 1)

theorem ahead_called (c : BusCell) (role r : SinkRole) (receipt : Receipt) (n : Nat) :
    (c.called role).ahead r receipt n =
      if r = role then c.ahead r receipt (n + 1) else c.ahead r receipt n := by
  cases role <;> cases r <;>
    simp [ahead, called, calls, sink, Nat.add_assoc, Nat.add_comm, Nat.add_left_comm]

end BusCell

theorem Yields.map {ends : Ending → Prop} {α β : Type} {expected r : Except Halt α}
    (h : Yields ends expected r) (f : α → β) : Yields ends (expected.map f) (r.map f) := by
  cases h with
  | comes => exact .comes
  | halts halt allowed => exact .halts halt allowed

/-- When drop code does not panic, nothing but the depth stops code that keeps off the buses. -/
theorem Yields.eq_expected {ends : Ending → Prop} {α : Type} {expected r : Except Halt α}
    (h : Yields ends expected r) (calm : ∀ t, ¬ends (.panic t))
    (deep : r ≠ .error (.stopped .exhausted)) : r = expected := by
  cases h with
  | comes => rfl
  | halts halt allowed =>
    rcases halt with t | _ | _
    · exact absurd allowed (calm t)
    · obtain ⟨t, panics⟩ := allowed
      exact absurd panics (calm t)
    · exact absurd rfl deep

namespace Books

/-- A message that is resolved once is resolved for good. -/
theorem resolve_resolved (k : Books) (m : Message) :
    (k.resolved m).resolver.resolve m = k.resolver.resolve m := by
  have found := (Resolver.find?_resolve k.resolver m m.tag).trans (if_pos rfl)
  rw [resolved, Resolver.resolve, found]

theorem routes_resolved (k : Books) (m : Message) : (k.resolved m).routes m = k.routes m := by
  rw [routes, resolve_resolved]
  rfl

theorem enter_resolved (k : Books) (m : Message) (n : Nat) :
    (Request.publish m n).enter (k.resolved m) = k.resolved m := by
  cases n with
  | zero => rfl
  | succ n =>
    rw [Request.enter, resolved, resolve_resolved]
    rfl

end Books

namespace Exchange

/-- How the sinks of a bus will come out of the calls that are yet to be made. -/
def ahead (w : Exchange) (b : BusId) (role : SinkRole) (receipt : Receipt) (n : Nat) :
    Except Halt Unit :=
  ((w.buses[b]?).map fun c => c.ahead role receipt n).getD (.ok ())

/-- Those a bus turns to are as some company has it: its sinks, and the mailboxes that are
subscribed. -/
structure Attends (w : Exchange) (b : BusId) (c : Company) : Prop where
  sinks : w.ahead b = c.sinks
  answers : ∀ t, ∀ s ∈ (w.books b).registry.listFor t,
    w.answer? s.mailbox.id = some (c.answers s.mailbox.id)

/-- Something comes out for a bus as it does for the bus by itself. -/
structure Meets {α : Type} (b : BusId) (w : Exchange) (upshot : Upshot α)
    (result : Exchange × Except Halt α) : Prop where
  attends : result.1.Attends b upshot.1
  receipts : result.1.receipts b = w.receipts b ++ upshot.2.1
  result : result.2 = upshot.2.2

/-- Something that is done to one bus only and leaves it with some books. Unless it goes too deep,
and when drop code does not panic, it comes out as it does for the bus by itself. -/
structure Deals (ends : Ending → Prop) {α : Type} (b : BusId) (w : Exchange) (k : Books)
    (upshot : Company → Upshot α) (result : Exchange × Except Halt α) : Prop where
  off : KeepsOff ends (· ≠ b) w result.1
  books : result.1.books b = k
  meets : (∀ t, ¬ends (.panic t)) → result.2 ≠ .error (.stopped .exhausted) →
    ∀ c, w.Attends b c → Meets b w (upshot c) result

variable {ends : Ending → Prop} {P : BusId → Prop} {w v u : Exchange} {b : BusId} {α : Type}
  {k : Books} {c : Company}

/-- The books of a bus are its registry and its resolver. -/
theorem books_of_cells
    (h : (v.buses[b]?).map (fun c => (c.registry, c.resolver)) =
      (w.buses[b]?).map fun c => (c.registry, c.resolver)) : v.books b = w.books b := by
  have registry := congrArg (Option.map Prod.fst) h
  have resolver := congrArg (Option.map Prod.snd) h
  rw [Option.map_map, Option.map_map] at registry resolver
  rw [books, books, registryOf, registryOf, resolverOf, resolverOf]
  exact congrArg₂ Books.mk (congrArg (·.getD {}) registry) (congrArg (·.getD {}) resolver)

theorem books_of_front (h : v.front b = w.front b) : v.books b = w.books b := by
  have faces := congrArg (fun x => x.1.map fun c : BusCell => (c.registry, c.resolver)) h
  simp only [front, Option.map_map] at faces
  exact books_of_cells faces

theorem ahead_of_front (h : v.front b = w.front b) : v.ahead b = w.ahead b := by
  funext role receipt n
  have faces := congrArg (fun x => x.1.map fun c : BusCell => c.ahead role receipt n) h
  simp only [front, Option.map_map] at faces
  rw [ahead, ahead]
  have same : (fun c : BusCell => c.ahead role receipt n) ∘ BusCell.face =
      fun c => c.ahead role receipt n := by
    funext c
    cases role <;> rfl
  rw [same] at faces
  rw [faces]

/-- A mailbox goes on to answer as it does. -/
theorem KeepsOff.answer? (h : KeepsOff ends P w v) {m : MailboxId} {a : Message → Outcome}
    (known : w.answer? m = some a) : v.answer? m = some a := by
  obtain ⟨new, all⟩ := h.handlers
  have through (x : Exchange) :
      x.answer? m = ((x.mailboxes.map (·.handler))[m]?).map (·.answer) := by
    rw [Exchange.answer?, List.getElem?_map, Option.map_map]
    rfl
  rw [through] at known ⊢
  obtain ⟨handler, there, -⟩ := Option.map_eq_some_iff.mp known
  have before : m < (w.mailboxes.map (·.handler)).length := (List.getElem?_eq_some_iff.mp there).1
  rw [← all, List.getElem?_append_left before]
  exact known

theorem Attends.keptOff (attends : w.Attends b c) (h : KeepsOff ends P w v) (hb : P b) :
    v.Attends b c := by
  refine ⟨(ahead_of_front (h.front b hb)).trans attends.sinks, fun t s hs => ?_⟩
  rw [books_of_front (h.front b hb)] at hs
  exact h.answer? (attends.answers t s hs)

theorem books_modifyBus {cell : BusCell} (hb : w.buses[b]? = some cell) (f : BusCell → BusCell) :
    (w.modifyBus b f).books b = ⟨(f cell).registry, (f cell).resolver⟩ := by
  have there := (getElem?_modifyBus f hb).1
  rw [books, registryOf_eq there, resolverOf_eq there]

theorem books_eq {cell : BusCell} (hb : w.buses[b]? = some cell) :
    w.books b = ⟨cell.registry, cell.resolver⟩ := by
  rw [books, registryOf_eq hb, resolverOf_eq hb]

theorem ahead_modifyBus {cell : BusCell} (hb : w.buses[b]? = some cell) {f : BusCell → BusCell}
    (same : (f cell).ahead = cell.ahead) : (w.modifyBus b f).ahead b = w.ahead b := by
  funext role receipt n
  rw [ahead, ahead, (getElem?_modifyBus f hb).1, hb, Option.map_some, Option.map_some, same]

/-- What is done to no bus leaves this one as it is. -/
theorem Does.deals {expected : Except Halt α} {result : Exchange × Except Halt α}
    (h : Does ends w expected result) :
    Deals ends b w (w.books b) (fun c => (c, [], expected)) result where
  off := h.off.mono fun _ _ => trivial
  books := books_of_front (h.off.front b trivial)
  meets calm deep c attends :=
    { attends := attends.keptOff h.off trivial
      receipts := by
        rw [List.append_nil]
        exact congrArg Prod.snd (h.off.front b trivial)
      result := h.yields.eq_expected calm deep }

/-- What is not to be seen of a bus is nothing to it. -/
theorem KeepsOff.unnoticed (off : KeepsOff ends (fun _ => True) w v) (r : Except Halt α) :
    Deals ends b w (w.books b) (fun c => (c, [], r)) (v, r) :=
  (⟨off, .comes⟩ : Does ends w r (v, r)).deals

theorem KeepsOff.deals {upshot : Company → Upshot α} {result : Exchange × Except Halt α}
    (first : KeepsOff ends (fun _ => True) w v) (h : Deals ends b v k upshot result) :
    Deals ends b w k upshot result where
  off := (first.mono fun _ _ => trivial).trans h.off
  books := h.books
  meets calm deep c attends := by
    have met := h.meets calm deep c (attends.keptOff first trivial)
    have receipts : v.receipts b = w.receipts b := congrArg Prod.snd (first.front b trivial)
    exact ⟨met.attends, receipts ▸ met.receipts, met.result⟩

/-- What is done to no bus afterwards leaves all as it is. -/
theorem Deals.onward {upshot : Company → Upshot α} {r : Except Halt α}
    {result : Exchange × Except Halt α} (h : Deals ends b w k upshot (v, r))
    (h' : Does ends v r result) : Deals ends b w k upshot result where
  off := h.off.trans (h'.off.mono fun _ _ => trivial)
  books := (books_of_front (h'.off.front b trivial)).trans h.books
  meets calm deep c attends := by
    have same := h'.yields.eq_expected calm deep
    have met := h.meets calm (same ▸ deep) c attends
    have receipts : result.1.receipts b = v.receipts b := congrArg Prod.snd (h'.off.front b trivial)
    exact ⟨met.attends.keptOff h'.off trivial, receipts.trans met.receipts, same.trans met.result⟩

theorem Deals.congr {upshot upshot' : Company → Upshot α} {result : Exchange × Except Halt α}
    (h : Deals ends b w k upshot result) (same : ∀ c, w.Attends b c → upshot c = upshot' c) :
    Deals ends b w k upshot' result :=
  { h with meets := fun calm deep c attends => same c attends ▸ h.meets calm deep c attends }

/-- A bus goes on with what came of something. -/
theorem Deals.bind_ok {β : Type} {upshot : Company → Upshot α} {k' : Books} {a : α}
    {result : Exchange × Except Halt β} (h : Deals ends b w k upshot (v, .ok a))
    (next : α → Company → Upshot β) (h' : Deals ends b v k' (next a) result) :
    Deals ends b w k' (fun c => (upshot c).bind next) result where
  off := h.off.trans h'.off
  books := h'.books
  meets calm deep c attends := by
    have first := h.meets calm (by simp) c attends
    have second := h'.meets calm deep _ first.attends
    generalize upshot c = x at first second ⊢
    obtain ⟨c', receipts, r⟩ := x
    obtain rfl : .ok a = r := first.result
    refine ⟨second.attends, ?_, second.result⟩
    rw [second.receipts, first.receipts, List.append_assoc]
    rfl

theorem Deals.bind_error {β : Type} {upshot : Company → Upshot α} {halt : Halt}
    {result : Exchange × Except Halt β} (h : Deals ends b w k upshot (v, .error halt))
    (next : α → Company → Upshot β) (h' : Does ends v (.error halt) result) :
    Deals ends b w k (fun c => (upshot c).bind next) result where
  off := h.off.trans (h'.off.mono fun _ _ => trivial)
  books := (books_of_front (h'.off.front b trivial)).trans h.books
  meets calm deep c attends := by
    have same := h'.yields.eq_expected calm deep
    have shallow : halt ≠ .stopped .exhausted := fun e => deep (e ▸ same)
    have first := h.meets calm (by simpa using shallow) c attends
    have after : result.1.receipts b = v.receipts b := congrArg Prod.snd (h'.off.front b trivial)
    generalize upshot c = x at first ⊢
    obtain ⟨c', receipts, r⟩ := x
    obtain rfl : .error halt = r := first.result
    exact ⟨first.attends.keptOff h'.off trivial, after.trans first.receipts, same⟩

/-- A change of a bus that leaves the user code in it as it is. -/
theorem Aloof.modifyBus (hw : w.Aloof ends) (b : BusId) (f : BusCell → BusCell)
    (still : ∀ cell, (f cell).sinks = cell.sinks) :
    KeepsOff ends (· ≠ b) w (w.modifyBus b f) where
  aloof := hw.of_conducts rfl (map_modify_of_still _ f still b w.buses)
  grows := (List.length_modify f w.buses b).ge
  front a ne := by
    have same : (w.modifyBus b f).buses[a]? = w.buses[a]? :=
      List.getElem?_modify_ne f w.buses ne.symm
    rw [Exchange.front, Exchange.front, same]
    rfl
  handlers := List.prefix_refl _

theorem Does.map {β : Type} {expected : Except Halt α} {result : Exchange × Except Halt α}
    (h : Does ends w expected result) (f : α → β) :
    Does ends w (expected.map f) (result.1, result.2.map f) :=
  ⟨h.off, h.yields.map f⟩

/-- A change of the books of a bus by which nobody is subscribed. -/
theorem Aloof.amended {cell : BusCell} (hb : w.buses[b]? = some cell) (f : BusCell → BusCell)
    (still : ∀ cell, (f cell).sinks = cell.sinks) (same : (f cell).ahead = cell.ahead)
    (fewer : ∀ t, ∀ s ∈ (f cell).registry.listFor t, s ∈ cell.registry.listFor t)
    (hw : w.Aloof ends) :
    Deals ends b w ⟨(f cell).registry, (f cell).resolver⟩ (fun c => (c, [], .ok ()))
      (w.modifyBus b f, .ok ()) where
  off := hw.modifyBus b f still
  books := books_modifyBus hb f
  meets _ _ c attends := by
    refine ⟨⟨(ahead_modifyBus hb same).trans attends.sinks, fun t s hs => ?_⟩, ?_, rfl⟩
    · rw [books_modifyBus hb f] at hs
      refine attends.answers t s ?_
      rw [books_eq hb]
      exact fewer t s hs
    · exact (List.append_nil _).symm

section

variable {call : Runner} (hc : call.Aloof ends)

include hc

theorem Aloof.respond (mailbox : Mailbox) (view : Message) (hw : w.Aloof ends) :
    Does ends w ((w.answer? mailbox.id).getD (fun _ => .ok none) view)
      (respond call mailbox view w) := by
  rw [MessageBus.respond, Exchange.answer?]
  cases there : w.mailboxes[mailbox.id]? with
  | none => exact ⟨hw.idle, .comes⟩
  | some cell =>
    have aloof := hw.handlers cell (List.mem_of_getElem? there)
    dsimp only [Option.map_some, Option.getD_some]
    cases handler : cell.handler with
    | recording j => exact ⟨hw.keepsOff rfl rfl fun _ => rfl, .comes⟩
    | responding react lenient journal =>
      rw [handler] at aloof
      obtain ⟨each, same⟩ := aloof
      have called : KeepsOff ends (fun _ => True) w
          (w.modifyMailbox mailbox.id fun c => { c with calls := c.calls + 1 }) := by
        have conducts := map_modify_of_still MailboxCell.conduct
          (fun c => { c with calls := c.calls + 1 }) (fun _ => rfl) mailbox.id w.mailboxes
        exact hw.keepsOff conducts rfl fun _ => rfl
      have asked {u : Exchange} (off : KeepsOff ends (fun _ => True) w u) :
          let told := u.announce (.delivered cell.label (cell.calls + 1) view.text)
          let result := call (.react none (react view (cell.calls + 1))) told
          Does ends w ((Handler.responding react lenient journal).answer view)
            (result.1, result.2.map fun refusal => if lenient then none else refusal) := by
        have told : KeepsOff ends (fun _ => True) w
            (u.announce (.delivered cell.label (cell.calls + 1) view.text)) :=
          off.trans (off.aloof.keepsOff rfl rfl fun _ => rfl)
        have reacted := (hc.reacts none _ _ told.aloof (each view (cell.calls + 1))).after told
        rw [same view (cell.calls + 1) 1] at reacted
        exact reacted.map _
      cases journal with
      | none =>
        have came := asked called
        dsimp only at came ⊢
        split <;> next e =>
          rw [e] at came
          exact came
      | some j =>
        have noted : KeepsOff ends (fun _ => True) w
            ((w.modifyMailbox mailbox.id fun c => { c with calls := c.calls + 1 }).note j
              { mailbox := mailbox.name, target := mailbox.tag, rendered := view.text }) :=
          called.trans (called.aloof.keepsOff rfl rfl fun _ => rfl)
        have came := asked noted
        dsimp only at came ⊢
        split <;> next e =>
          rw [e] at came
          exact came

theorem Aloof.deliver (mailbox : Mailbox) (m : Message) (hw : w.Aloof ends) :
    Does ends w (mailbox.verdict m ((w.answer? mailbox.id).getD fun _ => .ok none))
      (deliver call mailbox m w) := by
  rw [MessageBus.deliver, Mailbox.verdict]
  cases mailbox.target.narrow m with
  | none => exact ⟨hw.idle, .comes⟩
  | some view => exact hw.respond hc mailbox view

/-- A sink of user code that is called. -/
theorem Aloof.heard (role : SinkRole) {cell : BusCell} {react : Receipt → Nat → Reaction}
    (hb : w.buses[b]? = some cell) (responds : cell.sink role = .responding react)
    (receipt : Receipt) (note : SinkNote) (letter : Letter) (hw : w.Aloof ends) :
    Deals ends b w (w.books b) (fun c => (c.called role, [], c.sinks role receipt 0))
      (Outcome.ignored (call (.react (some letter) (react receipt (cell.calls role + 1)))
        ((w.modifyBus b (·.called role)).announce (.sink note)))) := by
  let v := (w.modifyBus b (·.called role)).announce (.sink note)
  have there : v.buses[b]? = some (cell.called role) := (getElem?_modifyBus (·.called role) hb).1
  have off : KeepsOff ends (· ≠ b) w v := by
    have changed := hw.modifyBus b (·.called role) fun cell => by cases role <;> rfl
    exact changed.trans (changed.aloof.keepsOff rfl rfl fun _ => rfl)
  have each : (cell.sink role).Aloof ends := by
    cases role with
    | deadLetter => exact (hw.sinks cell (List.mem_of_getElem? hb)).1
    | failure => exact (hw.sinks cell (List.mem_of_getElem? hb)).2
  rw [responds] at each
  let reaction := react receipt (cell.calls role + 1)
  have reacted := (hc.reacts (some letter) reaction v off.aloof (each _ _)).map fun _ => ()
  have same : Outcome.ignored (call (.react (some letter) reaction) v) =
      ((call (.react (some letter) reaction) v).1,
        (call (.react (some letter) reaction) v).2.map fun _ => ()) := by
    rcases call (.react (some letter) reaction) v with ⟨u, _ | _⟩ <;> rfl
  have books : v.books b = w.books b := by
    refine books_of_cells ?_
    rw [there, hb]
    cases role <;> rfl
  rw [same]
  refine ⟨off.trans (reacted.off.mono fun _ _ => trivial), ?_, fun calm deep c attends => ?_⟩
  · exact (books_of_front (reacted.off.front b trivial)).trans books
  · have now (r : SinkRole) (x : Receipt) (n : Nat) :
        v.ahead b r x n = (c.called role).sinks r x n := by
      simp only [Company.called, ← attends.sinks, Exchange.ahead, there, hb, Option.map_some,
        Option.getD_some, BusCell.ahead_called]
    have turned : v.Attends b (c.called role) :=
      ⟨funext fun r => funext fun x => funext fun n => now r x n,
        fun t s hs => attends.answers t s (books ▸ hs)⟩
    refine ⟨turned.keptOff reacted.off trivial, ?_, ?_⟩
    · rw [List.append_nil]
      exact congrArg Prod.snd (reacted.off.front b trivial)
    · have first : c.sinks role receipt 0 = reaction.ending.outcome.map fun _ => () := by
        rw [← attends.sinks, ahead, hb, Option.map_some, Option.getD_some, BusCell.ahead, responds,
          Sink.hears]
      exact (reacted.yields.eq_expected calm deep).trans first.symm

omit hc in
/-- A sink that is not of user code hears whatever it is handed. -/
theorem Aloof.kept (role : SinkRole) {cell : BusCell} (hb : w.buses[b]? = some cell)
    (silent : (cell.sink role).hears = fun _ _ => .ok ()) (receipt : Receipt)
    (off : KeepsOff ends (fun _ => True) w v) :
    Deals ends b w (w.books b) (fun c => (c.called role, [], c.sinks role receipt 0))
      (v, .ok ()) := by
  have still : Deals ends b w (w.books b) (fun c => (c, [], .ok ())) (v, .ok ()) := off.unnoticed _
  refine ⟨still.off, still.books, fun calm deep c attends => ?_⟩
  have met := still.meets calm deep c attends
  have all (x : Receipt) (n : Nat) : c.sinks role x n = .ok () := by
    rw [← attends.sinks, ahead, hb, Option.map_some, Option.getD_some, BusCell.ahead, silent]
  have same : c.called role = c := by
    have sinks : (c.called role).sinks = c.sinks := by
      funext r x n
      rw [Company.called]
      by_cases e : r = role
      · simp only [e, if_pos, all]
      · simp only [if_neg e]
    exact congrArg (Company.mk · c.answers) sinks
  exact ⟨same.symm ▸ met.attends, met.receipts, (all receipt 0).symm⟩

theorem Aloof.reportReturned (x : ReturnedMessage) (hx : x.bus < w.buses.length)
    (hw : w.Aloof ends) :
    Deals ends x.bus w (w.books x.bus)
      (fun c => (c.called .deadLetter, [], c.sinks .deadLetter x.receipt 0))
      (reportReturned call x w) := by
  have there := List.getElem?_eq_getElem hx
  simp only [MessageBus.reportReturned, there]
  cases sink : w.buses[x.bus].deadLetters with
  | responding react => exact hw.heard hc .deadLetter there sink x.receipt _ _
  | recorder | logging =>
    exact Aloof.kept .deadLetter there (congrArg Sink.hears sink) x.receipt
      (hw.keepsOff rfl rfl fun _ => rfl)

theorem Aloof.reportFailed (x : FailedMessage) (hx : x.bus < w.buses.length) (hw : w.Aloof ends) :
    Deals ends x.bus w (w.books x.bus)
      (fun c => (c.called .failure, [], c.sinks .failure x.receipt 0))
      (reportFailed call x w) := by
  have there := List.getElem?_eq_getElem hx
  simp only [MessageBus.reportFailed, there]
  cases sink : w.buses[x.bus].failures with
  | responding react => exact hw.heard hc .failure there sink x.receipt _ _
  | recorder | logging =>
    exact Aloof.kept .failure there (congrArg Sink.hears sink) x.receipt
      (hw.keepsOff rfl rfl fun _ => rfl)

omit hc in
/-- A record is told of that is handed to a sink of its bus. -/
theorem Aloof.receipt {o : Occurrence} {receipt : Receipt} (here : o.receipt? b = some receipt)
    (apart : ∀ a ≠ b, o.receipt? a = none) (hw : w.Aloof ends) :
    Deals ends b w (w.books b) (fun c => (c, [receipt], .ok ())) (w.record o, .ok ()) where
  off := by
    refine ⟨hw.of_conducts rfl rfl, Nat.le_refl _, fun a ne => ?_, List.prefix_refl _⟩
    have unseen : (w.record o).receipts a = w.receipts a := by
      rw [receipts, receipts, Exchange.record, List.filterMap_cons_none (apart a ne)]
    exact congrArg₂ Prod.mk rfl unseen
  books := rfl
  meets _ _ c attends := by
    refine ⟨⟨attends.sinks, attends.answers⟩, ?_, rfl⟩
    rw [receipts, receipts, Exchange.record, List.filterMap_cons_some here, List.reverse_cons]

theorem Aloof.failed (d : Dispatch) (x : FailedMessage) (hx : x.bus < w.buses.length)
    (hw : w.Aloof ends) :
    Deals ends x.bus w (w.books x.bus)
      (Company.report .failure (.failed x.mailbox x.message x.cause))
      (MessageBus.reportFailed call x (w.record (.failed d x))) := by
  have told : Deals ends x.bus w (w.books x.bus)
      (fun c => (c, [.failed x.mailbox x.message x.cause], .ok ()))
      (w.record (.failed d x), .ok ()) :=
    hw.receipt (if_pos rfl) fun a ne => if_neg ne.symm
  have there : x.bus < (w.record (.failed d x)).buses.length := hx
  exact told.bind_ok (fun _ c => (c.called .failure, [], c.sinks .failure x.receipt 0))
    (told.off.aloof.reportFailed hc x there)

theorem Aloof.returned (d : Dispatch) (x : ReturnedMessage) (hx : x.bus < w.buses.length)
    (hw : w.Aloof ends) :
    Deals ends x.bus w (w.books x.bus) (Company.report .deadLetter (.returned x.message))
      (MessageBus.reportReturned call x (w.record (.returned d x))) := by
  have told : Deals ends x.bus w (w.books x.bus) (fun c => (c, [.returned x.message], .ok ()))
      (w.record (.returned d x), .ok ()) :=
    hw.receipt (if_pos rfl) fun a ne => if_neg ne.symm
  have there : x.bus < (w.record (.returned d x)).buses.length := hx
  exact told.bind_ok (fun _ c => (c.called .deadLetter, [], c.sinks .deadLetter x.receipt 0))
    (told.off.aloof.reportReturned hc x there)

/-- A dispatch along a plan is the business of its bus alone. -/
theorem Aloof.deliverAll (d : Dispatch) (hb : d.bus < w.buses.length)
    {plan : List (Tag × Subscription)}
    (known : ∀ s ∈ plan.map (·.2), ∃ t, s ∈ (w.books d.bus).registry.listFor t)
    (hw : w.Aloof ends) :
    Deals ends d.bus w (w.books d.bus) (Company.hand d.message (plan.map (·.2)))
      (deliverAll call d plan w) := by
  induction plan generalizing w with
  | nil => exact hw.idle.unnoticed _
  | cons entry rest ih =>
    obtain ⟨tag, s⟩ := entry
    let asking := (w.log (.delivering d.message.tag tag s.mailbox.name s.seq)).record (.invoked d s)
    have told : KeepsOff ends (fun _ => True) w asking := hw.keepsOff rfl rfl fun _ => rfl
    have asked : Deals ends d.bus w (w.books d.bus) (Company.ask d.message s)
        (MessageBus.deliver call s.mailbox d.message asking) := by
      have delivered := (told.aloof.deliver hc s.mailbox d.message).after told
      refine delivered.deals.congr fun c attends => ?_
      obtain ⟨t, there⟩ := known s (by simp)
      have answers : asking.answer? s.mailbox.id = some (c.answers s.mailbox.id) :=
        attends.answers t s there
      rw [answers]
      rfl
    -- Wherever the dispatch has come with the same books, the rest goes on from there.
    have later {v : Exchange} (off : KeepsOff ends (· ≠ d.bus) w v)
        (books : v.books d.bus = w.books d.bus) :
        Deals ends d.bus v (w.books d.bus) (Company.hand d.message (rest.map (·.2)))
          (MessageBus.deliverAll call d rest v) :=
      books ▸ ih (Nat.lt_of_lt_of_le hb off.grows)
        (fun x hx => books ▸ known x (List.mem_cons_of_mem _ hx)) off.aloof
    simp only [MessageBus.deliverAll]
    generalize MessageBus.deliver call s.mailbox d.message _ = result at asked ⊢
    obtain ⟨u, outcome⟩ := result
    have answered : Deals ends d.bus w (w.books d.bus) (Company.ask d.message s)
        (u.record (.answered d s outcome), outcome) :=
      asked.onward ⟨asked.off.aloof.keepsOff rfl rfl fun _ => rfl, .comes⟩
    let next := Company.settle d.message s (Company.hand d.message (rest.map (·.2)))
    rcases outcome with h | _ | cause | cause
    case error => exact answered.bind_error next ⟨answered.off.aloof.idle, .comes⟩
    case ok.none => exact answered.bind_ok next (later answered.off answered.books)
    case ok.some.fatal =>
      refine answered.bind_ok next ?_
      rw [← answered.books]
      let refused := u.record (.answered d s (.ok (some (.fatal cause))))
      have logged : KeepsOff ends (fun _ => True) refused
          (refused.log (.aborted d.message.tag s.mailbox.name cause)) :=
        answered.off.aloof.keepsOff rfl rfl fun _ => rfl
      exact logged.unnoticed _
    case ok.some.recoverable =>
      refine answered.bind_ok next ?_
      let x : FailedMessage := { bus := d.bus, mailbox := s.mailbox, message := d.message, cause }
      let refused := (u.record (.answered d s (.ok (some (.recoverable cause))))).log
        (.refused d.message.tag s.mailbox.name cause)
      have logged : KeepsOff ends (fun _ => True)
          (u.record (.answered d s (.ok (some (.recoverable cause))))) refused :=
        answered.off.aloof.keepsOff rfl rfl fun _ => rfl
      have there : x.bus < refused.buses.length := Nat.lt_of_lt_of_le hb answered.off.grows
      have reported := logged.deals (logged.aloof.failed hc d x there)
      have same : refused.books d.bus = w.books d.bus := answered.books
      rw [same] at reported
      dsimp only
      generalize MessageBus.reportFailed call x _ = sunk at reported ⊢
      obtain ⟨v, r⟩ := sunk
      have heard : Deals ends d.bus (u.record (.answered d s (.ok (some (.recoverable cause)))))
          (w.books d.bus) (Company.report .failure (.failed s.mailbox d.message cause))
          (v.record (.heard d r), r) :=
        reported.onward ⟨reported.off.aloof.keepsOff rfl rfl fun _ => rfl, .comes⟩
      let again : Unit → Company → Upshot (Option BusError) :=
        fun _ => Company.hand d.message (rest.map (·.2))
      cases r with
      | error h => exact heard.bind_error again ⟨heard.off.aloof.idle, .comes⟩
      | ok => exact heard.bind_ok again (later (answered.off.trans heard.off) heard.books)

omit hc in
/-- The mailboxes along the routes that a bus finds are subscribed to it. -/
theorem exists_mem_listFor {r : Registry} {tags : List Tag} {s : Subscription}
    (hs : s ∈ (Route.plan (r.entriesFor tags)).map (·.2)) : ∃ t, s ∈ r.listFor t := by
  obtain ⟨entry, he, rfl⟩ := List.mem_map.mp hs
  obtain ⟨route, hr, here⟩ := List.mem_flatMap.mp he
  obtain ⟨x, hx, rfl⟩ := List.mem_map.mp here
  obtain ⟨t, -, found⟩ := List.mem_filterMap.mp hr
  refine ⟨t, ?_⟩
  rw [Registry.routeFor] at found
  split at found
  · simp at found
  · next first rest listed =>
    rw [listed]
    rw [← Option.some.inj found] at hx
    exact hx

/-- A dispatch is the business of its bus alone. -/
theorem Aloof.dispatchAlong (d : Dispatch) (hb : d.bus < w.buses.length) {routes : List Route}
    {tags : List Tag} (finds : (w.books d.bus).registry.entriesFor tags = routes)
    (hw : w.Aloof ends) :
    Deals ends d.bus w (w.books d.bus) (Company.dispatch d.message routes)
      (dispatchAlong call d routes w) := by
  cases found : routes.isEmpty with
  | true =>
    let x : ReturnedMessage := { bus := d.bus, message := d.message }
    have logged : KeepsOff ends (fun _ => True) w (w.log (.unmatched d.message.tag)) :=
      hw.keepsOff rfl rfl fun _ => rfl
    have there : x.bus < (w.log (.unmatched d.message.tag)).buses.length := hb
    have reported := logged.deals (logged.aloof.returned hc d x there)
    have dispatched : Company.dispatch d.message routes = fun c =>
        (c.report .deadLetter (.returned d.message)).bind fun _ c => (c, [], .ok none) := by
      funext c
      rw [Company.dispatch, if_pos found]
    rw [dispatched]
    simp only [MessageBus.dispatchAlong, found, if_true]
    generalize MessageBus.reportReturned call x _ = sunk at reported ⊢
    obtain ⟨v, r⟩ := sunk
    have heard : Deals ends d.bus w (w.books d.bus)
        (Company.report .deadLetter (.returned d.message)) (v.record (.heard d r), r) :=
      reported.onward ⟨reported.off.aloof.keepsOff rfl rfl fun _ => rfl, .comes⟩
    cases r with
    | error h => exact heard.bind_error _ ⟨heard.off.aloof.idle, .comes⟩
    | ok => exact heard.bind_ok _ (heard.books ▸ heard.off.aloof.idle.unnoticed _)
  | false =>
    have held : KeepsOff ends (fun _ => True) w (w.hold (Route.refs routes)) := hw.hold _
    have there : d.bus < (w.hold (Route.refs routes)).buses.length := hb
    have known : ∀ s ∈ (Route.plan routes).map (·.2),
        ∃ t, s ∈ ((w.hold (Route.refs routes)).books d.bus).registry.listFor t :=
      finds ▸ fun s => exists_mem_listFor
    have delivered := held.deals (held.aloof.deliverAll hc d there known)
    have dispatched : Company.dispatch d.message routes =
        Company.hand d.message ((Route.plan routes).map (·.2)) := by
      funext c
      rw [Company.dispatch, if_neg (by simp [found])]
    rw [dispatched]
    simp only [MessageBus.dispatchAlong, found, Bool.false_eq_true, if_false]
    generalize MessageBus.deliverAll call d _ _ = result at delivered ⊢
    obtain ⟨u, r⟩ := result
    have left := delivered.off.aloof.releaseAll hc (Except.unwinds r) (Route.refs routes)
    split
    · next same =>
      obtain ⟨rfl, rfl⟩ := Prod.mk.inj same
      exact delivered.onward ⟨delivered.off.aloof.keepsOff rfl rfl fun _ => rfl, .comes⟩
    · next same =>
      obtain ⟨rfl, rfl⟩ := Prod.mk.inj same
      have told : KeepsOff ends (fun _ => True) u
          ((MessageBus.releaseAll call (Except.unwinds r) (Route.refs routes) u).1.record
            (.released d
              (MessageBus.releaseAll call (Except.unwinds r) (Route.refs routes) u).2)) :=
        left.off.trans (left.off.aloof.keepsOff rfl rfl fun _ => rfl)
      exact delivered.onward ⟨told, left.yields.unlessHalted r⟩

omit hc in
/-- To resolve a message is the business of the bus alone. -/
theorem Aloof.resolved {cell : BusCell} (hb : w.buses[b]? = some cell) (m : Message)
    (hw : w.Aloof ends) :
    Deals ends b w ((w.books b).resolved m) (fun c => (c, [], .ok ()))
      ((w.resolve b m).1, .ok ()) := by
  obtain ⟨u, hu, resolves⟩ := resolve_some hb m
  have logged : KeepsOff ends (fun _ => True) w u := by
    rcases hu with rfl | ⟨e, rfl⟩
    · exact hw.idle
    · exact hw.keepsOff rfl rfl fun _ => rfl
  have there : u.buses[b]? = some cell := by
    rcases hu with rfl | ⟨e, rfl⟩ <;> exact hb
  let keep : BusCell → BusCell := fun c => { c with resolver := (cell.resolver.resolve m).1 }
  rw [books_eq hb, resolves]
  exact logged.deals (logged.aloof.amended there keep (fun _ => rfl) rfl fun _ _ hs => hs)

theorem Aloof.publish {cell : BusCell} (hb : w.buses[b]? = some cell) (m : Message)
    (hw : w.Aloof ends) :
    Deals ends b w ((w.books b).resolved m) (Company.dispatch m ((w.books b).routes m))
      (publish call b m w) := by
  have resolved := hw.resolved hb m
  have there := getElem?_resolve hb m
  have same : (w.resolve b m).1.routesFor b (w.resolve b m).2 = (w.books b).routes m := by
    rw [routesFor, there, (resolve_eq (List.getElem?_eq_some_iff.mp hb).1 m).1, resolverOf_eq hb,
      books_eq hb]
    rfl
  simp only [MessageBus.publish, same]
  let d := (w.resolve b m).1.nextDispatch b m
  have begun : KeepsOff ends (fun _ => True) (w.resolve b m).1
      ((w.resolve b m).1.beginDispatch d ((w.books b).routes m)) :=
    resolved.off.aloof.keepsOff rfl rfl fun _ => rfl
  have bus : d.bus < ((w.resolve b m).1.beginDispatch d ((w.books b).routes m)).buses.length :=
    (List.getElem?_eq_some_iff.mp there).1
  have books : (w.resolve b m).1.books b = (w.books b).resolved m := resolved.books
  have finds : ((w.resolve b m).1.books b).registry.entriesFor
      ((w.books b).resolver.resolve m).2.tags = (w.books b).routes m := by
    rw [books]
    rfl
  have dispatched := begun.deals (begun.aloof.dispatchAlong hc d bus finds)
  have went : Deals ends b (w.resolve b m).1 ((w.books b).resolved m)
      (Company.dispatch m ((w.books b).routes m))
      (MessageBus.dispatchAlong call d ((w.books b).routes m)
        ((w.resolve b m).1.beginDispatch d ((w.books b).routes m))) :=
    { dispatched with books := dispatched.books.trans books }
  have published := resolved.bind_ok (fun _ => Company.dispatch m _) went
  generalize MessageBus.dispatchAlong call d _ _ = result at published ⊢
  exact published.onward ⟨published.off.aloof.keepsOff rfl rfl fun _ => rfl, .comes⟩

/-- A message is resolved once, however often it is published. -/
theorem Aloof.publishTimes {cell : BusCell} (hb : w.buses[b]? = some cell) (m : Message) (n : Nat)
    (hw : w.Aloof ends) :
    Deals ends b w ((Request.publish m n).enter (w.books b))
      (Company.publishTimes m ((w.books b).routes m) n) (publishTimes call b m n w) := by
  induction n generalizing w cell with
  | zero => exact hw.idle.unnoticed _
  | succ n ih =>
    have published := hw.publish hc hb m
    rw [MessageBus.publishTimes]
    generalize MessageBus.publish call b m w = result at published ⊢
    obtain ⟨u, r⟩ := result
    have bus : b < u.buses.length :=
      Nat.lt_of_lt_of_le (List.getElem?_eq_some_iff.mp hb).1 published.off.grows
    have later := ih (List.getElem?_eq_getElem bus) published.off.aloof
    have resolved : u.books b = (w.books b).resolved m := published.books
    rw [resolved, Books.enter_resolved, Books.routes_resolved] at later
    let next := Company.proceed (Company.publishTimes m ((w.books b).routes m) n)
    rcases r with h | _ | e
    case error => exact published.bind_error next ⟨published.off.aloof.idle, .comes⟩
    case ok.none => exact published.bind_ok next later
    case ok.some =>
      have stayed : Deals ends b u ((w.books b).resolved m) (next (some e))
          (u, .ok (.busError e)) :=
        resolved ▸ published.off.aloof.idle.unnoticed _
      exact published.bind_ok next stayed

end

end Exchange

end MessageBus
