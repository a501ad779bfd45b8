import MessageBus.Proofs.Exchange.Retold

namespace MessageBus.Exchange

variable {ends : Ending → Prop} {w : Exchange} {b : BusId} {c : Company}

theorem requestTo?_eq_some {step : Step} {q : Request} :
    step.requestTo? b w = some q ↔ step.request? w = some (b, q) := by
  rw [Step.requestTo?, Option.bind_eq_some_iff]
  constructor
  · rintro ⟨⟨a, r⟩, asked, same⟩
    split at same
    · next e =>
      obtain rfl : a = b := e
      exact asked.trans (congrArg (fun x => some (a, x)) (Option.some.inj same))
    · cases same
  · intro asked
    exact ⟨_, asked, if_pos rfl⟩

theorem get?_of_busNamed? {label : String} {cell : BusCell}
    (h : w.busNamed? label = some (b, cell)) : w.desk.buses.get? label = some b := by
  simp only [busNamed?, Option.bind_eq_some_iff, Option.map_eq_some_iff, Prod.mk.injEq] at h
  obtain ⟨_, found, _, -, rfl, -⟩ := h
  exact found

/-- A step that asks nothing of a bus leaves it as it is, also when it asks something of another. -/
theorem Aloof.step_apart (hw : w.Aloof ends) (sound : w.Sound) (depth : Nat) {step : Step}
    (tame : step.Tame ends) (hq : step.requestTo? b w = none) :
    KeepsOff ends (· = b) w (w.step depth step).1 := by
  cases asked : step.request? w with
  | none =>
    obtain ⟨reply, done⟩ := hw.aside (aloof_runner ends depth) tame asked
    exact done.off.mono fun _ _ => trivial
  | some x =>
    obtain ⟨a, q⟩ := x
    have other : a ≠ b := by
      rintro rfl
      rw [requestTo?_eq_some.mpr asked] at hq
      cases hq
    have dealt := hw.asked (aloof_runner ends depth) tame asked sound
    exact dealt.off.mono fun _ same => same ▸ other.symm

/-- What a bus comes to in a run: its books are what the requests to it make of them, and unless
something goes too deep it hands out the records and answers as it does by itself. -/
structure Alone (ends : Ending → Prop) (b : BusId) (steps : List (Nat × Step)) (w : Exchange) :
    Prop where
  aloof : (w.run steps).Aloof ends
  books : (w.run steps).books b = (requests b steps w).foldl (fun k q => q.enter k) (w.books b)
  meets : (∀ t, ¬ends (.panic t)) →
    (∀ x ∈ dealings b steps w, x.2 ≠ .error (.stopped .exhausted)) → ∀ c, w.Attends b c →
      (w.run steps).receipts b = w.receipts b ++
        (Request.meetAll (requests b steps w) (w.books b) c).1 ∧
      (dealings b steps w).map (·.2) =
        (Request.meetAll (requests b steps w) (w.books b) c).2

theorem Aloof.alone_nil (aloof : w.Aloof ends) (b : BusId) : Alone ends b [] w :=
  ⟨aloof, rfl, fun _ _ _ _ => ⟨(List.append_nil _).symm, rfl⟩⟩

/-- Whatever else is done in a run, a bus is alone with the requests to it. -/
theorem Reachable.alone {steps : List (Nat × Step)} (tame : ∀ s ∈ steps, s.2.Tame ends)
    (hw : w.Reachable) (aloof : w.Aloof ends) (b : BusId) : Alone ends b steps w := by
  induction steps generalizing w with
  | nil => exact aloof.alone_nil b
  | cons s steps ih =>
    have tame_first := tame s List.mem_cons_self
    obtain ⟨rest, left, ran, same⟩ := goes_on b s steps w
    -- When the first step aborts the program, the run is over, and there is nothing left to do.
    have onward (still : (w.step s.1 s.2).1.Aloof ends) : Alone ends b rest (w.step s.1 s.2).1 := by
      split at left <;> rw [left]
      · exact still.alone_nil b
      · exact ih (fun x hx => tame x (List.mem_cons_of_mem _ hx)) (hw.step s.1 s.2) still
    cases hq : s.2.requestTo? b w with
    | none =>
      have apart := aloof.step_apart hw.sound s.1 tame_first hq
      obtain ⟨later, books, meets⟩ := onward apart.aloof
      rw [hq] at same
      have still : (w.step s.1 s.2).1.books b = w.books b := books_of_front (apart.front b rfl)
      have receipts : (w.step s.1 s.2).1.receipts b = w.receipts b :=
        congrArg Prod.snd (apart.front b rfl)
      refine ⟨ran ▸ later, ?_, fun calm shallow c attends => ?_⟩
      · rw [requests, same, ran, ← still]
        exact books
      · rw [requests, same, ran]
        rw [same] at shallow
        have met := meets calm shallow c (attends.keptOff apart rfl)
        rw [still, receipts] at met
        exact met
    | some q =>
      have asked := requestTo?_eq_some.mp hq
      have dealt := aloof.asked (aloof_runner ends s.1) tame_first asked hw.sound
      obtain ⟨later, books, meets⟩ := onward dealt.off.aloof
      rw [hq] at same
      have entered : (w.step s.1 s.2).1.books b = q.enter (w.books b) := dealt.books
      refine ⟨ran ▸ later, ?_, fun calm shallow c attends => ?_⟩
      · rw [requests, same, ran, List.map_append, List.foldl_append]
        rw [entered] at books
        exact books
      · rw [requests, same, ran]
        rw [same] at shallow
        have first := dealt.meets calm (shallow _ List.mem_cons_self) c attends
        have later_shallow := fun x hx => shallow x (List.mem_cons_of_mem _ hx)
        have second := meets calm later_shallow _ first.attends
        rw [entered] at second
        have receipts : (w.step s.1 s.2).1.receipts b =
            w.receipts b ++ (q.meet (w.books b) c).2.1 := first.receipts
        have result : answered (w.step s.1 s.2).2 = answered (q.meet (w.books b) c).2.2 :=
          first.result
        rw [receipts, List.append_assoc] at second
        refine ⟨second.1, ?_⟩
        rw [List.map_append, second.2]
        exact congrArg (List.cons · _) result

theorem aloof_empty (ends : Ending → Prop) : Aloof ends {} :=
  ⟨by simp, by simp, by simp⟩

/-- Those that a bus which is yet to be made turns to. -/
def nobody : Company := { sinks := fun _ _ _ => .ok (), answers := fun _ _ => .ok none }

theorem attends_nobody (b : BusId) : Attends {} b nobody :=
  ⟨rfl, fun t s hs => by simp [books, registryOf, Registry.listFor] at hs⟩

/-- What is asked of a bus in a run can be asked of one, from when it is made, among the mailboxes
that there are in the end. -/
theorem Reachable.askable {steps : List (Nat × Step)} (tame : ∀ s ∈ steps, s.2.Tame ends)
    (hw : w.Reachable) (aloof : w.Aloof ends) (b : BusId) :
    (b < w.buses.length → ∀ q ∈ requests b steps w, q.Fits (w.run steps).replies) ∧
    (w.buses.length ≤ b → Request.Askable (w.run steps).replies (requests b steps w)) := by
  induction steps generalizing w with
  | nil => exact ⟨fun _ => by simp [requests, dealings], fun _ => trivial⟩
  | cons s steps ih =>
    have tame_first := tame s List.mem_cons_self
    have lasts : Lasting w (w.step s.1 s.2).1 := (leads_step s.1 s.2 w).lasting
    have later : Lasting w (w.run (s :: steps)) := (lawful_leads.run w (s :: steps)).lasting
    obtain ⟨rest, left, ran, same⟩ := goes_on b s steps w
    -- When the first step aborts the program, nothing else is asked.
    have onward (still : (w.step s.1 s.2).1.Aloof ends) :
        (b < (w.step s.1 s.2).1.buses.length →
          ∀ q ∈ requests b rest (w.step s.1 s.2).1, q.Fits (w.run (s :: steps)).replies) ∧
        ((w.step s.1 s.2).1.buses.length ≤ b →
          Request.Askable (w.run (s :: steps)).replies (requests b rest (w.step s.1 s.2).1)) := by
      rw [ran]
      split at left <;> rw [left]
      · exact ⟨fun _ => by simp [requests, dealings], fun _ => trivial⟩
      · exact ih (fun x hx => tame x (List.mem_cons_of_mem _ hx)) (hw.step s.1 s.2) still
    cases hq : s.2.requestTo? b w with
    | none =>
      have apart := aloof.step_apart hw.sound s.1 tame_first hq
      obtain ⟨fits, askable⟩ := onward apart.aloof
      rw [requests, same, hq]
      refine ⟨fun old => fits (Nat.lt_of_lt_of_le old lasts.length_buses), fun new => askable ?_⟩
      -- Nothing but a request makes the bus.
      have front := congrArg Prod.fst (apart.front b rfl)
      have absent : w.buses[b]? = none := List.getElem?_eq_none new
      simp only [Exchange.front, absent, Option.map_none, Option.map_eq_none_iff] at front
      exact List.getElem?_eq_none_iff.mp front
    | some q =>
      have asked := requestTo?_eq_some.mp hq
      have dealt := aloof.asked (aloof_runner ends s.1) tame_first asked hw.sound
      have there := aloof.lt_of_asked (aloof_runner ends s.1) tame_first asked hw.sound
      have fits := (onward dealt.off.aloof).1 there
      rw [requests, same, hq, List.map_append]
      rcases hw.sound.request_cases asked with ⟨opens, new⟩ | ⟨first, old⟩
      · exact ⟨fun old => absurd new (Nat.ne_of_lt old), fun _ => ⟨opens, fits⟩⟩
      · refine ⟨fun _ => ?_, fun new => absurd old (Nat.not_lt.mpr new)⟩
        exact List.forall_mem_cons.mpr ⟨first.mono later.replies, fits⟩

/-- Buses are independent of each other, whatever else is done in a run and whatever mailboxes they
share, when handlers, sinks and drop code keep off the buses and mailboxes always answer the same to
what they see of a message. What is asked of a bus can be asked of one that is alone. Wherever the
same is asked of a bus in the same order, through whatever handles, it has the same registry and the
same resolver; a run asks nothing more once it is aborted. If drop code does not panic and nothing
goes too deep, the bus answers the same as well, and hands the same records to its sinks. To
unsubscribe a mailbox elsewhere takes nothing from the bus. -/
theorem buses_apart {ends : Ending → Prop} {steps : List (Nat × Step)}
    (tame : ∀ s ∈ steps, s.2.Tame ends) (b : BusId) :
    (∃ alone, (∀ s ∈ alone, s.2.Tame ends) ∧ (run {} alone).buses.length ≤ 1 ∧
      requests 0 alone {} = requests b steps {} ∧
      ∀ x ∈ dealings 0 alone {}, ∀ cause, x.2 ≠ .error (.stopped cause)) ∧
    (∀ others b', (∀ s ∈ others, s.2.Tame ends) → requests b' others {} = requests b steps {} →
      (run {} others).books b' = (run {} steps).books b ∧
      ((∀ t, ¬ends (.panic t)) →
        (∀ x ∈ dealings b steps {}, x.2 ≠ .error (.stopped .exhausted)) →
        (∀ x ∈ dealings b' others {}, x.2 ≠ .error (.stopped .exhausted)) →
        dealings b' others {} = dealings b steps {} ∧
          (run {} others).receipts b' = (run {} steps).receipts b)) ∧
    ∀ depth bus id, (run {} steps).desk.buses.get? bus ≠ some b →
      ((run {} steps).step depth (.unsubscribe bus id)).1.books b = (run {} steps).books b := by
  have start : Reachable {} := .refl
  have sound := (reachable_run steps).sound
  have here := start.alone tame (aloof_empty ends) b
  refine ⟨?_, fun others b' tame' same => ?_, fun depth bus id elsewhere => ?_⟩
  · have askable := (start.askable tame (aloof_empty ends) b).2 (Nat.zero_le b)
    obtain ⟨same, unstopped, only⟩ := asks_retold sound.replies.1 sound.replies.2 askable
    exact ⟨_, tame_retold ends _ _, only, same, unstopped⟩
  · have there := start.alone tame' (aloof_empty ends) b'
    refine ⟨?_, fun calm shallow shallow' => ?_⟩
    · rw [here.books, there.books, same]
      rfl
    · have first := here.meets calm shallow nobody (attends_nobody b)
      have second := there.meets calm shallow' nobody (attends_nobody b')
      have answers : (dealings b' others {}).map (·.2) = (dealings b steps {}).map (·.2) := by
        rw [first.2, second.2, same]
        rfl
      refine ⟨?_, ?_⟩
      · exact (List.zip_of_prod same answers).trans (List.zip_of_prod rfl rfl).symm
      · rw [first.1, second.1, same]
        rfl
  · have nothing : (Step.unsubscribe bus id).requestTo? b (run {} steps) = none := by
      cases asked : (Step.unsubscribe bus id).requestTo? b (run {} steps) with
      | none => rfl
      | some q =>
        obtain ⟨cell, m, named, -, -⟩ := named_of_request (requestTo?_eq_some.mp asked)
        exact absurd (get?_of_busNamed? named) elsewhere
    have kept : (Step.unsubscribe bus id).Tame ends := trivial
    have apart := here.aloof.step_apart sound depth kept nothing
    exact books_of_front (apart.front b rfl)

/-- A mailbox for notes that refuses a plain one and takes any other. -/
def pickyMailbox : Nat × Step :=
  (1, .openMailbox "desk" "desk" { tag := .child "Note" .root }
    (.responding
      (fun view _ =>
        .mk [] (if view.text = "Note" then .refuse (.recoverable (.text "busy")) else .succeed))
      false none) none)

theorem tame_pickyMailbox : pickyMailbox.2.Tame (· = .succeed) :=
  .openMailbox _ _ _ (.responding _ _ (fun _ _ => .mk _ (by simp)) fun _ _ _ => rfl) (by simp)
    (by simp)

/-- A bus that shares a picky mailbox with another bus, and is published on through two handles. -/
def market : List (Nat × Step) :=
  let note : Message := .top "Note" (.word "Note")
  let offer : Message := .top "Note" (.word "Offer")
  [(1, .openBus "bus" (.recording "tray")), (1, .openBus "other" (.recording "tray")), pickyMailbox,
    (1, .subscribe "other" "desk" true), (1, .subscribe "bus" "desk" true),
    (1, .cloneBus "bus" "clone"), (5, .publish "other" note 2), (5, .publish "clone" offer 1),
    (5, .unsubscribe "other" "desk"), (5, .publish "bus" note 1), (1, .countAll "clone")]

/-- The same bus without the other one. -/
def stall : List (Nat × Step) :=
  let note : Message := .top "Note" (.word "Note")
  let offer : Message := .top "Note" (.word "Offer")
  [(1, .openBus "bus" (.recording "tray")), pickyMailbox, (1, .subscribe "bus" "desk" true),
    (5, .publish "bus" offer 1), (5, .publish "bus" note 1), (1, .countAll "bus")]

/-- Nothing was stopped when everything asked of a bus came to a reply. -/
theorem unstopped_of_isOk {dealt : List (Request × Except Halt Reply)}
    (well : dealt.all (·.2.isOk) = true) (cause : Stop) :
    ∀ x ∈ dealt, x.2 ≠ .error (.stopped cause) := by
  intro x hx stopped
  have fine : x.2.isOk = true := List.all_eq_true.mp well x hx
  rw [stopped] at fine
  cases fine

theorem buses_apart_market :
    (∃ alone, (run {} alone).buses.length ≤ 1 ∧ requests 0 alone {} = requests 0 market {}) ∧
    requests 0 stall {} = requests 0 market {} ∧
    (run {} stall).books 0 = (run {} market).books 0 ∧
    dealings 0 stall {} = dealings 0 market {} ∧
    (run {} stall).receipts 0 = (run {} market).receipts 0 ∧
    ((run {} market).receipts 0).length = 1 ∧
    ((run {} market).step 5 (.unsubscribe "other" "desk")).1.books 0 = (run {} market).books 0 := by
  have tame : ∀ s ∈ market, s.2.Tame (· = .succeed) := by
    simp [market, Step.Tame, BusPlan.Aloof, tame_pickyMailbox]
  have tame' : ∀ s ∈ stall, s.2.Tame (· = .succeed) := by
    simp [stall, Step.Tame, BusPlan.Aloof, tame_pickyMailbox]
  have same : requests 0 stall {} = requests 0 market {} := by cbv
  have well : (dealings 0 market {}).all (·.2.isOk) = true := by decide +kernel
  have well' : (dealings 0 stall {}).all (·.2.isOk) = true := by decide +kernel
  have elsewhere : (run {} market).desk.buses.get? "other" ≠ some 0 := by decide +kernel
  obtain ⟨⟨alone, -, only, asked, -⟩, agrees, kept⟩ := buses_apart tame 0
  obtain ⟨books, calm⟩ := agrees stall 0 tame' same
  obtain ⟨answers, receipts⟩ :=
    calm (by simp) (unstopped_of_isOk well .exhausted) (unstopped_of_isOk well' .exhausted)
  exact ⟨⟨alone, only, asked⟩, same, books, answers, receipts, by decide +kernel,
    kept 5 "other" "desk" elsewhere⟩

/-- A bus with mailboxes whose owners panic when they are gone, and which have no handles any more
when the bus is cleared. What is done elsewhere is done before that; one more mailbox is subscribed
afterwards. -/
def keepsakes (gifts : List String) (elsewhere : List (Nat × Step)) : List (Nat × Step) :=
  let mailbox (id : String) (onDrop : Option Reaction) : Nat × Step :=
    (1, .openMailbox id id { tag := .root } (.recording "log") onDrop)
  (1, .openBus "bus" (.recording "tray")) ::
    gifts.map (fun gift => mailbox gift (some (.mk [] (.panic "lost")))) ++
    gifts.map (fun gift => (1, .subscribe "bus" gift true)) ++ elsewhere ++
    gifts.map (fun gift => (5, .forget gift)) ++
    [(5, .clear "bus"), mailbox "heir" none, (1, .subscribe "bus" "heir" true)]

theorem tame_keepsakes (gifts : List String) {elsewhere : List (Nat × Step)}
    (each : ∀ s ∈ elsewhere, s.2.Tame fun _ => True) :
    ∀ s ∈ keepsakes gifts elsewhere, s.2.Tame fun _ => True := by
  have opened (id : String) {onDrop : Option Reaction}
      (silent : ∀ r ∈ onDrop, r.Aloof fun _ => True) :
      (Step.openMailbox id id { tag := .root } (.recording "log") onDrop).Tame fun _ => True :=
    .openMailbox _ _ _ (.recording _) silent (by simp)
  intro s hs
  simp only [keepsakes, List.cons_append, List.append_assoc, List.mem_cons, List.mem_append,
    List.mem_map, List.not_mem_nil, or_false] at hs
  rcases hs with rfl | ⟨gift, -, rfl⟩ | ⟨gift, -, rfl⟩ | other | ⟨gift, -, rfl⟩ | rfl | rfl | rfl
  · trivial
  · exact opened gift (by simpa using .mk _ (by simp))
  · trivial
  · exact each s other
  · trivial
  · trivial
  · exact opened "heir" (by simp)
  · trivial

/-- A bus with a mailbox that is called once, and forgets a keepsake of its own before it refuses.
What is done elsewhere is done before that. -/
def errand (elsewhere : List (Nat × Step)) : List (Nat × Step) :=
  [(1, .openBus "bus" (.recording "tray")),
    (1, .openMailbox "gift" "gift" { tag := .root } (.recording "log")
      (some (.mk [] (.panic "lost")))),
    (1, .openMailbox "clerk" "clerk" { tag := .root }
      (.responding (fun _ _ => .mk [.forget "gift"] (.refuse (.recoverable (.text "late")))) false
        none) none),
    (1, .subscribe "bus" "clerk" true)] ++ elsewhere ++
    [(5, .publish "bus" (.top "Note" (.word "Note")) 1)]

theorem tame_errand {elsewhere : List (Nat × Step)}
    (each : ∀ s ∈ elsewhere, s.2.Tame fun _ => True) :
    ∀ s ∈ errand elsewhere, s.2.Tame fun _ => True := by
  intro s hs
  simp only [errand, List.mem_cons, List.mem_append, List.not_mem_nil, or_false] at hs
  rcases hs with ((rfl | rfl | rfl | rfl) | other) | rfl
  · trivial
  · exact .openMailbox _ _ _ (.recording _) (by simpa using .mk _ (by simp)) (by simp)
  · exact .openMailbox _ _ _
      (.responding _ _ (fun _ _ => .mk _ (by simpa using .forget _)) fun _ _ _ => rfl) (by simp)
      (by simp)
  · trivial
  · exact each s other
  · trivial

/-- Drop code that panics tells buses apart: a bus that is cleared hears of it only if no other bus
holds the mailbox, and a mailbox that forgets another one panics itself then, where it would have
refused its message. When two mailboxes panic that are let go of at once, that is the end of a bus
by itself. -/
theorem buses_not_apart :
    let elsewhere (gifts : List String) : List (Nat × Step) :=
      (1, .openBus "other" (.recording "tray")) ::
        gifts.map fun gift => (1, .subscribe "other" gift true)
    let shared (gifts : List String) := keepsakes gifts (elsewhere gifts)
    let single (gifts : List String) := keepsakes gifts []
    let helped := errand (elsewhere ["gift"])
    let alone := errand []
    ((∀ gifts, ∀ s ∈ shared gifts, s.2.Tame fun _ => True) ∧
    (∀ gifts, ∀ s ∈ single gifts, s.2.Tame fun _ => True) ∧
    requests 0 (shared ["gift"]) {} = requests 0 (single ["gift"]) {} ∧
    (∀ x ∈ dealings 0 (shared ["gift"]) {}, x.2 ≠ .error (.stopped .exhausted)) ∧
    (∀ x ∈ dealings 0 (single ["gift"]) {}, x.2 ≠ .error (.stopped .exhausted)) ∧
    (dealings 0 (shared ["gift"]) {}).map (·.2) ≠ (dealings 0 (single ["gift"]) {}).map (·.2) ∧
    ((run {} (shared ["gift", "token"])).registryOf 0).size = 1 ∧
    ((run {} (single ["gift", "token"])).registryOf 0).size = 0) ∧
    (∀ s ∈ helped, s.2.Tame fun _ => True) ∧ (∀ s ∈ alone, s.2.Tame fun _ => True) ∧
    requests 0 helped {} = requests 0 alone {} ∧
    (∀ x ∈ dealings 0 helped {}, x.2 ≠ .error (.stopped .exhausted)) ∧
    (∀ x ∈ dealings 0 alone {}, x.2 ≠ .error (.stopped .exhausted)) ∧
    ((run {} helped).receipts 0).length = 1 ∧ ((run {} alone).receipts 0).length = 0 := by
  intro elsewhere shared single helped alone
  constructor
  · have well : (dealings 0 (shared ["gift"]) {}).all (·.2.isOk) = true := by decide +kernel
    have well' : (dealings 0 (single ["gift"]) {}).all (·.2.isOk) = true := by decide +kernel
    refine ⟨fun gifts => tame_keepsakes gifts (by simp [elsewhere, Step.Tame, BusPlan.Aloof]),
      fun gifts => tame_keepsakes gifts (by simp), by cbv, unstopped_of_isOk well _,
      unstopped_of_isOk well' _, fun same => ?_, by decide +kernel, by decide +kernel⟩
    -- The bus alone is told of the panic when it is cleared.
    have quiet : ((dealings 0 (shared ["gift"]) {}).map (·.2))[2]? = some (.ok .done) := by cbv
    have told : ((dealings 0 (single ["gift"]) {}).map (·.2))[2]? =
        some (.ok (.panicked "lost")) := by cbv
    rw [same, told] at quiet
    cases quiet
  · have well : (dealings 0 helped {}).all (·.2.isOk) = true := by decide +kernel
    have well' : (dealings 0 alone {}).all (·.2.isOk) = true := by decide +kernel
    exact ⟨tame_errand (by simp [elsewhere, Step.Tame, BusPlan.Aloof]), tame_errand (by simp),
      by cbv, unstopped_of_isOk well _, unstopped_of_isOk well' _, by decide +kernel,
      by decide +kernel⟩

end MessageBus.Exchange
