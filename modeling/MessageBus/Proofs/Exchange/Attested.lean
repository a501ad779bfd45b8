import MessageBus.Proofs.Dispatch.Agenda

namespace MessageBus

/-- The sinks of a bus, which stay the same. -/
def BusCell.sinks (c : BusCell) : Sink × Sink := (c.deadLetters, c.failures)

/-- A mailbox as others see it, with its handler, which stay the same. -/
def MailboxCell.nature (c : MailboxCell) : Mailbox × Handler := (c.mailbox, c.handler)

namespace Exchange

/-- A relation between exchanges before and after: buses keep their sinks, mailboxes stay what they
are, and new ones come after them. -/
structure Lasting (w v : Exchange) : Prop where
  sinks : w.buses.map (·.sinks) <+: v.buses.map (·.sinks)
  natures : w.mailboxes.map (·.nature) <+: v.mailboxes.map (·.nature)

namespace Lasting

variable {u v w : Exchange}

theorem still (hb : v.buses.map (·.sinks) = w.buses.map (·.sinks))
    (hm : v.mailboxes.map (·.nature) = w.mailboxes.map (·.nature)) : Lasting w v :=
  ⟨hb ▸ List.prefix_rfl, hm ▸ List.prefix_rfl⟩

theorem trans (h : Lasting u v) (h' : Lasting v w) : Lasting u w :=
  ⟨h.sinks.trans h'.sinks, h.natures.trans h'.natures⟩

theorem bus {b : BusId} {f : BusCell → BusCell} (hf : ∀ c, (f c).sinks = c.sinks)
    (hb : v.buses = w.buses.modify b f) (hm : v.mailboxes = w.mailboxes) : Lasting w v :=
  .still (hb ▸ map_modify_of_still _ f hf b w.buses) (congrArg _ hm)

theorem mailbox {m : MailboxId} {f : MailboxCell → MailboxCell}
    (hf : ∀ c, (f c).nature = c.nature) (hm : v.mailboxes = w.mailboxes.modify m f)
    (hb : v.buses = w.buses) : Lasting w v :=
  .still (congrArg _ hb) (hm ▸ map_modify_of_still _ f hf m w.mailboxes)

theorem move (step : Move w v) : Lasting w v := by
  cases step with
  | bus deadLetters failures =>
    refine ⟨?_, List.prefix_rfl⟩
    rw [addBus, List.map_append]
    exact List.prefix_append _ _
  | mailbox cell =>
    refine ⟨List.prefix_rfl, ?_⟩
    rw [List.map_append]
    exact List.prefix_append _ _
  | called m => exact mailbox (fun _ => by rfl) rfl rfl
  | struck x =>
    cases x with
    | mailbox m => exact mailbox (fun _ => by rfl) rfl rfl
    | bus b => exact bus (fun _ => by rfl) rfl rfl
    | recorder r => exact still rfl rfl
  | resolved b m =>
    cases hb : w.buses[b]? with
    | none => exact resolve_none hb m ▸ still rfl rfl
    | some cell =>
      obtain ⟨u, rfl | ⟨_, rfl⟩, e⟩ := resolve_some hb m <;> rw [e] <;>
        exact bus (fun _ => by rfl) rfl rfl
  | subscribed | unsubscribed | cleared | returnedCalled | failedCalled =>
    exact bus (fun _ => by rfl) rfl rfl
  | _ => exact still rfl rfl

theorem mark (step : Mark w v) : Lasting w v := by
  cases step with
  | returned d x =>
    rw [keepReturned]
    split <;> exact .still rfl rfl
  | failed d x =>
    rw [keepFailed]
    split <;> exact .still rfl rfl
  | _ => exact .still rfl rfl

theorem sinks_eq (h : Lasting w v) {b : BusId} (hb : b < w.buses.length) :
    (v.buses[b]?).map (·.sinks) = (w.buses[b]?).map (·.sinks) := by
  have inside : b < (w.buses.map (·.sinks)).length := by rwa [List.length_map]
  obtain ⟨more, all⟩ := h.sinks
  rw [← List.getElem?_map, ← List.getElem?_map, ← all, List.getElem?_append_left inside]

theorem length_buses (h : Lasting w v) : w.buses.length ≤ v.buses.length := by
  simpa using h.sinks.length_le

theorem length_mailboxes (h : Lasting w v) : w.mailboxes.length ≤ v.mailboxes.length := by
  simpa using h.natures.length_le

theorem mailboxes (h : Lasting w v) :
    w.mailboxes.map (·.mailbox) <+: v.mailboxes.map (·.mailbox) := by
  have first := h.natures.map (·.1)
  rwa [List.map_map, List.map_map] at first

/-- The journal of a mailbox that is there does not change. -/
theorem journalOf_eq (h : Lasting w v) {m : MailboxId} (hm : m < w.mailboxes.length) :
    v.journalOf m = w.journalOf m := by
  have inside : m < (w.mailboxes.map (·.nature)).length := by rwa [List.length_map]
  have through (c : Option MailboxCell) :
      c.bind (·.handler.journal?) = (c.map (·.nature)).bind (·.2.journal?) := by
    cases c <;> rfl
  obtain ⟨more, all⟩ := h.natures
  rw [journalOf, journalOf, through, through, ← List.getElem?_map, ← List.getElem?_map, ← all,
    List.getElem?_append_left inside]

/-- What a sink would log of a record does not change. -/
theorem returnedLine_eq (h : Lasting w v) {x : ReturnedMessage} (hx : x.bus < w.buses.length) :
    v.returnedLine x = w.returnedLine x := by
  have through (c : Option BusCell) :
      c.bind (·.deadLetters.log?) = (c.map (·.sinks)).bind (·.1.log?) := by
    cases c <;> rfl
  rw [returnedLine, returnedLine, through, through, h.sinks_eq hx]

theorem failedLine_eq (h : Lasting w v) {x : FailedMessage} (hx : x.bus < w.buses.length) :
    v.failedLine x = w.failedLine x := by
  have through (c : Option BusCell) :
      c.bind (·.failures.log?) = (c.map (·.sinks)).bind (·.2.log?) := by
    cases c <;> rfl
  rw [failedLine, failedLine, through, through, h.sinks_eq hx]

end Lasting

theorem Leads.lasting {w v : Exchange} (h : Leads w v) : Lasting w v := by
  induction h with
  | refl => exact .still rfl rfl
  | tail _ step ih => exact ih.trans (step.elim .move .mark)

/-- Whether the mailboxes of a plan are there, each under its own target. -/
def Known (w : Exchange) (plan : List (Tag × Subscription)) : Prop :=
  ∀ x ∈ plan, x.1 = x.2.mailbox.tag ∧ x.2.mailbox ∈ w.mailboxes.map (·.mailbox)

theorem Known.mono {w v : Exchange} {plan : List (Tag × Subscription)} (h : w.Known plan)
    (l : Lasting w v) : v.Known plan :=
  fun x hx => ⟨(h x hx).1, l.mailboxes.subset (h x hx).2⟩

theorem Sound.known_agenda {w : Exchange} (h : w.Sound) (b : BusId) (m : Message) :
    w.Known ((live b w.history).agenda m) := by
  intro x hx
  obtain ⟨t, -, hs⟩ := List.mem_flatMap.mp hx
  obtain ⟨s, listed, rfl⟩ := List.mem_map.mp hs
  obtain ⟨alive, tag⟩ := Roll.mem_listFor.mp listed
  exact ⟨tag.symm, h.known b s alive⟩

/-- Routes lead somewhere. -/
theorem plan_ne_nil {w : Exchange} {b : BusId} {tags : List Tag} (h : w.routesFor b tags ≠ []) :
    Route.plan (w.routesFor b tags) ≠ [] := by
  obtain ⟨r, hr⟩ := List.exists_mem_of_ne_nil _ h
  have filled : r.subscriptions ≠ [] := by
    rw [routesFor] at hr
    cases hb : w.buses[b]? with
    | none => simp [hb] at hr
    | some cell => exact Registry.subscriptions_ne_nil (by simpa [hb] using hr)
  obtain ⟨s, hs⟩ := List.exists_mem_of_ne_nil _ filled
  exact List.ne_nil_of_mem (List.mem_flatMap.mpr ⟨r, hr, List.mem_map_of_mem hs⟩)

/-- A relation for whole runs of user code and dispatches, and one for what happens in the course of
a dispatch with a plan. They are asked for from exchanges that come about, on to what is led to; a
mailbox that a dispatch invokes is there. -/
structure Attested (S : Exchange → Exchange → Prop)
    (T : Dispatch → List (Tag × Subscription) → Exchange → Exchange → Prop) : Prop where
  refl : ∀ w, S w w
  trans : ∀ {u v w}, Leads v w → S u v → S v w → S u w
  modest : ∀ {w v}, w.Reachable → Move w v → Modest w v → S w v
  emitted : ∀ w e, S w ((w.log e).announce (.ran "emit" .done))
  inside : ∀ {d plan w v}, S w v → T d plan w v
  seq : ∀ {d plan u v w}, Leads v w → T d plan u v → T d plan v w → T d plan u w
  asked : ∀ {d plan s} {w u : Exchange} (outcome : Outcome), w.Reachable → d.bus < w.buses.length →
    (s.mailbox.tag, s) ∈ plan → s.mailbox ∈ w.mailboxes.map (·.mailbox) →
    let begun := (w.asking d (s.mailbox.tag, s)).noteFor s.mailbox d.message
    Leads begun u → Leads u (u.settle d s outcome) → S begun u → T d plan w (u.settle d s outcome)
  heard : ∀ {d plan} w result, T d plan w (w.record (.heard d result))
  released : ∀ {d plan} w result, T d plan w (w.record (.released d result))
  matched : ∀ {w v : Exchange} {d : Dispatch} {routes : List Route} (result),
    d.bus < w.buses.length → Route.plan routes ≠ [] → Leads (w.beginDispatch d routes) v →
    T d (Route.plan routes) (w.beginDispatch d routes) v → S w (v.record (.concluded d result))
  unmatched : ∀ {w v : Exchange} {d : Dispatch} (heard result), d.bus < w.buses.length →
    Leads w (w.returning d) → Leads (w.returning d) v → S (w.returning d) v →
    S w ((v.record (.heard d heard)).record (.concluded d result))

/-- A relation for runs, as far as exchanges that come about are led to others. -/
def Attests (S : Exchange → Exchange → Prop) (w v : Exchange) : Prop :=
  Leads w v ∧ (w.Reachable → S w v)

/-- The same for the course of a dispatch with a plan whose mailboxes are there. -/
def AttestsIn (T : Dispatch → List (Tag × Subscription) → Exchange → Exchange → Prop)
    (d : Dispatch) (plan : List (Tag × Subscription)) (w v : Exchange) : Prop :=
  Leads w v ∧ (w.Reachable → w.Known plan → T d plan w v)

namespace Attested

variable {S : Exchange → Exchange → Prop}
  {T : Dispatch → List (Tag × Subscription) → Exchange → Exchange → Prop} (h : Attested S T)

include h

theorem gentle : Gentle (Attests S) where
  refl w := ⟨.refl, fun _ => h.refl w⟩
  trans p q := ⟨p.1.trans q.1, fun hu => h.trans q.1 (p.2 hu) (q.2 (hu.trans p.1))⟩
  modest step small := ⟨.single (.inl step), fun hw => h.modest hw step small⟩

theorem witnessed {call : Runner} (hc : Keeps (Attests S) call) :
    Witnessed (Attests S) (AttestsIn T) call := by
  have leads : Traced Leads call := Leads.traced fun work w within => (hc work w within).1
  refine
    { toGentle := h.gentle
      grows := fun p => p.1.length_buses
      keeps := hc
      emitted := fun w e => ⟨leads.witnessed.emitted w e, fun _ => h.emitted w e⟩
      inside := fun p => ⟨p.1, fun hw _ => h.inside (p.2 hw)⟩
      within := fun p => p.1.length_buses
      seq := fun p q => ⟨p.1.trans q.1, fun hu known =>
        h.seq q.1 (p.2 hu known) (q.2 (hu.trans p.1) (known.mono p.1.lasting))⟩
      heard := fun w result => ⟨leads.heard w _ result, fun _ _ => h.heard w result⟩
      released := fun w result => ⟨leads.released w _ result, fun _ _ => h.released w result⟩
      asked := ?asked
      matched := ?matched
      unmatched := ?unmatched }
  case asked =>
    rintro d plan ⟨t, s⟩ w hb hx result
    have begun : Leads w ((w.asking d (t, s)).noteFor s.mailbox d.message) := by
      have logged := leads.move (.logged w (.delivering d.message.tag t s.mailbox.name s.seq))
      exact (logged.trans (leads.invoked _ d s)).trans (leads.toSteady.noteFor _ _ _)
    have delivered := h.gentle.deliver hc s.mailbox d.message (w.asking d (t, s))
    have led : Leads w result.1 := begun.trans delivered.1
    have settled : Leads result.1 (result.1.settle d s result.2) :=
      (Leads.mark (.answered _ d s _)).trans
        (leads.settled _ d s _ (Nat.lt_of_lt_of_le hb led.length_buses))
    refine ⟨led.trans settled, fun hw known => ?_⟩
    have entry : t = s.mailbox.tag ∧ s.mailbox ∈ w.mailboxes.map (·.mailbox) := known (t, s) hx
    obtain ⟨rfl, there⟩ := entry
    exact h.asked result.2 hw hb hx there delivered.1 settled (delivered.2 (hw.trans begun))
  case matched =>
    intro w v b m cell c result hb hc some_found d routes course
    have begun := leads.begun hb hc
    refine ⟨(begun.trans course.1).trans (leads.concluded v d result), fun hw => ?_⟩
    have known : w.Known (Route.plan routes) := by
      rw [hw.sound.plan_routes hb hc]
      exact hw.sound.known_agenda b m
    exact h.matched result (List.getElem?_eq_some_iff.mp hb).1 (plan_ne_nil some_found) course.1
      (course.2 (hw.trans begun) known)
  case unmatched =>
    intro w v b m cell c heard result hb hc none_found d rest
    have returned := leads.returning hb hc none_found
    have told := (returned.trans rest.1).trans (leads.heard v d heard)
    refine ⟨told.trans (leads.concluded _ d result), fun hw => ?_⟩
    exact h.unmatched heard result (List.getElem?_eq_some_iff.mp hb).1 returned rest.1
      (rest.2 (hw.trans returned))

theorem tended (depth : Nat) : Tended (Attests S) (runner depth) :=
  Tended.runner (fun _ hc => (h.witnessed hc).tended) h.gentle.refl depth

/-- What is attested holds along a step from outside that logs nothing itself. -/
theorem step {w : Exchange} (hw : w.Reachable) (depth : Nat) {step : Step}
    (silent : step.emission? = none) : S w (w.step depth step).1 :=
  ((h.tended depth).perform none step w (by simp) silent).2 hw

/-- It holds along a run when it does along what is logged from outside. -/
theorem run (told : ∀ w e, S w (w.log e)) {w : Exchange} (hw : w.Reachable)
    (steps : List (Nat × Step)) : S w (w.run steps) := by
  induction steps generalizing w with
  | nil => exact h.refl w
  | cons s steps ih =>
    have first : S w (w.step s.1 s.2).1 := by
      cases emits : s.2.emission? with
      | none => exact h.step hw s.1 emits
      | some e =>
        rw [Exchange.step, perform_of_emission emits]
        exact told w e
    have later := ih (hw.step s.1 s.2)
    exact run_cons (fun _ => first) fun _ => h.trans (lawful_leads.run _ steps) first later

end Attested

end Exchange

end MessageBus
