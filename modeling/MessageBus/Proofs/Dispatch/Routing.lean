import MessageBus.Proofs.Dispatch.Agenda
import MessageBus.Proofs.Exchange.Candid
import MessageBus.Proofs.Message.Narrowing

namespace MessageBus

/-- A subscription is on the agenda of a message exactly when its mailbox sees the message. -/
theorem Roll.mem_agenda_iff_narrow {S : Roll} {s : Subscription} (hs : s ∈ S)
    (sighted : s.mailbox.target.blind = false) (m : Message) :
    s ∈ (S.agenda m).map (·.2) ↔ (s.mailbox.target.narrow m).isSome = true := by
  rw [mem_map_agenda, Target.isSome_narrow sighted]
  exact and_iff_right hs

namespace Exchange

/-- The subscriptions that the routes of a bus lead to are the agenda of the message. -/
theorem Sound.entries {w : Exchange} (h : w.Sound) {b : BusId} {cell : BusCell}
    (hb : w.buses[b]? = some cell) (m : Message) :
    (cell.registry.entriesFor (cell.resolver.resolve m).2.tags).flatMap (·.subscriptions) =
      ((live b w.history).agenda m).map (·.2) := by
  obtain ⟨lists, -, chains⟩ := h.fits b cell hb
  rw [chains.tags_resolve m, ← plan_entriesFor lists, Route.plan, List.map_flatMap]
  refine List.flatMap_congr fun r _ => ?_
  rw [List.map_map]
  exact (List.map_id _).symm

/-- In a run whose mailboxes are not blind, a dispatch goes only to mailboxes that see its
message. -/
theorem sees_of_act {steps : List (Nat × Step)}
    (sighted : ∀ c ∈ (run {} steps).mailboxes, c.mailbox.target.blind = false)
    {h₁ h₂ course : List Occurrence} {d : Dispatch} {plan : List (Tag × Subscription)}
    {result : Except Halt (Option BusError)}
    (hist : (run {} steps).history = h₁ ++ .published d plan :: h₂)
    (goes : Course d plan course result) {s : Subscription}
    (act : .invoked d s ∈ own d.number course ∨
      ∃ outcome, .answered d s outcome ∈ own d.number course) :
    s.mailbox ∈ (run {} steps).mailboxes.map (·.mailbox) ∧
      (s.mailbox.target.narrow d.message).isSome = true := by
  have planned : plan = (live d.bus h₁).agenda d.message :=
    (reachable_run steps).planned h₁ d plan h₂ hist
  have member : s ∈ plan.map (·.2) := by
    rcases act with act | ⟨outcome, act⟩ <;> cases goes.act act <;> assumption
  rw [planned] at member
  have alive := (Roll.mem_map_agenda.mp member).1
  have made : .subscribed d.bus s ∈ (run {} steps).history := by
    rw [hist]
    exact List.mem_append_left _ (subscribed_of_live alive)
  obtain ⟨new, all, vouched⟩ := (Candid.run {} steps).answers
  have whole : (run {} steps).history = new := all
  have known : s.mailbox ∈ (run {} steps).mailboxes.map (·.mailbox) :=
    vouched (.subscribed d.bus s) (whole ▸ made)
  obtain ⟨c, hc, same⟩ := List.mem_map.mp known
  have open_eyed : s.mailbox.target.blind = false := same ▸ sighted c hc
  exact ⟨known, (Roll.mem_agenda_iff_narrow alive open_eyed d.message).mp member⟩

/-- Whoever a bus routes a message to sees it, and whoever is subscribed and sees it is routed to:
the chain of types by which subscriptions are found and the walk up the message agree. So in a run
in which no mailbox was made blind, no mailbox is ever invoked with a message that it does not see,
and a publish is aborted only because the handler of a mailbox refused its message fatally. -/
theorem run_narrows :
    (∀ (w : Exchange), w.Reachable → ∀ (b : BusId) (cell : BusCell), w.buses[b]? = some cell →
      ∀ (m : Message), ∀ s ∈ live b w.history, s.mailbox.target.blind = false →
        (s ∈ (cell.registry.entriesFor (cell.resolver.resolve m).2.tags).flatMap
            (·.subscriptions) ↔
          (s.mailbox.target.narrow m).isSome = true)) ∧
    ∀ (steps : List (Nat × Step)),
      let w := run {} steps
      (∀ c ∈ w.mailboxes, c.mailbox.target.blind = false) →
        (∀ d s, .invoked d s ∈ w.history →
          ∃ view, s.mailbox.target.narrow d.message = some view ∧
            ∀ call u, deliver call s.mailbox d.message u = respond call s.mailbox view u) ∧
        ∀ d mailbox tag cause,
          .concluded d (.ok (some (.deliveryAborted mailbox tag cause))) ∈ w.history →
            ∃ s c view, .answered d s (.ok (some (.fatal cause))) ∈ w.history ∧
              s.mailbox.name = mailbox ∧ d.message.tag = tag ∧
              s.mailbox.target.narrow d.message = some view ∧
              w.mailboxes[s.mailbox.id]? = some c ∧ c.mailbox = s.mailbox ∧
              c.HasRefused view (.fatal cause) := by
  constructor
  · intro w hw b cell hb m s hs sighted
    rw [hw.sound.entries hb m]
    exact Roll.mem_agenda_iff_narrow hs sighted m
  · intro steps w sighted
    have orderly : Orderly {} w := lawful_orderly.run {} steps
    constructor
    · intro d s invoked
      obtain ⟨h₁, plan, h₂, course, result, hist, goes, act, -⟩ :=
        orderly.origin invoked rfl (by simp)
      obtain ⟨-, sees⟩ := sees_of_act sighted hist goes (.inl act)
      obtain ⟨view, hv⟩ := Option.isSome_iff_exists.mp sees
      refine ⟨view, hv, ?_⟩
      intro call u
      rw [deliver, hv]
    · intro d mailbox tag cause concluded
      obtain ⟨h₁, plan, h₂, course, result, hist, goes, act, happened⟩ :=
        orderly.origin concluded rfl (by simp)
      have ends : result = .ok (some (.deliveryAborted mailbox tag cause)) := by
        cases goes.act act
        rfl
      obtain ⟨s, reason, answered, named⟩ := (ends ▸ goes).aborted
      obtain ⟨rfl, rfl, rfl⟩ := BusError.deliveryAborted.inj named
      obtain ⟨known, sees⟩ := sees_of_act sighted hist goes (.inr ⟨_, answered⟩)
      obtain ⟨view, seen⟩ := Option.isSome_iff_exists.mp sees
      have there := happened _ answered
      obtain ⟨new, all, vouched⟩ := (Candid.run {} steps).answers
      have whole : w.history = new := all
      obtain ⟨c, hc, refused⟩ :=
        vouched (.answered d s (.ok (some (.fatal cause)))) (whole ▸ there) view seen
      have sound := (reachable_run steps).sound
      have index : c.mailbox.id = s.mailbox.id :=
        sound.mailboxes s.mailbox.id c.mailbox (by rw [List.getElem?_map, hc]; rfl)
      have same : c.mailbox = s.mailbox :=
        sound.eq_of_id (List.mem_map_of_mem (List.mem_of_getElem? hc)) known index
      exact ⟨s, c, view, there, rfl, rfl, seen, hc, same, refused⟩

/-- A guard that is on the alert, and stops what is a siren among other alerts. -/
def watch : List (Nat × Step) :=
  [(1, .openBus "bus" (.recording "tray")),
    (1, .openMailbox "guard" "guard" { tag := .child "Alert" .root }
      (.responding (fun _ _ => .mk [] (.refuse (.fatal (.text "shut")))) false none) none),
    (1, .subscribe "bus" "guard" false),
    (2, .publish "bus" (.sub "Siren" (.top "Alert" (.word "Alert")) (.word "Siren")) 1)]

theorem run_narrows_watch :
    let w := run {} watch
    let m : Message := .sub "Siren" (.top "Alert" (.word "Alert")) (.word "Siren")
    let s : Subscription :=
      { seq := 0, mailbox := ⟨0, "guard", { tag := .child "Alert" .root }⟩ }
    (∃ cell, w.buses[0]? = some cell ∧
      s ∈ (cell.registry.entriesFor (cell.resolver.resolve m).2.tags).flatMap (·.subscriptions)) ∧
    (∀ c ∈ w.mailboxes, c.mailbox.target.blind = false) ∧
    ∃ (s : Subscription) (c : MailboxCell) (view : Message), s.mailbox.name = "guard" ∧
      s.mailbox.target.narrow m = some view ∧ w.mailboxes[s.mailbox.id]? = some c ∧
      c.HasRefused view (.fatal (.text "shut")) := by
  intro w m s
  obtain ⟨routes, runs⟩ := run_narrows
  have sighted : ∀ c ∈ (run {} watch).mailboxes, c.mailbox.target.blind = false := by
    intro c hc
    have all : (run {} watch).mailboxes.map (·.mailbox.target.blind) = [false] := by cbv
    have member := List.mem_map_of_mem (f := (·.mailbox.target.blind)) hc
    rw [all] at member
    exact List.mem_singleton.mp member
  have there : 0 < (run {} watch).buses.length := by decide +kernel
  have alive : s ∈ live 0 (run {} watch).history := by
    have all : live 0 (run {} watch).history = [s] := by
      subst s
      cbv
    exact all ▸ List.mem_singleton_self s
  have routed := routes w (reachable_run watch) 0 _ (List.getElem?_eq_getElem there) m s alive rfl
  have aborted : (run {} watch).history[10]? =
      some (.concluded { number := 0, bus := 0, message := m }
        (.ok (some (.deliveryAborted "guard" m.tag (.text "shut"))))) := by
    subst m
    cbv
  have seen : (s.mailbox.target.narrow m).isSome = true := rfl
  obtain ⟨-, blamed⟩ := runs watch sighted
  obtain ⟨x, c, view, -, name, -, sees, cell, -, refused⟩ :=
    blamed _ _ _ _ (List.mem_of_getElem? aborted)
  exact ⟨⟨_, List.getElem?_eq_getElem there, routed.mpr seen⟩, sighted, x, c, view, name, sees,
    cell, refused⟩

end Exchange

end MessageBus
