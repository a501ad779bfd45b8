import MessageBus.Proofs.Dispatch.Agenda
import MessageBus.Proofs.Exchange.Orderly

namespace MessageBus.Exchange

/-- What happens during a publish: at most a line about the chain of the message, then a dispatch
that follows the agenda of the message as things stand when it begins. -/
theorem Sound.publish_course {w : Exchange} (h : w.Sound) {b : BusId} (hb : b < w.buses.length)
    (m : Message) (depth : Nat) :
    let d := w.nextDispatch b m
    let plan := (live b w.history).agenda m
    let result := publish (runner depth) b m w
    ∃ logs course, (∀ o ∈ logs, ∃ e, o = .logged e) ∧
      result.1.history = w.history ++ (logs ++ .published d plan :: course) ∧
      Course d plan course result.2 := by
  obtain ⟨logs, course, lines, hist, goes, -, -⟩ :=
    Exchange.publish_course (lawful_orderly.runner depth) b m w hb
  rw [h.plan_eq hb m] at hist goes
  exact ⟨logs, course, lines, hist.trans (List.append_assoc _ _ _), goes⟩

theorem own_begun {d : Dispatch} {logs : List Occurrence} (hl : ∀ o ∈ logs, ∃ e, o = .logged e)
    (plan : List (Tag × Subscription)) (course : List Occurrence) :
    own d.number (logs ++ .published d plan :: course) =
      .published d plan :: own d.number course := by
  rw [own_append, own_lines hl, own_cons, if_pos (Occurrence.isOf_number rfl)]
  rfl

/-- Nothing is invoked before a dispatch has begun. -/
theorem invocations_begun {d : Dispatch} {logs : List Occurrence}
    (hl : ∀ o ∈ logs, ∃ e, o = .logged e) (plan : List (Tag × Subscription))
    (course : List Occurrence) :
    invocations d.number (logs ++ .published d plan :: course) = invocations d.number course := by
  rw [invocations, own_begun hl]
  rfl

/-- The mailboxes that a publish invokes itself, whatever they and the sinks do meanwhile, are an
initial segment of the agenda of its message as things stood when it was called, and the whole of
it when no mailbox answers fatally and nothing panics. So a subscription made meanwhile is not
invoked, one taken back meanwhile still is, a mailbox is invoked as often as it was subscribed, and
only the order of subscriptions to one type matters. -/
theorem publish_invocations {w : Exchange} (hw : w.Reachable) {b : BusId}
    (hb : b < w.buses.length) (m : Message) (depth : Nat) :
    let S := live b w.history
    let L := (S.agenda m).map (·.2)
    let d := w.nextDispatch b m
    (∀ t, w.buses[b].registry.listFor t = S.listFor t) ∧
    ∃ new, (publish (runner depth) b m w).1.history = w.history ++ new ∧
      invocations d.number new <+: L ∧
      (Calm d new → invocations d.number new = L) ∧
      (∀ s, .subscribed b s ∈ new → s ∉ invocations d.number new) ∧
      (Calm d new → ∀ s ∈ S, s.mailbox.tag ∈ m.ancestry → s ∈ invocations d.number new) ∧
      (Calm d new → ∀ x : Mailbox, x.tag ∈ m.ancestry →
        (invocations d.number new).countP (·.mailbox = x) = S.countP (·.mailbox = x)) ∧
      ∀ S' : Roll, (∀ t, (S'.listFor t).map (·.mailbox) = (S.listFor t).map (·.mailbox)) →
        ((S'.agenda m).map (·.2)).map (·.mailbox) = L.map (·.mailbox) := by
  intro S L d
  have here := List.getElem?_eq_getElem hb
  refine ⟨(hw.sound.fits b _ here).lists.listFor, ?_⟩
  obtain ⟨logs, course, lines, hist, goes⟩ := hw.sound.publish_course hb m depth
  have same : invocations d.number (logs ++ .published d (S.agenda m) :: course) =
      invocations d.number course := invocations_begun lines _ _
  have segment := same ▸ goes.invocations
  have whole (hc : Calm d (logs ++ .published d (S.agenda m) :: course)) :
      invocations d.number (logs ++ .published d (S.agenda m) :: course) = L := by
    rw [same]
    exact goes.invocations_of_calm (hc.mono fun o ho => by simp [(mem_own.mp ho).1])
  refine ⟨_, hist, segment, whole, fun s hs member => ?_, fun hc s hs ht => ?_, fun hc x hx => ?_,
    fun S' h => Roll.map_mailbox_agenda m h⟩
  · have grown := (hw.publish depth b m hb).sound
    obtain ⟨buses, -⟩ := lawful_orderly.publish (lawful_orderly.runner depth) b m w hb
    have there := List.getElem?_eq_getElem (Nat.lt_of_lt_of_le hb buses)
    exact grown.not_live_of_later there hist hs (Roll.mem_map_agenda.mp (segment.subset member)).1
  · rw [whole hc]
    exact Roll.mem_map_agenda.mpr ⟨hs, ht⟩
  · rw [whole hc, Roll.countP_agenda]
    refine List.countP_congr fun s _ => ?_
    simp only [Bool.and_eq_true, decide_eq_true_eq, and_iff_left_iff_imp]
    rintro rfl
    exact hx

/-- A bus with a mailbox that hands its place over to another when it is called. -/
def relay : Exchange :=
  run {}
    [(1, .openBus "bus" (.responding (fun _ _ => .mk [] .succeed) fun _ _ => .mk [] .succeed)),
      (1, .openMailbox "one" "one" { tag := .child "Note" .root }
        (.responding
          (fun _ _ => .mk [.unsubscribe "bus" "one", .subscribe "bus" "two" false] .succeed)
          false none) none),
      (1, .openMailbox "two" "two" { tag := .root }
        (.responding (fun _ _ => .mk [] .succeed) false none) none),
      (1, .subscribe "bus" "one" false)]

theorem publish_invocations_relay :
    relay.Reachable ∧ 0 < relay.buses.length ∧
    ∃ new, (publish (runner 3) 0 (.top "Note" (.word "Note")) relay).1.history =
        relay.history ++ new ∧
      (invocations 0 new).map (·.mailbox.name) = ["one"] := by
  have comes : relay.Reachable := reachable_run _
  have there : 0 < relay.buses.length := by decide
  refine ⟨comes, there, ?_⟩
  obtain ⟨-, new, hist, -, whole, -⟩ :=
    publish_invocations comes there (.top "Note" (.word "Note")) 3
  have news : new = ((publish (runner 3) 0 (.top "Note" (.word "Note")) relay).1.history).drop
      relay.history.length := by
    rw [hist, List.drop_left]
  have calm : Calm (relay.nextDispatch 0 (.top "Note" (.word "Note"))) new := by
    apply Calm.of_undisturbed
    rw [news]
    rfl
  have all := whole calm
  refine ⟨new, hist, ?_⟩
  rw [show (0 : Nat) = (relay.nextDispatch 0 (.top "Note" (.word "Note"))).number from rfl, all]
  rfl

end MessageBus.Exchange
