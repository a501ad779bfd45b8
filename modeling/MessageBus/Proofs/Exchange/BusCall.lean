import MessageBus.Proofs.Dispatch.Order
import MessageBus.Proofs.Exchange.Heard
import MessageBus.Proofs.Exchange.Replay

namespace MessageBus

/-- A call of a bus from outside, or something else that is asked of the exchange. -/
inductive BusCall
  | subscribe (m : Mailbox)
  | unsubscribe (m : Mailbox)
  | publish (m : Message)
  | other (step : Step)

/-- Whether an occurrence changes the subscriptions of a bus or begins a dispatch on it. -/
def Occurrence.touches (b : BusId) : Occurrence → Bool
  | .subscribed c _ | .unsubscribed c _ | .cleared c => c = b
  | .published d _ => d.bus = b
  | _ => false

namespace BusCall

/-- Makes a call of a bus, with a depth to which the calls it sets off may nest. -/
def make (depth : Nat) (b : BusId) (x : BusCall) (w : Exchange) : Exchange :=
  match x, w.buses[b]? with
  | other step, _ => (w.step depth step).1
  | _, none => w
  | subscribe m, some cell => (subscribeMailbox b cell m w).1
  | unsubscribe m, some cell => (unsubscribeMailbox (runner depth) b cell m w).1
  | publish m, some _ => (MessageBus.publish (runner depth) b m w).1

/-- What happens in the course of a call. -/
def course (depth : Nat) (b : BusId) (x : BusCall) (w : Exchange) : List Occurrence :=
  (x.make depth b w).historySince w.trace.length

/-- How often a call touches its bus itself. -/
def weight : BusCall → Nat
  | other _ => 0
  | _ => 1

/-- Nothing that is run in the course of a call touches the bus. -/
def Discreet (depth : Nat) (b : BusId) (x : BusCall) (w : Exchange) : Prop :=
  (x.course depth b w).countP (Occurrence.touches b) ≤ x.weight

/-- No dispatch that a call begins on the bus is broken off. -/
def Completes (depth : Nat) (b : BusId) (x : BusCall) (w : Exchange) : Prop :=
  ∀ d plan, .published d plan ∈ x.course depth b w → d.bus = b → Unbroken d (x.course depth b w)

/-- Whether every dispatch that begins in some course of events stays calm in it. -/
def undisturbed (course : List Occurrence) : Bool :=
  course.all fun o =>
    match o with
    | .published d _ => !course.any (·.disturbs d.number)
    | _ => true

theorem Completes.of_undisturbed {depth : Nat} {b : BusId} {x : BusCall} {w : Exchange}
    (still : undisturbed (x.course depth b w) = true) : x.Completes depth b w := by
  intro d plan begun _
  refine (Calm.of_undisturbed ?_).unbroken
  simpa [undisturbed] using List.all_eq_true.mp still _ begun

/-- The message of a publish, and the mailboxes that it invokes. -/
def delivery? (depth : Nat) (b : BusId) (x : BusCall) (w : Exchange) :
    Option (Message × List Mailbox) :=
  match x with
  | publish m => some (m, (invocations w.dispatches (x.course depth b w)).map (·.mailbox))
  | _ => none

/-- The mailbox that a call is about. -/
def mailbox? : BusCall → Option Mailbox
  | subscribe m | unsubscribe m => some m
  | publish _ | other _ => none

/-- What a call makes of the live subscriptions of its bus, if the next one has a number. -/
def amend (seq : Nat) (S : Roll) : BusCall → Roll
  | subscribe m => S ++ [{ seq, mailbox := m }]
  | unsubscribe m => S.without m.id
  | publish _ | other _ => S

end BusCall

namespace Exchange

variable {w : Exchange} {b : BusId} {x : BusCall} {depth : Nat}

/-- What happens apart from the bus makes nothing of its subscriptions. -/
theorem foldl_amend_of_untouched {new : List Occurrence}
    (apart : new.countP (Occurrence.touches b) = 0) (S : Roll) :
    new.foldl (Occurrence.amend b) S = S := by
  rw [List.countP_eq_zero] at apart
  refine foldl_amend_of_still (fun o ho S => ?_) S
  have untouched := apart o ho
  cases o with
  | subscribed | unsubscribed | cleared =>
    exact if_neg (by simpa [Occurrence.touches] using untouched)
  | _ => rfl

theorem leads_make (hx : ∀ m ∈ x.mailbox?, m ∈ w.mailboxes.map (·.mailbox)) :
    Leads w (x.make depth b w) := by
  have leads := lawful_leads.respected (lawful_leads.runner depth)
  rw [BusCall.make.eq_def]
  split
  · exact leads_step depth _ w
  · exact .refl
  · next hb => exact Leads.steady.move (.subscribed w b _ _ hb (hx _ rfl))
  · next hb => exact Leads.steady.unsubscribeMailbox leads.keeps b _ _ w hb (hx _ rfl)
  · next hb => exact leads.publish b _ w (List.getElem?_eq_some_iff.mp hb).1

theorem history_subscribeMailbox (b : BusId) (cell : BusCell) (m : Mailbox) (w : Exchange) :
    (subscribeMailbox b cell m w).1.history = w.history ++
      [.subscribed b { seq := cell.registry.nextSeq, mailbox := m },
        .logged (.subscribed m cell.registry.nextSeq)] := by
  have start (registry : Registry) :
      (w.modifyBus b fun c => { c with registry }).history = w.history := rfl
  rw [subscribeMailbox, history_log, history_record, start, List.append_assoc]
  rfl

/-- A mailbox that is not subscribed cannot be taken off, and only such a one. -/
theorem Sound.unsubscribe_error (hw : w.Sound) {cell : BusCell} (hb : w.buses[b]? = some cell)
    {m : Mailbox} (hm : m ∈ w.mailboxes.map (·.mailbox)) {e : BusError}
    (failed : cell.registry.unsubscribe m = .error e) :
    ∀ s ∈ live b w.history, s.mailbox.id ≠ m.id := by
  intro s hs same
  have lists := (hw.fits b cell hb).lists
  have one_tag : ∀ y ∈ live b w.history, y.mailbox.id = m.id → y.mailbox.tag = m.tag := by
    intro y hy e
    rw [hw.eq_of_id (hw.known b y hy) hm e]
  cases found : (live b w.history).find? (·.mailbox.id = m.id) with
  | none => simpa [same] using List.find?_eq_none.mp found s hs
  | some y =>
    obtain ⟨r, done, -⟩ := lists.unsubscribe_some m one_tag found
    rw [failed] at done
    simp at done

theorem course_eq {new : List Occurrence}
    (hist : (x.make depth b w).history = w.history ++ new) : x.course depth b w = new :=
  historySince_of_append hist

/-- Of two things that touch the bus in the course of a discreet call one is too many. -/
theorem Discreet.apart (discreet : x.Discreet depth b w) {before after : List Occurrence}
    {o : Occurrence} (parts : x.course depth b w = before ++ o :: after)
    (touches : o.touches b = true) :
    before.countP (Occurrence.touches b) = 0 ∧ after.countP (Occurrence.touches b) = 0 := by
  have light : x.weight ≤ 1 := by cases x <;> simp [BusCall.weight]
  have alone := Nat.le_trans discreet light
  rw [parts, List.countP_append, List.countP_cons, if_pos touches] at alone
  omega

theorem make_some {cell : BusCell} (hb : w.buses[b]? = some cell) : x.make depth b w =
    match x with
    | .subscribe m => (subscribeMailbox b cell m w).1
    | .unsubscribe m => (unsubscribeMailbox (runner depth) b cell m w).1
    | .publish m => (MessageBus.publish (runner depth) b m w).1
    | .other step => (w.step depth step).1 := by
  cases x <;> simp only [BusCall.make, hb]

theorem live_subscribe (hb : b < w.buses.length) (m : Mailbox) (depth : Nat) :
    live b (BusCall.make depth b (.subscribe m) w).history =
      live b w.history ++ [{ seq := (w.registryOf b).nextSeq, mailbox := m }] := by
  have here := List.getElem?_eq_getElem hb
  rw [make_some here, registryOf_eq here]
  dsimp only
  rw [history_subscribeMailbox, live_append]
  simp [Occurrence.amend]

theorem Sound.live_unsubscribe (hw : w.Sound) (hb : b < w.buses.length) {m : Mailbox}
    (hm : m ∈ w.mailboxes.map (·.mailbox))
    (discreet : BusCall.Discreet depth b (.unsubscribe m) w) :
    live b (BusCall.make depth b (.unsubscribe m) w).history = (live b w.history).without m.id := by
  have here := List.getElem?_eq_getElem hb
  cases done : w.buses[b].registry.unsubscribe m with
  | error e =>
    have same : BusCall.make depth b (.unsubscribe m) w = w := by
      rw [make_some here]
      simp only [unsubscribeMailbox, done]
    rw [same, Roll.without, List.eraseP_of_forall_not]
    simpa using hw.unsubscribe_error here hm done
  | ok result =>
    obtain ⟨registry, s⟩ := result
    let told := ((w.modifyBus b fun c => { c with registry }).record (.unsubscribed b m)).log
      (.unsubscribed s.mailbox s.seq)
    have same : BusCall.make depth b (.unsubscribe m) w =
        (releasing (runner depth) (some (.mailbox s.mailbox.id)) .done told).1 := by
      rw [make_some here]
      simp only [unsubscribeMailbox, done, told]
    have start : (w.modifyBus b fun c => { c with registry }).history = w.history := rfl
    have goes : Leads told (BusCall.make depth b (.unsubscribe m) w) :=
      same ▸ Leads.steady.releasing (lawful_leads.runner depth) _ _ told
    obtain ⟨rest, hist, -⟩ := goes.heeds
    have parts : (BusCall.make depth b (.unsubscribe m) w).history = w.history ++
        ([] ++ .unsubscribed b m :: .logged (.unsubscribed s.mailbox s.seq) :: rest) := by
      rw [hist, history_log, history_record, start]
      simp
    obtain ⟨-, apart⟩ := Discreet.apart discreet (course_eq parts) (by simp [Occurrence.touches])
    rw [parts, live_append, List.nil_append, List.foldl_cons, foldl_amend_of_untouched apart,
      Occurrence.amend, if_pos rfl]

theorem Sound.live_publish (hw : w.Sound) (hb : b < w.buses.length) {m : Message}
    (discreet : BusCall.Discreet depth b (.publish m) w) :
    live b (BusCall.make depth b (.publish m) w).history = live b w.history ∧
      (BusCall.Completes depth b (.publish m) w →
        invocations w.dispatches (BusCall.course depth b (.publish m) w) =
          ((live b w.history).agenda m).map (·.2)) := by
  have here := List.getElem?_eq_getElem hb
  obtain ⟨logs, course, lines, hist, goes⟩ := hw.publish_course hb m depth
  have parts : (BusCall.make depth b (.publish m) w).history = w.history ++
      (logs ++ .published (w.nextDispatch b m) ((live b w.history).agenda m) :: course) := by
    rw [make_some here]
    exact hist
  have whole := course_eq parts
  obtain ⟨before, after⟩ :=
    Discreet.apart discreet whole (by simp [Occurrence.touches, nextDispatch])
  refine ⟨?_, fun completes => ?_⟩
  · rw [parts, live_append, List.foldl_append, foldl_amend_of_untouched before, List.foldl_cons,
      foldl_amend_of_untouched after]
    rfl
  · have unbroken := completes (w.nextDispatch b m) ((live b w.history).agenda m)
      (by simp [whole]) rfl
    have same : invocations w.dispatches (BusCall.course depth b (.publish m) w) =
        invocations (w.nextDispatch b m).number course := by
      rw [whole]
      exact invocations_begun (d := w.nextDispatch b m) lines _ _
    rw [same]
    refine goes.invocations_of_unbroken (unbroken.mono fun o ho => ?_)
    simp [whole, (mem_own.mp ho).1]

theorem live_other {step : Step} (discreet : BusCall.Discreet depth b (.other step) w) :
    live b (BusCall.make depth b (.other step) w).history = live b w.history := by
  have goes : Leads w (BusCall.make depth b (.other step) w) :=
    leads_make (by simp [BusCall.mailbox?])
  obtain ⟨new, hist, -⟩ := goes.heeds
  have untouched : new.countP (Occurrence.touches b) = 0 :=
    course_eq hist ▸ Nat.le_zero.mp discreet
  rw [hist, live_append]
  exact foldl_amend_of_untouched untouched _

/-- What a discreet call makes of the subscriptions of its bus. -/
theorem Sound.live_make (hw : w.Sound) (hb : b < w.buses.length)
    (hx : ∀ m ∈ x.mailbox?, m ∈ w.mailboxes.map (·.mailbox)) (discreet : x.Discreet depth b w) :
    live b (x.make depth b w).history = x.amend (w.registryOf b).nextSeq (live b w.history) := by
  cases x with
  | subscribe m => exact live_subscribe hb m depth
  | unsubscribe m => exact hw.live_unsubscribe hb (hx m rfl) discreet
  | publish m => exact (hw.live_publish hb discreet).1
  | other step => exact live_other discreet

end Exchange

namespace BusCall

/-- Makes calls of a bus one after another. -/
def makeAll (depth : Nat) (b : BusId) (xs : List BusCall) (w : Exchange) : Exchange :=
  xs.foldl (fun w x => x.make depth b w) w

/-- Each of some calls has a property when it is made after the ones before it. -/
def Throughout (P : Nat → BusId → BusCall → Exchange → Prop) (depth : Nat) (b : BusId) :
    List BusCall → Exchange → Prop
  | [], _ => True
  | x :: xs, w => P depth b x w ∧ Throughout P depth b xs (x.make depth b w)

/-- The messages that are published by calls that are made one after another, each with the
mailboxes that it is handed to. -/
def deliveries (depth : Nat) (b : BusId) : List BusCall → Exchange → List (Message × List Mailbox)
  | [], _ => []
  | x :: xs, w => (x.delivery? depth b w).toList ++ deliveries depth b xs (x.make depth b w)

end BusCall

end MessageBus
