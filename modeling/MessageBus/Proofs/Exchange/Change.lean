import MessageBus.Exchange.Run
import Mathlib

namespace MessageBus

/-- Whether a line tells what becomes of messages: a bus tells of what it delivers, and a logging
sink of what it is handed. -/
def Log.Event.isAudit (e : Log.Event) : Bool :=
  e.target = "postal_bus::bus" || e.target = "postal_telemetry::sink"

/-- What a step logs for the code that performs it, when that is all it does. -/
def Step.emission? : Step → Option Log.Event
  | .emit e => some e
  | .guarded step => step.emission?
  | _ => none

/-- An occurrence by which nothing is told of messages. Code that logs something itself announces
that as well. -/
def Occurrence.IsModest : Occurrence → Prop
  | .logged e => e.isAudit = false
  | .announced a => a ≠ .ran "emit" .done
  | _ => True

/-- The recorder a sink hands its records to. -/
def Sink.recorder? : Sink → Option RecorderId
  | .recorder id => some id
  | _ => none

/-- The sink that logs for a bus, in place of one that keeps or reacts. -/
def Sink.log? : Sink → Option Log.Sink
  | .logging k => some k
  | _ => none

/-- The journal in which a handler notes what it is handed. -/
def Handler.journal? : Handler → Option JournalId
  | .recording j => some j
  | .responding _ _ journal => journal

/-- What a journal notes of a message for a mailbox, if the mailbox sees the message. -/
def Mailbox.entry? (m : Mailbox) (message : Message) : Option DeliveryRecord :=
  (m.target.narrow message).map fun view =>
    { mailbox := m.name, target := m.tag, rendered := view.text }

namespace Exchange

/-- An exchange with a new recorder under a label. -/
def addRecorder (w : Exchange) (label : String) : Exchange :=
  { w with
    recorders := w.recorders ++ [({} : Recorder)]
    desk := { w.desk with recorders := w.desk.recorders.put label w.recorders.length } }

/-- Whether a sink keeps its records, if in a recorder, in one that has a handle. -/
def Shows (w : Exchange) (sink : Sink) : Prop :=
  ∀ r ∈ sink.recorder?, ∃ label, w.desk.recorders.get? label = some r

/-- The recorder that keeps the dead letters of a bus, if one does. -/
def returnedBox (w : Exchange) (b : BusId) : Option RecorderId :=
  (w.buses[b]?).bind (·.deadLetters.recorder?)

/-- The recorder that keeps the failures of a bus, if one does. -/
def failedBox (w : Exchange) (b : BusId) : Option RecorderId :=
  (w.buses[b]?).bind (·.failures.recorder?)

/-- Puts a returned message into the recorder of its bus, if it has one. -/
def keepReturned (w : Exchange) (x : ReturnedMessage) : Exchange :=
  match w.returnedBox x.bus with
  | none => w
  | some r => w.modifyRecorder r fun c => { c with returned := c.returned.add x }

/-- Puts a failed message into the recorder of its bus, if it has one. -/
def keepFailed (w : Exchange) (x : FailedMessage) : Exchange :=
  match w.failedBox x.bus with
  | none => w
  | some r => w.modifyRecorder r fun c => { c with failed := c.failed.add x }

/-- The journal of the handler of a mailbox, if it has one. -/
def journalOf (w : Exchange) (m : MailboxId) : Option JournalId :=
  (w.mailboxes[m]?).bind (·.handler.journal?)

/-- Notes a message for a mailbox in the journal of its handler, if the mailbox sees the message. -/
def noteFor (w : Exchange) (m : Mailbox) (message : Message) : Exchange :=
  match w.journalOf m.id, m.entry? message with
  | some j, some entry => w.note j entry
  | _, _ => w

/-- Logs a line, if there is one. -/
def tell (w : Exchange) (line : Option Log.Event) : Exchange := line.elim w w.log

/-- What the sink of its bus logs of a returned message, if it logs. -/
def returnedLine (w : Exchange) (x : ReturnedMessage) : Option Log.Event :=
  ((w.buses[x.bus]?).bind (·.deadLetters.log?)).map fun k => k.returned x.message

/-- What the sink of its bus logs of a failed message, if it logs. -/
def failedLine (w : Exchange) (x : FailedMessage) : Option Log.Event :=
  ((w.buses[x.bus]?).bind (·.failures.log?)).map fun k => k.failed x.message x.mailbox.name x.cause

/-- One change of an exchange that belongs to no dispatch. Whatever user code sets off comes down to
such changes and to dispatches. -/
inductive Move : Exchange → Exchange → Prop
  | desk (w : Exchange) (desk : Desk) (h : desk.recorders = w.desk.recorders) :
      Move w { w with desk }
  | held (w : Exchange) (held : List (List Ref)) : Move w { w with held }
  | journals (w : Exchange) (journals : List (List DeliveryRecord)) : Move w { w with journals }
  | logged (w : Exchange) (e : Log.Event) : Move w (w.log e)
  | announced (w : Exchange) (a : Announcement) : Move w (w.announce a)
  | recorder (w : Exchange) (label : String) : Move w (w.addRecorder label)
  | bus (w : Exchange) (deadLetters failures : Sink)
      (hd : w.Shows deadLetters) (hf : w.Shows failures) :
      Move w (w.addBus deadLetters failures).1
  | mailbox (w : Exchange) (cell : MailboxCell) (h : cell.mailbox.id = w.mailboxes.length) :
      Move w { w with mailboxes := w.mailboxes ++ [cell] }
  | called (w : Exchange) (m : MailboxId) :
      Move w (w.modifyMailbox m fun c => { c with calls := c.calls + 1 })
  | struck (w : Exchange) (x : Ref) (hx : w.holds x = false) (ha : w.isAlive x = true) :
      Move w (w.strike x)
  | resolved (w : Exchange) (b : BusId) (m : Message) : Move w (w.resolve b m).1
  | subscribed (w : Exchange) (b : BusId) (cell : BusCell) (m : Mailbox)
      (hb : w.buses[b]? = some cell) (hm : m ∈ w.mailboxes.map (·.mailbox)) :
      Move w (subscribeMailbox b cell m w).1
  | unsubscribed (w : Exchange) (b : BusId) (cell : BusCell) (m : Mailbox) (registry : Registry)
      (s : Subscription) (hb : w.buses[b]? = some cell) (hm : m ∈ w.mailboxes.map (·.mailbox))
      (h : cell.registry.unsubscribe m = .ok (registry, s)) :
      Move w ((w.modifyBus b fun c => { c with registry }).record (.unsubscribed b m))
  | cleared (w : Exchange) (b : BusId) (cell : BusCell) (hb : w.buses[b]? = some cell) :
      Move w ((w.modifyBus b fun c => { c with registry := cell.registry.clear.1 }).record
        (.cleared b))
  | returnedCalled (w : Exchange) (b : BusId) :
      Move w (w.modifyBus b fun c => { c with deadLetterCalls := c.deadLetterCalls + 1 })
  | failedCalled (w : Exchange) (b : BusId) :
      Move w (w.modifyBus b fun c => { c with failureCalls := c.failureCalls + 1 })
  | emptied (w : Exchange) (r : RecorderId) (role : SinkRole) :
      Move w ((w.modifyRecorder r (·.emptied role)).record (.emptied r role))
  | broken (w : Exchange) (r : RecorderId) (role : SinkRole) :
      Move w ((w.modifyRecorder r (·.broken role)).record (.emptied r role))

/-- Whether the bus of the letter that a piece of work is about is there. -/
def Within (w : Exchange) : Work → Prop
  | .react (some letter) _ => letter.bus < w.buses.length
  | _ => True

/-- A runner keeps to a relation when everything it does leads from an exchange to a related one. -/
def Keeps (R : Exchange → Exchange → Prop) (call : Runner) : Prop :=
  ∀ work w, w.Within work → R w (call work w).1

/-- The journals, the labels they have, and the handlers that may note something in them. -/
def files (w : Exchange) : List (List DeliveryRecord) × Shelf JournalId × List Handler :=
  (w.journals, w.desk.journals, w.mailboxes.map (·.handler))

/-- A change by which nothing is noted in a journal. One that is new is empty, and a handler that is
new has a journal with a label, if it has one. -/
structure Files (w v : Exchange) : Prop where
  journals : v.journals = w.journals ∨ v.journals = w.journals ++ [[]]
  named : ∀ label j, v.desk.journals.get? label = some j →
    w.desk.journals.get? label = some j ∨ j < v.journals.length
  handlers : ∀ m j, v.journalOf m = some j →
    w.journalOf m = some j ∨ ∃ label, v.desk.journals.get? label = some j

/-- A change that notes nothing in a journal, tells nothing of messages, and is not what code logs
itself. -/
structure Modest (w v : Exchange) : Prop where
  files : Files w v
  history : ∃ new, v.history = w.history ++ new ∧ ∀ o ∈ new, o.IsModest

/-- A relation between exchanges before and after that holds along modest moves. -/
structure Gentle (R : Exchange → Exchange → Prop) : Prop where
  refl : ∀ w, R w w
  trans : ∀ {u v w}, R u v → R v w → R u w
  modest : ∀ {w v}, Move w v → Modest w v → R w v

/-- A relation between exchanges before and after that holds along moves. -/
structure Steady (R : Exchange → Exchange → Prop) : Prop extends Gentle R where
  move : ∀ {w v}, Move w v → R w v
  modest := fun step _ => move step

/-- A relation that holds along whatever one runner does, along the dispatches it carries out, and
when code logs something itself and announces that. -/
structure Tended (R : Exchange → Exchange → Prop) (call : Runner) : Prop extends Gentle R where
  grows : ∀ {w v}, R w v → w.buses.length ≤ v.buses.length
  keeps : Keeps R call
  publish : ∀ b m w, b < w.buses.length → R w (MessageBus.publish call b m w).1
  emitted : ∀ w e, R w ((w.log e).announce (.ran "emit" .done))

/-- A relation that holds along whatever one runner does and along the dispatches it carries out. -/
structure Respected (R : Exchange → Exchange → Prop) (call : Runner) : Prop extends Steady R where
  grows : ∀ {w v}, R w v → w.buses.length ≤ v.buses.length
  keeps : Keeps R call
  publish : ∀ b m w, b < w.buses.length → R w (MessageBus.publish call b m w).1

/-- A relation that holds along dispatches as well, and so along every run of user code. -/
structure Lawful (R : Exchange → Exchange → Prop) : Prop extends Steady R where
  grows : ∀ {w v}, R w v → w.buses.length ≤ v.buses.length
  publish : ∀ {call}, Keeps R call → ∀ b m w, b < w.buses.length →
    R w (MessageBus.publish call b m w).1

@[simp]
theorem history_record (w : Exchange) (o : Occurrence) :
    (w.record o).history = w.history ++ [o] := by
  simp [record, history]

@[simp]
theorem history_log (w : Exchange) (e : Log.Event) :
    (w.log e).history = w.history ++ [.logged e] :=
  history_record w _

theorem map_modify_of_still {α β : Type} (f : α → β) (g : α → α) (h : ∀ c, f (g c) = f c) (i : Nat)
    (l : List α) : (l.modify i g).map f = l.map f := by
  apply List.ext_getElem?
  intro j
  rw [List.getElem?_map, List.getElem?_map, List.getElem?_modify]
  split <;> cases l[j]? <;> simp [h]

theorem journalOf_of_files {w v : Exchange} (h : v.files = w.files) (m : MailboxId) :
    v.journalOf m = w.journalOf m := by
  have handlers : v.mailboxes.map (·.handler) = w.mailboxes.map (·.handler) :=
    congrArg (·.2.2) h
  have same : (v.mailboxes[m]?).map (·.handler) = (w.mailboxes[m]?).map (·.handler) := by
    rw [← List.getElem?_map, ← List.getElem?_map, handlers]
  have through (c : Option MailboxCell) :
      c.bind (·.handler.journal?) = (c.map (·.handler)).bind Handler.journal? := by
    cases c <;> rfl
  rw [journalOf, journalOf, through, same, through]

theorem files_modifyMailbox (w : Exchange) (m : MailboxId) (f : MailboxCell → MailboxCell)
    (hf : ∀ c, (f c).handler = c.handler) : (w.modifyMailbox m f).files = w.files :=
  congrArg (fun handlers => (w.journals, w.desk.journals, handlers))
    (map_modify_of_still (·.handler) f hf m w.mailboxes)

theorem Files.of_eq {w v : Exchange} (h : v.files = w.files) : Files w v where
  journals := .inl (congrArg (·.1) h)
  named label j named := by
    have same : v.desk.journals = w.desk.journals := congrArg (·.2.1) h
    exact .inl (same ▸ named)
  handlers m j noted := .inl (journalOf_of_files h m ▸ noted)

namespace Modest

variable {v w : Exchange}

theorem still (hf : v.files = w.files) (ht : v.trace = w.trace) : Modest w v :=
  ⟨.of_eq hf, [], by simp [Exchange.history, ht], by simp⟩

theorem once (o : Occurrence) (ho : o.IsModest) (hf : v.files = w.files)
    (ht : v.trace = o :: w.trace) : Modest w v :=
  ⟨.of_eq hf, [o], by simp [Exchange.history, ht], by simpa using ho⟩

theorem log (w : Exchange) {e : Log.Event} (he : e.isAudit = false) : Modest w (w.log e) :=
  once (.logged e) he rfl rfl

theorem strike (w : Exchange) (x : Ref) : Modest w (w.strike x) := by
  cases x with
  | mailbox m =>
    exact once (.dropped _) trivial
      (files_modifyMailbox w m (fun c => { c with alive := false }) fun _ => rfl) rfl
  | bus b => exact once (.dropped _) trivial rfl rfl
  | recorder r => exact once (.dropped _) trivial rfl rfl

theorem resolve (w : Exchange) (b : BusId) (m : Message) : Modest w (w.resolve b m).1 := by
  rw [Exchange.resolve]
  split
  · exact still rfl rfl
  · dsimp only
    split
    · exact still rfl rfl
    · exact once (.logged (.resolved m.tag _)) rfl rfl rfl

theorem subscribe (w : Exchange) (b : BusId) (cell : BusCell) (m : Mailbox) :
    Modest w (subscribeMailbox b cell m w).1 := by
  let s : Subscription := { seq := cell.registry.nextSeq, mailbox := m }
  refine ⟨.of_eq rfl, [.subscribed b s, .logged (.subscribed m s.seq)], ?_, ?_⟩
  · simp [subscribeMailbox, modifyBus, Exchange.record, Exchange.log, Exchange.history, s,
      Registry.subscribe, Registry.takeSeq]
  · simp [Occurrence.IsModest, Log.Event.isAudit, Log.Event.subscribed]

theorem called (w : Exchange) (m : MailboxId) :
    Modest w (w.modifyMailbox m fun c => { c with calls := c.calls + 1 }) :=
  still (files_modifyMailbox w m _ fun _ => rfl) rfl

/-- A mailbox whose handler has a journal only with a label. -/
theorem mailbox (w : Exchange) (cell : MailboxCell)
    (h : ∀ j ∈ cell.handler.journal?, ∃ label, w.desk.journals.get? label = some j) :
    Modest w { w with mailboxes := w.mailboxes ++ [cell] } := by
  refine ⟨⟨.inl rfl, fun _ _ => .inl, fun m j noted => ?_⟩, [], by simp [Exchange.history], by simp⟩
  rw [journalOf, List.getElem?_append] at noted
  split at noted
  · exact .inl noted
  · obtain ⟨c, last, has⟩ := Option.bind_eq_some_iff.mp noted
    rw [List.mem_singleton.mp (List.mem_of_getElem? last)] at has
    exact .inr (h j has)

/-- A journal that is made, and the label it gets then. -/
theorem journal (w : Exchange) : Modest w { w with journals := w.journals ++ [[]] } :=
  ⟨⟨.inr rfl, fun _ _ => .inl, fun _ _ => .inl⟩, [], by simp [Exchange.history], by simp⟩

theorem labelled (w : Exchange) (label : String) {j : JournalId} (hj : j < w.journals.length) :
    Modest w { w with desk := { w.desk with journals := w.desk.journals.put label j } } := by
  refine ⟨⟨.inl rfl, fun other k named => ?_, fun _ _ => .inl⟩, [], by simp [Exchange.history],
    by simp⟩
  rw [Shelf.get?_put] at named
  split at named
  · exact .inr (Option.some.inj named ▸ hj)
  · exact .inl named

end Modest

theorem Gentle.still {R : Exchange → Exchange → Prop} (hR : Gentle R) {w v : Exchange}
    (step : Move w v) (hf : v.files = w.files) (ht : v.trace = w.trace) : R w v :=
  hR.modest step (.still hf ht)

theorem getElem?_of_busNamed? {w : Exchange} {label : String} {b : BusId} {cell : BusCell}
    (h : w.busNamed? label = some (b, cell)) : w.buses[b]? = some cell := by
  simp only [busNamed?, Option.bind_eq_some_iff, Option.map_eq_some_iff, Prod.mk.injEq] at h
  obtain ⟨_, _, _, hc, rfl, rfl⟩ := h
  exact hc

theorem lt_of_busNamed? {w : Exchange} {label : String} {b : BusId} {cell : BusCell}
    (h : w.busNamed? label = some (b, cell)) : b < w.buses.length :=
  (List.getElem?_eq_some_iff.mp (getElem?_of_busNamed? h)).1

theorem mem_of_mailboxNamed? {w : Exchange} {label : String} {m : Mailbox}
    (h : w.mailboxNamed? label = some m) : m ∈ w.mailboxes.map (·.mailbox) := by
  simp only [mailboxNamed?, Option.bind_eq_some_iff, Option.map_eq_some_iff] at h
  obtain ⟨_, _, cell, hc, rfl⟩ := h
  exact List.mem_map_of_mem (List.mem_of_getElem? hc)

section

variable {R : Exchange → Exchange → Prop} (hR : Gentle R) {call : Runner} (hc : Keeps R call)

include hR hc

theorem Gentle.releaseAll (unwinding : Bool) (xs : List Ref) (w : Exchange) :
    R w (releaseAll call unwinding xs w).1 := by
  induction xs generalizing unwinding w with
  | nil => exact hR.still (.held w _) rfl rfl
  | cons x rest ih =>
    have gone := hR.trans (hR.still (.held w (rest :: w.held.tail)) rfl rfl)
      (hc (.release x) (w.holdOnly rest) trivial)
    rw [MessageBus.releaseAll]
    rcases h : call (.release x) (w.holdOnly rest) with ⟨u, (t | _) | _⟩
    · rw [h] at gone
      cases unwinding with
      | true => exact hR.trans gone (hR.still (.held u _) rfl rfl)
      | false => exact hR.trans gone (ih true u)
    · rw [h] at gone
      exact hR.trans gone (hR.still (.held u _) rfl rfl)
    · rw [h] at gone
      exact hR.trans gone (ih unwinding u)

theorem Gentle.whileHolding {α : Type} (xs : List Ref) {run : Exchange → Exchange × Except Halt α}
    (w : Exchange) (h : R (w.hold xs) (run (w.hold xs)).1) :
    R w (whileHolding call xs run w).1 := by
  have held := hR.trans (hR.still (.held w (xs :: w.held)) rfl rfl) h
  rw [MessageBus.whileHolding]
  rcases e : run (w.hold xs) with ⟨u, (t | _) | a⟩ <;> rw [e] at held
  · exact hR.trans held (hR.releaseAll hc true xs u)
  · exact hR.trans held (hR.still (.held u _) rfl rfl)
  · exact hR.trans held (hR.releaseAll hc false xs u)

/-- Things that are taken hold of and then let go of. -/
theorem Gentle.released (xs : List Ref) (w : Exchange) :
    R w (MessageBus.releaseAll call false xs (w.hold xs)).1 :=
  hR.trans (hR.still (.held w (xs :: w.held)) rfl rfl) (hR.releaseAll hc false xs _)

theorem Gentle.release (x : Ref) (w : Exchange) : R w (release call x w).1 := by
  rw [MessageBus.release]
  split
  · exact hR.refl w
  · next h =>
    simp only [Bool.or_eq_true, Bool.not_eq_true', not_or, Bool.not_eq_false, Bool.not_eq_true] at h
    have struck := hR.modest (.struck w x h.1 h.2) (.strike w x)
    have left := hR.trans struck (hR.released hc (w.contents x) (w.strike x))
    cases x with
    | mailbox m =>
      dsimp only
      split
      · exact struck
      · next label _ _ =>
        have told := hR.modest (.announced (w.strike (.mailbox m)) (.dropped label))
          (.once (.announced _) (by simp [Occurrence.IsModest]) rfl rfl)
        exact hR.trans (hR.trans struck told) (hc _ _ trivial)
    | bus b => dsimp only; split <;> next e => simpa [e] using left
    | recorder r => dsimp only; split <;> next e => simpa [e] using left

theorem Gentle.releasing (x : Option Ref) (reply : Reply) (w : Exchange) :
    R w (releasing call x reply w).1 := by
  cases x with
  | none => exact hR.refl w
  | some x =>
    have gone := hc (.release x) w trivial
    simp only [MessageBus.releasing]
    split <;> next e => simpa [e] using gone

theorem Gentle.placeBus (label : String) (b : BusId) (reply : Reply) (w : Exchange) :
    R w (placeBus call label b reply w).1 := by
  let desk : Desk := { w.desk with buses := w.desk.buses.put label b }
  exact hR.trans (hR.still (.desk w desk rfl) rfl rfl) (hR.releasing hc _ _ _)

theorem Gentle.placeMailbox (label : String) (m : MailboxId) (w : Exchange) :
    R w (placeMailbox call label m w).1 := by
  let desk : Desk := { w.desk with mailboxes := w.desk.mailboxes.put label m }
  exact hR.trans (hR.still (.desk w desk rfl) rfl rfl) (hR.releasing hc _ _ _)

theorem Gentle.placeSnapshot (label : String) (routes : List Route) (reply : Reply)
    (w : Exchange) : R w (placeSnapshot call label routes reply w).1 := by
  have placed := hR.still
    (.desk w { w.desk with snapshots := w.desk.snapshots.put label routes } rfl) rfl rfl
  have left := hR.trans placed
    (hR.released hc (Route.refs ((w.desk.snapshots.get? label).getD [])) _)
  simp only [MessageBus.placeSnapshot]
  split <;> next e => simpa [e] using left

omit hc in
theorem Gentle.journalNamed (label : String) (w : Exchange) : R w (w.journalNamed label).1 := by
  rw [Exchange.journalNamed]
  split
  · exact hR.refl w
  · have made := hR.modest (.journals w (w.journals ++ [[]])) (.journal w)
    exact hR.trans made (hR.modest (.desk _ _ rfl) (.labelled _ label (by simp)))

omit hR hc in
/-- A journal that is found or made has the label that it is asked for by. -/
theorem get?_journalNamed (label : String) (w : Exchange) :
    (w.journalNamed label).1.desk.journals.get? label = some (w.journalNamed label).2 := by
  rw [Exchange.journalNamed]
  split
  · next j found => exact found
  · simp [Shelf.get?_put]

theorem Gentle.openMailbox (label name : String) (target : Target) (conduct : Conduct)
    (onDrop : Option Reaction) (w : Exchange) :
    R w (openMailbox call label name target conduct onDrop w).1 := by
  have place (u : Exchange) (handler : Handler)
      (named : ∀ j ∈ handler.journal?, ∃ label, u.desk.journals.get? label = some j) :
      R u (MessageBus.placeMailbox call label u.mailboxes.length
        { u with
          mailboxes := u.mailboxes ++
            [{ mailbox := ⟨u.mailboxes.length, name, target⟩, label, handler, onDrop }] }).1 := by
    have made := hR.modest (.mailbox u _ rfl)
      (.mailbox u { mailbox := ⟨u.mailboxes.length, name, target⟩, label, handler, onDrop } named)
    exact hR.trans made (hR.placeMailbox hc _ _ _)
  have known (journal : String) : ∀ j ∈ some (w.journalNamed journal).2,
      ∃ label, (w.journalNamed journal).1.desk.journals.get? label = some j := by
    intro j hj
    exact ⟨journal, Option.some.inj hj ▸ get?_journalNamed journal w⟩
  cases conduct with
  | recording journal => exact hR.trans (hR.journalNamed journal w) (place _ _ (known journal))
  | responding react lenient journal =>
    cases journal with
    | none => exact place _ (.responding react lenient none) (by simp [Handler.journal?])
    | some journal => exact hR.trans (hR.journalNamed journal w) (place _ _ (known journal))

theorem Gentle.clearBus (b : BusId) (w : Exchange) : R w (clearBus call b w).1 := by
  rw [MessageBus.clearBus]
  split
  · exact hR.refl w
  · next cell hb =>
    have cleared := hR.trans (hR.modest (.cleared w b cell hb) (.once (.cleared b) trivial rfl rfl))
      (hR.modest (.logged _ (.cleared cell.registry.clear.2.length)) (.log _ rfl))
    have left := hR.trans cleared
      (hR.released hc (cell.registry.clear.2.flatten.map fun s => .mailbox s.mailbox.id) _)
    dsimp only
    split <;> next e => exact (congrArg Prod.fst e).subst left

theorem Gentle.unsubscribeMailbox (b : BusId) (cell : BusCell) (m : Mailbox) (w : Exchange)
    (hb : w.buses[b]? = some cell) (hm : m ∈ w.mailboxes.map (·.mailbox)) :
    R w (unsubscribeMailbox call b cell m w).1 := by
  rw [MessageBus.unsubscribeMailbox]
  split
  · exact hR.refl w
  · next registry s h =>
    exact hR.trans (hR.trans (hR.modest (.unsubscribed w b cell m registry s hb hm h)
      (.once (.unsubscribed b m) trivial rfl rfl))
      (hR.modest (.logged _ _) (.log _ rfl))) (hR.releasing hc _ _ _)

theorem Gentle.emptyTray (r : RecorderId) (role : SinkRole) (w : Exchange) :
    R w (emptyTray call r role w).1 := by
  have left := hR.trans (hR.modest (.emptied w r role) (.once (.emptied r role) trivial rfl rfl))
    (hR.released hc (((w.recorders[r]?).map (·.refsOf role)).getD []) _)
  simp only [MessageBus.emptyTray]
  split
  · next u t e =>
    rw [e] at left
    exact hR.trans left (hR.modest (.broken u r role) (.once (.emptied r role) trivial rfl rfl))
  · exact left

theorem Gentle.clearRecorder (r : RecorderId) (w : Exchange) :
    R w (clearRecorder call r w).1 := by
  have first := hR.emptyTray hc r .deadLetter w
  rw [MessageBus.clearRecorder]
  rcases e : MessageBus.emptyTray call r .deadLetter w with ⟨u, _ | _⟩ <;> rw [e] at first
  · exact first
  · have second := hR.trans first (hR.emptyTray hc r .failure u)
    dsimp only
    split <;> next e => simpa [e] using second

omit hc in
theorem Gentle.makeSink (w : Exchange) (plan : SinkPlan) :
    R w (w.makeSink plan).1 ∧ (w.makeSink plan).1.Shows (w.makeSink plan).2 ∧
      ∀ sink, w.Shows sink → (w.makeSink plan).1.Shows sink := by
  cases plan with
  | responding react =>
    exact ⟨hR.refl w, by simp [Exchange.makeSink, Shows, Sink.recorder?], fun _ h => h⟩
  | logging sink =>
    exact ⟨hR.refl w, by simp [Exchange.makeSink, Shows, Sink.recorder?], fun _ h => h⟩
  | recording label =>
    cases h : w.desk.recorders.get? label with
    | some r =>
      simp only [Exchange.makeSink, recorderNamed, h]
      exact ⟨hR.refl w, by simpa [Shows, Sink.recorder?] using ⟨label, h⟩, fun _ h => h⟩
    | none =>
      simp only [Exchange.makeSink, recorderNamed, h]
      refine ⟨hR.still (.recorder w label) rfl rfl, ?_, fun sink shown r hr => ?_⟩
      · intro r hr
        simp only [Sink.recorder?, Option.mem_def, Option.some.injEq] at hr
        exact ⟨label, by simp [Shelf.get?_put, hr]⟩
      · obtain ⟨other, ho⟩ := shown r hr
        have ne : other ≠ label := fun e => by simp [e ▸ ho] at h
        exact ⟨other, by simp [Shelf.get?_put, ne, ho]⟩

theorem Gentle.openBus (label : String) (plan : BusPlan) (w : Exchange) :
    R w (openBus call label plan w).1 := by
  cases plan with
  | responding deadLetters failures =>
    have made := hR.still (.bus w (.responding deadLetters) (.responding failures)
      (by simp [Shows, Sink.recorder?]) (by simp [Shows, Sink.recorder?])) rfl rfl
    exact hR.trans made (hR.placeBus hc _ _ _ _)
  | recording name =>
    obtain ⟨made, shown, -⟩ := hR.makeSink w (.recording name)
    have opened := hR.trans made (hR.still (.bus _ _ _ shown shown) rfl rfl)
    exact hR.trans opened (hR.placeBus hc _ _ _ _)
  | testing name =>
    have shown : (w.addRecorder name).Shows (.recorder w.recorders.length) := by
      intro r hr
      simp only [Sink.recorder?, Option.mem_def, Option.some.injEq] at hr
      exact ⟨name, by simp [addRecorder, Shelf.get?_put, hr]⟩
    have opened := hR.trans (hR.still (.recorder w name) rfl rfl)
      (hR.still (.bus _ _ _ shown shown) rfl rfl)
    have held := hR.trans opened (hR.still (.held _ ([.bus w.buses.length] :: w.held)) rfl rfl)
    have gone := hR.trans held
      (hR.releasing hc ((w.desk.recorders.get? name).map .recorder) .done _)
    simp only [MessageBus.openBus]
    split
    · next u _ e =>
      have hu : R w u := (congrArg Prod.fst e).subst gone
      exact hR.trans (hR.trans hu (hR.still (.held u u.held.tail) rfl rfl)) (hR.placeBus hc _ _ _ _)
    · next u _ e =>
      have hu : R w u := (congrArg Prod.fst e).subst gone
      exact hR.trans hu (hR.still (.held u _) rfl rfl)
    · next u _ e =>
      have hu : R w u := (congrArg Prod.fst e).subst gone
      exact hR.trans hu (hR.releaseAll hc true _ u)
  | logging sink =>
    cases sink with
    | error failure => exact hR.refl w
    | ok sink =>
      exact hR.trans (hR.still (.bus w (.logging sink) (.logging sink)
        (by simp [Shows, Sink.recorder?]) (by simp [Shows, Sink.recorder?])) rfl rfl)
        (hR.placeBus hc _ _ _ _)
  | assembled deadLetters failures =>
    cases deadLetters with
    | none =>
      cases failures with
      | none => exact hR.refl w
      | some failures => exact (hR.makeSink w failures).1
    | some deadLetters =>
      obtain ⟨made, shown, -⟩ := hR.makeSink w deadLetters
      cases failures with
      | none => exact made
      | some failures =>
        obtain ⟨made', shown', still⟩ := hR.makeSink (w.makeSink deadLetters).1 failures
        exact hR.trans (hR.trans made made')
          (hR.trans (hR.still (.bus _ _ _ (still _ shown) shown') rfl rfl) (hR.placeBus hc _ _ _ _))

/-- A sink of user code tells of its call and reacts. -/
theorem Gentle.heard (w : Exchange) (note : SinkNote) (letter : Letter) (reaction : Reaction)
    (hl : letter.bus < w.buses.length) :
    R w (Outcome.ignored (call (.react (some letter) reaction) (w.announce (.sink note)))).1 := by
  have told := hR.modest (.announced w (.sink note))
    (.once (.announced (.sink note)) (by simp [Occurrence.IsModest]) rfl rfl)
  have reacted := hR.trans told (hc (.react (some letter) reaction) _ hl)
  simp only [Outcome.ignored]
  split <;> next e => exact (congrArg Prod.fst e).subst reacted

/-- All that a sink does with a record, once it is kept or logged, is done by user code. -/
theorem Gentle.reportReturned (x : ReturnedMessage) (w : Exchange) (hx : x.bus < w.buses.length) :
    R ((w.keepReturned x).tell (w.returnedLine x)) (reportReturned call x w).1 := by
  have here := List.getElem?_eq_getElem hx
  simp only [MessageBus.reportReturned, keepReturned, returnedBox, returnedLine, here,
    Option.bind_some]
  cases w.buses[x.bus].deadLetters with
  | responding react =>
    exact hR.trans (hR.still (.returnedCalled w x.bus) rfl rfl)
      (hR.heard hc _ _ _ _ (by simpa [modifyBus] using hx))
  | recorder id => exact hR.refl _
  | logging sink => exact hR.refl _

theorem Gentle.reportFailed (x : FailedMessage) (w : Exchange) (hx : x.bus < w.buses.length) :
    R ((w.keepFailed x).tell (w.failedLine x)) (reportFailed call x w).1 := by
  have here := List.getElem?_eq_getElem hx
  simp only [MessageBus.reportFailed, keepFailed, failedBox, failedLine, here, Option.bind_some]
  cases w.buses[x.bus].failures with
  | responding react =>
    exact hR.trans (hR.still (.failedCalled w x.bus) rfl rfl)
      (hR.heard hc _ _ _ _ (by simpa [modifyBus] using hx))
  | recorder id => exact hR.refl _
  | logging sink => exact hR.refl _

/-- A handler is called with a message that has been noted in its journal, and notes nothing more
itself. -/
theorem Gentle.respond (mailbox : Mailbox) (m view : Message)
    (seen : mailbox.target.narrow m = some view) (w : Exchange) :
    R (w.noteFor mailbox m) (respond call mailbox view w).1 := by
  have asked (u : Exchange) (label seen : String) (n : Nat) (reaction : Reaction) :
      R u (call (.react none reaction)
        ((u.modifyMailbox mailbox.id fun c => { c with calls := c.calls + 1 }).announce
          (.delivered label n seen))).1 := by
    have called := hR.modest (.called u mailbox.id) (.called u mailbox.id)
    have told := hR.trans called (hR.modest (.announced _ (.delivered label n seen))
      (.once (.announced _) (by simp [Occurrence.IsModest]) rfl rfl))
    exact hR.trans told (hc (.react none reaction) _ trivial)
  rw [MessageBus.respond]
  cases there : w.mailboxes[mailbox.id]? with
  | none =>
    rw [noteFor, journalOf, there]
    exact hR.refl w
  | some cell =>
    rw [noteFor, journalOf, there, Mailbox.entry?, seen, Option.bind_some, Option.map_some]
    dsimp only
    rcases handler : cell.handler with j | ⟨react, lenient, _ | j⟩
    · exact hR.refl _
    · dsimp only [Handler.journal?]
      split <;> next e =>
        exact (congrArg Prod.fst e).subst (asked w cell.label view.text (cell.calls + 1) _)
    · dsimp only [Handler.journal?]
      split <;> next e =>
        exact (congrArg Prod.fst e).subst
          (asked (w.note j _) cell.label view.text (cell.calls + 1) _)

/-- Handing a message to a mailbox does nothing of its own but note it. -/
theorem Gentle.deliver (mailbox : Mailbox) (m : Message) (w : Exchange) :
    R (w.noteFor mailbox m) (deliver call mailbox m w).1 := by
  rw [MessageBus.deliver]
  cases seen : mailbox.target.narrow m with
  | none =>
    have unnoted : w.noteFor mailbox m = w := by
      rw [noteFor, Mailbox.entry?, seen]
      cases w.journalOf mailbox.id <;> rfl
    rw [unnoted]
    exact hR.refl w
  | some view => exact hR.respond hc mailbox m view seen w

end

section

variable {R : Exchange → Exchange → Prop} (hR : Steady R) {call : Runner} (hc : Keeps R call)

include hR

theorem Steady.tell (w : Exchange) (line : Option Log.Event) : R w (w.tell line) := by
  cases line with
  | none => exact hR.refl w
  | some e => exact hR.move (.logged w e)

theorem Steady.noteFor (mailbox : Mailbox) (m : Message) (w : Exchange) :
    R w (w.noteFor mailbox m) := by
  rw [Exchange.noteFor]
  split
  · exact hR.move (.journals w _)
  · exact hR.refl w

include hc

/-- All that a sink does with a record, once it is kept, is logged or done by user code. -/
theorem Steady.reportReturned (x : ReturnedMessage) (w : Exchange) (hx : x.bus < w.buses.length) :
    R (w.keepReturned x) (reportReturned call x w).1 :=
  hR.trans (hR.tell _ _) (hR.toGentle.reportReturned hc x w hx)

theorem Steady.reportFailed (x : FailedMessage) (w : Exchange) (hx : x.bus < w.buses.length) :
    R (w.keepFailed x) (reportFailed call x w).1 :=
  hR.trans (hR.tell _ _) (hR.toGentle.reportFailed hc x w hx)

/-- Handing a message to a mailbox does nothing of its own to a bus. -/
theorem Steady.deliver (mailbox : Mailbox) (m : Message) (w : Exchange) :
    R w (deliver call mailbox m w).1 :=
  hR.trans (hR.noteFor mailbox m w) (hR.toGentle.deliver hc mailbox m w)

end

section

variable {call : Runner} {letter : Option Letter} {step : Step} {w : Exchange}

theorem perform_of_emission {e : Log.Event} (h : step.emission? = some e) :
    perform call letter step w = (w.log e, .ok .done) := by
  induction step using Step.emission?.induct with
  | case1 e' =>
    cases h
    rfl
  | case2 step ih => rw [perform, ih h]
  | case3 step unlike unguarded =>
    rw [Step.emission?] at h
    · cases h
    · exact unlike
    · exact unguarded

theorem word_of_emission {e : Log.Event} (h : step.emission? = some e) : step.word = "emit" := by
  induction step using Step.emission?.induct with
  | case1 e' => rfl
  | case2 step ih => exact ih h
  | case3 step unlike unguarded =>
    rw [Step.emission?] at h
    · cases h
    · exact unlike
    · exact unguarded

/-- A step that logs nothing itself but goes by the same word is not done. -/
theorem reply_ne_done (silent : step.emission? = none) (word : step.word = "emit") {reply : Reply}
    (h : (perform call letter step w).2 = .ok reply) : reply ≠ .done := by
  induction step using Step.emission?.induct generalizing reply with
  | case1 e => cases silent
  | case2 step ih =>
    rw [perform] at h
    split at h
    · cases h
      exact Reply.noConfusion
    · exact ih silent word h
  | case3 step unlike unguarded =>
    cases step with
    | unknown name =>
      cases h
      exact Reply.noConfusion
    | emit e => exact absurd rfl (unlike e)
    | guarded step => exact absurd rfl (unguarded step)
    | _ => simp [Step.word] at word

end

section

variable {R : Exchange → Exchange → Prop} {call : Runner} (hR : Tended R call)

include hR

theorem Tended.publishTimes (b : BusId) (m : Message) (n : Nat) (w : Exchange)
    (hb : b < w.buses.length) : R w (publishTimes call b m n w).1 := by
  induction n generalizing w with
  | zero => exact hR.refl w
  | succ n ih =>
    have once := hR.publish b m w hb
    have later := ih (MessageBus.publish call b m w).1 (Nat.lt_of_lt_of_le hb (hR.grows once))
    rw [MessageBus.publishTimes]
    rcases e : MessageBus.publish call b m w with ⟨u, _ | _ | _⟩ <;> rw [e] at once later
    · exact once
    · exact hR.trans once later
    · exact once

theorem Tended.published (b : BusId) (m : Message) (n : Nat) (w : Exchange)
    (hb : b < w.buses.length) :
    R w (MessageBus.whileHolding call [.bus b] (MessageBus.publishTimes call b m n) w).1 :=
  hR.whileHolding hR.keeps _ _ (hR.publishTimes b m n _ hb)

theorem Tended.perform (letter : Option Letter) (step : Step) (w : Exchange)
    (hl : ∀ l ∈ letter, l.bus < w.buses.length) (silent : step.emission? = none) :
    R w (perform call letter step w).1 := by
  -- Each kind of step is moves and the changes above; only a guarded step is made of another one.
  match step with
  | .unknown _ => exact hR.refl w
  | .guarded step =>
    have inner := Tended.perform letter step w hl silent
    simp only [MessageBus.perform]
    split
    · next e => exact (congrArg Prod.fst e).subst inner
    · exact inner
  | .openBus id plan => exact hR.openBus hR.keeps id plan w
  | .openMailbox id name target conduct onDrop =>
    exact hR.openMailbox hR.keeps id name target conduct onDrop w
  | .cloneMailbox id other =>
    simp only [MessageBus.perform]
    split
    · exact hR.refl w
    · exact hR.placeMailbox hR.keeps _ _ _
  | .forget id =>
    simp only [MessageBus.perform]
    split
    · exact hR.refl w
    · have taken := hR.still
        (.desk w { w.desk with mailboxes := w.desk.mailboxes.remove id } rfl) rfl rfl
      exact hR.trans taken (hR.releasing hR.keeps _ _ _)
  | .subscribe bus id numbered =>
    simp only [MessageBus.perform]
    split
    · next b cell m hb hm =>
      have here := getElem?_of_busNamed? hb
      exact hR.modest (.subscribed w b cell m here (mem_of_mailboxNamed? hm))
        (.subscribe w b cell m)
    · exact hR.refl w
  | .unsubscribe bus id =>
    simp only [MessageBus.perform]
    split
    · next b cell m hb hm =>
      have here := getElem?_of_busNamed? hb
      exact hR.unsubscribeMailbox hR.keeps b cell m w here (mem_of_mailboxNamed? hm)
    · exact hR.refl w
  | .publish bus message times =>
    simp only [MessageBus.perform]
    split
    · exact hR.refl w
    · next hb => exact hR.published _ _ _ _ (lt_of_busNamed? hb)
  | .republish bus =>
    cases letter with
    | none => exact hR.refl w
    | some letter =>
      cases bus with
      | none => exact hR.published _ _ _ _ (hl letter rfl)
      | some bus =>
        simp only [MessageBus.perform]
        split
        · exact hR.refl w
        · next hb => exact hR.published _ _ _ _ (lt_of_busNamed? hb)
  | .clear bus =>
    simp only [MessageBus.perform]
    split
    · exact hR.refl w
    · exact hR.whileHolding hR.keeps _ _ (hR.clearBus hR.keeps _ _)
  | .entries bus tags keep =>
    simp only [MessageBus.perform]
    split
    · exact hR.refl w
    · cases keep with
      | none => exact hR.refl w
      | some label => exact hR.whileHolding hR.keeps _ _ (hR.placeSnapshot hR.keeps _ _ _ _)
  | .resolve bus message =>
    simp only [MessageBus.perform]
    split
    · exact hR.refl w
    · exact hR.modest (.resolved w _ message) (.resolve w _ message)
  | .cloneBus bus other =>
    simp only [MessageBus.perform]
    split
    · exact hR.refl w
    · exact hR.placeBus hR.keeps _ _ _ _
  | .downgrade bus other =>
    simp only [MessageBus.perform]
    split
    · exact hR.refl w
    · exact hR.still (.desk w _ rfl) rfl rfl
  | .upgrade id keep =>
    simp only [MessageBus.perform]
    split
    · exact hR.refl w
    · split
      · cases keep with
        | none => exact hR.refl w
        | some label => exact hR.placeBus hR.keeps _ _ _ _
      · exact hR.refl w
  | .dropBus bus =>
    simp only [MessageBus.perform]
    split
    · exact hR.refl w
    · have taken := hR.still (.desk w { w.desk with buses := w.desk.buses.remove bus } rfl) rfl rfl
      exact hR.trans taken (hR.releasing hR.keeps _ _ _)
  | .recorder id query =>
    simp only [MessageBus.perform]
    split
    · exact hR.refl w
    · cases query with
      | clear => exact hR.whileHolding hR.keeps _ _ (hR.clearRecorder hR.keeps _ _)
      | _ => exact hR.refl w
  | .journal id query => exact hR.journalNamed id w
  | .emit event => nomatch silent
  | .countAll _ | .countFor _ _ | .showRoutes _ | .showRoutesText _ _ | .describe _ _
  | .compare _ _ | .showBus _ _ _ | .showWeak _ _ | .compareBuses _ _ =>
    simp only [MessageBus.perform]
    split <;> exact hR.refl w

theorem Tended.performAll (letter : Option Letter) (steps : List Step) (w : Exchange)
    (hl : ∀ l ∈ letter, l.bus < w.buses.length) : R w (performAll call letter steps w).1 := by
  induction steps generalizing w with
  | nil => exact hR.refl w
  | cons step rest ih =>
    rw [MessageBus.performAll]
    cases emits : step.emission? with
    | some e =>
      have told := hR.emitted w e
      rw [perform_of_emission emits, word_of_emission emits]
      exact hR.trans told (ih _ fun l h => Nat.lt_of_lt_of_le (hl l h) (hR.grows told))
    | none =>
      have first := hR.perform letter step w hl emits
      rcases e : MessageBus.perform call letter step w with ⟨u, _ | reply⟩ <;> rw [e] at first
      · exact first
      · have unlike : Announcement.ran step.word reply ≠ .ran "emit" .done := by
          intro same
          obtain ⟨word, done⟩ := Announcement.ran.inj same
          exact reply_ne_done emits word (congrArg Prod.snd e) done
        have told := hR.trans first (hR.modest (.announced u (.ran step.word reply))
          (.once (.announced _) unlike rfl rfl))
        exact hR.trans told (ih _ fun l h => Nat.lt_of_lt_of_le (hl l h) (hR.grows told))

theorem Tended.carryOut : Keeps R (Work.carryOut call) := by
  intro work w within
  cases work with
  | release x => exact hR.release hR.keeps x w
  | react letter reaction =>
    have hl : ∀ l ∈ letter, l.bus < w.buses.length := by
      rintro l rfl
      exact within
    have ran := hR.performAll letter reaction.steps w hl
    simp only [Work.carryOut]
    split <;> next e => exact (congrArg Prod.fst e).subst ran

end

/-- Every run of user code tends to a relation, to whatever depth its calls nest, when a runner that
keeps to the relation does so. -/
theorem Tended.runner {R : Exchange → Exchange → Prop}
    (h : ∀ depth, Keeps R (runner depth) → Tended R (runner depth)) (hR : ∀ w, R w w)
    (depth : Nat) : Tended R (runner depth) := by
  -- What a runner gives rise to is left to the runner one level below.
  induction depth with
  | zero => exact h 0 fun _ w _ => hR w
  | succ depth ih => exact h (depth + 1) ih.carryOut

section

variable {R : Exchange → Exchange → Prop} {call : Runner} (hR : Respected R call)

include hR

theorem Respected.tended : Tended R call where
  toGentle := hR.toGentle
  grows := hR.grows
  keeps := hR.keeps
  publish := hR.publish
  emitted w e := hR.trans (hR.move (.logged w e)) (hR.move (.announced _ _))

theorem Respected.perform (letter : Option Letter) (step : Step) (w : Exchange)
    (hl : ∀ l ∈ letter, l.bus < w.buses.length) : R w (perform call letter step w).1 := by
  cases emits : step.emission? with
  | none => exact hR.tended.perform letter step w hl emits
  | some e =>
    rw [perform_of_emission emits]
    exact hR.move (.logged w e)

end

theorem Respected.runner {R : Exchange → Exchange → Prop}
    (h : ∀ depth, Keeps R (runner depth) → Respected R (runner depth)) (hR : ∀ w, R w w)
    (depth : Nat) : Respected R (runner depth) :=
  h depth (Tended.runner (fun depth hc => (h depth hc).tended) hR depth).keeps

/-- Code that is run ends as it says, whatever came of its steps, unless it stops short. -/
theorem runner_react (depth : Nat) (letter : Option Letter) (reaction : Reaction) (u : Exchange) :
    (runner depth (.react letter reaction) u).2 = reaction.ending.outcome ∨
      ∃ h, (runner depth (.react letter reaction) u).2 = .error h := by
  cases depth with
  | zero => exact .inr ⟨.stopped .exhausted, rfl⟩
  | succ depth =>
    simp only [runner, Work.carryOut]
    split
    · next h _ => exact .inr ⟨h, rfl⟩
    · exact .inl rfl

theorem Lawful.respected {R : Exchange → Exchange → Prop} (hR : Lawful R) {call : Runner}
    (hc : Keeps R call) : Respected R call where
  toSteady := hR.toSteady
  grows := hR.grows
  keeps := hc
  publish := hR.publish hc

theorem Lawful.runner {R : Exchange → Exchange → Prop} (hR : Lawful R) (depth : Nat) :
    Keeps R (runner depth) :=
  (Respected.runner (fun _ hc => hR.respected hc) hR.refl depth).keeps

/-- What becomes of an exchange by steps from outside, each with a depth to which the calls that it
sets off may nest. A step that aborts the program is the last. -/
def run (w : Exchange) : List (Nat × Step) → Exchange
  | [] => w
  | s :: rest =>
    let (v, result) := w.step s.1 s.2
    if Except.aborts result then v else v.run rest

/-- What holds along a step holds along a run that begins with it. -/
theorem run_cons {P : Exchange → Prop} {w : Exchange} {s : Nat × Step} {steps : List (Nat × Step)}
    (ends : Except.aborts (w.step s.1 s.2).2 = true → P (w.step s.1 s.2).1)
    (goes : Except.aborts (w.step s.1 s.2).2 = false → P ((w.step s.1 s.2).1.run steps)) :
    P (w.run (s :: steps)) := by
  rw [run]
  dsimp only
  split
  · next aborted => exact ends aborted
  · next on => exact goes (Bool.not_eq_true _ ▸ on)

theorem Respected.run {R : Exchange → Exchange → Prop}
    (h : ∀ depth, Respected R (MessageBus.runner depth)) (w : Exchange)
    (steps : List (Nat × Step)) : R w (w.run steps) := by
  induction steps generalizing w with
  | nil => exact (h 0).refl w
  | cons s steps ih =>
    have first := (h s.1).perform none s.2 w (by simp)
    exact run_cons (fun _ => first) fun _ => (h s.1).trans first (ih (w.step s.1 s.2).1)

theorem Lawful.run {R : Exchange → Exchange → Prop} (hR : Lawful R) (w : Exchange)
    (steps : List (Nat × Step)) : R w (w.run steps) :=
  Respected.run (fun depth => hR.respected (hR.runner depth)) w steps

end Exchange

end MessageBus
