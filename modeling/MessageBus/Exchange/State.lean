import MessageBus.Exchange.Reply
import MessageBus.Log.Book
import MessageBus.Shelf
import MessageBus.Message.Resolver

namespace MessageBus

/-- Buses, recorders and journals are numbered in the order in which they are made. -/
abbrev BusId := Nat

abbrev RecorderId := Nat

abbrev JournalId := Nat

/-- Something that lives as long as somebody holds it. -/
inductive Ref
  | mailbox (id : MailboxId)
  | bus (id : BusId)
  | recorder (id : RecorderId)
  deriving DecidableEq, Inhabited

inductive Handler
  | recording (journal : JournalId)
  | responding (react : Message → Nat → Reaction) (lenient : Bool) (journal : Option JournalId)

/-- A mailbox in full: the label it was made under, its handler, what its owner does when it is
gone, how often its handler was called, and whether it is still there. -/
structure MailboxCell where
  mailbox : Mailbox
  label : String
  handler : Handler
  onDrop : Option Reaction
  calls : Nat := 0
  alive : Bool := true

inductive Sink
  | responding (react : Receipt → Nat → Reaction)
  | recorder (id : RecorderId)
  | logging (sink : Log.Sink)

/-- A message that no mailbox was subscribed to. -/
structure ReturnedMessage where
  bus : BusId
  message : Message

def ReturnedMessage.receipt (r : ReturnedMessage) : Receipt := .returned r.message

def ReturnedMessage.shape (r : ReturnedMessage) : Text.Shape :=
  .record "ReturnedMessage" [("message", r.message.shape)] false

/-- A message that a mailbox refused for a recoverable cause. -/
structure FailedMessage where
  bus : BusId
  mailbox : Mailbox
  message : Message
  cause : Cause

def FailedMessage.receipt (f : FailedMessage) : Receipt := .failed f.mailbox f.message f.cause

def FailedMessage.shape (f : FailedMessage) : Text.Shape :=
  .record "FailedMessage"
    [("mailbox", f.mailbox.refShape), ("message", f.message.shape), ("error", f.cause.shape)] false

/-- A bus in full, with the number of calls each of its sinks has had. -/
structure BusCell where
  registry : Registry := {}
  resolver : Resolver := {}
  deadLetters : Sink
  failures : Sink
  deadLetterCalls : Nat := 0
  failureCalls : Nat := 0
  alive : Bool := true

/-- What a recorder keeps of one kind, the latest first. A panic while it is being emptied breaks
it, and it keeps nothing any more. -/
inductive Tray (α : Type)
  | intact (latest : List α)
  | broken

namespace Tray

variable {α : Type}

/-- What is kept, oldest first. -/
def toList : Tray α → List α
  | intact latest => latest.reverse
  | broken => []

def add (t : Tray α) (x : α) : Tray α :=
  match t with
  | intact latest => intact (x :: latest)
  | broken => broken

def emptied : Tray α → Tray α
  | intact _ => intact []
  | broken => broken

theorem toList_add (latest : List α) (x : α) :
    ((intact latest).add x).toList = (intact latest).toList ++ [x] := by
  simp [add, toList]

end Tray

/-- A recording sink, with what it was handed in either role. -/
structure Recorder where
  returned : Tray ReturnedMessage := .intact []
  failed : Tray FailedMessage := .intact []
  alive : Bool := true

namespace Recorder

def emptied (c : Recorder) : SinkRole → Recorder
  | .deadLetter => { c with returned := c.returned.emptied }
  | .failure => { c with failed := c.failed.emptied }

def broken (c : Recorder) : SinkRole → Recorder
  | .deadLetter => { c with returned := .broken }
  | .failure => { c with failed := .broken }

end Recorder

/-- The handles by which things are held and named from outside. A weak handle holds nothing. -/
structure Desk where
  mailboxes : Shelf MailboxId := []
  buses : Shelf BusId := []
  weakBuses : Shelf BusId := []
  recorders : Shelf RecorderId := []
  journals : Shelf JournalId := []
  snapshots : Shelf (List Route) := []

/-- One publish of one message on one bus. Dispatches are numbered in the order in which they
begin. -/
structure Dispatch where
  number : Nat
  bus : BusId
  message : Message

/-- One thing that happened in an exchange. What a bus did for a dispatch names the dispatch: it
invokes a mailbox until that has answered, hands a record to a sink until that has heard it, and
lets go of its mailboxes until they are released. A subscription that was made or taken back names
its bus. -/
inductive Occurrence
  | published (dispatch : Dispatch) (plan : List (Tag × Subscription))
  | invoked (dispatch : Dispatch) (subscription : Subscription)
  | answered (dispatch : Dispatch) (subscription : Subscription) (outcome : Outcome)
  | returned (dispatch : Dispatch) (record : ReturnedMessage)
  | failed (dispatch : Dispatch) (record : FailedMessage)
  | heard (dispatch : Dispatch) (result : Except Halt Unit)
  | released (dispatch : Dispatch) (result : Except Halt Unit)
  | concluded (dispatch : Dispatch) (result : Except Halt (Option BusError))
  | subscribed (bus : BusId) (subscription : Subscription)
  | unsubscribed (bus : BusId) (mailbox : Mailbox)
  | cleared (bus : BusId)
  | emptied (recorder : RecorderId) (role : SinkRole)
  | dropped (ref : Ref)
  | logged (event : Log.Event)
  | announced (announcement : Announcement)

/-- Mailboxes, buses, recorders and journals with all that holds them: the handles on the desk and
what the code that is running keeps for as long as it runs. The trace lists what happened, and
each journal its lines, the latest first; of what is logged the book keeps what is listened to. -/
structure Exchange where
  mailboxes : List MailboxCell := []
  buses : List BusCell := []
  recorders : List Recorder := []
  journals : List (List DeliveryRecord) := []
  desk : Desk := {}
  held : List (List Ref) := []
  dispatches : Nat := 0
  trace : List Occurrence := []
  book : Log.Book := {}

namespace Exchange

def record (w : Exchange) (o : Occurrence) : Exchange := { w with trace := o :: w.trace }

/-- Has a subscriber listen, or nobody, from now on. -/
def heardBy (w : Exchange) (subscriber : Option Log.Subscriber) : Exchange :=
  { w with book := { subscriber } }

def log (w : Exchange) (e : Log.Event) : Exchange :=
  { w with book := w.book.note e }.record (.logged e)

def announce (w : Exchange) (a : Announcement) : Exchange := w.record (.announced a)

/-- What happened, oldest first. -/
def history (w : Exchange) : List Occurrence := w.trace.reverse

def modifyBus (w : Exchange) (b : BusId) (f : BusCell → BusCell) : Exchange :=
  { w with buses := w.buses.modify b f }

def modifyMailbox (w : Exchange) (m : MailboxId) (f : MailboxCell → MailboxCell) : Exchange :=
  { w with mailboxes := w.mailboxes.modify m f }

def modifyRecorder (w : Exchange) (r : RecorderId) (f : Recorder → Recorder) : Exchange :=
  { w with recorders := w.recorders.modify r f }

def note (w : Exchange) (j : JournalId) (d : DeliveryRecord) : Exchange :=
  { w with journals := w.journals.modify j (d :: ·) }

end Exchange

end MessageBus
