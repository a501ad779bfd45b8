import MessageBus.Exchange.Step

namespace MessageBus

/-- What a sink of a bus saw: the labels by which the bus and the mailbox are held, where they
are held, and the texts of the record. -/
inductive SinkNote
  | returned (bus : Option String) (tag : Tag) (record : String)
  | failed (bus mailbox : Option String) (name : String) (target tag : Tag) (error : String)
      (queue : Option Nat) (record : String)
  deriving DecidableEq, Inhabited

structure DeliveryRecord where
  mailbox : String
  target : Tag
  rendered : String
  deriving DecidableEq, Inhabited

/-- A subscription of a snapshot: its number, the name of its mailbox, and the label by which the
mailbox is held. -/
structure EntryNote where
  seq : Nat
  name : String
  label : Option String
  deriving DecidableEq, Inhabited

structure MailboxNote where
  name : String
  target : Tag
  shown : String
  refShown : String
  deriving DecidableEq, Inhabited

inductive Reply
  | done
  | badStep
  | busError (error : BusError)
  | logFailure (failure : Log.Failure)
  | assembled (builder : String) (error : Option BusError)
  | subscribed (seq : Nat)
  | number (n : Nat)
  | totals (subscribers size : Nat) (empty : Bool)
  | routes (routes : List (Tag × List EntryNote))
  | text (s : String)
  | names (names : List String)
  | flag (b : Bool)
  | mailbox (note : MailboxNote)
  | sameness (same : Bool) (typed : Option Bool)
  | counts (a b : Nat)
  | length (n : Nat)
  | notes (notes : List SinkNote)
  | deliveries (entries : List DeliveryRecord)
  | panicked (text : String)
  deriving DecidableEq, Inhabited

/-- Something that is announced to whoever follows an exchange. -/
inductive Announcement
  | delivered (mailbox : String) (call : Nat) (seen : String)
  | sink (note : SinkNote)
  | dropped (mailbox : String)
  | ran (word : String) (reply : Reply)
  deriving DecidableEq, Inhabited

end MessageBus
