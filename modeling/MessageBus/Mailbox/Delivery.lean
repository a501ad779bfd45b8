import MessageBus.Mailbox.Basic

namespace MessageBus

/-- Why a mailbox refused a message. -/
inductive Cause
  | text (message : String)
  | overloaded (queue : Nat)
  deriving DecidableEq, Inhabited

namespace Cause

def message : Cause → String
  | text t => t
  | overloaded q => "queue depth " ++ toString q ++ " exceeded"

def shape : Cause → Text.Shape
  | text t => .quoted t
  | overloaded q => .record "Overloaded" [("queue", .nat q)] true

def queue? : Cause → Option Nat
  | text _ => none
  | overloaded q => some q

end Cause

/-- A refusal: a recoverable one is reported and delivery goes on, a fatal one stops it. -/
inductive Refusal
  | recoverable (cause : Cause)
  | fatal (cause : Cause)
  deriving DecidableEq, Inhabited

namespace Refusal

def cause : Refusal → Cause
  | recoverable c => c
  | fatal c => c

def isFatal : Refusal → Bool
  | recoverable _ => false
  | fatal _ => true

def message : Refusal → String
  | recoverable c => "recoverable delivery failure: " ++ c.message
  | fatal c => "fatal delivery failure: " ++ c.message

def shape : Refusal → Text.Shape
  | recoverable c => .tuple "Recoverable" [c.shape]
  | fatal c => .tuple "Fatal" [c.shape]

end Refusal

def mismatch (m : Message) (t : Target) : Refusal :=
  .fatal (.text (m.tag.name ++ " is not a " ++ t.tag.name))

inductive SinkRole
  | deadLetter
  | failure
  deriving DecidableEq, Inhabited

def SinkRole.name : SinkRole → String
  | deadLetter => "dead-letter"
  | failure => "failure"

/-- What can go wrong for the caller of a bus. -/
inductive BusError
  | notSubscribed (mailbox : String) (tag : Tag)
  | missingSink (role : SinkRole)
  | deliveryAborted (mailbox : String) (tag : Tag) (source : Cause)
  deriving DecidableEq, Inhabited

def BusError.message : BusError → String
  | notSubscribed mailbox tag =>
      "mailbox '" ++ mailbox ++ "' is not subscribed to " ++ tag.name
  | missingSink role => "bus requires a " ++ role.name ++ " sink"
  | deliveryAborted mailbox tag source =>
      "mailbox '" ++ mailbox ++ "' aborted delivery of " ++ tag.name ++ ": " ++ source.message

end MessageBus
