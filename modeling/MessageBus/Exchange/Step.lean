import MessageBus.Registry.Basic
import MessageBus.Log.Failure
import MessageBus.Log.Sink

namespace MessageBus

/-- How a piece of user code ends. -/
inductive Ending
  | succeed
  | refuse (refusal : Refusal)
  | panic (text : String)
  deriving DecidableEq, Inhabited

/-- Why nothing is run any more, not even what would clean up: drop code panicked while an earlier
panic was unwinding, which aborts the program, or calls went deeper than they were allowed to. -/
inductive Stop
  | aborted
  | exhausted
  deriving DecidableEq, Inhabited

/-- Why running code stopped short: it panicked, and is unwound, or everything was stopped. -/
inductive Halt
  | panicked (text : String)
  | stopped (cause : Stop)
  deriving DecidableEq, Inhabited

/-- How a piece of user code comes out: it stops short, or it ends with a refusal or without. -/
abbrev Outcome := Except Halt (Option Refusal)

def Ending.outcome : Ending → Outcome
  | .succeed => .ok none
  | .refuse r => .ok (some r)
  | .panic t => .error (.panicked t)

/-- What a sink is handed: a message that came back, or one that a mailbox refused for a recoverable
cause. -/
inductive Receipt
  | returned (message : Message)
  | failed (mailbox : Mailbox) (message : Message) (cause : Cause)

inductive RecorderQuery
  | counts | returned | failed | clear
  deriving DecidableEq, Inhabited

inductive JournalQuery
  | entries | mailboxes | count (mailbox : String) | length
  deriving DecidableEq, Inhabited

inductive BusPart
  | whole | registry | resolver
  deriving DecidableEq, Inhabited

mutual

/-- One operation on an exchange. Mailboxes, buses and the rest are named by the labels of their
handles; `tall` asks for a text over several lines. -/
inductive Step
  | openBus (id : String) (plan : BusPlan)
  | openMailbox (id name : String) (target : Target) (conduct : Conduct)
      (onDrop : Option Reaction)
  | cloneMailbox (id other : String)
  | forget (id : String)
  | subscribe (bus id : String) (numbered : Bool)
  | unsubscribe (bus id : String)
  | publish (bus : String) (message : Message) (times : Nat)
  | republish (bus : Option String)
  | clear (bus : String)
  | countAll (bus : String)
  | countFor (bus : String) (tag : Tag)
  | entries (bus : String) (tags : List Tag) (keep : Option String)
  | showRoutes (snapshot : String)
  | showRoutesText (snapshot : String) (tall : Bool)
  | resolve (bus : String) (message : Message)
  | describe (id : String) (tall : Bool)
  | compare (a b : String)
  | showBus (bus : String) (part : BusPart) (tall : Bool)
  | showWeak (id : String) (tall : Bool)
  | cloneBus (bus other : String)
  | compareBuses (a b : String)
  | downgrade (bus other : String)
  | upgrade (id : String) (keep : Option String)
  | dropBus (bus : String)
  | recorder (id : String) (query : RecorderQuery)
  | journal (id : String) (query : JournalQuery)
  | emit (event : Log.Event)
  | guarded (step : Step)
  | unknown (word : String)

/-- What user code does when it is called: steps in order, and then how it ends. -/
inductive Reaction
  | mk (steps : List Step) (ending : Ending)

/-- How a mailbox behaves. A recording one notes each delivery in a journal and succeeds. A
responding one reacts to what it sees of a message at its n-th call, after noting it when it has a
journal; its refusals count for nothing when it is `lenient`. -/
inductive Conduct
  | recording (journal : String)
  | responding (react : Message → Nat → Reaction) (lenient : Bool) (journal : Option String)

/-- What fills a role of a bus. A responding sink reacts to what it is handed at its n-th call. -/
inductive SinkPlan
  | responding (react : Receipt → Nat → Reaction)
  | recording (recorder : String)
  | logging (sink : Log.Sink)

/-- A bus to be made: with two sinks of its own, with one recorder in both roles, found by name or
made anew, with one logging sink in both roles, or from parts of which some may be missing. -/
inductive BusPlan
  | responding (deadLetters failures : Receipt → Nat → Reaction)
  | recording (recorder : String)
  | testing (recorder : String)
  | logging (sink : Except Log.Failure Log.Sink)
  | assembled (deadLetters failures : Option SinkPlan)

end

instance : Inhabited Step := ⟨.unknown ""⟩

instance : Inhabited Reaction := ⟨.mk [] .succeed⟩

def Step.word : Step → String
  | openBus .. => "new_bus"
  | openMailbox .. => "mailbox"
  | cloneMailbox .. => "clone_mailbox"
  | forget .. => "forget"
  | subscribe .. => "subscribe"
  | unsubscribe .. => "unsubscribe"
  | publish .. => "publish"
  | republish .. => "republish"
  | clear .. => "clear"
  | countAll .. | countFor .. => "count"
  | entries .. => "entries"
  | showRoutes .. | showRoutesText .. => "show"
  | resolve .. => "resolve"
  | describe .. => "mailbox_info"
  | compare .. => "same"
  | showBus .. | showWeak .. => "debug"
  | cloneBus .. => "clone_bus"
  | compareBuses .. => "same_bus"
  | downgrade .. => "downgrade"
  | upgrade .. => "upgrade"
  | dropBus .. => "drop_bus"
  | recorder .. => "recorder"
  | journal .. => "delivery_log"
  | emit .. => "emit"
  | guarded s => s.word
  | unknown w => w

namespace Reaction

def steps : Reaction → List Step
  | mk steps _ => steps

def ending : Reaction → Ending
  | mk _ ending => ending

end Reaction

end MessageBus
