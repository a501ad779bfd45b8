import MessageBus.Message.Basic

namespace MessageBus

/-- The identity of a mailbox: mailboxes are numbered in the order in which they are made. -/
abbrev MailboxId := Nat

/-- A mailbox as others see it: who it is, what it is called and what it listens for. -/
structure Mailbox where
  id : MailboxId
  name : String
  target : Target
  deriving DecidableEq, Inhabited

namespace Mailbox

def tag (m : Mailbox) : Tag := m.target.tag

private def fields (m : Mailbox) : List (String × Text.Shape) :=
  [("name", .quoted m.name), ("target", m.tag.shape)]

def shape (m : Mailbox) : Text.Shape := .record "Mailbox" m.fields false

/-- The outline of a mailbox whose target type is not known to its holder. -/
def refShape (m : Mailbox) : Text.Shape := .record "MailboxRef" m.fields false

end Mailbox

end MessageBus
