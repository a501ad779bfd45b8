import MessageBus.Concurrency.Basic

namespace MessageBus.Concurrency

/-- What each thread does in each of its rounds: subscribe and unsubscribe a mailbox that all
threads share, the same with a new mailbox every time, subscribe a new mailbox, or publish to a
mailbox that is subscribed all the time. -/
inductive Workload
  | sharing | churning | subscribing | publishing
  deriving DecidableEq, Inhabited

namespace Workload

def commonMailbox (target : Target) : Mailbox := { id := 0, name := "shared", target }

def ownMailbox (target : Target) (rounds thread round : Nat) : Mailbox :=
  { id := 1 + thread * rounds + round, name := "own", target }

def calls (w : Workload) (target : Target) (m : Message) (rounds thread round : Nat) :
    List Call :=
  let common := commonMailbox target
  let own := ownMailbox target rounds thread round
  match w with
  | sharing => [.subscribe common, .unsubscribe common]
  | churning => [.subscribe own, .unsubscribe own]
  | subscribing => [.subscribe own]
  | publishing => [.publish m]

def preparation (w : Workload) (target : Target) : List Call :=
  match w with
  | publishing => [.subscribe (commonMailbox target)]
  | _ => []

def threads (w : Workload) (target : Target) (m : Message) (count rounds : Nat) : List Thread :=
  (List.range count).map fun thread =>
    { calls := (List.range rounds).flatMap (w.calls target m rounds thread) }

end Workload

/-- What was counted: failed calls, messages handed over, and messages returned. -/
def Action.isError : Action → Bool
  | notSubscribed _ => true
  | stopped _ _ => true
  | mismatched _ _ => true
  | _ => false

def Action.isInvocation : Action → Bool
  | invoked _ _ => true
  | _ => false

def Action.isReturn : Action → Bool
  | returned _ => true
  | _ => false

def Shared.count (s : Shared) (p : Action → Bool) : Nat := s.history.countP (p ·.2)

def Shared.perform (s : Shared) (steps : Nat) (calls : List Call) : Shared :=
  (Fleet.runAlone 0 steps { shared := s, threads := [{ calls }] }).shared

structure Tally where
  errors : Nat
  hitsDuring : Nat
  hitsAfter : Nat
  published : Bool
  count : Nat
  empty : Bool
  returned : Nat
  cached : Nat
  gone : Bool

/-- Runs a workload, one thread after the other, and then publishes its message once more. -/
def Workload.tally (w : Workload) (target : Target) (m : Message) (count rounds : Nat) : Tally :=
  -- No call takes more steps than this.
  let steps := (rounds + 1) * (10 + 2 * m.ancestry.length + count * rounds)
  let prepared := Shared.perform {} steps (w.preparation target)
  let fleet : Fleet := { shared := prepared, threads := w.threads target m count rounds }
  let during := ((List.range count).foldl (fun f thread => f.runAlone thread steps) fleet).shared
  let after := during.perform steps [.publish m]
  let common := Workload.commonMailbox target
  { errors := during.count Action.isError
    hitsDuring := during.count Action.isInvocation
    hitsAfter := after.count Action.isInvocation
    published := after.count Action.isError = during.count Action.isError
    count := after.registry.size
    empty := after.registry.isEmpty
    returned := after.count Action.isReturn
    cached := after.resolver.size
    gone := (after.registry.remove common).isNone }

end MessageBus.Concurrency
