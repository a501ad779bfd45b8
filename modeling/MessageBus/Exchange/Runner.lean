import MessageBus.Exchange.Holding

namespace MessageBus

/-- The message a sink was handed, and the bus it was published on. -/
structure Letter where
  bus : BusId
  message : Message

/-- What can be left to a runner: to react, with the letter at hand when a sink reacts, or to let
go of a thing, which is then gone unless it is held elsewhere. -/
inductive Work
  | react (letter : Option Letter) (reaction : Reaction)
  | release (ref : Ref)

abbrev Runner := Work → Exchange → Exchange × Outcome

/-- Whether a panic unwinds. -/
def Except.unwinds {α : Type} : Except Halt α → Bool
  | .error (.panicked _) => true
  | _ => false

/-- Whether the program is aborted. -/
def Except.aborts {α : Type} : Except Halt α → Bool
  | .error (.stopped .aborted) => true
  | _ => false

/-- A result, unless what was done after it stopped short. -/
def Except.unlessHalted {α : Type} (r : Except Halt α) : Except Halt Unit → Except Halt α
  | .ok () => r
  | .error h => .error h

/-- Lets go, one after another, of the things held last, be it that a panic unwinds. What the loss
of one of them sets off still finds the later ones held. When it panics, the rest is let go of as
the panic unwinds; a panic that leaves drop code while another one unwinds aborts the program. -/
def releaseAll (call : Runner) : Bool → List Ref → Exchange → Exchange × Except Halt Unit
  | _, [], w => (w.letGo, .ok ())
  | unwinding, x :: rest, w =>
    match call (.release x) (w.holdOnly rest) with
    | (w, .error (.stopped cause)) => (w.letGo, .error (.stopped cause))
    | (w, .error (.panicked t)) =>
      if unwinding then (w.letGo, .error (.stopped .aborted))
      else
        let (w, after) := releaseAll call true rest w
        (w, Except.unlessHalted (.error (.panicked t)) after)
    | (w, .ok _) => releaseAll call unwinding rest w

/-- While a panic unwinds, no other one comes out of letting go of things. -/
theorem releaseAll_ne_panicked (call : Runner) (xs : List Ref) (w : Exchange) (t : String) :
    (releaseAll call true xs w).2 ≠ .error (.panicked t) := by
  induction xs generalizing w with
  | nil => simp [releaseAll]
  | cons x rest ih =>
    rw [releaseAll]
    split
    · simp
    · simp
    · exact ih _

/-- Runs something while some things are held, and then lets go of them in order. -/
def whileHolding {α : Type} (call : Runner) (xs : List Ref)
    (run : Exchange → Exchange × Except Halt α) (w : Exchange) : Exchange × Except Halt α :=
  match run (w.hold xs) with
  | (w, .error (.stopped cause)) => (w.letGo, .error (.stopped cause))
  | (w, r) =>
    let (w, after) := releaseAll call (Except.unwinds r) xs w
    (w, Except.unlessHalted r after)

/-- A thing that nobody holds is struck off, with the reaction of its owner, and then lets go of
what it held itself. -/
def release (call : Runner) (x : Ref) (w : Exchange) : Exchange × Outcome :=
  if w.holds x || !w.isAlive x then (w, .ok none)
  else
    let contents := w.contents x
    let w := w.strike x
    match x with
    | .mailbox m =>
      match (w.mailboxes[m]?).bind fun c => c.onDrop.map fun r => (c.label, r) with
      | none => (w, .ok none)
      | some (label, reaction) => call (.react none reaction) (w.announce (.dropped label))
    | _ =>
      match releaseAll call false contents (w.hold contents) with
      | (w, .error h) => (w, .error h)
      | (w, .ok ()) => (w, .ok none)

end MessageBus
