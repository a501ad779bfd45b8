import MessageBus.Exchange.Perform

namespace MessageBus

/-- Performs steps one after another. Each one is announced after it was performed. -/
def performAll (call : Runner) (letter : Option Letter) :
    List Step → Exchange → Exchange × Except Halt Unit
  | [], w => (w, .ok ())
  | step :: rest, w =>
    match perform call letter step w with
    | (w, .error h) => (w, .error h)
    | (w, .ok reply) => performAll call letter rest (w.announce (.ran step.word reply))

/-- Carries out a piece of work, and leaves what it gives rise to with a runner. -/
def Work.carryOut (call : Runner) : Work → Exchange → Exchange × Outcome
  | .react letter reaction, w =>
    match performAll call letter reaction.steps w with
    | (w, .error h) => (w, .error h)
    | (w, .ok ()) => (w, reaction.ending.outcome)
  | .release x, w => MessageBus.release call x w

/-- Runs user code that may call user code in turn, to a depth. -/
def runner : Nat → Runner
  | 0 => fun _ w => (w, .error (.stopped .exhausted))
  | depth + 1 => Work.carryOut (runner depth)

/-- Performs a step from outside, with a depth to which the calls it sets off may nest. -/
def Exchange.step (depth : Nat) (step : Step) (w : Exchange) : Exchange × Except Halt Reply :=
  perform (runner depth) none step w

/-- The same, answering a panic like any other reply. -/
def Exchange.stepCaught (depth : Nat) (step : Step) (w : Exchange) :
    Exchange × Except Halt Reply :=
  w.step depth (.guarded step)

end MessageBus
