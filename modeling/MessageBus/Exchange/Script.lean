import MessageBus.Exchange.Step

namespace MessageBus

/-- A line of a script: a step or an ending, at every call or only at some. -/
structure ScriptLine where
  calls : Option (List Nat) := none
  content : Step ⊕ Ending

instance : Inhabited ScriptLine := ⟨{ content := .inr .succeed }⟩

abbrev Script := List ScriptLine

namespace ScriptLine

/-- Whether the line counts at a call; calls are numbered from one. -/
def countsAt (call : Nat) (l : ScriptLine) : Bool := l.calls.all (·.contains call)

end ScriptLine

namespace Script

/-- The steps before the first ending, and that ending. Without one the code succeeds. -/
def cut : Script → List Step × Ending
  | [] => ([], .succeed)
  | { content := .inr ending, .. } :: _ => ([], ending)
  | { content := .inl step, .. } :: rest =>
    let (steps, ending) := cut rest
    (step :: steps, ending)

def reaction (s : Script) (call : Nat) : Reaction :=
  let (steps, ending) := cut (s.filter (·.countsAt call))
  .mk steps ending

end Script

end MessageBus
