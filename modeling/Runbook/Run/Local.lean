import Runbook.Prompt.Terminal
import Runbook.Run.Engine
import Runbook.Service.Local

/-!
# Local runs

Runs on the machine at hand: services are local, prompts are answered at the
terminal, and nobody aborts the run.
-/

namespace Runbook

/-- What a local run works with. -/
structure LocalRun where
  services : LocalServices
  /-- Whether prompts are accepted as they are. -/
  isAccepting : Bool
  options : EngineOptions
deriving DecidableEq, Inhabited

namespace LocalRun

def engine (setup : LocalRun) : Engine :=
  ⟨Registry.standard, setup.services.settings, true, setup.options⟩

def answer (setup : LocalRun) :
    (question : Run.Question) → Hosted (Run.Reply question)
  | .isAborted => return false
  | .now => Hosted.ask .now
  | .newId => Hosted.ask .newId
  | .publish event => Hosted.ask (.observe event)
  | .call call => return some (← setup.services.perform call)
  | .sleep nanoseconds => do
    Hosted.ask (.sleep nanoseconds)
    return some ()
  | .answer request =>
    return some (← Terminal.answer setup.isAccepting request)

/-- The most steps in a row that a workflow may take. -/
def stepLimit : Nat := Nat.pow 2 62

/-- Run a workflow that has been loaded from a reference.  There is no outcome
if it takes too many steps. -/
def execute (setup : LocalRun) (workflow : Workflow) (reference : String)
    (bindings : Variables) : Hosted (Option RunOutcome) := do
  let id ← Hosted.ask .newId
  let running := setup.engine.execute stepLimit workflow bindings
  let (outcome, _) ← (running.run (Run.fresh id reference)).answeredBy
    fun (moment : Run.Moment) => setup.answer moment.question
  return outcome

end LocalRun

end Runbook
