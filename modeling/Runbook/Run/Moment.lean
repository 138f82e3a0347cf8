import Runbook.Program
import Runbook.Run.CallStack
import Runbook.Run.Status
import Runbook.Service.Basic

/-!
# Running

A run asks whether it is aborted, calls services, waits, asks for answers and
publishes events.  Every question is asked in a state of the run, so that what
holds of a run at every moment is what holds of the states of its questions.
-/

namespace Runbook

/-- What a run publishes. -/
inductive RunEvent
  | log (line : LogLine)
  | status (status : RunStatus)
  | prompt (request : PromptRequest)
deriving DecidableEq, Inhabited

namespace RunEvent

def line? : RunEvent → Option LogLine
  | .log entry => some entry
  | _ => none

def status? : RunEvent → Option RunStatus
  | .status entered => some entered
  | _ => none

def request? : RunEvent → Option PromptRequest
  | .prompt asked => some asked
  | _ => none

end RunEvent

/-- The state of a run. -/
structure Run where
  id : String
  /-- Where the workflow has been loaded from. -/
  reference : String
  status : RunStatus
  /-- The position of the node that is executed in the innermost workflow, or
  has been executed last. -/
  pointer : Option Nat
  stack : CallStack
deriving DecidableEq, Inhabited

namespace Run

def fresh (id reference : String) : Run :=
  ⟨id, reference, .pending, none, CallStack.empty⟩

/-- What a run can ask. -/
inductive Question
  /-- Whether the run is to stop. -/
  | isAborted
  | now
  /-- An id that has not been given before. -/
  | newId
  | publish (event : RunEvent)
  | call (call : ServiceCall)
  | sleep (nanoseconds : Nat)
  | answer (request : PromptRequest)

/-- The replies to a run.  There is none to what is waited for when the run is
aborted. -/
abbrev Reply : Question → Type
  | .isAborted => Bool
  | .now => Instant
  | .newId => String
  | .publish _ => Unit
  | .call call => Option (Except Failure call.Result)
  | .sleep _ => Option Unit
  | .answer _ => Option (Option String)

/-- A question, and the state of the run in which it is asked. -/
structure Moment where
  run : Run
  question : Question

/-- The reply to the question of a moment. -/
abbrev Moment.Reply (moment : Moment) : Type := Run.Reply moment.question

end Run

/-- A computation of a run. -/
abbrev Running (α : Type) :=
  StateT Run (Program Run.Moment Run.Moment.Reply) α

namespace Running

/-- Ask a question in the present state of the run. -/
def ask (question : Run.Question) : Running (Run.Reply question) :=
  fun run => .ask ⟨run, question⟩ fun reply => .done (reply, run)

def publish (event : RunEvent) : Running Unit :=
  ask (.publish event)

/-- Enter a status, and publish it if it is a new one. -/
def transition (status : RunStatus) : Running Unit := do
  if (← get).status ≠ status then
    modify fun run => { run with status }
    publish (.status status)

end Running

end Runbook
