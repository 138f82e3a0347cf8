import Runbook.Prompt.Basic
import Runbook.Workflow.ParseError

/-!
# Errors of runs

What ends a run with an error, and how it is said.
-/

namespace Runbook

/-- Why a run failed. -/
inductive RunError
  | handler (nodeId message : String)
  /-- A workflow that is being run was called again. -/
  | cycle (key : String) (stack : List String)
  | depthExceeded (key : String) (maxDepth : Nat)
  /-- A called workflow has a faulty document. -/
  | subWorkflowParse (key : String) (cause : ParseError)
  /-- A node asks, and nobody is there to answer. -/
  | promptUnavailable (nodeId : String) (kind : PromptKind)
deriving DecidableEq

namespace RunError

def message : RunError → String
  | .handler nodeId message => s!"node '{nodeId}' failed: {message}"
  | .cycle _ stack =>
    "sub-workflow cycle detected: " ++ " -> ".intercalate stack
  | .depthExceeded key maxDepth =>
    s!"sub-workflow call depth exceeds {maxDepth} (entering '{key}')"
  | .subWorkflowParse key cause =>
    s!"could not load sub-workflow '{key}': {cause.message}"
  | .promptUnavailable nodeId kind =>
    s!"node '{nodeId}' raised a '{kind.text}' prompt, " ++
      "but no prompt callbacks are attached to this run"

/-- The wording of an error at the step that failed: that of a failing node
does not name the node. -/
def stepMessage : RunError → String
  | .handler _ message => message
  | error => error.message

/-- Whether the error comes from the guard of nested calls. -/
def isGuard : RunError → Bool
  | .cycle .. | .depthExceeded .. => true
  | _ => false

/-- What led to an error, besides what its wording says. -/
def causes : RunError → List String
  | .subWorkflowParse _ cause => [cause.message]
  | _ => []

end RunError

end Runbook
