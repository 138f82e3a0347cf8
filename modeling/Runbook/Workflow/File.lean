import Runbook.Host.Basic
import Runbook.Workflow.Compile

/-!
# Workflow files

A workflow is read from a file.  Bytes that are not text are replaced.
-/

namespace Runbook

/-- Why a file gives no workflow. -/
inductive WorkflowFileError
  | unreadable (path : String) (error : SystemError)
  | invalid (path : String) (error : ParseError)
deriving DecidableEq

def WorkflowFileError.failure : WorkflowFileError → Failure
  | .unreadable path error =>
    (Failure.of error.message).within ("Failed to read workflow file: " ++ path)
  | .invalid path error =>
    (Failure.of error.message).within ("Invalid workflow file: " ++ path)

def Workflow.readFrom (path : String) (name : Option String) :
    Hosted (Except WorkflowFileError Workflow) := do
  match ← Hosted.ask (.load path) with
  | .error error => return .error (.unreadable path error)
  | .ok bytes =>
    match Workflow.read (Text.ofBytes bytes) name with
    | .error error => return .error (.invalid path error)
    | .ok workflow => return .ok workflow

end Runbook
