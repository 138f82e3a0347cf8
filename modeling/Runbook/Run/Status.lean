import Runbook.Time.Instant

/-!
# Statuses and log entries

The states of a run and of its steps, and the entries that report progress.
-/

namespace Runbook

/-- The state of a run. -/
inductive RunStatus
  | pending
  | running
  | waitingPrompt
  | completed
  | error
  | cancelled
deriving DecidableEq, Inhabited

namespace RunStatus

def all : List RunStatus :=
  [.pending, .running, .waitingPrompt, .completed, .error, .cancelled]

def text : RunStatus → String
  | .pending => "pending"
  | .running => "running"
  | .waitingPrompt => "waiting-prompt"
  | .completed => "completed"
  | .error => "error"
  | .cancelled => "cancelled"

def isTerminal : RunStatus → Bool
  | .completed | .error | .cancelled => true
  | _ => false

end RunStatus

/-- The state of a step of a run. -/
inductive StepStatus
  | running
  | success
  | error
  | cancelled
deriving DecidableEq, Inhabited

namespace StepStatus

def all : List StepStatus := [.running, .success, .error, .cancelled]

def text : StepStatus → String
  | .running => "running"
  | .success => "success"
  | .error => "error"
  | .cancelled => "cancelled"

end StepStatus

/-- What a log entry reports. -/
inductive LogStatus
  | info
  | success
  | error
deriving DecidableEq, Inhabited

namespace LogStatus

def all : List LogStatus := [.info, .success, .error]

def text : LogStatus → String
  | .info => "info"
  | .success => "success"
  | .error => "error"

end LogStatus

/-- A report of progress at a node. -/
structure LogLine where
  nodeId : String
  nodeType : String
  message : String
  status : LogStatus
deriving DecidableEq, Inhabited

/-- A log line with the instant at which it was published. -/
structure LogEntry where
  line : LogLine
  timestamp : Instant
deriving DecidableEq, Inhabited

end Runbook
