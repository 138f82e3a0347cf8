import Runbook.Json.Value
import Runbook.Run.Status

/-!
# History

The record of a run: its steps in the order in which they started.  A step is
closed once, and closing the record closes the steps that are still open.
-/

namespace Runbook

/-- One executed node of a run. -/
structure HistoryStep where
  nodeId : String
  nodeType : String
  status : StepStatus
  /-- The resolved properties of the node. -/
  input : Option Json
  output : Option String
  error : Option String
  startedAt : Instant
  finishedAt : Option Instant
deriving Inhabited

/-- The record of a run. -/
structure HistoryRecord where
  id : String
  workflowRef : String
  workflowName : String
  status : RunStatus
  steps : List HistoryStep
  startedAt : Instant
  finishedAt : Option Instant
deriving Inhabited

namespace HistoryStep

def start (nodeId nodeType : String) (input : Option Json) (now : Instant) :
    HistoryStep :=
  ⟨nodeId, nodeType, .running, input, none, none, now, none⟩

/-- Close a step; one that is closed stays as it is. -/
def finish (step : HistoryStep) (status : StepStatus)
    (output error : Option String) (now : Instant) : HistoryStep :=
  if step.finishedAt.isSome then step
  else { step with status, output, error, finishedAt := some now }

/-- Cancel a step that is still open, with what has been recorded of it. -/
def cancelOpen (step : HistoryStep) (now : Instant) : HistoryStep :=
  if step.finishedAt.isSome then step
  else { step with status := .cancelled, finishedAt := some now }

end HistoryStep

namespace HistoryRecord

def start (id workflowRef workflowName : String) (now : Instant) :
    HistoryRecord :=
  ⟨id, workflowRef, workflowName, .running, [], now, none⟩

def startStep (record : HistoryRecord) (nodeId nodeType : String)
    (input : Option Json) (now : Instant) : HistoryRecord :=
  { record with
    steps := record.steps ++ [HistoryStep.start nodeId nodeType input now] }

def finishStep (record : HistoryRecord) (position : Nat) (status : StepStatus)
    (output error : Option String) (now : Instant) : HistoryRecord :=
  { record with
    steps := record.steps.modify position fun step =>
      step.finish status output error now }

/-- Close the record with the last status of the run. -/
def finalize (record : HistoryRecord) (status : RunStatus) (now : Instant) :
    HistoryRecord :=
  { record with
    status
    steps := record.steps.map fun step => step.cancelOpen now
    finishedAt := some now }

/-- The steps at a node, in the order of execution. -/
def stepsFor (record : HistoryRecord) (nodeId : String) : List HistoryStep :=
  record.steps.filter fun step => step.nodeId == nodeId

def firstError? (record : HistoryRecord) : Option HistoryStep :=
  record.steps.find? fun step => step.status == .error

end HistoryRecord

end Runbook
