import Runbook.Run.History
import Runbook.Run.Moment
import Runbook.Step.Registry
import Runbook.Workflow.Compile

/-!
# Running workflows

A workflow is run node by node: each step ends with the target at which the
workflow goes on.  A step that asks is suspended until there is an answer, and
a step that calls a workflow runs it as a frame of its own, with its own
variables and without a record.  Whether the run is aborted is asked before
each node and before anything is waited for.
-/

namespace Runbook

/-- Options of an engine. -/
structure EngineOptions where
  /-- How many workflows may be nested, the outermost one included. -/
  maxCallDepth : Nat := 20
  /-- Whether the outputs of steps are logged. -/
  logValues : Bool := false
deriving DecidableEq, Inhabited

def EngineOptions.describe (options : EngineOptions) : String :=
  s!"EngineOptions \x7b max_call_depth: {options.maxCallDepth}, " ++
    s!"log_values: {options.logValues} \x7d"

/-- What runs workflows. -/
structure Engine where
  registry : Registry
  settings : ServiceSettings
  hasPrompts : Bool
  options : EngineOptions

/-- The end of a run. -/
structure RunOutcome where
  executionId : String
  status : RunStatus
  /-- The variables of the outermost workflow. -/
  bindings : Variables
  history : HistoryRecord
  error : Option RunError
deriving Inhabited

namespace Engine

def describe (engine : Engine) : String :=
  s!"Engine \x7b registry: {engine.registry.describe}, " ++
    s!"prompts: {engine.hasPrompts}, " ++
    s!"options: {engine.options.describe} \x7d"

/-- Why a frame does not go on. -/
inductive Interrupt
  | cancelled
  | failed (error : RunError)
  /-- The number of steps that may be taken has been taken. -/
  | exhausted
deriving DecidableEq

/-- What a node leads to. -/
inductive Flow
  | jump (target : Target)
  | call (call : SubWorkflowCall)

/-- What changes while a workflow is run: its variables and, for the outermost
one, the record. -/
structure Frame where
  bindings : Variables
  record : Option HistoryRecord
deriving Inhabited

/-- Where a frame reports to: the start of the node ids in its log. -/
structure Scope where
  path : String

def log (scope : Scope) (node : Node) (message : String) (status : LogStatus) :
    Running Unit :=
  Running.publish
    (.log ⟨scope.path ++ node.id, node.nodeType.tag, message, status⟩)

def answerStep (scope : Scope) (node : Node) :
    (question : Step.Question) → Running (Step.Reply question)
  | .call call => Running.ask (.call call)
  | .sleep nanoseconds => Running.ask (.sleep nanoseconds)
  | .note message => log scope node message .info

def nodeFailure (node : Node) (failure : Failure) : Interrupt :=
  .failed (.handler node.id failure.message)

/-- Carry out a computation of a step, unless the run is aborted. -/
def runStep {α : Type} (scope : Scope) (context : Step.Context) (step : Step α)
    (state : Step.State) : Running (Except Interrupt α × Step.State) := do
  if ← Running.ask .isAborted then return (.error .cancelled, state)
  let (result, state) ←
    ((step.run context).run.run state).runWith (answerStep scope context.node)
  match result with
  | .ok value => return (.ok value, state)
  | .error .interrupted => return (.error .cancelled, state)
  | .error (.failed failure) =>
    return (.error (nodeFailure context.node failure), state)

def awaitAnswer (engine : Engine) (node : Node) (prompt : Prompt) :
    Running (Except Interrupt (PromptRequest × Option String)) := do
  if !engine.hasPrompts then
    return .error (.failed (.promptUnavailable node.id prompt.kind))
  let request : PromptRequest :=
    ⟨← Running.ask .newId, (← get).id, node.id, prompt⟩
  Running.transition .waitingPrompt
  Running.publish (.prompt request)
  if ← Running.ask .isAborted then return .error .cancelled
  match ← Running.ask (.answer request) with
  | none => return .error .cancelled
  | some answer =>
    Running.transition .running
    return .ok (request, answer)

/-- Carry out a step, and resume it with an answer as often as it suspends. -/
def interact (engine : Engine) (scope : Scope) (context : Step.Context)
    (handler : Handler) :
    Nat → Step Directive → Step.State →
      Running (Except Interrupt Flow × Step.State)
  | 0, _, state => return (.error .exhausted, state)
  | fuel + 1, step, state => do
    match ← runStep scope context step state with
    | (.error interrupt, state) => return (.error interrupt, state)
    | (.ok .proceed, state) =>
      return (.ok (.jump context.node.jumps.next), state)
    | (.ok (.jump target), state) => return (.ok (.jump target), state)
    | (.ok .terminate, state) => return (.ok (.jump .finish), state)
    | (.ok (.call call), state) => return (.ok (.call call), state)
    | (.ok (.suspend prompt), state) =>
      match ← engine.awaitAnswer context.node prompt with
      | .error interrupt => return (.error interrupt, state)
      | .ok (request, answer) =>
        engine.interact scope context handler fuel
          (handler.resume request answer) state

/-- Load the document of a called workflow, unless the run is aborted. -/
def loadSource (node : Node) (reference : String) :
    Running (Except Interrupt String) := do
  if ← Running.ask .isAborted then return .error .cancelled
  match ← Running.ask (.call (.loadWorkflow reference)) with
  | none => return .error .cancelled
  | some (.ok source) => return .ok source
  | some (.error failure) =>
    return .error (nodeFailure node
      (failure.within s!"could not load sub-workflow '{reference}'"))

/-- What the end of a called workflow is for its caller. -/
def returned (node : Node) (key : String) : Interrupt → Interrupt
  | .failed error =>
    if error.isGuard then .failed error
    else
      .failed (.handler node.id
        s!"sub-workflow '{key}' failed: {error.message}")
  | interrupt => interrupt

/-- The variables of the caller that are set after a call, with the values
that the called workflow has for them. -/
def copied (outputs : OrderedMap String) (bindings : Variables) :
    List (String × String) :=
  outputs.entries.filterMap fun output =>
    (bindings.get? output.2).map fun value => (output.1, value)

/-- How a frame is run: in a scope, a workflow with its first variables. -/
abbrev FrameRunner :=
  Scope → Workflow → Frame → Running (Except Interrupt Unit × Frame)

/-- Run a called workflow, and give the variables to set in the caller. -/
def callWorkflow (engine : Engine) (runChild : FrameRunner) (scope : Scope)
    (node : Node) (call : SubWorkflowCall) :
    Running (Except Interrupt (List (String × String))) := do
  match ← loadSource node call.reference with
  | .error interrupt => return .error interrupt
  | .ok source =>
    match Workflow.read source call.name with
    | .error cause =>
      let name := call.name.getD Document.defaultName
      return .error (.failed (.subWorkflowParse
        (CallStack.key call.reference name) cause))
    | .ok child =>
      let key := CallStack.key call.reference child.name
      let run ← get
      match run.stack.push key engine.options.maxCallDepth with
      | .error error => return .error (.failed error)
      | .ok stack =>
        set { run with stack }
        let (ended, frame) ← runChild ⟨scope.path ++ key ++ "/"⟩ child
          ⟨call.inputs, none⟩
        modify fun after =>
          { after with stack := after.stack.pop, pointer := run.pointer }
        match ended with
        | .error interrupt => return .error (returned node key interrupt)
        | .ok () => return .ok (copied call.outputs frame.bindings)

def textObject (pairs : List (String × String)) : Json :=
  Json.sortedObject (pairs.map fun pair => (pair.1, .string pair.2))

/-- Execute a node: where the frame goes on, the output, and the variables
afterwards. -/
def driveNode (engine : Engine) (runChild : FrameRunner) (fuel : Nat)
    (scope : Scope) (node : Node) (properties : OrderedMap String)
    (bindings : Variables) :
    Running (Except Interrupt Target × Option String × Variables) := do
  match engine.registry.handler? node.nodeType with
  | none =>
    let failure := Failure.of
      s!"no handler registered for node type '{node.nodeType.tag}'"
    return (.error (nodeFailure node failure), none, bindings)
  | some handler =>
    let context : Step.Context := ⟨node, properties, engine.settings⟩
    let (flow, state) ← engine.interact scope context handler fuel
      handler.execute ⟨bindings, none⟩
    match flow with
    | .error interrupt =>
      return (.error interrupt, state.output, state.bindings)
    | .ok (.jump target) => return (.ok target, state.output, state.bindings)
    | .ok (.call call) =>
      match ← engine.callWorkflow runChild scope node call with
      | .error interrupt =>
        return (.error interrupt, state.output, state.bindings)
      | .ok pairs =>
        return (.ok node.jumps.next, some (textObject pairs).render,
          state.bindings.insertAll pairs)

def endMessage (engine : Engine) (output : Option String) : String :=
  match output, engine.options.logValues with
  | some value, true => "completed: " ++ value
  | _, _ => "completed"

/-- The status of a step, its error, and its last log message. -/
def stepEnd (engine : Engine) (result : Except Interrupt Target)
    (output : Option String) :
    StepStatus × Option String × String × LogStatus :=
  match result with
  | .ok _ => (.success, none, engine.endMessage output, .success)
  | .error (.failed error) =>
    (.error, some error.stepMessage, error.stepMessage, .error)
  | .error _ => (.cancelled, none, "cancelled", .info)

def openStep (node : Node) (properties : OrderedMap String) :
    Option HistoryRecord → Running (Option HistoryRecord)
  | none => return none
  | some record => do
    let now ← Running.ask .now
    return some (record.startStep node.id node.nodeType.tag
      (some (textObject properties.entries)) now)

def closeStep (status : StepStatus) (output error : Option String) :
    Option HistoryRecord → Running (Option HistoryRecord)
  | none => return none
  | some record => do
    let now ← Running.ask .now
    return some (record.finishStep (record.steps.length - 1) status output
      error now)

def step (engine : Engine) (runChild : FrameRunner) (fuel : Nat)
    (scope : Scope) (node : Node) (frame : Frame) :
    Running (Except Interrupt Target × Frame) := do
  let properties := Template.resolveAll frame.bindings node.properties
  let record ← openStep node properties frame.record
  log scope node "started" .info
  let (result, output, bindings) ← engine.driveNode runChild fuel scope node
    properties frame.bindings
  let (status, error, message, logStatus) := engine.stepEnd result output
  log scope node message logStatus
  let record ← closeStep status output error record
  return (result, ⟨bindings, record⟩)

/-- Run a workflow from a target on, with at most so many steps in a row. -/
def runFrom (engine : Engine) :
    Nat → Scope → Workflow → Target → Frame →
      Running (Except Interrupt Unit × Frame)
  | 0, _, _, _, frame => return (.error .exhausted, frame)
  | fuel + 1, scope, workflow, target, frame => do
    if ← Running.ask .isAborted then return (.error .cancelled, frame)
    match target.index?.bind fun index =>
        workflow.nodes[index]?.map fun node => (index, node) with
    | none => return (.ok (), frame)
    | some (index, node) =>
      modify fun run => { run with pointer := some index }
      let runChild : FrameRunner := fun scope child frame =>
        engine.runFrom fuel scope child (.node child.start) frame
      match ← engine.step runChild fuel scope node frame with
      | (.error interrupt, frame) => return (.error interrupt, frame)
      | (.ok next, frame) => engine.runFrom fuel scope workflow next frame

/-- The status and the error with which a run ends; none if it took all the
steps it may take. -/
def runEnd? : Except Interrupt Unit → Option (RunStatus × Option RunError)
  | .ok () => some (.completed, none)
  | .error .cancelled => some (.cancelled, none)
  | .error (.failed error) => some (.error, some error)
  | .error .exhausted => none

def runOutermost (engine : Engine) (fuel : Nat) (workflow : Workflow)
    (frame : Frame) : Running (Except Interrupt Unit × Frame) := do
  let run ← get
  match run.stack.push (CallStack.key run.reference workflow.name)
      engine.options.maxCallDepth with
  | .error error => return (.error (.failed error), frame)
  | .ok stack =>
    set { run with stack }
    let result ← engine.runFrom fuel ⟨""⟩ workflow (.node workflow.start) frame
    modify fun run => { run with stack := run.stack.pop }
    return result

/-- Run a workflow to its end; none if that takes too many steps. -/
def execute (engine : Engine) (fuel : Nat) (workflow : Workflow)
    (bindings : Variables) : Running (Option RunOutcome) := do
  let run ← get
  let record := HistoryRecord.start run.id run.reference workflow.name
    (← Running.ask .now)
  Running.transition .running
  let (ended, frame) ← engine.runOutermost fuel workflow
    ⟨bindings, some record⟩
  match runEnd? ended with
  | none => return none
  | some (status, error) =>
    Running.transition status
    let record := frame.record.getD record
    return some ⟨run.id, status, frame.bindings,
      record.finalize status (← Running.ask .now), error⟩

end Engine

end Runbook
