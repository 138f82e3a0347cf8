import Runbook.Rehearsal.Session

/-!
# Rehearsed visits

A visit of a single node in the world of a rehearsal: the handler of the node
is executed, and resumed with answers when it is told to.
-/

namespace Runbook.Rehearsal

/-- A visit of a node. -/
structure Visit where
  handler : Handler
  context : Step.Context
  state : Step.State
  /-- The last prompt that has been raised. -/
  request : PromptRequest
  world : World

namespace Visit

def runId : String := "run-test"

def start (handler : Handler) (node : Node) (bindings : Variables)
    (script : Script) (files : List ScriptedFile) : Visit :=
  let properties := Template.resolveAll bindings node.properties
  ⟨handler, ⟨node, properties, script.storeSettings⟩, ⟨bindings, none⟩,
    ⟨"", runId, node.id, .value ⟨"", none, false⟩⟩,
    World.new script files (.scripted [] false)⟩

def remember (visit : Visit) : Except Engine.Interrupt Directive → Visit
  | .ok (.suspend prompt) =>
    { visit with request :=
        ⟨"prompt-" ++ runId, runId, visit.context.node.id, prompt⟩ }
  | _ => visit

/-- Carry out a step.  There is no result if the step does not end. -/
def perform (visit : Visit) (step : Step Directive) :
    Option (Except Engine.Interrupt Directive × Visit) :=
  let running := Engine.runStep ⟨""⟩ visit.context step visit.state
  let program := running.run (Run.fresh runId "")
  let last := advance timeLimit visit.world program
  last.result?.map fun ((result, state), _) =>
    (result, { visit with state, world := last.world }.remember result)

def execute (visit : Visit) :
    Option (Except Engine.Interrupt Directive × Visit) :=
  visit.perform visit.handler.execute

def resume (visit : Visit) (request : PromptRequest)
    (answer : Option String) :
    Option (Except Engine.Interrupt Directive × Visit) :=
  visit.perform (visit.handler.resume request answer)

def forgetOutput (visit : Visit) : Visit :=
  { visit with state := { visit.state with output := none } }

end Visit

end Runbook.Rehearsal
