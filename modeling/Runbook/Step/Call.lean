import Runbook.Step.Basic

/-!
# Calling workflows

The node that calls another workflow.  Its step only describes the call.
-/

namespace Runbook

namespace Step

/-- The first variables of the called workflow.  Templates are resolved one by
one in the values that are written in the property, so that a resolved text
never has to be JSON. -/
def callInputs : Step (OrderedMap String) := do
  let written := ((← read).node.properties.get? "input").filter fun text =>
    !Text.isBlankText text
  let value ←
    match written with
    | none => pure none
    | some text =>
      match Json.read? text with
      | some value => pure (some value)
      | none => fail "property 'input' is not valid JSON"
  let templates ← textMap "input" value
  return Template.resolveAll (← get).bindings templates

def callWorkflow : Step Directive := do
  let reference ← requiredTrimmed "path"
  let name ← trimmedProperty? "name"
  let inputs ← callInputs
  let outputs ← textMap "output" (← json? "output")
  return .call ⟨reference, name, inputs, outputs⟩

end Step

def Handler.workflow : Handler := ⟨Step.callWorkflow, Handler.refuse⟩

end Runbook
