import Runbook.Number.Reading
import Runbook.Step.Basic
import Runbook.Text.Quoted

/-!
# Stubs

Handlers for rehearsals, which do one simple thing whatever the properties of
the node are.
-/

namespace Runbook.Rehearsal

/-- What a stub does. -/
inductive Stub
  | proceed
  | terminate
  | jump (target : Target)
  | fail (message : String)
  | ask (times : Nat)
  /-- Ask once, and fail on the answer. -/
  | park
deriving DecidableEq, Inhabited

namespace Stub

def prompt (title : String) : Prompt :=
  .value ⟨title, none, false⟩

/-- Ask so many times; the title is the number of prompts that are left. -/
def askTimes (times : Nat) : Directive :=
  if times = 0 then .proceed else .suspend (prompt (toString times))

def title : Prompt → String
  | .value prompt => prompt.title
  | _ => ""

/-- Note and record an answer, and ask as often as the title says. -/
def resume (request : PromptRequest) (answer : Option String) :
    Step Directive := do
  Step.note <| "answered " ++
    match answer with
    | some text => "Some(" ++ Text.quoted text ++ ")"
    | none => "None"
  match Reading.natural (title request.prompt).toList with
  | .error error => Step.fail error.message
  | .ok times =>
    Step.recordOutput (answer.getD "")
    return askTimes (times - 1)

def execute : Stub → Step Directive
  | .proceed => return .proceed
  | .terminate => return .terminate
  | .jump target => return .jump target
  | .fail message => Step.fail message
  | .ask times => return askTimes times
  | .park => return .suspend (prompt "")

def handler (stub : Stub) : Handler := ⟨stub.execute, resume⟩

end Stub

end Runbook.Rehearsal
