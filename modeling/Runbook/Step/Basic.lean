import Runbook.Json.Reader
import Runbook.Prompt.Basic
import Runbook.Program
import Runbook.Service.Basic
import Runbook.Template.Resolve
import Runbook.Text.Search
import Runbook.Workflow.Basic

/-!
# Steps

A step runs one node.  It reads the properties of the node with their
templates resolved, reads and writes the variables of the run, may record an
output, and can call services, wait, or leave a note in the log.  A call and a
wait can be interrupted, which ends the step.  Variables and output stay as
they are when a step fails.
-/

namespace Runbook

/-- A call of another workflow. -/
structure SubWorkflowCall where
  reference : String
  /-- Which workflow of the document is called. -/
  name : Option String
  /-- The first variables of the called workflow. -/
  inputs : OrderedMap String
  /-- For variables of the caller, the variables of the called workflow that
  they are set from. -/
  outputs : OrderedMap String
deriving DecidableEq, Inhabited

/-- Where control goes after a step, or what it needs first. -/
inductive Directive
  /-- Go on to the next node. -/
  | proceed
  | jump (target : Target)
  | terminate
  /-- Ask a person, and resume with the answer. -/
  | suspend (prompt : Prompt)
  /-- Run another workflow, and go on to the next node. -/
  | call (call : SubWorkflowCall)
deriving DecidableEq, Inhabited

namespace Step

/-- What a step can ask. -/
inductive Question
  | call (call : ServiceCall)
  | sleep (nanoseconds : Nat)
  /-- Leave a note in the log. -/
  | note (message : String)

/-- The replies to a step.  There is none to a call or a wait that is
interrupted. -/
abbrev Reply : Question → Type
  | .call call => Option (Except Failure call.Result)
  | .sleep _ => Option Unit
  | .note _ => Unit

/-- What a step is given. -/
structure Context where
  node : Node
  /-- The properties of the node, with their templates resolved. -/
  properties : OrderedMap String
  settings : ServiceSettings

/-- What a step can change. -/
structure State where
  bindings : Variables
  output : Option String
deriving Inhabited

/-- Why a step ends early. -/
inductive Stop
  | failed (failure : Failure)
  | interrupted

end Step

/-- A computation of a step. -/
abbrev Step (α : Type) :=
  ReaderT Step.Context (ExceptT Step.Stop
    (StateT Step.State (Program Step.Question Step.Reply))) α

namespace Step

variable {α : Type}

def query (question : Question) : Step (Reply question) :=
  fun _ => ExceptT.mk fun state =>
    .ask question fun reply => .done (.ok reply, state)

def failWith (failure : Failure) : Step α :=
  throw (.failed failure)

def fail (message : String) : Step α :=
  failWith (.of message)

/-- The value of an attempt; its failure gets a context. -/
def within (context : String) : Except Failure α → Step α
  | .ok value => pure value
  | .error failure => failWith (failure.within context)

def call (serviceCall : ServiceCall) :
    Step (Except Failure serviceCall.Result) := do
  match ← query (.call serviceCall) with
  | some reply => pure reply
  | none => throw .interrupted

def callOrFail (serviceCall : ServiceCall) : Step serviceCall.Result := do
  match ← call serviceCall with
  | .ok result => pure result
  | .error failure => failWith failure

/-- Call a service; its failure gets a context. -/
def callWithin (context : String) (serviceCall : ServiceCall) :
    Step serviceCall.Result := do
  within context (← call serviceCall)

def sleep (nanoseconds : Nat) : Step Unit := do
  match ← query (.sleep nanoseconds) with
  | some () => pure ()
  | none => throw .interrupted

def note (message : String) : Step Unit :=
  query (.note message)

def property? (name : String) : Step (Option String) := do
  return ((← read).properties.get? name).filter fun value =>
    !Text.isBlankText value

/-- A property that is not blank, without the blanks around it. -/
def trimmedProperty? (name : String) : Step (Option String) := do
  return (← property? name).map Text.trim

/-- A property, blank or not; empty if there is none. -/
def propertyOrEmpty (name : String) : Step String := do
  return ((← read).properties.get? name).getD ""

def required (name : String) : Step String := do
  match ← property? name with
  | some value => return value
  | none => fail s!"missing required property '{name}'"

/-- A property that must not be blank, without the blanks around it. -/
def requiredTrimmed (name : String) : Step String := do
  return Text.trim (← required name)

def flag (name : String) : Step Bool := do
  return isTruthy (← property? name)

def invalidValue (name value cause : String) : Failure :=
  (Failure.of cause).within s!"property '{name}' has invalid value '{value}'"

/-- A property that is a natural number, if there is one. -/
def natural? (name : String) : Step (Option Nat) := do
  match ← property? name with
  | none => return none
  | some value =>
    match Reading.natural (Text.trimBoth value.toList) with
    | .ok number => return some number
    | .error error => failWith (invalidValue name value error.message)

/-- A property that is a decimal number, if there is one. -/
def decimal? (name : String) : Step (Option Binary64) := do
  match ← property? name with
  | none => return none
  | some value =>
    let text := Text.trimBoth value.toList
    match Reading.decimal? text with
    | some number => return some number
    | none => failWith (invalidValue name value (Reading.decimalMessage text))

def json? (name : String) : Step (Option Json) := do
  match ← property? name with
  | none => return none
  | some value =>
    match Json.read? value with
    | some json => return some json
    | none => fail s!"property '{name}' is not valid JSON"

def items (name : String) : Step (List String) := do
  return ((← property? name).map Text.commaList).getD []

/-- The members of an object as texts; null and nothing have none. -/
def textMap (name : String) : Option Json → Step (OrderedMap String)
  | none | some .null => pure OrderedMap.empty
  | some (.object members) =>
    pure (OrderedMap.ofList (members.map fun member =>
      (member.1, member.2.storedText)))
  | some _ => fail s!"property '{name}' must be a JSON object"

def valueOf? (name : String) : Step (Option String) := do
  return (← get).bindings.get? name

def setVariable (name value : String) : Step Unit :=
  modify fun state =>
    { state with bindings := state.bindings.insert name value }

/-- Set the variable that a property names, if it names one. -/
def setNamed (property value : String) : Step Unit := do
  match ← trimmedProperty? property with
  | some name => setVariable name value
  | none => pure ()

def recordOutput (value : String) : Step Unit :=
  modify fun state => { state with output := some value }

/-- Set the variable that a property names, if it names one, and record the
value as the output. -/
def save (property value : String) : Step Unit := do
  setNamed property value
  recordOutput value

/-- Save a JSON value as its compact text; a string is saved as it is. -/
def saveJson (property : String) (value : Json) : Step Unit :=
  save property value.storedText

end Step

/-- What the nodes of a type do. -/
structure Handler where
  execute : Step Directive
  /-- Go on after a prompt; there is no answer if the person declines. -/
  resume : PromptRequest → Option String → Step Directive

def Handler.refuse (request : PromptRequest) (_ : Option String) :
    Step Directive := do
  let nodeType := (← read).node.nodeType.tag
  Step.fail s!"node type '{nodeType}' cannot resume prompt '{request.id}'"

end Runbook
