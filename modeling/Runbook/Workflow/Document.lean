import Runbook.OrderedMap
import Runbook.Workflow.ParseError
import Runbook.Yaml.Reader

/-!
# Workflow documents

A workflow as it is authored: named nodes in order, with their fields as
written.  A document holds one workflow, or several under the key `workflows`.
-/

namespace Runbook

/-- A node as authored. -/
structure NodeDefinition where
  id : Option String
  tag : String
  next : Option String
  trueNext : Option String
  falseNext : Option String
  /-- Where the node is drawn; it does not matter to a run. -/
  position : Option Yaml
  properties : OrderedMap Yaml
deriving Inhabited

/-- A workflow as authored. -/
structure Document where
  name : Option String
  description : Option String
  startNode : Option String
  nodes : List NodeDefinition
deriving Inhabited

/-- The workflows of a text by name. -/
abbrev Bundle := OrderedMap Document

namespace Document

def defaultName : String := "default"

def text? (value : Yaml) : Option String :=
  match value.untagged with
  | .string text => some text
  | _ => none

def optionalText? : Yaml → Option (Option String)
  | .null => some none
  | value => (text? value).map some

/-- The fields of a mapping; null is a mapping without any. -/
def fields? (value : Yaml) : Option (List (String × Yaml)) :=
  match value.untagged with
  | .null => some []
  | .mapping entries =>
    entries.mapM fun entry => (text? entry.1).map fun key => (key, entry.2)
  | _ => none

/-- The value of a field that may occur once; inside nothing if it does not
occur. -/
def field? (name : String) (fields : List (String × Yaml)) :
    Option (Option Yaml) :=
  match fields.filter fun field => field.1 == name with
  | [] => some none
  | [field] => some (some field.2)
  | _ => none

/-- The text of a field that may be missing or null. -/
def textField? (name : String) (fields : List (String × Yaml)) :
    Option (Option String) := do
  match ← field? name fields with
  | none => return none
  | some value => optionalText? value

mutual

def hasTag : Yaml → Bool
  | .tagged .. => true
  | .sequence items => itemsHaveTag items
  | .mapping entries => entriesHaveTag entries
  | _ => false

def itemsHaveTag : List Yaml → Bool
  | [] => false
  | item :: rest => hasTag item || itemsHaveTag rest

def entriesHaveTag : List (Yaml × Yaml) → Bool
  | [] => false
  | (key, value) :: rest =>
    hasTag key || hasTag value || entriesHaveTag rest

end

/-- The names of the fields that every node may have. -/
def nodeFields : List String :=
  ["id", "type", "next", "trueNext", "falseNext", "position"]

def node? (value : Yaml) : Option NodeDefinition := do
  let fields ← fields? value
  let id ← textField? "id" fields
  let tag ← (← field? "type" fields).bind text?
  let next ← textField? "next" fields
  let trueNext ← textField? "trueNext" fields
  let falseNext ← textField? "falseNext" fields
  let position ← field? "position" fields
  let others := fields.filter fun field => !nodeFields.contains field.1
  if others.any fun field => hasTag field.2 then none
  else
    return {
      id, tag, next, trueNext, falseNext
      position := position.filter fun value =>
        match value with
        | .null => false
        | _ => true
      properties := OrderedMap.ofList others }

/-- The nodes that a value describes; null is none. -/
def nodes? (value : Yaml) : Option (List NodeDefinition) :=
  match value.untagged with
  | .null => some []
  | .sequence items => items.mapM node?
  | _ => none

def ofYaml? (value : Yaml) : Option Document := do
  let fields ← fields? value
  let name ← textField? "name" fields
  let description ← textField? "description" fields
  let startNode ← textField? "startNode" fields
  let nodes ←
    match ← field? "nodes" fields with
    | none => some []
    | some value => nodes? value
  return { name, description, startNode, nodes }

def keyName (document : Document) : String :=
  match document.name with
  | some name => if Text.isBlankText name then defaultName else name
  | none => defaultName

end Document

namespace Bundle

/-- The workflows under the key `workflows`, if a value has it. -/
def workflows? (value : Yaml) : Option Yaml :=
  match value.untagged with
  | .mapping entries => Yaml.entry? "workflows" entries
  | _ => none

def ofMapping? (value : Yaml) : Option Bundle := do
  let fields ← Document.fields? value
  let documents ← fields.mapM fun field =>
    (Document.ofYaml? field.2).map fun document => (field.1, document)
  return OrderedMap.ofList documents

def ofYaml? (value : Yaml) : Option Bundle :=
  match workflows? value with
  | some workflows =>
    (Document.fields? value).bind fun fields =>
      (Document.field? "workflows" fields).bind fun _ =>
        ofMapping? workflows
  | none =>
    (Document.ofYaml? value).map fun document =>
      OrderedMap.ofList [(document.keyName, document)]

def read (text : String) : Except ParseError Bundle :=
  match (Yaml.read? text).bind ofYaml? with
  | some bundle => .ok bundle
  | none => .error .malformed

/-- Choose a workflow by name.  A blank name is none, and then there has to be
only one workflow. -/
def select (bundle : Bundle) (name : Option String) :
    Except ParseError (String × Document) :=
  match name.bind Text.nonBlank? with
  | some requested =>
    match bundle.get? requested with
    | some document => .ok (requested, document)
    | none => .error (.unknownWorkflow requested)
  | none =>
    match bundle.entries with
    | [] => .error .empty
    | [entry] => .ok entry
    | _ => .error (.ambiguousWorkflow bundle.keys)

end Bundle

end Runbook
