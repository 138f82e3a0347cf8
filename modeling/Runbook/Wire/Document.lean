import Runbook.Wire.Decoder
import Runbook.Workflow.Document

/-!
# Workflow documents in JSON

Documents are written with their declared fields first; the other fields of a
node follow in the order in which they were given.
-/

namespace Runbook

open Json (Source)

mutual

/-- The YAML value of a JSON tree.  Members keep their order, and no name may
occur twice in an object. -/
def Yaml.ofSource? (depth : Nat) : Source → Option Yaml
  | .null => some .null
  | .bool value => some (.bool value)
  | .number text =>
    (Json.Number.ofText? text).map fun number =>
      match number with
      | .integer value => .integer value
      | .float value => .float value
  | .string content => (Json.Piece.text? content).map .string
  | .array items =>
    match depth with
    | 0 => none
    | depth + 1 => (Yaml.ofItems? depth items).map .sequence
  | .object members =>
    match depth with
    | 0 => none
    | depth + 1 => do
      let entries ← Yaml.ofMembers? depth members
      if Wire.areDistinct (entries.map Prod.fst) then
        return .mapping (entries.map fun entry => (.string entry.1, entry.2))
      else none

def Yaml.ofItems? (depth : Nat) : List Source → Option (List Yaml)
  | [] => some []
  | item :: rest => do
    let value ← Yaml.ofSource? depth item
    let values ← Yaml.ofItems? depth rest
    return value :: values

def Yaml.ofMembers? (depth : Nat) :
    List (List Json.Piece × Source) → Option (List (String × Yaml))
  | [] => some []
  | (content, source) :: rest => do
    let name ← Json.Piece.text? content
    let value ← Yaml.ofSource? depth source
    let values ← Yaml.ofMembers? depth rest
    return (name, value) :: values

end

/-- The JSON value of a YAML value; what has none is null. -/
def Yaml.asJson (value : Yaml) : Json :=
  value.toJson?.getD .null

namespace NodeDefinition

def otherFields? (depth : Nat) : Source → Option (OrderedMap Yaml)
  | .object members => do
    let named ← members.mapM fun (content, source) =>
      (Json.Piece.text? content).map fun name => (name, source)
    let others := named.filter fun member =>
      !Document.nodeFields.contains member.1
    let values ← others.mapM fun ((name, source) : String × Source) =>
      (Yaml.ofSource? (depth - 1) source).map fun value => (name, value)
    return OrderedMap.ofList values
  | _ => none

def decode : Wire.Decoder NodeDefinition := fun depth source => do
  let properties ← otherFields? depth source
  let fields ← Wire.fields? Document.nodeFields depth source
  let id ← fields.optional "id" Wire.text
  let tag ← fields.required "type" Wire.text
  let next ← fields.optional "next" Wire.text
  let trueNext ← fields.optional "trueNext" Wire.text
  let falseNext ← fields.optional "falseNext" Wire.text
  let position ← fields.optional "position" Yaml.ofSource?
  return ⟨id, tag, next, trueNext, falseNext, position, properties⟩

def toJson (definition : NodeDefinition) : Json :=
  .object ([("id", Wire.orNull definition.id),
    ("type", .string definition.tag),
    ("next", Wire.orNull definition.next),
    ("trueNext", Wire.orNull definition.trueNext),
    ("falseNext", Wire.orNull definition.falseNext)] ++
    Wire.present "position" Yaml.asJson definition.position ++
    definition.properties.entries.map fun entry => (entry.1, entry.2.asJson))

end NodeDefinition

namespace Document

def fieldNames : List String := ["name", "description", "startNode", "nodes"]

def decode : Wire.Decoder Document := fun depth source => do
  let fields ← Wire.fields? fieldNames depth source
  let name ← fields.optional "name" Wire.text
  let description ← fields.optional "description" Wire.text
  let startNode ← fields.optional "startNode" Wire.text
  let nodes ← fields.defaulted "nodes" [] (Wire.list NodeDefinition.decode)
  return ⟨name, description, startNode, nodes⟩

def toJson (document : Document) : Json :=
  .object [("name", Wire.orNull document.name),
    ("description", Wire.orNull document.description),
    ("startNode", Wire.orNull document.startNode),
    ("nodes", .array (document.nodes.map NodeDefinition.toJson))]

end Document

namespace Bundle

def decode : Wire.Decoder Bundle := fun depth source => do
  let fields ← Wire.fields? ["workflows"] depth source
  fields.required "workflows" (Wire.map Document.decode)

def toJson (bundle : Bundle) : Json :=
  .object [("workflows",
    .object (bundle.entries.map fun entry => (entry.1, entry.2.toJson)))]

end Bundle

end Runbook
