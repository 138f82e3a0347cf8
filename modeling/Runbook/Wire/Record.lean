import Runbook.Prompt.Basic
import Runbook.Run.History
import Runbook.Service.Basic
import Runbook.Wire.Decoder
import Runbook.Workflow.NodeType

/-!
# Records in JSON

How statuses, prompts, log entries, history and file descriptors are written
as JSON and decoded again.  Fields are written in a fixed order.
-/

namespace Runbook

namespace RunStatus

def decode : Wire.Decoder RunStatus := Wire.choice all text

def toJson (status : RunStatus) : Json := .string status.text

end RunStatus

namespace StepStatus

def decode : Wire.Decoder StepStatus := Wire.choice all text

def toJson (status : StepStatus) : Json := .string status.text

end StepStatus

namespace LogStatus

def decode : Wire.Decoder LogStatus := Wire.choice all text

def toJson (status : LogStatus) : Json := .string status.text

end LogStatus

namespace PromptKind

def decode : Wire.Decoder PromptKind := Wire.choice all text

def toJson (kind : PromptKind) : Json := .string kind.text

end PromptKind

namespace NodeType

/-- A node type by its tag, without blanks around it. -/
def decode : Wire.Decoder NodeType := Wire.choice all tag

def toJson (nodeType : NodeType) : Json := .string nodeType.tag

end NodeType

namespace LogEntry

def fieldNames : List String :=
  ["nodeId", "nodeType", "message", "status", "timestamp"]

def decode : Wire.Decoder LogEntry := fun depth source => do
  let fields ← Wire.fields? fieldNames depth source
  let nodeId ← fields.required "nodeId" Wire.text
  let nodeType ← fields.required "nodeType" Wire.text
  let message ← fields.required "message" Wire.text
  let status ← fields.required "status" LogStatus.decode
  let timestamp ← fields.required "timestamp" Wire.instant
  return ⟨⟨nodeId, nodeType, message, status⟩, timestamp⟩

def toJson (entry : LogEntry) : Json :=
  .object [("nodeId", .string entry.line.nodeId),
    ("nodeType", .string entry.line.nodeType),
    ("message", .string entry.line.message),
    ("status", entry.line.status.toJson),
    ("timestamp", .string entry.timestamp.render)]

end LogEntry

namespace HistoryStep

def fieldNames : List String :=
  ["nodeId", "nodeType", "status", "input", "output", "error", "startedAt",
    "finishedAt"]

def decode : Wire.Decoder HistoryStep := fun depth source => do
  let fields ← Wire.fields? fieldNames depth source
  let nodeId ← fields.required "nodeId" Wire.text
  let nodeType ← fields.required "nodeType" Wire.text
  let status ← fields.required "status" StepStatus.decode
  let input ← fields.optional "input" Wire.json
  let output ← fields.optional "output" Wire.text
  let error ← fields.optional "error" Wire.text
  let startedAt ← fields.required "startedAt" Wire.instant
  let finishedAt ← fields.optional "finishedAt" Wire.instant
  return ⟨nodeId, nodeType, status, input, output, error, startedAt,
    finishedAt⟩

def toJson (step : HistoryStep) : Json :=
  .object ([("nodeId", .string step.nodeId),
    ("nodeType", .string step.nodeType), ("status", step.status.toJson)] ++
    Wire.present "input" id step.input ++
    Wire.present "output" .string step.output ++
    Wire.present "error" .string step.error ++
    [("startedAt", .string step.startedAt.render)] ++
    Wire.present "finishedAt" (fun instant => .string instant.render)
      step.finishedAt)

end HistoryStep

namespace HistoryRecord

def fieldNames : List String :=
  ["id", "workflowRef", "workflowName", "status", "steps", "startedAt",
    "finishedAt"]

def decode : Wire.Decoder HistoryRecord := fun depth source => do
  let fields ← Wire.fields? fieldNames depth source
  let id ← fields.required "id" Wire.text
  let workflowRef ← fields.required "workflowRef" Wire.text
  let workflowName ← fields.required "workflowName" Wire.text
  let status ← fields.required "status" RunStatus.decode
  let steps ← fields.required "steps" (Wire.list HistoryStep.decode)
  let startedAt ← fields.required "startedAt" Wire.instant
  let finishedAt ← fields.optional "finishedAt" Wire.instant
  return ⟨id, workflowRef, workflowName, status, steps, startedAt,
    finishedAt⟩

def toJson (record : HistoryRecord) : Json :=
  .object ([("id", .string record.id),
    ("workflowRef", .string record.workflowRef),
    ("workflowName", .string record.workflowName),
    ("status", record.status.toJson),
    ("steps", .array (record.steps.map HistoryStep.toJson)),
    ("startedAt", .string record.startedAt.render)] ++
    Wire.present "finishedAt" (fun instant => .string instant.render)
      record.finishedAt)

end HistoryRecord

namespace DialogResult

def fieldNames : List String := ["button", "selected", "input"]

def decode : Wire.Decoder DialogResult := fun depth source => do
  let fields ← Wire.fields? fieldNames depth source
  let button ← fields.defaulted "button" "" Wire.text
  let selected ← fields.defaulted "selected" [] (Wire.list Wire.text)
  let input ← fields.defaulted "input" "" Wire.text
  return ⟨button, selected, input⟩

def toJson (result : DialogResult) : Json :=
  .object [("button", .string result.button),
    ("selected", Wire.texts result.selected),
    ("input", .string result.input)]

end DialogResult

namespace DriveFileSelection

def fieldNames : List String := ["id", "path"]

def decode : Wire.Decoder DriveFileSelection := fun depth source => do
  let fields ← Wire.fields? fieldNames depth source
  let id ← fields.required "id" Wire.text
  let path ← fields.defaulted "path" "" Wire.text
  return ⟨id, path⟩

def toJson (selection : DriveFileSelection) : Json :=
  .object [("id", .string selection.id), ("path", .string selection.path)]

end DriveFileSelection

namespace FileInfo

def fieldNames : List String :=
  ["id", "name", "path", "mimeType", "modifiedAt", "size"]

def decode : Wire.Decoder FileInfo := fun depth source => do
  let fields ← Wire.fields? fieldNames depth source
  let id ← fields.required "id" Wire.text
  let name ← fields.required "name" Wire.text
  let path ← fields.required "path" Wire.text
  let mimeType ← fields.optional "mimeType" Wire.text
  let modifiedAt ← fields.optional "modifiedAt" Wire.instant
  let size ← fields.optional "size" Wire.natural
  return ⟨id, name, path, mimeType, modifiedAt, size⟩

def members (info : FileInfo) : List (String × Json) :=
  [("id", .string info.id), ("name", .string info.name),
    ("path", .string info.path)] ++
    Wire.present "mimeType" .string info.mimeType ++
    Wire.present "modifiedAt" (fun instant => .string instant.render)
      info.modifiedAt ++
    Wire.present "size" (fun size => Json.ofInt size) info.size

def toJson (info : FileInfo) : Json :=
  .object info.members

end FileInfo

namespace Attachment

def fieldNames : List String := ["name", "mimeType", "data"]

def decode : Wire.Decoder Attachment := fun depth source => do
  let fields ← Wire.fields? fieldNames depth source
  let name ← fields.required "name" Wire.text
  let mimeType ← fields.required "mimeType" Wire.text
  let data ← fields.required "data" Wire.text
  return ⟨name, mimeType, data⟩

def toJson (attachment : Attachment) : Json :=
  .object [("name", .string attachment.name),
    ("mimeType", .string attachment.mimeType),
    ("data", .string attachment.data)]

end Attachment

end Runbook
