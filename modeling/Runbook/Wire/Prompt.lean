import Runbook.Wire.Record

/-!
# Prompts in JSON

A prompt is written as an object with its kind under `kind` before its other
fields.  Since the kind may stand anywhere, a prompt is decoded only if its
whole text is a JSON value.
-/

namespace Runbook

namespace ValuePrompt

def fieldNames : List String := ["title", "defaultValue", "multiline"]

def ofFields? (fields : Wire.Fields) : Option ValuePrompt := do
  let title ← fields.required "title" Wire.text
  let defaultValue ← fields.optional "defaultValue" Wire.text
  let multiline ← fields.defaulted "multiline" false Wire.bool
  return ⟨title, defaultValue, multiline⟩

def members (prompt : ValuePrompt) : List (String × Json) :=
  [("title", .string prompt.title),
    ("defaultValue", Wire.orNull prompt.defaultValue),
    ("multiline", .bool prompt.multiline)]

end ValuePrompt

namespace DialogPrompt

def fieldNames : List String :=
  ["title", "message", "options", "multiSelect", "button1", "button2",
    "inputTitle", "multiline", "defaultInput", "defaultSelected", "markdown"]

def ofFields? (fields : Wire.Fields) : Option DialogPrompt := do
  let title ← fields.required "title" Wire.text
  let message ← fields.required "message" Wire.text
  let options ← fields.defaulted "options" [] (Wire.list Wire.text)
  let multiSelect ← fields.defaulted "multiSelect" false Wire.bool
  let button1 ← fields.required "button1" Wire.text
  let button2 ← fields.optional "button2" Wire.text
  let inputTitle ← fields.optional "inputTitle" Wire.text
  let multiline ← fields.defaulted "multiline" false Wire.bool
  let defaultInput ← fields.optional "defaultInput" Wire.text
  let defaultSelected ←
    fields.defaulted "defaultSelected" [] (Wire.list Wire.text)
  let markdown ← fields.defaulted "markdown" false Wire.bool
  return ⟨title, message, options, multiSelect, button1, button2, inputTitle,
    multiline, defaultInput, defaultSelected, markdown⟩

def members (prompt : DialogPrompt) : List (String × Json) :=
  [("title", .string prompt.title), ("message", .string prompt.message),
    ("options", Wire.texts prompt.options),
    ("multiSelect", .bool prompt.multiSelect),
    ("button1", .string prompt.button1),
    ("button2", Wire.orNull prompt.button2),
    ("inputTitle", Wire.orNull prompt.inputTitle),
    ("multiline", .bool prompt.multiline),
    ("defaultInput", Wire.orNull prompt.defaultInput),
    ("defaultSelected", Wire.texts prompt.defaultSelected),
    ("markdown", .bool prompt.markdown)]

end DialogPrompt

namespace DriveFilePrompt

def fieldNames : List String := ["title", "extensions"]

def ofFields? (fields : Wire.Fields) : Option DriveFilePrompt := do
  let title ← fields.required "title" Wire.text
  let extensions ← fields.defaulted "extensions" [] (Wire.list Wire.text)
  return ⟨title, extensions⟩

def members (prompt : DriveFilePrompt) : List (String × Json) :=
  [("title", .string prompt.title),
    ("extensions", Wire.texts prompt.extensions)]

end DriveFilePrompt

namespace DiffPrompt

def fieldNames : List String := ["path", "original", "proposed"]

def ofFields? (fields : Wire.Fields) : Option DiffPrompt := do
  let path ← fields.required "path" Wire.text
  let current ← fields.required "original" Wire.text
  let proposed ← fields.required "proposed" Wire.text
  return ⟨path, current, proposed⟩

def members (prompt : DiffPrompt) : List (String × Json) :=
  [("path", .string prompt.path), ("original", .string prompt.current),
    ("proposed", .string prompt.proposed)]

end DiffPrompt

namespace PasswordPrompt

def fieldNames : List String := ["title", "path", "fileId"]

def ofFields? (fields : Wire.Fields) : Option PasswordPrompt := do
  let title ← fields.required "title" Wire.text
  let path ← fields.required "path" Wire.text
  let fileId ← fields.required "fileId" Wire.text
  return ⟨title, path, fileId⟩

def members (prompt : PasswordPrompt) : List (String × Json) :=
  [("title", .string prompt.title), ("path", .string prompt.path),
    ("fileId", .string prompt.fileId)]

end PasswordPrompt

namespace PromptKind

/-- The names of the fields of a prompt of some kind. -/
def fieldNames : PromptKind → List String
  | .value => ValuePrompt.fieldNames
  | .dialog => DialogPrompt.fieldNames
  | .driveFile => DriveFilePrompt.fieldNames
  | .diff => DiffPrompt.fieldNames
  | .password => PasswordPrompt.fieldNames

def ofText? (name : String) : Option PromptKind :=
  all.find? fun kind => kind.text == name

end PromptKind

namespace Prompt

open Json (Source)

def ofFields? (kind : PromptKind) (fields : Wire.Fields) : Option Prompt :=
  match kind with
  | .value => (ValuePrompt.ofFields? fields).map .value
  | .dialog => (DialogPrompt.ofFields? fields).map .dialog
  | .driveFile => (DriveFilePrompt.ofFields? fields).map .driveFile
  | .diff => (DiffPrompt.ofFields? fields).map .diff
  | .password => (PasswordPrompt.ofFields? fields).map .password

/-- Take the kind out of an object or an array. -/
def kindAndRest? : Source → Option (Source × Source)
  | .object members => do
    let named ← members.mapM fun (content, source) =>
      (Json.Piece.text? content).map fun name => (name, content, source)
    match named.partition fun (name, _, _) => name == "kind" with
    | ([(_, _, kind)], rest) => return (kind, .object (rest.map Prod.snd))
    | _ => none
  | .array (kind :: rest) => some (kind, .array rest)
  | _ => none

def decode : Wire.Decoder Prompt := fun depth source => do
  let _ ← Json.ofSource? depth source
  let (kindSource, rest) ← kindAndRest? source
  let name ← Wire.text depth kindSource
  let kind ← PromptKind.ofText? name
  let fields ← Wire.fields? kind.fieldNames depth rest
  ofFields? kind fields

def members : Prompt → List (String × Json)
  | .value prompt => prompt.members
  | .dialog prompt => prompt.members
  | .driveFile prompt => prompt.members
  | .diff prompt => prompt.members
  | .password prompt => prompt.members

def toJson (prompt : Prompt) : Json :=
  .object (("kind", prompt.kind.toJson) :: prompt.members)

end Prompt

namespace PromptRequest

def fieldNames : List String := ["id", "executionId", "nodeId", "payload"]

def decode : Wire.Decoder PromptRequest := fun depth source => do
  let fields ← Wire.fields? fieldNames depth source
  let id ← fields.required "id" Wire.text
  let executionId ← fields.required "executionId" Wire.text
  let nodeId ← fields.required "nodeId" Wire.text
  let prompt ← fields.required "payload" Prompt.decode
  return ⟨id, executionId, nodeId, prompt⟩

def toJson (request : PromptRequest) : Json :=
  .object [("id", .string request.id),
    ("executionId", .string request.executionId),
    ("nodeId", .string request.nodeId), ("payload", request.prompt.toJson)]

end PromptRequest

end Runbook
