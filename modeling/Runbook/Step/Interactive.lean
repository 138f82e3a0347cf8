import Runbook.Step.Drive

/-!
# Questions to a person

The nodes that show a dialog or ask for a text, a file or a selection.
-/

namespace Runbook

/-- What a dialog is filled with at first. -/
structure DialogDefaults where
  input : Option String
  selected : List String
deriving DecidableEq, Inhabited

namespace DialogDefaults

def fieldNames : List String := ["input", "selected"]

def decode : Wire.Decoder DialogDefaults := fun depth source => do
  let fields ← Wire.fields? fieldNames depth source
  let input ← fields.optional "input" Wire.text
  let selected ← fields.defaulted "selected" [] (Wire.list Wire.text)
  return ⟨input, selected⟩

end DialogDefaults

namespace Step

def dialogDefaults : Step DialogDefaults := do
  match ← json? "defaults" with
  | none => return ⟨none, []⟩
  | some value =>
    match Wire.read? DialogDefaults.decode value.render with
    | some defaults => return defaults
    | none => fail "property 'defaults' has an unexpected shape"

def askDialog : Step Directive := do
  let defaults ← dialogDefaults
  let title ← propertyOrEmpty "title"
  let message ← propertyOrEmpty "message"
  let options ← items "options"
  let multiSelect ← flag "multiSelect"
  let button1 := (← property? "button1").getD "OK"
  let button2 ← property? "button2"
  let inputTitle ← property? "inputTitle"
  let multiline ← flag "multiline"
  let markdown ← flag "markdown"
  return .suspend (.dialog ⟨title, message, options, multiSelect, button1,
    button2, inputTitle, multiline, defaults.input, defaults.selected,
    markdown⟩)

/-- The result that an answer to a dialog stands for: the one that it
describes, or the button with this text.  There is none to a declined one. -/
def dialogResult : Option String → DialogResult
  | none => ⟨"", [], ""⟩
  | some text =>
    (Wire.read? DialogResult.decode text).getD ⟨text, [], ""⟩

def saveDialog (_ : PromptRequest) (answer : Option String) :
    Step Directive := do
  save "saveTo" (dialogResult answer).toJson.render
  return .proceed

def askValue : Step Directive := do
  let title := (← property? "title").getD "Enter a value"
  let defaultValue ← property? "default"
  let multiline ← flag "multiline"
  return .suspend (.value ⟨title, defaultValue, multiline⟩)

/-- Save a text; a declined prompt gives the empty one. -/
def saveValue (_ : PromptRequest) (answer : Option String) :
    Step Directive := do
  save "saveTo" (answer.getD "")
  return .proceed

def askFile : Step Directive := do
  let title := (← property? "title").getD "Select a file"
  let extensions ← items "extensions"
  return .suspend (.driveFile ⟨title, extensions⟩)

/-- The file that an answer to a file prompt names: by its path, by its id
alone, or, if it is no selection, by the answer itself as a path. -/
def selectedFile (answer : String) : Step FileInfo := do
  match Wire.read? DriveFileSelection.decode answer with
  | some selection =>
    if selection.path.isEmpty then
      return ⟨selection.id, selection.id, "", none, none, none⟩
    else existingFile selection.path
  | none => existingFile (Text.trim answer)

def promptedFile (prompt : PasswordPrompt) : FileInfo :=
  ⟨prompt.fileId, Text.afterLast '/' prompt.path, prompt.path, none, none,
    none⟩

/-- Save the content of a file, and what describes it. -/
def saveSelected (info : FileInfo) (content : String) : Step Directive := do
  setNamed "saveFileTo" (fileDescriptor info).render
  save "saveTo" content
  return .proceed

/-- Read the selected file, asking for a password if it is encrypted. -/
def readSelected (request : PromptRequest) (answer : Option String) :
    Step Directive := do
  match request.prompt with
  | .driveFile _ =>
    match answer with
    | none => fail declined
    | some text =>
      let info ← selectedFile text
      match ← readPlain? info with
      | some content => saveSelected info content
      | none => return .suspend (.password (passwordPrompt info))
  | .password prompt =>
    let content ← readProtected prompt answer
    saveSelected (promptedFile prompt) content
  | _ => fail "unexpected prompt kind for prompt-file"

def askSelection : Step Directive := do
  let title := (← property? "title").getD "Select text"
  return .suspend (.value ⟨title, none, true⟩)

def saveSelection (_ : PromptRequest) (answer : Option String) :
    Step Directive := do
  match answer with
  | none => fail declined
  | some text =>
    save "saveTo" text
    return .proceed

end Step

namespace Handler

def dialog : Handler := ⟨Step.askDialog, Step.saveDialog⟩

def promptValue : Handler := ⟨Step.askValue, Step.saveValue⟩

def promptFile : Handler := ⟨Step.askFile, Step.readSelected⟩

def promptSelection : Handler := ⟨Step.askSelection, Step.saveSelection⟩

end Handler

end Runbook
