/-!
# Prompts

What a suspended node asks a person, and the structured answers.
-/

namespace Runbook

/-- The kinds of prompts. -/
inductive PromptKind
  | value
  | dialog
  | driveFile
  | diff
  | password
deriving DecidableEq, Inhabited

namespace PromptKind

def all : List PromptKind := [.value, .dialog, .driveFile, .diff, .password]

def text : PromptKind → String
  | .value => "value"
  | .dialog => "dialog"
  | .driveFile => "drive-file"
  | .diff => "diff"
  | .password => "password"

end PromptKind

/-- A prompt for a text. -/
structure ValuePrompt where
  title : String
  defaultValue : Option String
  multiline : Bool
deriving DecidableEq, Inhabited

/-- A message with buttons, and perhaps options and an input. -/
structure DialogPrompt where
  title : String
  message : String
  options : List String
  multiSelect : Bool
  button1 : String
  button2 : Option String
  inputTitle : Option String
  multiline : Bool
  defaultInput : Option String
  defaultSelected : List String
  markdown : Bool
deriving DecidableEq, Inhabited

/-- A prompt for a file of the store. -/
structure DriveFilePrompt where
  title : String
  extensions : List String
deriving DecidableEq, Inhabited

/-- A prompt to confirm a change of a file. -/
structure DiffPrompt where
  path : String
  current : String
  proposed : String
deriving DecidableEq, Inhabited

/-- A prompt for the password of a file. -/
structure PasswordPrompt where
  title : String
  path : String
  fileId : String
deriving DecidableEq, Inhabited

/-- What is asked. -/
inductive Prompt
  | value (prompt : ValuePrompt)
  | dialog (prompt : DialogPrompt)
  | driveFile (prompt : DriveFilePrompt)
  | diff (prompt : DiffPrompt)
  | password (prompt : PasswordPrompt)
deriving DecidableEq, Inhabited

def Prompt.kind : Prompt → PromptKind
  | .value _ => .value
  | .dialog _ => .dialog
  | .driveFile _ => .driveFile
  | .diff _ => .diff
  | .password _ => .password

/-- A prompt of a node in a run, with an id to answer it by. -/
structure PromptRequest where
  id : String
  executionId : String
  nodeId : String
  prompt : Prompt
deriving DecidableEq, Inhabited

/-- The answer to a dialog. -/
structure DialogResult where
  button : String
  selected : List String
  input : String
deriving DecidableEq, Inhabited

/-- The answer of a file picker. -/
structure DriveFileSelection where
  id : String
  path : String
deriving DecidableEq, Inhabited

end Runbook
