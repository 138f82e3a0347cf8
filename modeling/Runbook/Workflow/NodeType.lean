import Runbook.Text.Blank
import Runbook.Text.Case

/-!
# Node types

The closed set of node types, in the order of the catalogue, and the tags that
name them in documents.
-/

namespace Runbook

/-- What a node does. -/
inductive NodeType
  | assign
  | compute
  | branch
  | loop
  | sleep
  | command
  | http
  | json
  | driveFile
  | driveRead
  | driveSearch
  | driveList
  | driveFolderList
  | driveSave
  | preview
  | dialog
  | promptValue
  | promptFile
  | promptSelection
  | workflow
  | mcp
  | ragSync
deriving DecidableEq, Inhabited

namespace NodeType

def all : List NodeType :=
  [.assign, .compute, .branch, .loop, .sleep, .command, .http, .json,
    .driveFile, .driveRead, .driveSearch, .driveList, .driveFolderList,
    .driveSave, .preview, .dialog, .promptValue, .promptFile,
    .promptSelection, .workflow, .mcp, .ragSync]

def tag : NodeType → String
  | .assign => "variable"
  | .compute => "set"
  | .branch => "if"
  | .loop => "while"
  | .sleep => "sleep"
  | .command => "command"
  | .http => "http"
  | .json => "json"
  | .driveFile => "drive-file"
  | .driveRead => "drive-read"
  | .driveSearch => "drive-search"
  | .driveList => "drive-list"
  | .driveFolderList => "drive-folder-list"
  | .driveSave => "drive-save"
  | .preview => "preview"
  | .dialog => "dialog"
  | .promptValue => "prompt-value"
  | .promptFile => "prompt-file"
  | .promptSelection => "prompt-selection"
  | .workflow => "workflow"
  | .mcp => "mcp"
  | .ragSync => "rag-sync"

def isBranching : NodeType → Bool
  | .branch | .loop => true
  | _ => false

def isInteractive : NodeType → Bool
  | .dialog | .promptValue | .promptFile | .promptSelection => true
  | _ => false

/-- The node type with a tag; blanks around the tag do not count. -/
def ofTag? (text : String) : Option NodeType :=
  all.find? fun nodeType => nodeType.tag == Text.trim text

/-- What is said about a tag that names no node type. -/
def unknownMessage (text : String) : String :=
  s!"unknown node type '{Text.trim text}'"

end NodeType

/-- Whether a property counts as set: `true`, `yes`, `1` or `on` in any case,
blanks around it aside. -/
def isTruthy (text : Option String) : Bool :=
  match text with
  | none => false
  | some text =>
    ["true", "yes", "1", "on"].contains (Text.toLowerAscii (Text.trim text))

end Runbook
