import Runbook.Step.Call
import Runbook.Step.Control
import Runbook.Step.Data
import Runbook.Step.Interactive

/-!
# Handlers by node type

A registry says what the nodes of a type do.  The standard one knows every
type.
-/

namespace Runbook

namespace Handler

def standard : NodeType → Handler
  | .assign => assign
  | .compute => compute
  | .branch => branch
  | .loop => branch
  | .sleep => sleep
  | .command => command
  | .http => http
  | .json => json
  | .driveFile => driveFile
  | .driveRead => driveRead
  | .driveSearch => driveSearch
  | .driveList => driveList
  | .driveFolderList => driveFolderList
  | .driveSave => driveSave
  | .preview => preview
  | .dialog => dialog
  | .promptValue => promptValue
  | .promptFile => promptFile
  | .promptSelection => promptSelection
  | .workflow => workflow
  | .mcp => mcp
  | .ragSync => ragSync

end Handler

/-- What the nodes of each type do. -/
structure Registry where
  handler? : NodeType → Option Handler

namespace Registry

def empty : Registry := ⟨fun _ => none⟩

def standard : Registry := ⟨fun nodeType => some (Handler.standard nodeType)⟩

def register (registry : Registry) (nodeType : NodeType) (handler : Handler) :
    Registry :=
  ⟨fun other =>
    if other = nodeType then some handler else registry.handler? other⟩

/-- The registry with the default behaviour for some types only. -/
def standardFor (nodeTypes : List NodeType) : Registry :=
  nodeTypes.foldl (fun registry nodeType =>
    registry.register nodeType (Handler.standard nodeType)) empty

/-- The types that a registry knows, in the order of the catalogue. -/
def supported (registry : Registry) : List NodeType :=
  NodeType.all.filter fun nodeType => (registry.handler? nodeType).isSome

/-- The tags of the types that a registry knows, in alphabetical order. -/
def describe (registry : Registry) : String :=
  let tags := (registry.supported.map NodeType.tag).mergeSort
  let quoted := tags.map fun tag => "\"" ++ tag ++ "\""
  "HandlerRegistry \x7b types: [" ++ ", ".intercalate quoted ++ "] \x7d"

end Registry

end Runbook
