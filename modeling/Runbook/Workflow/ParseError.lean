import Runbook.Workflow.NodeType

/-!
# Errors in workflow documents

What can be wrong with a workflow document, and how it is said.
-/

namespace Runbook

/-- The fields of a node that name a successor. -/
inductive JumpField
  | next
  | trueNext
  | falseNext
deriving DecidableEq

def JumpField.name : JumpField → String
  | .next => "next"
  | .trueNext => "trueNext"
  | .falseNext => "falseNext"

/-- A fault of a workflow document. -/
inductive ParseError
  /-- The text is not a document. -/
  | malformed
  /-- No workflow has the requested name. -/
  | unknownWorkflow (name : String)
  /-- No workflow was requested and there are several. -/
  | ambiguousWorkflow (names : List String)
  | empty
  /-- A node has a tag that names no type. -/
  | unknownNodeType (node tag : String)
  | duplicateNodeId (node : String)
  /-- A node names a successor that is not declared. -/
  | undeclaredTarget (node : String) (field : JumpField) (target : String)
  /-- A branching node lacks a successor. -/
  | missingBranch (node : String) (nodeType : NodeType) (field : JumpField)
  /-- A node has a successor that its type does not have. -/
  | unexpectedBranch (node : String) (nodeType : NodeType) (field : JumpField)
  /-- A node jumps back to a node that is no loop. -/
  | illegalBackReference (node target : String) (targetType : NodeType)
  /-- The start node is not declared. -/
  | unknownStartNode (node : String)
deriving DecidableEq

namespace ParseError

def message : ParseError → String
  | .malformed => "invalid workflow document"
  | .unknownWorkflow name => s!"workflow '{name}' not found in document"
  | .ambiguousWorkflow names =>
    "document contains several workflows; select one of: " ++
      ", ".intercalate names
  | .empty => "workflow has no nodes"
  | .unknownNodeType node tag => s!"node '{node}' has unknown type '{tag}'"
  | .duplicateNodeId node => s!"duplicate node id '{node}'"
  | .undeclaredTarget node field target =>
    s!"node '{node}' references undeclared node '{target}' in '{field.name}'"
  | .missingBranch node nodeType field =>
    s!"node '{node}' of type '{nodeType.tag}' requires '{field.name}'"
  | .unexpectedBranch node nodeType field =>
    s!"node '{node}' of type '{nodeType.tag}' cannot declare '{field.name}'"
  | .illegalBackReference node target targetType =>
    s!"node '{node}' jumps back to '{target}', which is a " ++
      s!"'{targetType.tag}' node; only 'while' nodes may be jumped back to"
  | .unknownStartNode node => s!"start node '{node}' is not declared"

end ParseError

end Runbook
