import Runbook.Workflow.Basic
import Runbook.Workflow.Document

/-!
# Compiling workflow documents

A document becomes a workflow in four passes: it has to have nodes, the types
and ids of the nodes are read, the jumps are resolved, and the start node is
looked up.  The first fault found in this order is the one reported.
-/

namespace Runbook

namespace Compile

def endTarget : String := "end"

/-- The id of a node: the one given, trimmed, or one made from its position. -/
def nodeId (definition : NodeDefinition) (position : Nat) : String :=
  (definition.id.bind Text.nonBlank?).getD s!"node-{position + 1}"

/-- A node whose type and id have been read. -/
structure Declared where
  id : String
  nodeType : NodeType
  definition : NodeDefinition

/-- Read the type and the id of each node; `before` are the nodes before. -/
def declareFrom (before : List Declared) :
    List NodeDefinition → Except ParseError (List Declared)
  | [] => .ok before
  | definition :: rest =>
    let id := nodeId definition before.length
    match NodeType.ofTag? definition.tag with
    | none => .error (.unknownNodeType id (Text.trim definition.tag))
    | some nodeType =>
      if before.any fun declared => declared.id == id then
        .error (.duplicateNodeId id)
      else declareFrom (before ++ [⟨id, nodeType, definition⟩]) rest

def declare (definitions : List NodeDefinition) :
    Except ParseError (List Declared) :=
  declareFrom [] definitions

def position? (declared : List Declared) (id : String) : Option Nat :=
  declared.findIdx? fun node => node.id == id

/-- The target that a field names.  A declared id comes before the reserved
one, and only a loop may be jumped back to. -/
def resolve (declared : List Declared) (node : Declared) (position : Nat)
    (field : JumpField) (text : String) : Except ParseError Target :=
  let target := Text.trim text
  match position? declared target with
  | none =>
    if target = endTarget then .ok .finish
    else .error (.undeclaredTarget node.id field target)
  | some index =>
    match declared[index]? with
    | none => .error (.undeclaredTarget node.id field target)
    | some destination =>
      if index ≤ position ∧ destination.nodeType ≠ .loop then
        .error (.illegalBackReference node.id target destination.nodeType)
      else .ok (.node index)

/-- The node after a position, or what lies beyond the last one. -/
def sequential (declared : List Declared) (position : Nat) : Target :=
  if position + 1 < declared.length then .node (position + 1) else .pastEnd

def resolveOr (fallback : Target) (declared : List Declared) (node : Declared)
    (position : Nat) (field : JumpField) :
    Option String → Except ParseError Target
  | some text => resolve declared node position field text
  | none => .ok fallback

def branchingJumps (declared : List Declared) (node : Declared)
    (position : Nat) : Except ParseError Jumps := do
  let definition := node.definition
  let following := sequential declared position
  if definition.next.isSome then
    throw (.unexpectedBranch node.id node.nodeType .next)
  match definition.trueNext with
  | none => throw (.missingBranch node.id node.nodeType .trueNext)
  | some text =>
    let trueNext ← resolve declared node position .trueNext text
    let falseNext ← resolveOr following declared node position .falseNext
      definition.falseNext
    return ⟨following, some trueNext, some falseNext⟩

def plainJumps (declared : List Declared) (node : Declared)
    (position : Nat) : Except ParseError Jumps := do
  let definition := node.definition
  if definition.trueNext.isSome then
    throw (.unexpectedBranch node.id node.nodeType .trueNext)
  if definition.falseNext.isSome then
    throw (.unexpectedBranch node.id node.nodeType .falseNext)
  let next ← resolveOr (sequential declared position) declared node position
    .next definition.next
  return ⟨next, none, none⟩

def jumps (declared : List Declared) (node : Declared) (position : Nat) :
    Except ParseError Jumps :=
  if node.nodeType.isBranching then branchingJumps declared node position
  else plainJumps declared node position

/-- The properties of a node as texts; those that are null are left out. -/
def propertyTexts (properties : OrderedMap Yaml) : OrderedMap String :=
  OrderedMap.ofList (properties.entries.filterMap fun entry =>
    entry.2.propertyText.map fun text => (entry.1, text))

def nodesFrom (declared : List Declared) :
    Nat → List Declared → Except ParseError (List Node)
  | _, [] => .ok []
  | position, node :: rest => do
    let resolved ← jumps declared node position
    let others ← nodesFrom declared (position + 1) rest
    return ⟨node.id, node.nodeType, propertyTexts node.definition.properties,
      resolved⟩ :: others

/-- The position of the start node; the first node if none is named. -/
def start (declared : List Declared) (startNode : Option String) :
    Except ParseError Nat :=
  match startNode.bind Text.nonBlank? with
  | none => .ok 0
  | some id =>
    match position? declared id with
    | some position => .ok position
    | none => .error (.unknownStartNode id)

end Compile

def Document.compile (document : Document) (name : String) :
    Except ParseError Workflow := do
  if document.nodes.isEmpty then throw .empty
  let declared ← Compile.declare document.nodes
  let nodes ← Compile.nodesFrom declared 0 declared
  let start ← Compile.start declared document.startNode
  return ⟨name, document.description, nodes, start⟩

/-- The workflow of a text, chosen by name if there are several. -/
def Workflow.read (text : String) (name : Option String) :
    Except ParseError Workflow := do
  let bundle ← Bundle.read text
  let (name, document) ← bundle.select name
  document.compile name

end Runbook
