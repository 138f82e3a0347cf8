import Runbook.OrderedMap
import Runbook.Workflow.NodeType

/-!
# Workflows

A workflow is a list of nodes in the order of declaration, each with its jumps
resolved to positions in the list.  Its edges are derived from the jumps.
-/

namespace Runbook

/-- Where a jump leads. -/
inductive Target
  | node (index : Nat)
  /-- The end that documents can name. -/
  | finish
  | pastEnd
deriving DecidableEq, Inhabited

def Target.index? : Target → Option Nat
  | .node index => some index
  | .finish | .pastEnd => none

/-- The jumps of a node. -/
structure Jumps where
  next : Target
  trueNext : Option Target
  falseNext : Option Target
deriving DecidableEq, Inhabited

/-- The jump of a branching node for an outcome of its condition. -/
def Jumps.branch (jumps : Jumps) (outcome : Bool) : Target :=
  (if outcome then jumps.trueNext else jumps.falseNext).getD jumps.next

/-- A node of a workflow. -/
structure Node where
  id : String
  nodeType : NodeType
  /-- The properties before their templates are resolved. -/
  properties : OrderedMap String
  jumps : Jumps
deriving Inhabited

/-- A workflow. -/
structure Workflow where
  name : String
  description : Option String
  nodes : List Node
  /-- The position of the first node that runs. -/
  start : Nat
deriving Inhabited

namespace Workflow

/-- What an edge stands for. -/
inductive EdgeKind
  | next
  | whenTrue
  | whenFalse
deriving DecidableEq

def EdgeKind.text : EdgeKind → String
  | .next => "next"
  | .whenTrue => "true"
  | .whenFalse => "false"

/-- An edge between two nodes. -/
structure Edge where
  source : String
  target : String
  kind : EdgeKind
deriving DecidableEq

def indexOf? (workflow : Workflow) (id : String) : Option Nat :=
  workflow.nodes.findIdx? fun node => node.id == id

def nodeById? (workflow : Workflow) (id : String) : Option Node :=
  (workflow.indexOf? id).bind fun index => workflow.nodes[index]?

def order (workflow : Workflow) : List String :=
  workflow.nodes.map (·.id)

/-- The jumps that a node can take, with what they stand for. -/
def outgoing (node : Node) : List (Target × EdgeKind) :=
  if node.nodeType.isBranching then
    [(node.jumps.branch true, .whenTrue),
      (node.jumps.branch false, .whenFalse)]
  else [(node.jumps.next, .next)]

/-- The edge of a jump; a jump to an end has none. -/
def edge? (workflow : Workflow) (node : Node) (jump : Target × EdgeKind) :
    Option Edge := do
  let index ← jump.1.index?
  let destination ← workflow.nodes[index]?
  return ⟨node.id, destination.id, jump.2⟩

/-- The edges of a workflow, in the order of declaration. -/
def edges (workflow : Workflow) : List Edge :=
  workflow.nodes.flatMap fun node =>
    (outgoing node).filterMap (workflow.edge? node)

end Workflow

end Runbook
