import Runbook.Wire.Decoder
import Runbook.Workflow.Basic

/-!
# Compiled workflows in JSON

How the jumps and edges of a compiled workflow are written as JSON.
-/

namespace Runbook

def Target.toJson : Target → Json
  | .node index =>
    .object [("kind", .string "node"), ("index", .ofInt index)]
  | .finish => .object [("kind", .string "end")]
  | .pastEnd => .object [("kind", .string "past-end")]

def Target.orNull : Option Target → Json
  | some target => target.toJson
  | none => .null

def Jumps.toJson (jumps : Jumps) : Json :=
  .object [("next", jumps.next.toJson),
    ("trueNext", Target.orNull jumps.trueNext),
    ("falseNext", Target.orNull jumps.falseNext)]

def Workflow.Edge.toJson (edge : Workflow.Edge) : Json :=
  .object [("from", .string edge.source), ("kind", .string edge.kind.text),
    ("to", .string edge.target)]

end Runbook
