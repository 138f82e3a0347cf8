import Mathlib.Data.List.Range
import Runbook.Proofs.Run.JumpTable

/-!
# Moves forward

The jumps of a compiled workflow lead forward, unless they lead to a loop.
Hence a frame executes at most as many nodes as its workflow has between two
visits of loops, and it executes every node at most once if there is no loop.
-/

namespace Runbook

namespace Document

variable {document : Document} {name : String} {workflow : Workflow}
  {position index : Nat}

theorem WellFormed.field_forward (wellFormed : document.WellFormed)
    {definition : NodeDefinition} {field : JumpField}
    (defined : document.nodes[position]? = some definition)
    (leads : document.FieldLeads position definition field (.node index)) :
    position < index ∨ document.HasType index .loop := by
  unfold FieldLeads at leads
  cases given : definition.given? field with
  | none =>
      rw [given] at leads
      have same : Target.node index = document.following position := leads
      unfold following at same
      split at same
      · cases same
        exact .inl (Nat.lt_succ_self position)
      · cases same
  | some text =>
      rw [given] at leads
      have named : document.HasId index (Text.trim text) := leads
      obtain ⟨other, namedToo, forward⟩ | ⟨isEnd, undeclared⟩ :=
        wellFormed.allowed position definition field text defined given
      · obtain rfl := wellFormed.distinct index other _ named namedToo
        exact forward
      · exact (undeclared ⟨index, isEnd ▸ named⟩).elim

theorem HasWorkflow.hasType (compiled : document.HasWorkflow name workflow)
    {node : Node} {nodeType : NodeType}
    (found : workflow.nodes[position]? = some node)
    (typed : document.HasType position nodeType) :
    node.nodeType = nodeType := by
  obtain ⟨definition, defined, tag⟩ := typed
  have hasNode := compiled.node position definition node defined found
  exact NodeType.tag_injective (hasNode.tag_eq.symm.trans tag)

/-- A jump to a node leads forward, or to a loop. -/
theorem HasWorkflow.forward (compiled : document.HasWorkflow name workflow)
    (wellFormed : document.WellFormed) {node other : Node}
    {kind : Workflow.EdgeKind}
    (found : workflow.nodes[position]? = some node)
    (outgoes : (.node index, kind) ∈ Workflow.outgoing node)
    (foundOther : workflow.nodes[index]? = some other) :
    position < index ∨ other.nodeType = .loop := by
  have inside := (List.getElem?_eq_some_iff.1 found).1
  rw [compiled.length_eq] at inside
  have defined := List.getElem?_eq_getElem inside
  have hasJumps := (compiled.node position _ node defined found).jumps
  suffices forward : position < index ∨ document.HasType index .loop from
    forward.imp_right (compiled.hasType foundOther)
  unfold Workflow.outgoing at outgoes
  cases branching : node.nodeType.isBranching with
  | true =>
      obtain ⟨-, whenTrue, whenFalse, isTrue, isFalse, trueLeads,
        falseLeads⟩ := hasJumps.branching branching
      simp only [branching, if_true, Jumps.branch, isTrue, isFalse,
        Bool.false_eq_true, if_false, Option.getD_some, List.mem_cons,
        Prod.mk.injEq, List.not_mem_nil, or_false] at outgoes
      rcases outgoes with ⟨rfl, -⟩ | ⟨rfl, -⟩
      · exact wellFormed.field_forward defined trueLeads
      · exact wellFormed.field_forward defined falseLeads
  | false =>
      obtain ⟨-, -, leads⟩ := hasJumps.plain branching
      simp only [branching, Bool.false_eq_true, if_false, List.mem_cons,
        Prod.mk.injEq, List.not_mem_nil, or_false] at outgoes
      rw [← outgoes.1] at leads
      exact wellFormed.field_forward defined leads

end Document

/-- A workflow with jumps that lead forward, or to loops. -/
def Workflow.LeadsForward (workflow : Workflow) : Prop :=
  ∀ (position index : Nat) (node other : Node) (kind : EdgeKind),
    workflow.nodes[position]? = some node →
      (.node index, kind) ∈ outgoing node →
        workflow.nodes[index]? = some other →
          position < index ∨ other.nodeType = .loop

theorem Document.leadsForward_of_compile {document : Document}
    {name : String} {workflow : Workflow}
    (compiled : document.compile name = .ok workflow) :
    workflow.LeadsForward := by
  have spec := document.compile_spec name
  rw [compiled] at spec
  obtain ⟨hasWorkflow, faultless⟩ := spec
  intro position index node other kind
  exact hasWorkflow.forward (wellFormed_iff.2 faultless)

theorem Workflow.exists_compile_of_read {source : String}
    {name : Option String} {workflow : Workflow}
    (read : Workflow.read source name = .ok workflow) :
    ∃ (document : Document) (name : String),
      document.compile name = .ok workflow := by
  unfold Workflow.read at read
  cases bundled : Bundle.read source with
  | error error => simp [bundled, bind, Except.bind] at read
  | ok bundle =>
      cases selected : bundle.select name with
      | error error => simp [bundled, selected, bind, Except.bind] at read
      | ok entry =>
          simp only [bundled, selected, bind, Except.bind] at read
          exact ⟨entry.2, entry.1, read⟩

/-- There is no loop among the nodes. -/
def Workflow.IsLoopFree (workflow : Workflow) : Prop :=
  ∀ node ∈ workflow.nodes, node.nodeType ≠ .loop

namespace Visit

/-- A visit comes further on in the workflow than another one, or visits a
loop. -/
def Advances (first second : Visit) : Prop :=
  first.position < second.position ∨ second.node.nodeType = .loop

def Precedes (first second : Visit) : Prop :=
  first.position < second.position

theorem pairwise_of_isChain {visits : List Visit}
    (chain : visits.IsChain Advances)
    (loopFree : ∀ visit ∈ visits, visit.node.nodeType ≠ .loop) :
    visits.Pairwise Precedes := by
  have transitive : Trans Precedes Precedes Precedes :=
    ⟨fun first second => Nat.lt_trans first second⟩
  rw [← List.isChain_iff_pairwise]
  refine chain.imp_of_mem_imp ?_
  intro first second _ member advances
  exact advances.resolve_right (loopFree second member)

theorem nodup_of_pairwise {visits : List Visit}
    (sorted : visits.Pairwise Precedes) : (visits.map position).Nodup := by
  rw [List.Nodup, List.pairwise_map]
  exact sorted.imp fun before => Nat.ne_of_lt before

theorem length_le_of_pairwise {visits : List Visit} {count : Nat}
    (sorted : visits.Pairwise Precedes)
    (bounded : ∀ visit ∈ visits, visit.position < count) :
    visits.length ≤ count := by
  have subset : visits.map position ⊆ List.range count := by
    intro place member
    obtain ⟨visit, visited, rfl⟩ := List.mem_map.1 member
    exact List.mem_range.2 (bounded visit visited)
  have shorter := (nodup_of_pairwise sorted).length_le_of_subset subset
  rwa [List.length_map, List.length_range] at shorter

end Visit

namespace Engine

variable {engine : Engine} {fuel : Nat} {scope : Scope} {workflow : Workflow}
  {target : Target} {before after : Run} {transcript : Run.Transcript}
  {frame reached : Frame} {visits : List Visit}
  {ended : Except Interrupt Unit}

/-- A frame moves forward, or to a loop. -/
theorem Walk.isChain_advances (standard : engine.registry = Registry.standard)
    (leadsForward : workflow.LeadsForward)
    (walk : Walk engine scope workflow fuel target frame before transcript
      visits ended reached after) : visits.IsChain Visit.Advances := by
  have nodes := walk.forall_nodes
  have selected := walk.forall_selected standard
  refine walk.isChain_continues.imp_of_mem_imp ?_
  rintro first second member memberToo ⟨leads, -⟩
  have bySelected := (selected first member ⟨_, leads⟩).1
  rw [leads, Except.ok.injEq] at bySelected
  have outgoes := first.selected_mem_outgoing
  rw [← bySelected] at outgoes
  exact leadsForward _ _ _ _ _ (nodes first member) outgoes
    (nodes second memberToo)

/-- Visits in a row without a loop among them are as many as there are nodes
at most. -/
theorem Walk.length_le_of_part
    (standard : engine.registry = Registry.standard)
    (leadsForward : workflow.LeadsForward)
    (walk : Walk engine scope workflow fuel target frame before transcript
      visits ended reached after) {part : List Visit}
    (isPart : part <:+: visits)
    (noLoop : ∀ visit ∈ part, visit.node.nodeType ≠ .loop) :
    part.length ≤ workflow.nodes.length := by
  have chain := List.IsChain.infix
    (walk.isChain_advances standard leadsForward) isPart
  refine Visit.length_le_of_pairwise (Visit.pairwise_of_isChain chain noLoop) ?_
  intro visit member
  have found := walk.forall_nodes visit (isPart.subset member)
  exact (List.getElem?_eq_some_iff.1 found).1

/-- Without loops every visit comes further on than the ones before. -/
theorem Walk.pairwise_precedes
    (standard : engine.registry = Registry.standard)
    (leadsForward : workflow.LeadsForward) (loopFree : workflow.IsLoopFree)
    (walk : Walk engine scope workflow fuel target frame before transcript
      visits ended reached after) : visits.Pairwise Visit.Precedes := by
  refine Visit.pairwise_of_isChain
    (walk.isChain_advances standard leadsForward) ?_
  intro visit member
  exact loopFree _ (List.mem_of_getElem? (walk.forall_nodes visit member))

end Engine

end Runbook
