import Runbook.Proofs.OrderedMap
import Runbook.Proofs.Run.Abort
import Runbook.Proofs.Run.Record
import Runbook.Proofs.Workflow.Compile

/-!
# Runs follow the jump table

With the standard handlers a node leads where its jumps say: a branching node
where its condition selects, and any other one to its successor, whatever it
asks and calls on the way.  Hence the steps of a record are a path along the
edges of the workflow, and a run is completed where the path ends.
-/

namespace Runbook

namespace Step

/-- A branching step asks nothing, and jumps where its condition selects. -/
theorem branch_of_yields {context : Context} {before after : State}
    {transcript : Transcript} {result : Except Stop Directive}
    (yields : Yields branch context before transcript result after) :
    let outcome := Condition.evaluate
      ((context.properties.get? "condition").getD "")
    result = .ok (.jump (context.node.jumps.branch outcome)) ∧
      after = { before with
        output := some (if outcome then "true" else "false") } := by
  obtain ⟨-, same⟩ := Program.yields_done_iff.1 yields
  exact Prod.mk.inj same

end Step

namespace Visit

/-- The outcome of the condition of a node, with the variables at the start of
the visit. -/
def verdict (visit : Visit) : Bool :=
  Condition.evaluate (((visit.node.properties.get? "condition").map
    (Template.resolve visit.bindings)).getD "")

/-- The jump that a visit selects, by its output if the node branches. -/
def selected (visit : Visit) : Target :=
  if visit.node.nodeType.isBranching then
    visit.node.jumps.branch (visit.output == some "true")
  else visit.node.jumps.next

/-- The kind of the edge that a visit takes. -/
def edgeKind (visit : Visit) : Workflow.EdgeKind :=
  if visit.node.nodeType.isBranching then
    if visit.output == some "true" then .whenTrue else .whenFalse
  else .next

/-- The output of a visit says what came of the condition of its node. -/
def ShowsVerdict (visit : Visit) : Prop :=
  visit.node.nodeType.isBranching = true →
    visit.output = some (if visit.verdict then "true" else "false")

theorem selected_mem_outgoing (visit : Visit) :
    (visit.selected, visit.edgeKind) ∈ Workflow.outgoing visit.node := by
  unfold selected edgeKind Workflow.outgoing
  cases visit.node.nodeType.isBranching with
  | false => simp
  | true => cases visit.output == some "true" <;> simp

end Visit

namespace Engine

variable {engine : Engine} {runChild : FrameRunner} {fuel : Nat}
  {scope : Scope} {node : Node} {before after : Run}
  {transcript : Run.Transcript}

/-- A node leads where a directive that fits its type says. -/
theorem Interacts.exists_directive {context : Step.Context}
    {handler : Handler} {step : Step Directive} {state ended : Step.State}
    {flow : Flow} {nodeType : NodeType}
    (fits : Handler.Fits nodeType handler)
    (ensures : step.Ensures (Directive.Fits nodeType))
    (interacts : Interacts engine scope context handler fuel step state before
      transcript (.ok flow) ended after) :
    ∃ directive, flow? context.node directive = some flow ∧
      directive.Fits nodeType := by
  generalize isOk : Except.ok flow = result at interacts
  induction interacts with
  | exhausted => cases isOk
  | aborted => cases isOk
  | @stopped _ _ _ _ _ _ stop carried =>
      cases stop <;> cases isOk
  | @directed _ _ _ _ _ _ directive _ carried leads =>
      cases isOk
      exact ⟨directive, leads, ensures.value_allowed carried⟩
  | unanswered carried awaits => cases isOk
  | resumed carried awaits resumes ih => exact ih (fits.resume _ _) isOk

/-- A node that does not branch leads to its successor, unless it calls a
workflow first. -/
theorem flow_eq_next_of_fits {directive : Directive} {target : Target}
    (fits : directive.Fits node.nodeType)
    (leads : flow? node directive = some (.jump target))
    (plain : node.nodeType.isBranching = false) :
    target = node.jumps.next := by
  cases directive with
  | proceed =>
      cases leads
      rfl
  | jump other =>
      rw [Directive.Fits, plain] at fits
      cases fits
  | terminate => cases fits
  | suspend prompt => cases leads
  | call call => cases leads

/-- The standard handler of a branching node carries out the branching step
and nothing else. -/
theorem Interacts.branch_selected {context : Step.Context}
    {state ended : Step.State} {flow : Flow}
    (interacts : Interacts engine scope context Handler.branch fuel
      Step.branch state before transcript (.ok flow) ended after) :
    let outcome := Condition.evaluate
      ((context.properties.get? "condition").getD "")
    flow = .jump (context.node.jumps.branch outcome) ∧
      ended.output = some (if outcome then "true" else "false") := by
  generalize isOk : Except.ok flow = result at interacts
  cases interacts with
  | exhausted => cases isOk
  | aborted => cases isOk
  | @stopped _ _ _ _ _ _ stop carried => cases stop <;> cases isOk
  | directed carried leads =>
      cases isOk
      obtain ⟨same, rfl⟩ := Step.branch_of_yields carried
      cases same
      cases leads
      exact ⟨rfl, rfl⟩
  | unanswered carried awaits => cases isOk
  | resumed carried awaits resumes =>
      obtain ⟨same, -⟩ := Step.branch_of_yields carried
      cases same

theorem standard_eq_branch {nodeType : NodeType}
    (branching : nodeType.isBranching = true) :
    Handler.standard nodeType = Handler.branch := by
  cases nodeType with
  | branch => rfl
  | loop => rfl
  | _ => cases branching

theorem Drives.branch_selected {properties : OrderedMap String}
    {bindings reached : Variables} {target : Target} {output : Option String}
    (standard : engine.registry = Registry.standard)
    (branching : node.nodeType.isBranching = true)
    (drives : Drives engine runChild fuel scope node properties bindings before
      transcript (.ok target) output reached after) :
    let outcome := Condition.evaluate
      ((properties.get? "condition").getD "")
    target = node.jumps.branch outcome ∧
      output = some (if outcome then "true" else "false") := by
  have isBranch : ∀ {handler : Handler},
      engine.registry.handler? node.nodeType = some handler →
      handler = Handler.branch := by
    intro handler known
    rw [standard] at known
    rw [← standard_eq_branch branching]
    exact (Option.some.inj known).symm
  cases drives with
  | jumped known interacts =>
      obtain rfl := isBranch known
      obtain ⟨same, shown⟩ := interacts.branch_selected
      cases same
      exact ⟨rfl, shown⟩
  | called known interacts calls =>
      obtain rfl := isBranch known
      obtain ⟨impossible, -⟩ := interacts.branch_selected
      cases impossible

theorem Drives.next_selected {properties : OrderedMap String}
    {bindings reached : Variables} {target : Target} {output : Option String}
    (fits : engine.registry.Fits)
    (plain : node.nodeType.isBranching = false)
    (drives : Drives engine runChild fuel scope node properties bindings before
      transcript (.ok target) output reached after) :
    target = node.jumps.next := by
  cases drives with
  | jumped known interacts =>
      have handlerFits := fits _ _ known
      obtain ⟨directive, leads, directiveFits⟩ :=
        interacts.exists_directive handlerFits handlerFits.execute
      exact flow_eq_next_of_fits directiveFits leads plain
  | called known interacts calls => rfl

/-- A visit leads where its jump is selected, and shows what came of its
condition. -/
theorem Performs.selected {visit : Visit} {frame reached : Frame}
    {target : Target} (standard : engine.registry = Registry.standard)
    (performs : Performs engine runChild fuel scope visit before frame
      transcript reached after) (leads : visit.result = .ok target) :
    target = visit.selected ∧ visit.ShowsVerdict := by
  obtain ⟨driving, -, drives⟩ := performs.exists_drives
  rw [leads] at drives
  have sameVerdict : Condition.evaluate
      ((visit.properties.get? "condition").getD "") = visit.verdict := by
    rw [Visit.properties, Template.resolveAll, OrderedMap.get?_mapValues]
    rfl
  cases branching : visit.node.nodeType.isBranching with
  | true =>
      obtain ⟨jumps, shown⟩ := drives.branch_selected standard branching
      rw [sameVerdict] at jumps shown
      refine ⟨?_, fun _ => shown⟩
      rw [jumps, Visit.selected, if_pos branching, shown]
      cases visit.verdict <;> rfl
  | false =>
      have fits : engine.registry.Fits := by
        rw [standard]
        exact Registry.standard_fits
      refine ⟨?_, fun impossible => ?_⟩
      · rw [drives.next_selected fits branching, Visit.selected, branching]
        rfl
      · rw [branching] at impossible
        cases impossible

/-- A visit that leads on does so by its selected jump. -/
theorem Walk.forall_selected {workflow : Workflow} {target : Target}
    {frame reached : Frame} {visits : List Visit}
    {ended : Except Interrupt Unit}
    (standard : engine.registry = Registry.standard)
    (walk : Walk engine scope workflow fuel target frame before transcript
      visits ended reached after) :
    ∀ visit ∈ visits, visit.Leads →
      visit.result = .ok visit.selected ∧ visit.ShowsVerdict := by
  induction walk with
  | exhausted => simp
  | aborted => simp
  | finished nowhere => simp
  | stopped found performs stops =>
      intro visit member leads
      obtain rfl := List.mem_singleton.1 member
      obtain ⟨target, leads⟩ := leads
      rw [stops] at leads
      cases leads
  | moved found performs leads goesOn ih =>
      intro visit member leadsOn
      rcases List.mem_cons.1 member with rfl | later
      · obtain ⟨rfl, shown⟩ := performs.selected standard leads
        exact ⟨leads, shown⟩
      · exact ih visit later leadsOn

end Engine

/-! ### Paths -/

/-- A visit leads to another one, and hands its variables over. -/
def Visit.Continues (first second : Visit) : Prop :=
  first.result = .ok (.node second.position) ∧
    second.bindings = first.after

namespace Engine

/-- The first visit of a walk is at its target, with the variables of the
frame. -/
theorem Walk.first_visit {workflow : Workflow} {target : Target}
    {frame reached : Frame} {visits : List Visit}
    {ended : Except Interrupt Unit}
    (walk : Walk engine scope workflow fuel target frame before transcript
      visits ended reached after) {visit : Visit}
    (isFirst : visits.head? = some visit) :
    target = .node visit.position ∧ visit.bindings = frame.bindings := by
  cases walk with
  | exhausted => cases isFirst
  | aborted => cases isFirst
  | finished nowhere => cases isFirst
  | stopped found performs stops =>
      cases isFirst
      exact ⟨(nodeAt?_eq_some_iff.1 found).1, performs.bindings_eq.1⟩
  | moved found performs leads goesOn =>
      cases isFirst
      exact ⟨(nodeAt?_eq_some_iff.1 found).1, performs.bindings_eq.1⟩

/-- Every visit of a walk continues the one before. -/
theorem Walk.isChain_continues {workflow : Workflow} {target : Target}
    {frame reached : Frame} {visits : List Visit}
    {ended : Except Interrupt Unit}
    (walk : Walk engine scope workflow fuel target frame before transcript
      visits ended reached after) : visits.IsChain Visit.Continues := by
  induction walk with
  | exhausted => exact .nil
  | aborted => exact .nil
  | finished nowhere => exact .nil
  | stopped found performs stops => exact .singleton _
  | @moved _ _ _ _ _ _ _ _ _ _ _ visit visits _ found performs leads goesOn
      ih =>
      cases others : visits with
      | nil => exact .singleton _
      | cons second rest =>
          rw [others] at ih goesOn
          obtain ⟨rfl, handed⟩ := goesOn.first_visit rfl
          refine .cons_cons ⟨leads, ?_⟩ ih
          rw [handed, performs.bindings_eq.2]

/-- A completed walk ends where there is no node. -/
theorem Walk.nowhere_of_completed {workflow : Workflow} {target : Target}
    {frame reached : Frame} {visits : List Visit}
    (walk : Walk engine scope workflow fuel target frame before transcript
      visits (.ok ()) reached after) :
    (visits = [] ∧ nodeAt? workflow target = none) ∨
      ∃ visit next, visits.getLast? = some visit ∧ visit.result = .ok next ∧
        nodeAt? workflow next = none := by
  generalize completed : Except.ok () = ended at walk
  induction walk with
  | exhausted => cases completed
  | aborted => cases completed
  | finished nowhere => exact .inl ⟨rfl, nowhere⟩
  | stopped found performs stops => cases completed
  | @moved _ _ _ _ _ _ _ _ _ _ _ visit visits _ found performs leads goesOn
      ih =>
      rcases ih completed with ⟨rfl, nowhere⟩ | ⟨last, next, isLast, ends⟩
      · exact .inr ⟨visit, _, rfl, leads, nowhere⟩
      · refine .inr ⟨last, next, ?_, ends⟩
        rw [List.getLast?_cons, isLast]
        rfl

/-- A walk whose last visit leads on is completed, unless it sees an abort or
has taken all its steps. -/
theorem Walk.completed_of_leads {workflow : Workflow} {target next : Target}
    {frame reached : Frame} {visits : List Visit} {visit : Visit}
    {ended : Except Interrupt Unit}
    (walk : Walk engine scope workflow fuel target frame before transcript
      visits ended reached after)
    (isLast : visits.getLast? = some visit) (leads : visit.result = .ok next)
    (unseen : ¬ transcript.SeesAbort) (ends : ended ≠ .error .exhausted) :
    ended = .ok () := by
  induction walk with
  | exhausted => cases isLast
  | aborted => cases isLast
  | finished => cases isLast
  | stopped found performs stops =>
      rw [List.getLast?_singleton, Option.some.injEq] at isLast
      rw [← isLast, stops] at leads
      cases leads
  | @moved _ _ _ _ _ _ _ _ _ _ _ first visits _ found performs moves goesOn
      ih =>
      rw [Run.seesAbort_append, not_or] at unseen
      cases others : visits with
      | cons second rest =>
          rw [others, List.getLast?_cons_cons, ← others] at isLast
          exact ih isLast unseen.2 ends
      | nil =>
          subst others
          rw [List.getLast?_singleton, Option.some.injEq] at isLast
          rw [← isLast, moves] at leads
          cases leads
          cases goesOn with
          | exhausted => exact (ends rfl).elim
          | aborted => simp [Run.Exchange.SeesAbort] at unseen
          | finished => rfl

end Engine

/-! ### The jump table -/

namespace Workflow

variable {workflow : Workflow} {position index : Nat} {node other : Node}
  {target : Target} {kind : EdgeKind}

/-- The jump of a node to another one is an edge. -/
theorem mem_edges_of_outgoing
    (found : workflow.nodes[position]? = some node)
    (outgoes : (.node index, kind) ∈ outgoing node)
    (foundOther : workflow.nodes[index]? = some other) :
    ⟨node.id, other.id, kind⟩ ∈ workflow.edges := by
  unfold edges
  rw [List.mem_flatMap]
  refine ⟨node, List.mem_of_getElem? found, ?_⟩
  rw [List.mem_filterMap]
  refine ⟨_, outgoes, ?_⟩
  simp [edge?, Target.index?, foundOther]

end Workflow

namespace Document

variable {document : Document} {name : String} {workflow : Workflow}

theorem FieldLeads.lt_length {position index : Nat}
    {definition : NodeDefinition} {field : JumpField}
    (leads : document.FieldLeads position definition field (.node index)) :
    index < document.nodes.length := by
  unfold FieldLeads at leads
  cases given : definition.given? field with
  | some text =>
      rw [given] at leads
      exact HasId.lt_length leads
  | none =>
      rw [given] at leads
      have same : Target.node index = document.following position := leads
      unfold following at same
      split at same
      · cases same
        assumption
      · cases same

/-- The jumps of the workflow of a document lead to nodes of it, if they do not
lead to an end. -/
theorem HasWorkflow.lt_length (compiled : document.HasWorkflow name workflow)
    {position index : Nat} {node : Node} {kind : Workflow.EdgeKind}
    (found : workflow.nodes[position]? = some node)
    (outgoes : (.node index, kind) ∈ Workflow.outgoing node) :
    index < workflow.nodes.length := by
  have inside := (List.getElem?_eq_some_iff.1 found).1
  rw [compiled.length_eq] at inside ⊢
  have defined := List.getElem?_eq_getElem inside
  have hasJumps := (compiled.node position _ node defined found).jumps
  unfold Workflow.outgoing at outgoes
  cases branching : node.nodeType.isBranching with
  | true =>
      obtain ⟨-, whenTrue, whenFalse, isTrue, isFalse, trueLeads,
        falseLeads⟩ := hasJumps.branching branching
      simp only [branching, if_true, Jumps.branch, isTrue, isFalse,
        Bool.false_eq_true, if_false, Option.getD_some, List.mem_cons,
        Prod.mk.injEq, List.not_mem_nil, or_false] at outgoes
      rcases outgoes with ⟨rfl, -⟩ | ⟨rfl, -⟩
      · exact trueLeads.lt_length
      · exact falseLeads.lt_length
  | false =>
      obtain ⟨-, -, leads⟩ := hasJumps.plain branching
      simp only [branching, Bool.false_eq_true, if_false, List.mem_cons,
        Prod.mk.injEq, List.not_mem_nil, or_false] at outgoes
      rw [← outgoes.1] at leads
      exact leads.lt_length

/-- A jump of the workflow of a document leads nowhere exactly if it leads to
an end. -/
theorem HasWorkflow.nodeAt?_eq_none_iff
    (compiled : document.HasWorkflow name workflow) {position : Nat}
    {node : Node} {target : Target} {kind : Workflow.EdgeKind}
    (found : workflow.nodes[position]? = some node)
    (outgoes : (target, kind) ∈ Workflow.outgoing node) :
    Engine.nodeAt? workflow target = none ↔
      target = .finish ∨ target = .pastEnd := by
  cases target with
  | node index =>
      have inside := compiled.lt_length found outgoes
      simp [Engine.nodeAt?, Target.index?, inside]
  | finish => simp [Engine.nodeAt?, Target.index?]
  | pastEnd => simp [Engine.nodeAt?, Target.index?]

end Document

/-- The kind of the edge that a step takes: one that branches takes the edge
of its output. -/
def HistoryStep.edgeKind (step : HistoryStep) : Workflow.EdgeKind :=
  if step.nodeType = NodeType.branch.tag ∨ step.nodeType = NodeType.loop.tag
  then if step.output = some "true" then .whenTrue else .whenFalse
  else .next

theorem Visit.IsRecordedBy.edgeKind_eq {visit : Visit} {step : HistoryStep}
    (recorded : visit.IsRecordedBy step) :
    step.edgeKind = visit.edgeKind := by
  have branching : (step.nodeType = NodeType.branch.tag ∨
      step.nodeType = NodeType.loop.tag) ↔
        visit.node.nodeType.isBranching = true := by
    rw [recorded.nodeType_eq]
    cases visit.node.nodeType <;> decide
  unfold HistoryStep.edgeKind Visit.edgeKind
  rw [recorded.output_eq]
  simp only [branching, beq_iff_eq]

namespace Visit

/-- What relates visits in a row relates the steps that record them. -/
theorem isChain_steps {visits : List Visit} {steps : List HistoryStep}
    {related : Visit → Visit → Prop}
    {linked : HistoryStep → HistoryStep → Prop}
    (recorded : List.Forall₂ IsRecordedBy visits steps)
    (chain : visits.IsChain related)
    (implies : ∀ first second step next, first ∈ visits → second ∈ visits →
      IsRecordedBy first step → IsRecordedBy second next →
      related first second → linked step next) : steps.IsChain linked := by
  induction recorded with
  | nil => exact .nil
  | @cons visit step visits steps isRecorded others ih =>
      cases others with
      | nil => exact .singleton _
      | @cons second next visits steps isRecordedToo others =>
          rw [List.isChain_cons_cons] at chain
          refine .cons_cons ?_ (ih chain.2 ?_)
          · exact implies _ _ _ _ (by simp) (by simp) isRecorded
              isRecordedToo chain.1
          · intro first other step next member memberToo
            exact implies first other step next
              (List.mem_cons_of_mem _ member) (List.mem_cons_of_mem _ memberToo)

end Visit

namespace Engine

variable {engine : Engine} {fuel : Nat} {workflow : Workflow}
  {bindings : Variables} {before after : Run} {transcript : Run.Transcript}
  {visits : List Visit} {outcome : RunOutcome}

/-- The visits of a run begin at the start with the first variables, and each
one continues the one before by its selected jump. -/
theorem Executes.isPath (standard : engine.registry = Registry.standard)
    (executes : Executes engine fuel workflow bindings before transcript
      visits outcome after) :
    (∀ visit, visits.head? = some visit →
      visit.position = workflow.start ∧ visit.bindings = bindings) ∧
    visits.IsChain Visit.Continues ∧
    ∀ visit ∈ visits, visit.Leads →
      visit.result = .ok visit.selected ∧ visit.ShowsVerdict := by
  cases executes with
  | refused guarded => exact ⟨by simp, .nil, by simp⟩
  | walked entered walk ends =>
      refine ⟨?_, walk.isChain_continues, walk.forall_selected standard⟩
      intro visit isFirst
      obtain ⟨same, first⟩ := walk.first_visit isFirst
      exact ⟨(Target.node.inj same).symm, first⟩

/-- A run is completed exactly if its last visit leads nowhere, and no abort is
seen. -/
theorem Executes.completed_iff (fits : engine.registry.Fits)
    (starts : workflow.start < workflow.nodes.length)
    (executes : Executes engine fuel workflow bindings before transcript
      visits outcome after) :
    outcome.status = .completed ↔
      (∃ visit next, visits.getLast? = some visit ∧
        visit.result = .ok next ∧ nodeAt? workflow next = none) ∧
      ¬ transcript.SeesAbort := by
  cases executes with
  | refused guarded => simp
  | @walked started stack walking _ ended final record reached status error
      entered walk ends finished =>
      have sees_iff : (opening before started ++ walking ++
          closing { reached with stack := reached.stack.pop } status
            finished).SeesAbort ↔ walking.SeesAbort := by
        simp [opening, closing, Run.Exchange.SeesAbort]
      rw [sees_iff]
      constructor
      · intro completed
        obtain rfl : ended = .ok () := by
          change status = .completed at completed
          subst completed
          rcases ended with (_ | failure | _) | _ <;> simp [runEnd?] at ends ⊢
        refine ⟨?_, fun seen => ?_⟩
        · rcases walk.nowhere_of_completed with ⟨-, nowhere⟩ | last
          · simp [nodeAt?, Target.index?, starts] at nowhere
          · exact last
        · have impossible := walk.cancelled_of_seesAbort fits seen
          cases impossible
      · rintro ⟨⟨visit, next, isLast, leads, -⟩, unseen⟩
        obtain rfl := walk.completed_of_leads isLast leads unseen (by
          rintro rfl
          simp [runEnd?] at ends)
        simp only [runEnd?, Option.some.injEq, Prod.mk.injEq] at ends
        exact ends.1.symm

/-- With the standard handlers, a run of a compiled workflow follows its jump
table.  The record begins at the start node; each step of it takes an edge to
the next one, chosen by the output of a branching node, which says what came of
its condition; and the run is completed exactly if the last node succeeds, its
jump leads to an end, and no abort is seen. -/
theorem execute_follows_jumpTable {document : Document} {name : String}
    (compiled : document.compile name = .ok workflow)
    (standard : engine.registry = Registry.standard) (id reference : String)
    (yields : (engine.execute fuel workflow bindings).Yields
      (Run.fresh id reference) transcript (some outcome) after) :
    ∃ visits,
      Executes engine fuel workflow bindings (Run.fresh id reference)
        transcript visits outcome after ∧
      List.Forall₂ Visit.IsRecordedBy visits outcome.history.steps ∧
      (∀ visit ∈ visits,
        workflow.nodes[visit.position]? = some visit.node) ∧
      (∀ visit, visits.head? = some visit →
        visit.position = workflow.start ∧ visit.bindings = bindings) ∧
      visits.IsChain Visit.Continues ∧
      (outcome.history.steps.IsChain fun first second =>
        ⟨first.nodeId, second.nodeId, first.edgeKind⟩ ∈ workflow.edges) ∧
      (∀ visit ∈ visits, visit.status = .success →
        visit.node.nodeType.isBranching = true →
        visit.output = some (if visit.verdict then "true" else "false")) ∧
      (outcome.status = .completed ↔
        (∃ visit, visits.getLast? = some visit ∧ visit.status = .success ∧
          (visit.selected = .finish ∨ visit.selected = .pastEnd)) ∧
        ¬ transcript.SeesAbort) := by
  have hasWorkflow : document.HasWorkflow name workflow := by
    have spec := document.compile_spec name
    rw [compiled] at spec
    exact spec.1
  obtain ⟨visits, executes⟩ := executes_of_yields yields
  have nodes := executes.forall_nodes
  obtain ⟨first, chain, selected⟩ := executes.isPath standard
  refine ⟨visits, executes, executes.forall₂_steps, nodes, first, chain, ?_,
    ?_, ?_⟩
  · refine Visit.isChain_steps executes.forall₂_steps chain ?_
    rintro visit other step next member memberToo recorded recordedToo
      ⟨leads, -⟩
    rw [recorded.nodeId_eq, recordedToo.nodeId_eq, recorded.edgeKind_eq]
    apply Workflow.mem_edges_of_outgoing (nodes visit member) _
      (nodes other memberToo)
    have bySelected := (selected visit member ⟨_, leads⟩).1
    rw [leads, Except.ok.injEq] at bySelected
    rw [bySelected]
    exact visit.selected_mem_outgoing
  · intro visit member success
    exact (selected visit member (Visit.status_eq_success_iff.1 success)).2
  · have fits : engine.registry.Fits := by
      rw [standard]
      exact Registry.standard_fits
    rw [executes.completed_iff fits hasWorkflow.start_lt]
    refine and_congr_left fun _ => ?_
    constructor
    · rintro ⟨visit, next, isLast, leads, nowhere⟩
      have member := List.mem_of_getLast? isLast
      have bySelected := (selected visit member ⟨_, leads⟩).1
      rw [leads, Except.ok.injEq] at bySelected
      subst bySelected
      exact ⟨visit, isLast, Visit.status_eq_success_iff.2 ⟨_, leads⟩,
        (hasWorkflow.nodeAt?_eq_none_iff (nodes visit member)
          visit.selected_mem_outgoing).1 nowhere⟩
    · rintro ⟨visit, isLast, success, isEnd⟩
      have member := List.mem_of_getLast? isLast
      have leads := (selected visit member
        (Visit.status_eq_success_iff.1 success)).1
      exact ⟨visit, _, isLast, leads,
        (hasWorkflow.nodeAt?_eq_none_iff (nodes visit member)
          visit.selected_mem_outgoing).2 isEnd⟩

/-- A document that sets a variable, and then checks it. -/
def checking : Document :=
  ⟨none, none, none,
    [⟨some "set", "variable", none, none, none, none,
      .ofList [("name", .string "x"), ("value", .string "1")]⟩,
      ⟨some "check", "if", none, some "end", none, none,
        .ofList [("condition", .string "\x7b\x7bx\x7d\x7d == 1")]⟩]⟩

theorem execute_follows_jumpTable_checking :
    ∃ workflow outcome transcript after,
      checking.compile "checking" = .ok workflow ∧
      (unattended.execute 4 workflow .empty).Yields (Run.fresh "id" "file")
        transcript (some outcome) after ∧
      outcome.history.steps.map HistoryStep.nodeId = ["set", "check"] ∧
      outcome.status = .completed ∧
      outcome.history.steps.IsChain fun first second =>
        ⟨first.nodeId, second.nodeId, first.edgeKind⟩ ∈ workflow.edges := by
  have evaluated : ((checking.compile "checking").toOption.bind
      fun workflow => (Oracle.refusing.run
        (unattended.execute 4 workflow .empty) (Run.fresh "id" "file")
        .still).value.1.map fun outcome =>
          (outcome.history.steps.map HistoryStep.nodeId, outcome.status)) =
      some (["set", "check"], .completed) := by
    decide +kernel
  obtain ⟨workflow, isCompiled, evaluated⟩ :=
    Option.bind_eq_some_iff.1 evaluated
  have compiled := eq_ok_of_toOption isCompiled
  obtain ⟨outcome, ended, shown⟩ := Option.map_eq_some_iff.1 evaluated
  obtain ⟨steps, completed⟩ := Prod.mk.inj shown
  have yields := Oracle.refusing.yields_run
    (unattended.execute 4 workflow .empty) (Run.fresh "id" "file") .still
  rw [ended] at yields
  obtain ⟨-, -, -, -, -, -, chain, -⟩ :=
    execute_follows_jumpTable compiled rfl "id" "file" yields
  exact ⟨workflow, outcome, _, _, compiled, yields, steps, completed, chain⟩

end Engine

end Runbook
