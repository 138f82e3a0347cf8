import Mathlib.Data.List.Forall2
import Runbook.Proofs.Run.Counting
import Runbook.Proofs.Run.Forward
import Runbook.Proofs.Run.Transcript

/-!
# Counting loops

A document whose workflow counts is accepted, and its run executes the body of
the loop as often as the counter says.
-/

namespace Runbook

open Binary64 (exactLimit)
open Decimal (intText)

namespace Document

variable {document : Document} {name : String} {workflow : Workflow}
  {position count : Nat} {first : Int}

/-- A node that sets a variable other than the counter and its limit, and is
followed by the next node. -/
def HasBodyNode (document : Document) (position : Nat) : Prop :=
  ∃ definition variableName, document.nodes[position]? = some definition ∧
    (document.HasType position .assign ∨
      document.HasType position .compute) ∧
    Template.Names (Compile.propertyTexts definition.properties)
      variableName ∧ variableName ≠ "i" ∧ variableName ≠ "times" ∧
    document.FieldLeads position definition .next (.node (position + 1))

/-- A document that sets a counter, has a loop that holds as long as the
counter is below its limit and then leads to the end, so many nodes that set
other variables, and a node that adds one to the counter and leads back to the
loop. -/
structure IsCounting (document : Document) (count : Nat) (first : Int) :
    Prop where
  length_eq : document.nodes.length = count + 3
  starts : ∀ id, document.NamesStart id → document.HasId 0 id
  distinct : ∀ position other id, document.HasId position id →
    document.HasId other id → position = other
  taken : ∀ position definition nodeType field,
    document.nodes[position]? = some definition →
    document.HasType position nodeType → (definition.given? field).isSome →
    nodeType.takes field = true
  sets : ∃ definition, document.nodes[0]? = some definition ∧
    document.HasType 0 .assign ∧
    Template.Names (Compile.propertyTexts definition.properties) "i" ∧
    (Compile.propertyTexts definition.properties).get? "value" =
      some (intText first) ∧
    document.FieldLeads 0 definition .next (.node 1)
  checks : ∃ definition, document.nodes[1]? = some definition ∧
    document.HasType 1 .loop ∧
    (Compile.propertyTexts definition.properties).get? "condition" =
      some Template.belowLimit ∧
    definition.trueNext.isSome ∧
    document.FieldLeads 1 definition .trueNext (.node 2) ∧
    document.FieldLeads 1 definition .falseNext .finish
  body : ∀ position, 2 ≤ position → position < count + 2 →
    document.HasBodyNode position
  adds : ∃ definition, document.nodes[count + 2]? = some definition ∧
    document.HasType (count + 2) .compute ∧
    Template.Names (Compile.propertyTexts definition.properties) "i" ∧
    (Compile.propertyTexts definition.properties).get? "value" =
      some Template.nextCount ∧
    document.FieldLeads (count + 2) definition .next (.node 1)

/-! ### Acceptance -/

theorem FieldLeads.unique {definition : NodeDefinition} {field : JumpField}
    {target other : Target}
    (distinct : ∀ position other id, document.HasId position id →
      document.HasId other id → position = other)
    (leads : document.FieldLeads position definition field target)
    (leadsToo : document.FieldLeads position definition field other) :
    target = other := by
  unfold FieldLeads at leads leadsToo
  cases given : definition.given? field with
  | none =>
      rw [given] at leads leadsToo
      exact leads.trans leadsToo.symm
  | some text =>
      rw [given] at leads leadsToo
      have isStated : document.StandsFor text target := leads
      have isStatedToo : document.StandsFor text other := leadsToo
      cases target with
      | node index =>
          cases other with
          | node another =>
              rw [distinct index another _ isStated isStatedToo]
          | finish =>
              obtain ⟨isEnd, undeclared⟩ := isStatedToo
              exact (undeclared ⟨index, isEnd ▸ isStated⟩).elim
          | pastEnd => exact isStatedToo.elim
      | finish =>
          obtain ⟨isEnd, undeclared⟩ := isStated
          cases other with
          | node another =>
              exact (undeclared ⟨another, isEnd ▸ isStatedToo⟩).elim
          | finish => rfl
          | pastEnd => exact isStatedToo.elim
      | pastEnd => exact isStated.elim

theorem FieldLeads.allows {definition : NodeDefinition} {field : JumpField}
    {target : Target} {text : String}
    (leads : document.FieldLeads position definition field target)
    (given : definition.given? field = some text)
    (forward : ∀ index, target = .node index →
      position < index ∨ document.HasType index .loop) :
    document.Allows position (Text.trim text) := by
  unfold FieldLeads at leads
  rw [given] at leads
  have isStated : document.StandsFor text target := leads
  cases target with
  | node index => exact .inl ⟨index, isStated, forward index rfl⟩
  | finish => exact .inr isStated
  | pastEnd => exact isStated.elim

theorem HasWorkflow.hasId (compiled : document.HasWorkflow name workflow)
    {node : Node} (found : workflow.nodes[position]? = some node) :
    document.HasId position node.id := by
  have inside := (List.getElem?_eq_some_iff.1 found).1
  rw [compiled.length_eq] at inside
  have defined := List.getElem?_eq_getElem inside
  have hasNode := compiled.node position _ node defined found
  exact ⟨_, defined, hasNode.id_eq.symm⟩

namespace IsCounting

/-- A node that does not branch and leads on is allowed to. -/
theorem allows_of_plain (counting : document.IsCounting count first)
    {definition : NodeDefinition} {nodeType : NodeType} {index : Nat}
    {field : JumpField} {text : String}
    (defined : document.nodes[position]? = some definition)
    (typed : document.HasType position nodeType)
    (plain : nodeType.isBranching = false)
    (leads : document.FieldLeads position definition .next (.node index))
    (forward : position < index ∨ document.HasType index .loop)
    (given : definition.given? field = some text) :
    document.Allows position (Text.trim text) := by
  have takes := counting.taken position definition nodeType field defined typed
    (by simp [given])
  cases field with
  | next =>
      refine leads.allows given ?_
      rintro _ ⟨⟩
      exact forward
  | trueNext => simp [NodeType.takes, plain] at takes
  | falseNext => simp [NodeType.takes, plain] at takes

theorem allows (counting : document.IsCounting count first)
    {definition : NodeDefinition} {field : JumpField} {text : String}
    (defined : document.nodes[position]? = some definition)
    (given : definition.given? field = some text) :
    document.Allows position (Text.trim text) := by
  have inside := (List.getElem?_eq_some_iff.1 defined).1
  rw [counting.length_eq] at inside
  obtain rfl | rfl | ⟨after_loop, before_last⟩ | rfl :
      position = 0 ∨ position = 1 ∨ (2 ≤ position ∧ position < count + 2) ∨
        position = count + 2 := by
    omega
  · obtain ⟨_, found, typed, -, -, leads⟩ := counting.sets
    obtain rfl := Option.some.inj (defined.symm.trans found)
    exact counting.allows_of_plain defined typed rfl leads (.inl Nat.one_pos)
      given
  · obtain ⟨_, found, typed, -, -, whenTrue, whenFalse⟩ := counting.checks
    obtain rfl := Option.some.inj (defined.symm.trans found)
    have takes := counting.taken 1 definition .loop field defined typed
      (by simp [given])
    cases field with
    | next => cases takes
    | trueNext =>
        refine whenTrue.allows given ?_
        rintro _ ⟨⟩
        exact .inl Nat.one_lt_two
    | falseNext =>
        refine whenFalse.allows given ?_
        rintro _ ⟨⟩
  · obtain ⟨_, _, found, typed, -, -, -, leads⟩ :=
      counting.body position after_loop before_last
    obtain rfl := Option.some.inj (defined.symm.trans found)
    have forward : position < position + 1 ∨
        document.HasType (position + 1) .loop := .inl (Nat.lt_succ_self _)
    rcases typed with isAssign | isCompute
    · exact counting.allows_of_plain defined isAssign rfl leads forward given
    · exact counting.allows_of_plain defined isCompute rfl leads forward given
  · obtain ⟨_, found, typed, -, -, leads⟩ := counting.adds
    obtain rfl := Option.some.inj (defined.symm.trans found)
    obtain ⟨_, -, isLoop, -⟩ := counting.checks
    exact counting.allows_of_plain defined typed rfl leads (.inr isLoop) given

/-- The loop is the only node that branches. -/
theorem type_cases (counting : document.IsCounting count first)
    (inside : position < count + 3) :
    position = 1 ∧ document.HasType position .loop ∨
      ∃ nodeType, document.HasType position nodeType ∧
        nodeType.isBranching = false := by
  obtain rfl | rfl | ⟨after_loop, before_last⟩ | rfl :
      position = 0 ∨ position = 1 ∨ (2 ≤ position ∧ position < count + 2) ∨
        position = count + 2 := by
    omega
  · obtain ⟨_, -, typed, -⟩ := counting.sets
    exact .inr ⟨_, typed, rfl⟩
  · obtain ⟨_, -, typed, -⟩ := counting.checks
    exact .inl ⟨rfl, typed⟩
  · obtain ⟨_, _, -, typed | typed, -⟩ :=
      counting.body position after_loop before_last
    · exact .inr ⟨_, typed, rfl⟩
    · exact .inr ⟨_, typed, rfl⟩
  · obtain ⟨_, -, typed, -⟩ := counting.adds
    exact .inr ⟨_, typed, rfl⟩

theorem wellFormed (counting : document.IsCounting count first) :
    document.WellFormed where
  nonempty := by
    have length_eq := counting.length_eq
    intro nodeless
    rw [nodeless] at length_eq
    cases length_eq
  typed := by
    intro position inside
    rw [counting.length_eq] at inside
    rcases counting.type_cases inside with ⟨-, isLoop⟩ | ⟨_, typed, -⟩
    · exact ⟨_, isLoop⟩
    · exact ⟨_, typed⟩
  distinct := counting.distinct
  taken := counting.taken
  branches := by
    intro position definition nodeType defined typed branching
    have inside := (List.getElem?_eq_some_iff.1 defined).1
    rw [counting.length_eq] at inside
    rcases counting.type_cases inside with ⟨rfl, -⟩ | ⟨_, typedToo, plain⟩
    · obtain ⟨_, found, -, -, whenTrue, -⟩ := counting.checks
      obtain rfl := Option.some.inj (defined.symm.trans found)
      exact whenTrue
    · obtain rfl := typed.unique typedToo
      rw [plain] at branching
      cases branching
  allowed := fun _ _ _ _ defined given => counting.allows defined given
  started := fun id named => ⟨0, counting.starts id named⟩

/-- The workflow of a counting document counts. -/
theorem of_hasWorkflow (counting : document.IsCounting count first)
    (compiled : document.HasWorkflow name workflow) :
    workflow.IsCounting count first := by
  have exists_node {position : Nat} {definition : NodeDefinition}
      (defined : document.nodes[position]? = some definition) :
      ∃ node, workflow.nodes[position]? = some node ∧
        document.HasNode position definition node := by
    have inside := (List.getElem?_eq_some_iff.1 defined).1
    rw [← compiled.length_eq] at inside
    have found := List.getElem?_eq_getElem inside
    exact ⟨_, found, compiled.node position definition _ defined found⟩
  have next_eq {position index : Nat} {definition : NodeDefinition}
      {node : Node} {nodeType : NodeType}
      (hasNode : document.HasNode position definition node)
      (typed : node.nodeType = nodeType)
      (plain : nodeType.isBranching = false)
      (leads : document.FieldLeads position definition .next
        (.node index)) : node.jumps.next = .node index := by
    obtain ⟨-, -, leadsToo⟩ := hasNode.jumps.plain (typed ▸ plain)
    exact leadsToo.unique counting.distinct leads
  constructor
  case start_eq =>
    by_cases named : ∃ id, document.NamesStart id
    · obtain ⟨id, named⟩ := named
      exact counting.distinct _ _ id (compiled.start_named id named)
        (counting.starts id named)
    · exact compiled.start_unnamed fun id isNamed => named ⟨id, isNamed⟩
  case sets =>
    obtain ⟨definition, defined, typed, names, value, leads⟩ := counting.sets
    obtain ⟨node, found, hasNode⟩ := exists_node defined
    have isAssign := compiled.hasType found typed
    rw [← hasNode.properties_eq] at names value
    exact ⟨node, found, isAssign, names, value,
      next_eq hasNode isAssign rfl leads⟩
  case checks =>
    obtain ⟨definition, defined, typed, condition, -, whenTrue, whenFalse⟩ :=
      counting.checks
    obtain ⟨node, found, hasNode⟩ := exists_node defined
    have isLoop := compiled.hasType found typed
    rw [← hasNode.properties_eq] at condition
    obtain ⟨-, onTrue, onFalse, isTrue, isFalse, trueLeads, falseLeads⟩ :=
      hasNode.jumps.branching (by rw [isLoop]; rfl)
    obtain rfl := trueLeads.unique counting.distinct whenTrue
    obtain rfl := falseLeads.unique counting.distinct whenFalse
    exact ⟨node, found, isLoop, condition, by simp [Jumps.branch, isTrue],
      by simp [Jumps.branch, isFalse]⟩
  case body =>
    intro position after_loop before_last
    obtain ⟨definition, variableName, defined, typed, names, noCounter,
      noLimit, leads⟩ := counting.body position after_loop before_last
    obtain ⟨node, found, hasNode⟩ := exists_node defined
    rw [← hasNode.properties_eq] at names
    rcases typed with typed | typed
    · have isAssign := compiled.hasType found typed
      exact ⟨node, variableName, found, .inl isAssign, names, noCounter,
        noLimit, next_eq hasNode isAssign rfl leads⟩
    · have isCompute := compiled.hasType found typed
      exact ⟨node, variableName, found, .inr isCompute, names, noCounter,
        noLimit, next_eq hasNode isCompute rfl leads⟩
  case adds =>
    obtain ⟨definition, defined, typed, names, value, leads⟩ := counting.adds
    obtain ⟨node, found, hasNode⟩ := exists_node defined
    have isCompute := compiled.hasType found typed
    rw [← hasNode.properties_eq] at names value
    exact ⟨node, found, isCompute, names, value,
      next_eq hasNode isCompute rfl leads⟩

theorem exists_compile (counting : document.IsCounting count first)
    (name : String) :
    ∃ workflow, document.compile name = .ok workflow ∧
      document.HasWorkflow name workflow := by
  have spec := document.compile_spec name
  cases compiled : document.compile name with
  | error error =>
      rw [compiled] at spec
      obtain ⟨place, fault, -⟩ := spec
      exact (wellFormed_iff.1 counting.wellFormed place error fault).elim
  | ok workflow =>
      rw [compiled] at spec
      exact ⟨workflow, rfl, spec.1⟩

end IsCounting

end Document

/-! ### Visits and steps -/

namespace Visit

variable {count position : Nat} {looped : List (List Visit)}

theorem IsRound.outputs {round : List Visit} (isRound : IsRound count round) :
    (round.filter fun visit => visit.position == 1).map output =
      [some "true"] := by
  obtain ⟨check, others, rfl, isAt, shown, places⟩ := isRound
  have elsewhere : (others.filter fun visit => visit.position == 1) = [] := by
    rw [List.filter_eq_nil_iff]
    intro visit member isOne
    have place : visit.position ∈ List.range' 2 (count + 1) := by
      rw [← places]
      exact List.mem_map_of_mem member
    rw [beq_iff_eq.1 isOne, List.mem_range'_1] at place
    omega
  rw [List.filter_cons_of_pos (by simpa using isAt), elsewhere]
  simp [shown]

theorem IsRound.length {round : List Visit} (isRound : IsRound count round)
    (after_loop : 2 ≤ position) (inside : position < count + 3) :
    (round.filter fun visit => visit.position == position).length = 1 := by
  obtain ⟨check, others, rfl, isAt, -, places⟩ := isRound
  have member : position ∈ List.range' 2 (count + 1) := by
    rw [List.mem_range'_1]
    omega
  have once : (others.map Visit.position).count position = 1 := by
    rw [places, List.Nodup.count (List.nodup_range' 1), if_pos member]
  rw [List.filter_cons_of_neg (by simp [isAt]; omega),
    ← List.countP_eq_length_filter]
  rw [List.count_eq_countP, List.countP_map] at once
  exact once

/-- The loop holds once in each round. -/
theorem outputs_of_rounds
    (areRounds : ∀ round ∈ looped, IsRound count round) :
    (looped.flatten.filter fun visit => visit.position == 1).map output =
      List.replicate looped.length (some "true") := by
  induction looped with
  | nil => rfl
  | cons round looped ih =>
      have isRound := areRounds round List.mem_cons_self
      have others := ih fun other member =>
        areRounds other (List.mem_cons_of_mem _ member)
      rw [List.flatten_cons, List.filter_append, List.map_append,
        isRound.outputs, others, List.length_cons, List.replicate_succ]
      rfl

/-- Each node of the body is visited once in each round. -/
theorem length_of_rounds
    (areRounds : ∀ round ∈ looped, IsRound count round)
    (after_loop : 2 ≤ position) (inside : position < count + 3) :
    (looped.flatten.filter fun visit => visit.position == position).length =
      looped.length := by
  induction looped with
  | nil => rfl
  | cons round looped ih =>
      have isRound := areRounds round List.mem_cons_self
      have others := ih fun other member =>
        areRounds other (List.mem_cons_of_mem _ member)
      rw [List.flatten_cons, List.filter_append, List.length_append,
        isRound.length after_loop inside, others, List.length_cons,
        Nat.add_comm]

/-- The steps that are recorded under the id of a node are the visits of the
node. -/
theorem outputs_of_recorded {visits : List Visit} {steps : List HistoryStep}
    {nodeId : String} (recorded : List.Forall₂ IsRecordedBy visits steps)
    (named : ∀ visit ∈ visits,
      visit.node.id = nodeId ↔ visit.position = position) :
    (steps.filter fun step => step.nodeId == nodeId).map HistoryStep.output =
      (visits.filter fun visit => visit.position == position).map output := by
  induction recorded with
  | nil => rfl
  | @cons visit step visits steps first rest ih =>
      have others := ih fun other member =>
        named other (List.mem_cons_of_mem _ member)
      have here := named visit List.mem_cons_self
      rw [← first.nodeId_eq] at here
      by_cases isAt : visit.position = position
      · rw [List.filter_cons_of_pos (by simpa using here.2 isAt),
          List.filter_cons_of_pos (by simpa using isAt), List.map_cons,
          List.map_cons, others, first.output_eq]
      · have notNamed : ¬ step.nodeId = nodeId := fun same => isAt (here.1 same)
        rw [List.filter_cons_of_neg (by simpa using notNamed),
          List.filter_cons_of_neg (by simpa using isAt), others]

end Visit

namespace Engine

variable {engine : Engine} {fuel count : Nat} {workflow : Workflow}
  {bindings : Variables} {before after : Run} {transcript : Run.Transcript}
  {first limit : Int}

/-- The visits of a counting workflow, from its start to its end. -/
structure Counted (count rounds : Nat) (visits : List Visit) : Prop where
  outputs : (visits.filter fun visit => visit.position == 1).map Visit.output =
    List.replicate rounds (some "true") ++ [some "false"]
  lengths : ∀ position, 2 ≤ position → position < count + 3 →
    (visits.filter fun visit => visit.position == position).length = rounds

theorem Walk.counted {scope : Scope} {frame reached : Frame}
    {visits : List Visit} {ended : Except Interrupt Unit}
    (standard : engine.registry = Registry.standard)
    (counting : workflow.IsCounting count first)
    (small : first.natAbs ≤ exactLimit) (smallToo : limit.natAbs ≤ exactLimit)
    (limited : frame.bindings.get? "times" = some (intText limit))
    (enough : 2 + (limit - first).toNat * (count + 2) < fuel)
    (walk : Walk engine scope workflow fuel (.node workflow.start) frame before
      transcript visits ended reached after)
    (unseen : ¬ transcript.SeesAbort) :
    ended = .ok () ∧
      reached.bindings.get? "i" = some (intText (max first limit)) ∧
      Counted count (limit - first).toNat visits := by
  obtain ⟨node, found, isAssign, names, value, next⟩ := counting.sets
  have does := @does_set engine first node frame.bindings standard isAssign
    names value
  rw [next] at does
  obtain ⟨spare, rfl⟩ := Nat.exists_eq_add_of_lt enough
  have steps : 2 + (limit - first).toNat * (count + 2) + spare + 1 =
      spare + 1 + (limit - first).toNat * (count + 2) + 2 := by
    omega
  rw [counting.start_eq, steps] at walk
  obtain ⟨visit, others, middle, current, rest, rfl, isAt, -, same, unseen,
    goesOn⟩ := walk.after_does found does unseen
  have counts : middle.bindings.Count first limit := by
    rw [same]
    exact Variables.count_insert limited first
  have stepsToo : spare + 1 + (limit - first).toNat * (count + 2) + 1 =
      spare + 2 + (limit - first).toNat * (count + 2) := by
    omega
  rw [stepsToo] at goesOn
  obtain ⟨looped, last, rfl, length_eq, areRounds, isLast, shown, ended,
    counted⟩ := goesOn.counts standard counting rfl counts small smallToo
      unseen
  refine ⟨ended, counted, ?_, ?_⟩
  · rw [List.filter_cons_of_neg (by simp [isAt]), List.filter_append,
      List.map_append, Visit.outputs_of_rounds areRounds, length_eq]
    simp [isLast, shown]
  · intro position after_loop inside
    have notFirst : visit.position ≠ position := by omega
    have notLast : last.position ≠ position := by omega
    rw [List.filter_cons_of_neg (by simpa using notFirst), List.filter_append,
      List.length_append, Visit.length_of_rounds areRounds after_loop inside,
      length_eq]
    simp [notLast]

/-- A loop that counts from one integer to another one executes its body as
often as the counter says.  For all integers of a size up to `2 ^ 53`, the
document is accepted; and if its run may take enough steps and is not aborted,
then it is completed with the greater one of the integers in the counter.  Its
loop holds as often as the first integer is below the second one, and then no
longer, and the nodes of its body are executed as often. -/
theorem counts_exactly {document : Document}
    (standard : engine.registry = Registry.standard)
    (nestable : 0 < engine.options.maxCallDepth)
    (counting : document.IsCounting count first)
    (small : first.natAbs ≤ 2 ^ 53) (smallToo : limit.natAbs ≤ 2 ^ 53)
    (name : String) :
    ∃ workflow, document.compile name = .ok workflow ∧
      ∀ (bindings : Variables) (id reference : String) (fuel : Nat)
        (transcript : Run.Transcript) (outcome? : Option RunOutcome)
        (after : Run),
        bindings.get? "times" = some (intText limit) →
        2 + (limit - first).toNat * (count + 2) < fuel →
        (engine.execute fuel workflow bindings).Yields
          (Run.fresh id reference) transcript outcome? after →
        ¬ transcript.SeesAbort →
        ∃ outcome, outcome? = some outcome ∧
          outcome.status = .completed ∧
          outcome.bindings.get? "i" = some (intText (max first limit)) ∧
          (∀ nodeId, document.HasId 1 nodeId →
            (outcome.history.stepsFor nodeId).map HistoryStep.output =
              List.replicate (limit - first).toNat (some "true") ++
                [some "false"]) ∧
          ∀ position nodeId, 2 ≤ position → position < count + 3 →
            document.HasId position nodeId →
            (outcome.history.stepsFor nodeId).length =
              (limit - first).toNat := by
  obtain ⟨workflow, compiled, hasWorkflow⟩ := counting.exists_compile name
  have counts := counting.of_hasWorkflow hasWorkflow
  refine ⟨workflow, compiled, ?_⟩
  intro bindings id reference fuel transcript outcome? after limited enough
    yields unseen
  obtain ⟨outcome, rfl⟩ : ∃ outcome, outcome? = some outcome := by
    cases proceeds_of_yields yields with
    | ended finished runs ends => exact ⟨_, rfl⟩
    | exhausted runs endless =>
        cases runs with
        | refused guarded => cases endless
        | entered entered runs =>
            obtain ⟨visits, walk⟩ := walk_of_yields runs
            obtain ⟨rfl, -⟩ := walk.counted standard counts small smallToo
              limited enough fun seen => unseen (by simp [seen])
            cases endless
  refine ⟨outcome, rfl, ?_⟩
  obtain ⟨visits, executes⟩ := executes_of_yields yields
  have recorded := executes.forall₂_steps
  have named {position : Nat} {nodeId : String}
      (isId : document.HasId position nodeId) : ∀ visit ∈ visits,
        visit.node.id = nodeId ↔ visit.position = position := by
    intro visit member
    have isIdToo := hasWorkflow.hasId (executes.forall_nodes visit member)
    constructor
    · rintro rfl
      exact counting.distinct _ _ _ isIdToo isId
    · rintro rfl
      exact isIdToo.unique isId
  cases executes with
  | refused guarded =>
      obtain ⟨noRoom, -⟩ := push_empty_eq_error_iff.1 guarded
      exact (nestable.ne' noRoom).elim
  | walked entered walk ends finished =>
      obtain ⟨rfl, counted, visited⟩ := walk.counted standard counts small
        smallToo limited enough fun seen => unseen (by simp [seen])
      cases ends
      refine ⟨rfl, counted, ?_, ?_⟩
      · intro nodeId isId
        rw [HistoryRecord.stepsFor, Visit.outputs_of_recorded recorded
          (named isId), visited.outputs]
      · intro position nodeId after_loop inside isId
        have lengths := congrArg List.length
          (Visit.outputs_of_recorded recorded (named isId))
        rw [List.length_map, List.length_map,
          visited.lengths position after_loop inside] at lengths
        exact lengths

end Engine

/-- A document that adds two to a total, as often as it is told. -/
def adder : Document :=
  ⟨none, none, none,
    [⟨some "start", "variable", none, none, none, none,
        .ofList [("name", .string "i"), ("value", .integer 0)]⟩,
      ⟨some "check", "while", none, some "body", some "end", none,
        .ofList [("condition", .string Template.belowLimit)]⟩,
      ⟨some "body", "set", none, none, none, none,
        .ofList [("name", .string "total"),
          ("value", .string "\x7b\x7btotal\x7d\x7d + 2")]⟩,
      ⟨some "step", "set", some "check", none, none, none,
        .ofList [("name", .string "i"),
          ("value", .string Template.nextCount)]⟩]⟩

theorem getElem?_of_hasId_adder {position : Nat} {id : String}
    (named : adder.HasId position id) :
    ["start", "check", "body", "step"][position]? = some id := by
  obtain ⟨definition, found, rfl⟩ := named
  match position with
  | 0 | 1 | 2 | 3 =>
      cases found
      decide +kernel
  | _ + 4 => cases found

theorem adder_noEnd : ¬ adder.Declares "end" := by
  rintro ⟨position, named⟩
  have member := List.mem_of_getElem? (getElem?_of_hasId_adder named)
  revert member
  decide

theorem adder_isCounting : adder.IsCounting 1 0 where
  length_eq := rfl
  starts := by
    rintro id ⟨-, text, impossible, -⟩
    cases impossible
  distinct := by
    intro position other id named namedToo
    have found := getElem?_of_hasId_adder named
    have foundToo := getElem?_of_hasId_adder namedToo
    have inside := (List.getElem?_eq_some_iff.1 found).1
    exact (List.getElem?_inj inside (by decide)).1 (found.trans foundToo.symm)
  taken := by
    intro position definition nodeType field defined typed given
    match position with
    | 0 =>
        have isAssign : adder.HasType 0 .assign := ⟨_, rfl, by decide⟩
        obtain rfl := typed.unique isAssign
        cases defined
        cases field <;> first | rfl | cases given
    | 1 =>
        have isLoop : adder.HasType 1 .loop := ⟨_, rfl, by decide⟩
        obtain rfl := typed.unique isLoop
        cases defined
        cases field <;> first | rfl | cases given
    | 2 =>
        have isCompute : adder.HasType 2 .compute := ⟨_, rfl, by decide⟩
        obtain rfl := typed.unique isCompute
        cases defined
        cases field <;> first | rfl | cases given
    | 3 =>
        have isCompute : adder.HasType 3 .compute := ⟨_, rfl, by decide⟩
        obtain rfl := typed.unique isCompute
        cases defined
        cases field <;> first | rfl | cases given
    | _ + 4 => cases defined
  sets := by
    refine ⟨_, rfl, ⟨_, rfl, by decide⟩, ?_, by decide +kernel, rfl⟩
    exact ⟨"i", by decide +kernel, Template.isTokenFree_of_noBrace (by decide),
      by decide, by decide⟩
  checks := by
    refine ⟨_, rfl, ⟨_, rfl, by decide⟩, by decide +kernel, rfl, ?_, ?_⟩
    · exact ⟨_, rfl, by decide +kernel⟩
    · exact ⟨by decide, adder_noEnd⟩
  body := by
    intro position after_loop before_last
    obtain rfl : position = 2 := by omega
    refine ⟨_, "total", rfl, .inr ⟨_, rfl, by decide⟩, ?_, by decide,
      by decide, rfl⟩
    exact ⟨"total", by decide +kernel,
      Template.isTokenFree_of_noBrace (by decide), by decide, by decide⟩
  adds := by
    refine ⟨_, rfl, ⟨_, rfl, by decide⟩, ?_, by decide +kernel, ?_⟩
    · exact ⟨"i", by decide +kernel,
        Template.isTokenFree_of_noBrace (by decide), by decide, by decide⟩
    · exact ⟨_, rfl, by decide +kernel⟩

theorem Engine.counts_exactly_adder :
    ∃ workflow outcome, adder.compile "default" = .ok workflow ∧
      (Oracle.refusing.run (unattended.execute 20 workflow
        (.ofList [("times", "2"), ("total", "0")]))
        (Run.fresh "id" "adder.yaml") .still).value.1 = some outcome ∧
      outcome.status = .completed ∧
      outcome.bindings.get? "i" = some "2" ∧
      (outcome.history.stepsFor "check").map HistoryStep.output =
        [some "true", some "true", some "false"] ∧
      (outcome.history.stepsFor "body").length = 2 := by
  obtain ⟨workflow, compiled, runs⟩ := @Engine.counts_exactly unattended 1 0 2
    adder rfl (by decide) adder_isCounting (by decide) (by decide) "default"
  obtain ⟨outcome, ended, completed, counted, checked, executed⟩ :=
    runs (.ofList [("times", "2"), ("total", "0")]) "id" "adder.yaml" 20 _ _ _
      (by decide +kernel) (by decide) (Oracle.refusing.yields_run _ _ .still)
      (Oracle.not_seesAbort_run _ _ _ _)
  refine ⟨workflow, outcome, compiled, ended, completed, ?_, ?_, ?_⟩
  · rw [counted]
    decide +kernel
  · exact checked "check" ⟨_, rfl, by decide +kernel⟩
  · exact executed 2 "body" (by decide) (by decide) ⟨_, rfl, by decide +kernel⟩

end Runbook
