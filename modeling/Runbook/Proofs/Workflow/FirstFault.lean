import Mathlib.Data.List.TakeWhile
import Runbook.Workflow.Compile
import Runbook.Workflow.NodeType

/-!
# First faults

What makes a document well formed, which workflows it stands for, and what can
be wrong with it.  Faults have places in the order in which a document is
checked, so that a document has a first fault.

A document without faults is well formed, and a document with faults has only
one first fault.
-/

namespace Runbook

/-- The id that a node has: the one given without the blanks around it, or one
made from the number of the node if none is given or it is blank. -/
def NodeDefinition.effectiveId (definition : NodeDefinition)
    (position : Nat) : String :=
  match definition.id with
  | none => s!"node-{position + 1}"
  | some text =>
    if Text.trim text = "" then s!"node-{position + 1}" else Text.trim text

/-- What a node gives for a field that names a successor. -/
def NodeDefinition.given? (definition : NodeDefinition) :
    JumpField → Option String
  | .next => definition.next
  | .trueNext => definition.trueNext
  | .falseNext => definition.falseNext

/-- The fields that nodes of a type may have. -/
def NodeType.takes (nodeType : NodeType) : JumpField → Bool
  | .next => !nodeType.isBranching
  | .trueNext | .falseNext => nodeType.isBranching

/-- The fields in the order in which they are checked. -/
def JumpField.rank : JumpField → Nat
  | .next => 0
  | .trueNext => 1
  | .falseNext => 2

namespace Document

variable (document : Document)

/-- The node at a position has an id. -/
def HasId (position : Nat) (id : String) : Prop :=
  ∃ definition, document.nodes[position]? = some definition ∧
    definition.effectiveId position = id

/-- The node at a position has a type. -/
def HasType (position : Nat) (nodeType : NodeType) : Prop :=
  ∃ definition, document.nodes[position]? = some definition ∧
    Text.trim definition.tag = nodeType.tag

/-- Some node has an id. -/
def Declares (id : String) : Prop :=
  ∃ position, document.HasId position id

/-- The start node that a document names, if it names one. -/
def NamesStart (id : String) : Prop :=
  id ≠ "" ∧ ∃ text, document.startNode = some text ∧ Text.trim text = id

/-- The node at a position may name a target: a node further on, a loop, or
the end unless a node has its name. -/
def Allows (position : Nat) (target : String) : Prop :=
  (∃ index, document.HasId index target ∧
    (position < index ∨ document.HasType index .loop)) ∨
  target = "end" ∧ ¬ document.Declares "end"

/-- Documents that stand for a workflow. -/
structure WellFormed : Prop where
  nonempty : document.nodes ≠ []
  typed : ∀ position, position < document.nodes.length →
    ∃ nodeType, document.HasType position nodeType
  distinct : ∀ first second id, document.HasId first id →
    document.HasId second id → first = second
  taken : ∀ position definition nodeType field,
    document.nodes[position]? = some definition →
    document.HasType position nodeType → (definition.given? field).isSome →
    nodeType.takes field = true
  branches : ∀ position definition nodeType,
    document.nodes[position]? = some definition →
    document.HasType position nodeType → nodeType.isBranching = true →
    definition.trueNext.isSome
  allowed : ∀ position definition field text,
    document.nodes[position]? = some definition →
    definition.given? field = some text →
    document.Allows position (Text.trim text)
  started : ∀ id, document.NamesStart id → document.Declares id

/-! ### The workflow of a document -/

/-- What a written target stands for. -/
def StandsFor (text : String) : Target → Prop
  | .node index => document.HasId index (Text.trim text)
  | .finish => Text.trim text = "end" ∧ ¬ document.Declares "end"
  | .pastEnd => False

/-- Where a node leads that names no successor. -/
def following (position : Nat) : Target :=
  if position + 1 < document.nodes.length then .node (position + 1)
  else .pastEnd

/-- Where the field of a node leads. -/
def FieldLeads (position : Nat) (definition : NodeDefinition)
    (field : JumpField) (target : Target) : Prop :=
  match definition.given? field with
  | some text => document.StandsFor text target
  | none => target = document.following position

/-- The jumps of a node are those that its fields stand for. -/
structure HasJumps (position : Nat) (definition : NodeDefinition)
    (nodeType : NodeType) (jumps : Jumps) : Prop where
  branching : nodeType.isBranching = true →
    jumps.next = document.following position ∧
      ∃ whenTrue whenFalse, jumps.trueNext = some whenTrue ∧
        jumps.falseNext = some whenFalse ∧
        document.FieldLeads position definition .trueNext whenTrue ∧
        document.FieldLeads position definition .falseNext whenFalse
  plain : nodeType.isBranching = false →
    jumps.trueNext = none ∧ jumps.falseNext = none ∧
      document.FieldLeads position definition .next jumps.next

/-- The node that a definition stands for. -/
structure HasNode (position : Nat) (definition : NodeDefinition)
    (node : Node) : Prop where
  id_eq : node.id = definition.effectiveId position
  tag_eq : Text.trim definition.tag = node.nodeType.tag
  properties_eq : node.properties =
    Compile.propertyTexts definition.properties
  jumps : document.HasJumps position definition node.nodeType node.jumps

/-- The workflow that a document stands for under a name. -/
structure HasWorkflow (name : String) (workflow : Workflow) : Prop where
  name_eq : workflow.name = name
  description_eq : workflow.description = document.description
  length_eq : workflow.nodes.length = document.nodes.length
  node : ∀ position definition node,
    document.nodes[position]? = some definition →
    workflow.nodes[position]? = some node →
    document.HasNode position definition node
  indexOf?_iff : ∀ id position, workflow.indexOf? id = some position ↔
    workflow.order[position]? = some id
  start_lt : workflow.start < workflow.nodes.length
  start_named : ∀ id, document.NamesStart id →
    document.HasId workflow.start id
  start_unnamed : (∀ id, ¬ document.NamesStart id) → workflow.start = 0

/-! ### Faults -/

/-- What is wrong with a target that a node names in a field. -/
inductive TargetFault (position : Nat) (field : JumpField)
    (target : String) : ParseError → Prop
  | undeclared {id : String} (named : document.HasId position id)
      (unknown : ¬ document.Declares target) (noEnd : target ≠ "end") :
      TargetFault position field target (.undeclaredTarget id field target)
  | backward {id : String} {index : Nat} {nodeType : NodeType}
      (named : document.HasId position id)
      (found : document.HasId index target) (back : index ≤ position)
      (typed : document.HasType index nodeType) (noLoop : nodeType ≠ .loop) :
      TargetFault position field target
        (.illegalBackReference id target nodeType)

/-- What is wrong with the successors of a node, and how much is checked
before. -/
inductive JumpFault (position : Nat) : Nat → ParseError → Prop
  /-- The node has a field that nodes of its type do not have. -/
  | unexpected {definition : NodeDefinition} {nodeType : NodeType}
      {field : JumpField}
      (found : document.nodes[position]? = some definition)
      (typed : document.HasType position nodeType)
      (given : (definition.given? field).isSome)
      (untaken : nodeType.takes field = false) :
      JumpFault position field.rank
        (.unexpectedBranch (definition.effectiveId position) nodeType field)
  /-- The node lacks a field that nodes of its type must have. -/
  | missing {definition : NodeDefinition} {nodeType : NodeType}
      (found : document.nodes[position]? = some definition)
      (typed : document.HasType position nodeType)
      (branching : nodeType.isBranching = true)
      (absent : definition.trueNext = none) :
      JumpFault position 3
        (.missingBranch (definition.effectiveId position) nodeType .trueNext)
  | target {definition : NodeDefinition} (field : JumpField) {text : String}
      {error : ParseError}
      (found : document.nodes[position]? = some definition)
      (given : definition.given? field = some text)
      (fault : document.TargetFault position field (Text.trim text) error) :
      JumpFault position (4 + field.rank) error

/-- Where a document is checked: at which stage, at which node, and how much
of the node is checked before. -/
structure Place where
  stage : Nat
  position : Nat
  rank : Nat

/-- What is checked at a place comes before what is checked at another. -/
def Place.Before (first second : Place) : Prop :=
  first.stage < second.stage ∨ first.stage = second.stage ∧
    (first.position < second.position ∨ first.position = second.position ∧
      first.rank < second.rank)

/-- What is wrong with a document: first it may be empty, then the types and
the ids of its nodes may be faulty, then their successors, and last the start
node. -/
inductive Fault : Place → ParseError → Prop
  | empty (none : document.nodes = []) : Fault ⟨0, 0, 0⟩ .empty
  | unknownType {position : Nat} {definition : NodeDefinition}
      (found : document.nodes[position]? = some definition)
      (unknown : ∀ nodeType, ¬ document.HasType position nodeType) :
      Fault ⟨1, position, 0⟩ (.unknownNodeType
        (definition.effectiveId position) (Text.trim definition.tag))
  | duplicate {position earlier : Nat} {id : String}
      (named : document.HasId position id) (before : earlier < position)
      (taken : document.HasId earlier id) :
      Fault ⟨1, position, 1⟩ (.duplicateNodeId id)
  | jump {position rank : Nat} {error : ParseError}
      (fault : document.JumpFault position rank error) :
      Fault ⟨2, position, rank⟩ error
  | start {id : String} (named : document.NamesStart id)
      (unknown : ¬ document.Declares id) :
      Fault ⟨3, 0, 0⟩ (.unknownStartNode id)

/-- The first fault of a document in the order in which it is checked. -/
def FirstFault (error : ParseError) : Prop :=
  ∃ place, document.Fault place error ∧
    ∀ earlier other, earlier.Before place → ¬ document.Fault earlier other

end Document

end Runbook

/-! ## The first fault of a document -/

namespace Runbook

namespace Text

/-- A text is blank if nothing is left of it without its blanks. -/
theorem trim_eq_empty_iff {text : String} :
    trim text = "" ↔ isBlankText text = true := by
  rw [trim, String.ofList_eq_empty_iff, trimBoth, trimRight,
    List.reverse_eq_nil_iff, List.dropWhile_eq_nil_iff]
  simp only [List.mem_reverse]
  rw [isBlankText, List.all_eq_true]
  constructor
  · intro blank character member
    by_contra notBlank
    have nonempty : trimLeft text.toList ≠ [] := by
      intro empty
      rw [trimLeft, List.dropWhile_eq_nil_iff] at empty
      exact notBlank (empty character member)
    have headBlank := blank _ (List.head_mem nonempty)
    have headNot : isBlank ((trimLeft text.toList).head nonempty) = false :=
      List.head_dropWhile_not isBlank nonempty
    rw [headBlank] at headNot
    cases headNot
  · intro blank character member
    exact blank character ((List.dropWhile_sublist _).subset member)

end Text

namespace NodeType

/-- Every type is found by its tag. -/
theorem find?_tag (nodeType : NodeType) :
    (all.find? fun other => other.tag == nodeType.tag) = some nodeType := by
  cases nodeType <;> rfl

theorem tag_injective {first second : NodeType}
    (same : first.tag = second.tag) : first = second := by
  have found := find?_tag first
  rw [same, find?_tag second] at found
  exact (Option.some.inj found).symm

/-- The type of a tag is the one whose tag it is without its blanks. -/
theorem ofTag?_eq_some_iff {text : String} {nodeType : NodeType} :
    ofTag? text = some nodeType ↔ Text.trim text = nodeType.tag := by
  unfold ofTag?
  constructor
  · intro found
    have sameTag := List.find?_some found
    exact (beq_iff_eq.1 sameTag).symm
  · intro same
    rw [same, find?_tag]

end NodeType

theorem JumpField.rank_injective {field another : JumpField}
    (same : field.rank = another.rank) : field = another := by
  cases field <;> cases another <;> first | rfl | cases same

namespace Document

variable {document : Document} {error other : ParseError}

/-! ### Stages -/

/-- Whatever is wrong with the type, the id or the successors of a node, there
is such a node. -/
theorem Fault.lt_length {stage position rank : Nat}
    (fault : document.Fault ⟨stage, position, rank⟩ error)
    (ofNode : stage = 1 ∨ stage = 2) : position < document.nodes.length := by
  have inside : ∀ {definition : NodeDefinition},
      document.nodes[position]? = some definition →
      position < document.nodes.length := by
    intro definition found
    exact (List.getElem?_eq_some_iff.1 found).1
  cases fault with
  | empty => simp at ofNode
  | unknownType found unknown => exact inside found
  | duplicate named before taken =>
      obtain ⟨definition, found, -⟩ := named
      exact inside found
  | jump fault =>
      cases fault with
      | unexpected found typed given untaken => exact inside found
      | missing found typed branching absent => exact inside found
      | target field found given fault => exact inside found
  | start => simp at ofNode

/-- There is nothing wrong with a document before a stage. -/
def FaultlessBefore (document : Document) (stage : Nat) : Prop :=
  ∀ place error, place.stage < stage → ¬ document.Fault place error

/-- The first fault of the first stage with a fault is the first fault. -/
theorem FaultlessBefore.firstFault {stage position rank : Nat}
    (faultless : document.FaultlessBefore stage)
    (fault : document.Fault ⟨stage, position, rank⟩ error)
    (first : ∀ earlier lower other, earlier < position ∨
      earlier = position ∧ lower < rank →
      ¬ document.Fault ⟨stage, earlier, lower⟩ other) :
    document.FirstFault error := by
  refine ⟨_, fault, ?_⟩
  rintro ⟨before, earlier, lower⟩ other (isBefore | ⟨rfl, isEarlier⟩)
  · exact faultless _ other isBefore
  · exact first earlier lower other isEarlier

/-- There is nothing wrong before the next stage if there is nothing wrong at
this one. -/
theorem FaultlessBefore.succ {stage : Nat}
    (faultless : document.FaultlessBefore stage)
    (here : ∀ position rank error,
      ¬ document.Fault ⟨stage, position, rank⟩ error) :
    document.FaultlessBefore (stage + 1) := by
  rintro ⟨before, position, rank⟩ error isBefore
  rcases Nat.lt_succ_iff_lt_or_eq.1 isBefore with earlier | same
  · exact faultless _ error earlier
  · obtain rfl : before = stage := same
    exact here position rank error

theorem faultlessBefore_one (nodeful : document.nodes ≠ []) :
    document.FaultlessBefore 1 := by
  rintro ⟨stage, position, rank⟩ error isBefore fault
  obtain rfl : stage = 0 := by simpa using isBefore
  cases fault with
  | empty nodeless => exact nodeful nodeless

/-! ### Documents without faults -/

theorem HasId.lt_length {position : Nat} {id : String}
    (named : document.HasId position id) :
    position < document.nodes.length := by
  obtain ⟨definition, found, -⟩ := named
  exact (List.getElem?_eq_some_iff.1 found).1

theorem HasId.unique {position : Nat} {id another : String}
    (named : document.HasId position id)
    (namedToo : document.HasId position another) : id = another := by
  obtain ⟨definition, found, rfl⟩ := named
  obtain ⟨other, foundToo, rfl⟩ := namedToo
  rw [found, Option.some.injEq] at foundToo
  rw [foundToo]

theorem HasType.unique {position : Nat} {nodeType another : NodeType}
    (typed : document.HasType position nodeType)
    (typedToo : document.HasType position another) :
    nodeType = another := by
  obtain ⟨definition, found, sameTag⟩ := typed
  obtain ⟨other, foundToo, sameTagToo⟩ := typedToo
  rw [found, Option.some.injEq] at foundToo
  rw [← foundToo] at sameTagToo
  exact NodeType.tag_injective (sameTag.symm.trans sameTagToo)

/-- Ids are given once if there is nothing wrong with the ids. -/
theorem distinct_of_faultless
    (faultless : ∀ position error, ¬ document.Fault ⟨1, position, 1⟩ error)
    {first second : Nat} {id : String} (named : document.HasId first id)
    (namedToo : document.HasId second id) : first = second := by
  rcases Nat.lt_trichotomy first second with isLess | same | isMore
  · exact (faultless second _ (.duplicate namedToo isLess named)).elim
  · exact same
  · exact (faultless first _ (.duplicate named isMore namedToo)).elim

/-- A target is allowed if there is nothing wrong with it. -/
theorem allows_of_faultless {position : Nat} {id target : String}
    (field : JumpField) (named : document.HasId position id)
    (typed : ∀ index, index < document.nodes.length →
      ∃ nodeType, document.HasType index nodeType)
    (faultless : ∀ error,
      ¬ document.TargetFault position field target error) :
    document.Allows position target := by
  by_cases declares : document.Declares target
  · obtain ⟨index, found⟩ := declares
    obtain ⟨nodeType, isType⟩ := typed index found.lt_length
    refine .inl ⟨index, found, ?_⟩
    by_contra notAllowed
    rw [not_or, Nat.not_lt] at notAllowed
    apply faultless _
    refine .backward named found notAllowed.1 isType ?_
    rintro rfl
    exact notAllowed.2 isType
  · by_cases isEnd : target = "end"
    · exact .inr ⟨isEnd, isEnd ▸ declares⟩
    · exact (faultless _ (.undeclared named declares isEnd)).elim

/-- There is nothing wrong with a target that is allowed. -/
theorem WellFormed.not_targetFault (wellFormed : document.WellFormed)
    {position : Nat} {field : JumpField} {target : String}
    (allows : document.Allows position target) :
    ¬ document.TargetFault position field target error := by
  intro fault
  cases fault with
  | undeclared _ unknown noEnd =>
      rcases allows with ⟨index, found, -⟩ | ⟨isEnd, -⟩
      · exact unknown ⟨index, found⟩
      · exact noEnd isEnd
  | @backward _ index nodeType _ found back typed noLoop =>
      rcases allows with ⟨other, foundToo, isAllowed⟩ | ⟨isEnd, undeclared⟩
      · obtain rfl := wellFormed.distinct _ _ _ found foundToo
        rcases isAllowed with isLater | isLoop
        · omega
        · exact noLoop (typed.unique isLoop)
      · exact undeclared ⟨index, isEnd ▸ found⟩

/-- A document is well formed exactly if there is nothing wrong with it. -/
theorem wellFormed_iff :
    document.WellFormed ↔ ∀ place error, ¬ document.Fault place error := by
  constructor
  · intro wellFormed place error fault
    cases fault with
    | empty nodeless => exact wellFormed.nonempty nodeless
    | unknownType found unknown =>
        obtain ⟨nodeType, typed⟩ :=
          wellFormed.typed _ (List.getElem?_eq_some_iff.1 found).1
        exact unknown nodeType typed
    | duplicate named before taken =>
        have same := wellFormed.distinct _ _ _ named taken
        omega
    | jump fault =>
        cases fault with
        | unexpected found typed given untaken =>
            rw [wellFormed.taken _ _ _ _ found typed given] at untaken
            cases untaken
        | missing found typed branching absent =>
            have present := wellFormed.branches _ _ _ found typed branching
            rw [absent] at present
            cases present
        | target field found given fault =>
            exact wellFormed.not_targetFault
              (wellFormed.allowed _ _ _ _ found given) fault
    | start named unknown => exact unknown (wellFormed.started _ named)
  · intro faultless
    have typed : ∀ index, index < document.nodes.length →
        ∃ nodeType, document.HasType index nodeType := by
      intro index inside
      by_contra untyped
      exact faultless _ _ (.unknownType (List.getElem?_eq_getElem inside)
        (not_exists.1 untyped))
    constructor
    · intro nodeless
      exact faultless _ _ (.empty nodeless)
    · exact typed
    · intro first second id named namedToo
      exact distinct_of_faultless (fun _ _ => faultless _ _) named namedToo
    · intro position definition nodeType field found isType given
      by_contra untaken
      rw [Bool.not_eq_true] at untaken
      exact faultless _ _ (.jump (.unexpected found isType given untaken))
    · intro position definition nodeType found isType branching
      by_contra absent
      rw [Bool.not_eq_true, Option.isSome_eq_false_iff,
        Option.isNone_iff_eq_none] at absent
      exact faultless _ _ (.jump (.missing found isType branching absent))
    · intro position definition field text found given
      refine allows_of_faultless field ⟨definition, found, rfl⟩ typed ?_
      intro error fault
      exact faultless _ _ (.jump (.target field found given fault))
    · intro id named
      by_contra unknown
      exact faultless _ _ (.start named unknown)

/-! ### The first fault is one -/

theorem Place.before_trichotomy (first second : Place) :
    first.Before second ∨ first = second ∨ second.Before first := by
  obtain ⟨stage, position, rank⟩ := first
  obtain ⟨otherStage, otherPosition, otherRank⟩ := second
  simp only [Place.Before, Place.mk.injEq]
  omega

theorem TargetFault.unique {position : Nat} {field : JumpField}
    {target : String}
    (distinct : ∀ {first second : Nat} {id : String},
      document.HasId first id → document.HasId second id → first = second)
    (fault : document.TargetFault position field target error)
    (faultToo : document.TargetFault position field target other) :
    error = other := by
  cases fault with
  | undeclared named unknown noEnd =>
      cases faultToo with
      | undeclared namedToo => rw [named.unique namedToo]
      | backward _ found => exact (unknown ⟨_, found⟩).elim
  | backward named found back typed noLoop =>
      cases faultToo with
      | undeclared _ unknown => exact (unknown ⟨_, found⟩).elim
      | backward namedToo foundToo _ typedToo _ =>
          obtain rfl := distinct found foundToo
          rw [named.unique namedToo, typed.unique typedToo]

theorem JumpFault.unique {position rank another : Nat}
    (distinct : ∀ {first second : Nat} {id : String},
      document.HasId first id → document.HasId second id → first = second)
    (fault : document.JumpFault position rank error)
    (faultToo : document.JumpFault position another other)
    (same : rank = another) : error = other := by
  have rank_lt : ∀ field : JumpField, field.rank < 3 := by
    intro field
    cases field <;> decide
  cases fault with
  | @unexpected _ _ field found typed given untaken =>
      have isLess := rank_lt field
      cases faultToo with
      | unexpected foundToo typedToo givenToo untakenToo =>
          rw [found, Option.some.injEq] at foundToo
          rw [foundToo, typed.unique typedToo, JumpField.rank_injective same]
      | missing => omega
      | target => omega
  | missing found typed branching absent =>
      cases faultToo with
      | @unexpected _ _ field _ _ _ _ =>
          have isLess := rank_lt field
          omega
      | missing foundToo typedToo _ _ =>
          rw [found, Option.some.injEq] at foundToo
          rw [foundToo, typed.unique typedToo]
      | target => omega
  | target field found given fault =>
      cases faultToo with
      | @unexpected _ _ another _ _ _ _ =>
          have isLess := rank_lt another
          omega
      | missing => omega
      | target another foundToo givenToo faultToo =>
          obtain rfl := JumpField.rank_injective (Nat.add_left_cancel same)
          rw [found, Option.some.injEq] at foundToo
          rw [foundToo, givenToo, Option.some.injEq] at given
          rw [given] at faultToo
          exact fault.unique distinct faultToo

theorem Fault.unique {place another : Place}
    (distinct : place.stage = 2 → ∀ {first second : Nat} {id : String},
      document.HasId first id → document.HasId second id → first = second)
    (fault : document.Fault place error)
    (faultToo : document.Fault another other) (same : place = another) :
    error = other := by
  cases fault with
  | empty =>
      cases faultToo with
      | empty => rfl
      | _ => simp at same
  | unknownType found unknown =>
      cases faultToo with
      | unknownType foundToo unknownToo =>
          obtain ⟨-, rfl, -⟩ := Place.mk.inj same
          rw [found, Option.some.injEq] at foundToo
          rw [foundToo]
      | _ => simp at same
  | duplicate named before taken =>
      cases faultToo with
      | duplicate namedToo beforeToo takenToo =>
          obtain ⟨-, rfl, -⟩ := Place.mk.inj same
          rw [named.unique namedToo]
      | _ => simp at same
  | jump fault =>
      cases faultToo with
      | jump faultToo =>
          obtain ⟨-, rfl, sameRank⟩ := Place.mk.inj same
          exact fault.unique (distinct rfl) faultToo sameRank
      | _ => simp at same
  | start named unknown =>
      cases faultToo with
      | start namedToo unknownToo =>
          obtain ⟨-, text, given, rfl⟩ := named
          obtain ⟨-, textToo, givenToo, rfl⟩ := namedToo
          rw [given, Option.some.injEq] at givenToo
          rw [givenToo]
      | _ => simp at same

/-- A document has at most one first fault. -/
theorem FirstFault.unique (fault : document.FirstFault error)
    (faultToo : document.FirstFault other) : error = other := by
  obtain ⟨place, isFault, first⟩ := fault
  obtain ⟨another, isFaultToo, firstToo⟩ := faultToo
  rcases place.before_trichotomy another with before | same | after
  · exact (firstToo place error before isFault).elim
  · refine isFault.unique ?_ isFaultToo same
    intro isJump _ _ _
    apply distinct_of_faultless
    intro position error
    exact first _ error (.inl (by simp [isJump]))
  · exact (first another other after isFaultToo).elim

end Document

end Runbook
