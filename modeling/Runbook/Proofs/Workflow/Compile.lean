import Runbook.Proofs.Workflow.FirstFault

/-!
# Compiling is checking

A document compiles to the workflow that it stands for, or to its first fault.
Each pass of the compiler finds the faults of its own stage, and leaves behind
what the next one needs.
-/

namespace Runbook

namespace Compile

/-- In a list whose items have keys of their own, the item with a key stands
where it is found. -/
theorem findIdx?_key_eq_some_iff {α : Type} {items : List α}
    {key : α → String}
    (distinct : ∀ {first second : Nat} {item other : α},
      items[first]? = some item → items[second]? = some other →
      key item = key other → first = second) {id : String} {index : Nat} :
    (items.findIdx? fun item => key item == id) = some index ↔
      ∃ item, items[index]? = some item ∧ key item = id := by
  rw [List.findIdx?_eq_some_iff_getElem]
  constructor
  · rintro ⟨inside, same, -⟩
    exact ⟨_, List.getElem?_eq_getElem inside, beq_iff_eq.1 same⟩
  · rintro ⟨item, at_, rfl⟩
    obtain ⟨inside, rfl⟩ := List.getElem?_eq_some_iff.1 at_
    refine ⟨inside, beq_self_eq_true _, ?_⟩
    intro earlier isEarlier same
    have before := List.getElem?_eq_getElem (isEarlier.trans inside)
    have index_eq := distinct before at_ (beq_iff_eq.1 same)
    omega

theorem nodeId_eq (definition : NodeDefinition) (position : Nat) :
    nodeId definition position = definition.effectiveId position := by
  unfold nodeId NodeDefinition.effectiveId
  cases definition.id with
  | none => rfl
  | some text =>
      simp only [Option.bind_some, Text.nonBlank?]
      by_cases blank : Text.trim text = ""
      · rw [if_pos blank, if_pos (Text.trim_eq_empty_iff.1 blank)]
        rfl
      · rw [if_neg blank,
          if_neg fun isBlank => blank (Text.trim_eq_empty_iff.2 isBlank)]
        rfl

variable {document : Document} {declared before : List Declared}
  {position : Nat} {node : Declared} {error : ParseError}

/-! ### Types and ids -/

/-- Nodes of a document, from the first one on, that have been read: each with
its type and its id, and no id twice. -/
structure Reads (document : Document) (declared : List Declared) : Prop where
  found : ∀ {position : Nat} {node : Declared},
    declared[position]? = some node →
    document.nodes[position]? = some node.definition
  id_eq : ∀ {position : Nat} {node : Declared},
    declared[position]? = some node →
    node.id = node.definition.effectiveId position
  tag_eq : ∀ {position : Nat} {node : Declared},
    declared[position]? = some node →
    Text.trim node.definition.tag = node.nodeType.tag
  distinct : ∀ {first second : Nat} {node other : Declared},
    declared[first]? = some node → declared[second]? = some other →
    node.id = other.id → first = second

namespace Reads

theorem hasId (reads : Reads document declared)
    (at_ : declared[position]? = some node) :
    document.HasId position node.id :=
  ⟨node.definition, reads.found at_, (reads.id_eq at_).symm⟩

theorem hasType (reads : Reads document declared)
    (at_ : declared[position]? = some node) :
    document.HasType position node.nodeType :=
  ⟨node.definition, reads.found at_, reads.tag_eq at_⟩

/-- What is known of the id of a node that has been read. -/
theorem id_eq_of_hasId (reads : Reads document declared)
    (at_ : declared[position]? = some node) {id : String}
    (named : document.HasId position id) : node.id = id := by
  obtain ⟨definition, found, rfl⟩ := named
  rw [reads.found at_, Option.some.injEq] at found
  rw [← found, reads.id_eq at_]

theorem type_eq_of_hasType (reads : Reads document declared)
    (at_ : declared[position]? = some node) {nodeType : NodeType}
    (typed : document.HasType position nodeType) :
    node.nodeType = nodeType := by
  obtain ⟨definition, found, sameTag⟩ := typed
  rw [reads.found at_, Option.some.injEq] at found
  apply NodeType.tag_injective
  rw [← sameTag, ← found, reads.tag_eq at_]

/-- There is nothing wrong with the types and the ids of nodes that have been
read. -/
theorem not_fault (reads : Reads document declared)
    (inside : position < declared.length) {rank : Nat} :
    ¬ document.Fault ⟨1, position, rank⟩ error := by
  have at_ := List.getElem?_eq_getElem inside
  intro fault
  cases fault with
  | unknownType found unknown => exact unknown _ (reads.hasType at_)
  | @duplicate _ earlier id named earlierIn taken =>
      have at' := List.getElem?_eq_getElem (earlierIn.trans inside)
      have sameId := (reads.id_eq_of_hasId at_ named).trans
        (reads.id_eq_of_hasId at' taken).symm
      have same := reads.distinct at_ at' sameId
      omega

/-- One more node has been read. -/
theorem append (reads : Reads document before) {definition : NodeDefinition}
    {nodeType : NodeType}
    (found : document.nodes[before.length]? = some definition)
    (typed : Text.trim definition.tag = nodeType.tag)
    (fresh : ∀ other ∈ before,
      other.id ≠ definition.effectiveId before.length) :
    Reads document (before ++
      [⟨definition.effectiveId before.length, nodeType, definition⟩]) := by
  have cases_of : ∀ {position : Nat} {node : Declared}, (before ++
      [⟨definition.effectiveId before.length, nodeType, definition⟩])[
        position]? = some node →
      before[position]? = some node ∨ position = before.length ∧
        node = ⟨definition.effectiveId before.length, nodeType,
          definition⟩ := by
    intro position node at_
    rw [List.getElem?_append] at at_
    split at at_
    · exact .inl at_
    · rename_i beyond
      have same : position = before.length := by
        have inside := (List.getElem?_eq_some_iff.1 at_).1
        simp at inside
        omega
      subst same
      simp at at_
      exact .inr ⟨rfl, at_.symm⟩
  constructor
  · intro position node at_
    rcases cases_of at_ with earlier | ⟨rfl, rfl⟩
    · exact reads.found earlier
    · exact found
  · intro position node at_
    rcases cases_of at_ with earlier | ⟨rfl, rfl⟩
    · exact reads.id_eq earlier
    · rfl
  · intro position node at_
    rcases cases_of at_ with earlier | ⟨rfl, rfl⟩
    · exact reads.tag_eq earlier
    · exact typed
  · intro first second node other at_ at' sameId
    rcases cases_of at_ with earlier | ⟨rfl, rfl⟩ <;>
      rcases cases_of at' with earlier' | ⟨rfl, rfl⟩
    · exact reads.distinct earlier earlier' sameId
    · exact (fresh _ (List.mem_of_getElem? earlier) sameId).elim
    · exact (fresh _ (List.mem_of_getElem? earlier') sameId.symm).elim
    · rfl

end Reads

/-- The first faults of the types and the ids. -/
theorem declareFrom_spec (reads : Reads document before)
    {rest : List NodeDefinition}
    (split : document.nodes = before.map Declared.definition ++ rest) :
    match declareFrom before rest with
    | .ok declared => Reads document declared ∧
        declared.length = document.nodes.length
    | .error error => ∃ position rank,
        document.Fault ⟨1, position, rank⟩ error ∧
        ∀ earlier lower other, earlier < position ∨
          earlier = position ∧ lower < rank →
          ¬ document.Fault ⟨1, earlier, lower⟩ other := by
  induction rest generalizing before with
  | nil =>
      refine ⟨reads, ?_⟩
      simp [split]
  | cons definition rest ih =>
      have found : document.nodes[before.length]? = some definition := by
        rw [split]
        simp
      have faultless : ∀ earlier, earlier < before.length → ∀ lower other,
          ¬ document.Fault ⟨1, earlier, lower⟩ other := by
        intro earlier inside lower other
        exact reads.not_fault inside
      rw [declareFrom, nodeId_eq]
      cases typed : NodeType.ofTag? definition.tag with
      | none =>
          refine ⟨before.length, 0, .unknownType found ?_, ?_⟩
          · rintro nodeType ⟨other, foundToo, sameTag⟩
            rw [found, Option.some.injEq] at foundToo
            rw [← foundToo, ← NodeType.ofTag?_eq_some_iff, typed] at sameTag
            cases sameTag
          · intro earlier lower other isEarlier
            exact faultless earlier (by omega) lower other
      | some nodeType =>
          have sameTag := NodeType.ofTag?_eq_some_iff.1 typed
          dsimp only
          by_cases present : (before.any fun declared =>
              declared.id == definition.effectiveId before.length) = true
          · rw [if_pos present]
            rw [List.any_eq_true] at present
            obtain ⟨node, member, same⟩ := present
            obtain ⟨index, inside, rfl⟩ := List.getElem_of_mem member
            have at_ := List.getElem?_eq_getElem inside
            have taken := reads.hasId at_
            rw [beq_iff_eq.1 same] at taken
            refine ⟨before.length, 1,
              .duplicate ⟨definition, found, rfl⟩ inside taken, ?_⟩
            rintro earlier lower other (isEarlier | ⟨rfl, isLower⟩)
            · exact faultless earlier isEarlier lower other
            · intro fault
              cases fault with
              | unknownType _ unknown =>
                  exact unknown nodeType ⟨definition, found, sameTag⟩
              | duplicate _ _ _ => omega
          · rw [if_neg present]
            apply ih
            · apply reads.append found sameTag
              intro other member same
              apply present
              rw [List.any_eq_true]
              exact ⟨other, member, beq_iff_eq.2 same⟩
            · simp [split]

/-! ### Successors -/

section Successors

variable (reads : Reads document declared)
  (complete : declared.length = document.nodes.length)

include reads complete

theorem Reads.exists_of_hasId {id : String}
    (named : document.HasId position id) :
    ∃ node, declared[position]? = some node ∧ node.id = id := by
  obtain ⟨definition, found, rfl⟩ := named
  have inside := (List.getElem?_eq_some_iff.1 found).1
  rw [← complete] at inside
  have at_ := List.getElem?_eq_getElem inside
  exact ⟨_, at_, reads.id_eq_of_hasId at_ ⟨definition, found, rfl⟩⟩

theorem position?_eq_some_iff {id : String} {index : Nat} :
    position? declared id = some index ↔ document.HasId index id := by
  rw [position?, findIdx?_key_eq_some_iff reads.distinct]
  constructor
  · rintro ⟨node, at_, rfl⟩
    exact reads.hasId at_
  · exact reads.exists_of_hasId complete

theorem position?_eq_none_iff {id : String} :
    position? declared id = none ↔ ¬ document.Declares id := by
  rw [Option.eq_none_iff_forall_ne_some]
  constructor
  · rintro absent ⟨index, named⟩
    exact absent index ((position?_eq_some_iff reads complete).2 named)
  · intro undeclared index found
    exact undeclared
      ⟨index, (position?_eq_some_iff reads complete).1 found⟩

/-- A target is resolved exactly if there is nothing wrong with it. -/
theorem resolve_spec (at_ : declared[position]? = some node)
    (field : JumpField) (text : String) :
    match resolve declared node position field text with
    | .ok target => document.StandsFor text target ∧
        ∀ error, ¬ document.TargetFault position field (Text.trim text) error
    | .error error =>
        document.TargetFault position field (Text.trim text) error := by
  unfold resolve
  dsimp only
  cases found : position? declared (Text.trim text) with
  | none =>
      have undeclared := (position?_eq_none_iff reads complete).1 found
      dsimp only
      by_cases isEnd : Text.trim text = endTarget
      · rw [if_pos isEnd]
        refine ⟨⟨isEnd, by rwa [isEnd] at undeclared⟩, ?_⟩
        intro error fault
        cases fault with
        | undeclared _ _ noEnd => exact noEnd isEnd
        | backward _ foundIndex _ _ _ => exact undeclared ⟨_, foundIndex⟩
      · rw [if_neg isEnd]
        exact .undeclared (reads.hasId at_) undeclared isEnd
  | some index =>
      have named := (position?_eq_some_iff reads complete).1 found
      obtain ⟨destination, at', sameId⟩ :=
        reads.exists_of_hasId complete named
      simp only [at']
      by_cases back : index ≤ position ∧ destination.nodeType ≠ .loop
      · rw [if_pos back]
        exact .backward (reads.hasId at_) named back.1 (reads.hasType at')
          back.2
      · rw [if_neg back]
        refine ⟨named, ?_⟩
        intro error fault
        cases fault with
        | undeclared _ unknown _ => exact unknown ⟨_, named⟩
        | backward _ foundIndex isBack typed noLoop =>
            have foundToo :=
              (position?_eq_some_iff reads complete).2 foundIndex
            rw [found, Option.some.injEq] at foundToo
            subst foundToo
            rw [← reads.type_eq_of_hasType at' typed] at noLoop
            exact back ⟨isBack, noLoop⟩

omit reads in
theorem sequential_eq (position : Nat) :
    sequential declared position = document.following position := by
  rw [sequential, Document.following, complete]

/-- The target of a field that is given, or the default. -/
theorem resolveOr_spec (at_ : declared[position]? = some node)
    (field : JumpField) :
    match resolveOr (sequential declared position) declared node position
      field (node.definition.given? field) with
    | .ok target =>
        document.FieldLeads position node.definition field target ∧
        ∀ text error, node.definition.given? field = some text →
          ¬ document.TargetFault position field (Text.trim text) error
    | .error error => ∃ text, node.definition.given? field = some text ∧
        document.TargetFault position field (Text.trim text) error := by
  unfold Document.FieldLeads
  cases given : node.definition.given? field with
  | none =>
      simp only [resolveOr]
      refine ⟨sequential_eq complete position, ?_⟩
      intro text error impossible
      cases impossible
  | some text =>
      have spec := resolve_spec reads complete at_ field text
      simp only [resolveOr]
      cases resolved : resolve declared node position field text with
      | error error =>
          rw [resolved] at spec
          exact ⟨text, rfl, spec⟩
      | ok target =>
          rw [resolved] at spec
          refine ⟨spec.1, ?_⟩
          intro other error same
          cases same
          exact spec.2 error

omit complete in
/-- What can be wrong with the successors of a node that has been read. -/
theorem jumpFault_cases (at_ : declared[position]? = some node) {rank : Nat}
    (fault : document.JumpFault position rank error) :
    (∃ field, rank = field.rank ∧ (node.definition.given? field).isSome ∧
        node.nodeType.takes field = false) ∨
      (rank = 3 ∧ node.nodeType.isBranching = true ∧
        node.definition.trueNext = none) ∨
      ∃ field text, rank = 4 + field.rank ∧
        node.definition.given? field = some text ∧
        document.TargetFault position field (Text.trim text) error := by
  cases fault with
  | @unexpected definition nodeType field found typed given untaken =>
      rw [reads.found at_, Option.some.injEq] at found
      rw [← reads.type_eq_of_hasType at_ typed] at untaken
      subst found
      exact .inl ⟨field, rfl, given, untaken⟩
  | missing found typed branching absent =>
      rw [reads.found at_, Option.some.injEq] at found
      rw [← reads.type_eq_of_hasType at_ typed] at branching
      subst found
      exact .inr (.inl ⟨rfl, branching, absent⟩)
  | @target definition field text _ found given fault =>
      rw [reads.found at_, Option.some.injEq] at found
      subst found
      exact .inr (.inr ⟨field, text, rfl, given, fault⟩)

omit complete in
/-- A field that the type of the node does not have is a fault. -/
theorem unexpected_of_given (at_ : declared[position]? = some node)
    (field : JumpField) (given : (node.definition.given? field).isSome)
    (untaken : node.nodeType.takes field = false) :
    document.JumpFault position field.rank
      (.unexpectedBranch node.id node.nodeType field) := by
  rw [reads.id_eq at_]
  exact .unexpected (reads.found at_) (reads.hasType at_) given untaken

omit complete in
/-- With no field too many, only the branches can be at fault. -/
theorem branchingFault_cases (at_ : declared[position]? = some node)
    (branching : node.nodeType.isBranching = true)
    (next : node.definition.next = none) {rank : Nat} {error : ParseError}
    (fault : document.JumpFault position rank error) :
    rank = 3 ∧ node.definition.trueNext = none ∨
      (∃ text, rank = 5 ∧ node.definition.trueNext = some text ∧
        document.TargetFault position .trueNext (Text.trim text) error) ∨
      ∃ text, rank = 6 ∧ node.definition.falseNext = some text ∧
        document.TargetFault position .falseNext (Text.trim text) error := by
  rcases jumpFault_cases reads at_ fault with
    ⟨field, -, given, untaken⟩ | ⟨isThree, -, absent⟩ |
      ⟨field, text, isRank, given, targetFault⟩
  · cases field <;>
      simp [NodeDefinition.given?, NodeType.takes, next, branching]
        at given untaken
  · exact .inl ⟨isThree, absent⟩
  · cases field with
    | next => simp [NodeDefinition.given?, next] at given
    | trueNext => exact .inr (.inl ⟨text, isRank, given, targetFault⟩)
    | falseNext => exact .inr (.inr ⟨text, isRank, given, targetFault⟩)

/-- The first fault of the successors of a branching node. -/
theorem branchingJumps_spec (at_ : declared[position]? = some node)
    (branching : node.nodeType.isBranching = true) :
    match branchingJumps declared node position with
    | .ok found =>
        document.HasJumps position node.definition node.nodeType found ∧
        ∀ rank error, ¬ document.JumpFault position rank error
    | .error error => ∃ rank, document.JumpFault position rank error ∧
        ∀ lower other, lower < rank →
          ¬ document.JumpFault position lower other := by
  unfold branchingJumps
  dsimp only
  cases next : node.definition.next with
  | some text =>
      refine ⟨0, ?_, fun lower other isLower => by omega⟩
      exact unexpected_of_given reads at_ .next
        (by simp [NodeDefinition.given?, next])
        (by simp [NodeType.takes, branching])
  | none =>
      have fault_cases {rank : Nat} {error : ParseError}
          (fault : document.JumpFault position rank error) :=
        branchingFault_cases reads at_ branching next fault
      cases trueNext : node.definition.trueNext with
      | none =>
          refine ⟨3, ?_, ?_⟩
          · rw [reads.id_eq at_]
            exact .missing (reads.found at_) (reads.hasType at_) branching
              trueNext
          · intro lower other isLower fault
            rcases fault_cases fault with ⟨isThree, -⟩ | ⟨_, isFive, -⟩ |
              ⟨_, isSix, -⟩ <;> omega
      | some text =>
          have trueSpec := resolve_spec reads complete at_ .trueNext text
          have falseSpec := resolveOr_spec reads complete at_ .falseNext
          simp only [NodeDefinition.given?] at falseSpec
          simp only [Option.isSome_none, Bool.false_eq_true, if_false]
          cases resolved : resolve declared node position .trueNext text with
          | error error =>
              rw [resolved] at trueSpec
              refine ⟨5, .target .trueNext (reads.found at_)
                trueNext trueSpec, ?_⟩
              intro lower other isLower fault
              rcases fault_cases fault with ⟨-, absent⟩ | ⟨_, isFive, -⟩ |
                ⟨_, isSix, -⟩
              · rw [trueNext] at absent
                cases absent
              · omega
              · omega
          | ok whenTrue =>
              rw [resolved] at trueSpec
              cases resolvedFalse : resolveOr (sequential declared position)
                  declared node position .falseNext
                  node.definition.falseNext with
              | error error =>
                  rw [resolvedFalse] at falseSpec
                  obtain ⟨falseText, given, targetFault⟩ := falseSpec
                  refine ⟨6, .target .falseNext (reads.found at_)
                    given targetFault, ?_⟩
                  intro lower other isLower fault
                  rcases fault_cases fault with ⟨-, absent⟩ |
                    ⟨other, -, given, targetFault⟩ | ⟨_, isSix, -⟩
                  · rw [trueNext] at absent
                    cases absent
                  · rw [trueNext, Option.some.injEq] at given
                    subst given
                    exact trueSpec.2 _ targetFault
                  · omega
              | ok whenFalse =>
                  rw [resolvedFalse] at falseSpec
                  refine ⟨⟨fun _ => ⟨sequential_eq complete position, whenTrue,
                    whenFalse, rfl, rfl, ?_, falseSpec.1⟩, ?_⟩, ?_⟩
                  · simpa [Document.FieldLeads, NodeDefinition.given?,
                      trueNext] using trueSpec.1
                  · intro plain
                    rw [branching] at plain
                    cases plain
                  · intro rank error fault
                    rcases fault_cases fault with ⟨-, absent⟩ |
                      ⟨other, -, given, targetFault⟩ |
                        ⟨other, -, given, targetFault⟩
                    · rw [trueNext] at absent
                      cases absent
                    · rw [trueNext, Option.some.injEq] at given
                      subst given
                      exact trueSpec.2 _ targetFault
                    · exact falseSpec.2 other _ given targetFault

omit complete in
/-- With no field too many, only the successor can be at fault. -/
theorem plainFault_cases (at_ : declared[position]? = some node)
    (plain : node.nodeType.isBranching = false)
    (trueNext : node.definition.trueNext = none)
    (falseNext : node.definition.falseNext = none) {rank : Nat}
    {error : ParseError} (fault : document.JumpFault position rank error) :
    ∃ text, rank = 4 ∧ node.definition.next = some text ∧
      document.TargetFault position .next (Text.trim text) error := by
  rcases jumpFault_cases reads at_ fault with
    ⟨field, -, given, untaken⟩ | ⟨-, branching, -⟩ |
      ⟨field, text, isRank, given, targetFault⟩
  · cases field <;>
      simp [NodeDefinition.given?, NodeType.takes, trueNext, falseNext, plain]
        at given untaken
  · rw [plain] at branching
    cases branching
  · cases field with
    | next => exact ⟨text, isRank, given, targetFault⟩
    | trueNext => simp [NodeDefinition.given?, trueNext] at given
    | falseNext => simp [NodeDefinition.given?, falseNext] at given

/-- The first fault of the successors of a node with one successor. -/
theorem plainJumps_spec (at_ : declared[position]? = some node)
    (plain : node.nodeType.isBranching = false) :
    match plainJumps declared node position with
    | .ok found =>
        document.HasJumps position node.definition node.nodeType found ∧
        ∀ rank error, ¬ document.JumpFault position rank error
    | .error error => ∃ rank, document.JumpFault position rank error ∧
        ∀ lower other, lower < rank →
          ¬ document.JumpFault position lower other := by
  unfold plainJumps
  dsimp only
  cases trueNext : node.definition.trueNext with
  | some text =>
      refine ⟨1, ?_, ?_⟩
      · exact unexpected_of_given reads at_ .trueNext
          (by simp [NodeDefinition.given?, trueNext])
          (by simp [NodeType.takes, plain])
      · intro lower other isLower fault
        rcases jumpFault_cases reads at_ fault with
          ⟨field, isRank, given, untaken⟩ | ⟨isThree, -, -⟩ |
            ⟨field, text, isRank, -, -⟩
        · cases field with
          | next => simp [NodeType.takes, plain] at untaken
          | trueNext => simp only [JumpField.rank] at isRank; omega
          | falseNext => simp only [JumpField.rank] at isRank; omega
        · omega
        · omega
  | none =>
      cases falseNext : node.definition.falseNext with
      | some text =>
          refine ⟨2, ?_, ?_⟩
          · exact unexpected_of_given reads at_ .falseNext
              (by simp [NodeDefinition.given?, falseNext])
              (by simp [NodeType.takes, plain])
          · intro lower other isLower fault
            rcases jumpFault_cases reads at_ fault with
              ⟨field, isRank, given, untaken⟩ | ⟨isThree, -, -⟩ |
                ⟨field, text, isRank, -, -⟩
            · cases field with
              | next => simp [NodeType.takes, plain] at untaken
              | trueNext => simp [NodeDefinition.given?, trueNext] at given
              | falseNext => simp only [JumpField.rank] at isRank; omega
            · omega
            · omega
      | none =>
          have fault_cases {rank : Nat} {error : ParseError}
              (fault : document.JumpFault position rank error) :=
            plainFault_cases reads at_ plain trueNext falseNext fault
          have nextSpec := resolveOr_spec reads complete at_ .next
          simp only [NodeDefinition.given?] at nextSpec
          simp only [Option.isSome_none, Bool.false_eq_true, if_false]
          cases resolved : resolveOr (sequential declared position) declared
              node position .next node.definition.next with
          | error error =>
              rw [resolved] at nextSpec
              obtain ⟨text, given, targetFault⟩ := nextSpec
              refine ⟨4, .target .next (reads.found at_) given
                targetFault, ?_⟩
              intro lower other isLower fault
              obtain ⟨_, isFour, -⟩ := fault_cases fault
              omega
          | ok next =>
              rw [resolved] at nextSpec
              refine ⟨⟨fun branching => ?_,
                fun _ => ⟨rfl, rfl, nextSpec.1⟩⟩, ?_⟩
              · rw [plain] at branching
                cases branching
              · intro rank error fault
                obtain ⟨text, -, given, targetFault⟩ := fault_cases fault
                exact nextSpec.2 text error given targetFault

/-- The first fault of the successors of a node. -/
theorem jumps_spec (at_ : declared[position]? = some node) :
    match jumps declared node position with
    | .ok found =>
        document.HasJumps position node.definition node.nodeType found ∧
        ∀ rank error, ¬ document.JumpFault position rank error
    | .error error => ∃ rank, document.JumpFault position rank error ∧
        ∀ lower other, lower < rank →
          ¬ document.JumpFault position lower other := by
  unfold jumps
  cases branching : node.nodeType.isBranching with
  | true => exact branchingJumps_spec reads complete at_ branching
  | false => exact plainJumps_spec reads complete at_ branching

/-- The first fault of the successors of the nodes from a position on. -/
theorem nodesFrom_spec {rest : List Declared}
    (at_ : ∀ index node, rest[index]? = some node →
      declared[position + index]? = some node) :
    match nodesFrom declared position rest with
    | .ok nodes => nodes.length = rest.length ∧
        ∀ (index : Nat) (node : Declared) (compiled : Node),
          rest[index]? = some node → nodes[index]? = some compiled →
          document.HasNode (position + index) node.definition compiled ∧
          ∀ rank error, ¬ document.JumpFault (position + index) rank error
    | .error error => ∃ index rank,
        document.JumpFault (position + index) rank error ∧
        ∀ earlier lower other, earlier < index ∨
          earlier = index ∧ lower < rank →
          ¬ document.JumpFault (position + earlier) lower other := by
  induction rest generalizing position with
  | nil =>
      refine ⟨rfl, ?_⟩
      intro index node compiled impossible
      simp at impossible
  | cons node rest ih =>
      have here := at_ 0 node rfl
      have jumpSpec := jumps_spec reads complete here
      have restSpec := @ih (position + 1) (by
        intro index other found
        rw [Nat.add_assoc, Nat.add_comm 1]
        exact at_ (index + 1) other found)
      rw [Nat.add_zero] at here jumpSpec
      rw [nodesFrom]
      cases resolved : jumps declared node position with
      | error error =>
          rw [resolved] at jumpSpec
          obtain ⟨rank, fault, first⟩ := jumpSpec
          refine ⟨0, rank, fault, ?_⟩
          rintro earlier lower other (impossible | ⟨rfl, isLower⟩)
          · omega
          · exact first lower other isLower
      | ok found =>
          rw [resolved] at jumpSpec
          obtain ⟨hasJumps, faultless⟩ := jumpSpec
          cases compiledRest : nodesFrom declared (position + 1) rest with
          | error error =>
              rw [compiledRest] at restSpec
              obtain ⟨index, rank, fault, first⟩ := restSpec
              refine ⟨index + 1, rank, ?_, ?_⟩
              · rwa [Nat.add_right_comm] at fault
              · intro earlier lower other isEarlier
                cases earlier with
                | zero => exact faultless lower other
                | succ earlier =>
                    rw [← Nat.add_assoc, Nat.add_right_comm]
                    exact first earlier lower other (by omega)
          | ok others =>
              rw [compiledRest] at restSpec
              obtain ⟨length_eq, restSpec⟩ := restSpec
              refine ⟨by simp [length_eq], ?_⟩
              intro index other compiled isOther isCompiled
              cases index with
              | zero =>
                  cases isOther
                  cases isCompiled
                  exact ⟨⟨reads.id_eq here, reads.tag_eq here, rfl, hasJumps⟩,
                    faultless⟩
              | succ index =>
                  rw [← Nat.add_assoc, Nat.add_right_comm]
                  exact restSpec index other compiled isOther isCompiled

omit reads complete in
/-- The start node that is named is the one that is looked up. -/
theorem nonBlank?_startNode_eq_some_iff {id : String} :
    document.startNode.bind Text.nonBlank? = some id ↔
      document.NamesStart id := by
  rw [Document.NamesStart, Option.bind_eq_some_iff]
  constructor
  · rintro ⟨text, given, trimmed⟩
    rw [Text.nonBlank?] at trimmed
    split at trimmed
    · cases trimmed
    · rename_i visible
      obtain rfl := Option.some.inj trimmed
      exact ⟨fun empty => visible (Text.trim_eq_empty_iff.1 empty), text,
        given, rfl⟩
  · rintro ⟨visible, text, given, rfl⟩
    refine ⟨text, given, ?_⟩
    rw [Text.nonBlank?,
      if_neg fun blank => visible (Text.trim_eq_empty_iff.2 blank)]

theorem start_spec :
    match start declared document.startNode with
    | .ok found =>
        (∀ id, document.NamesStart id → document.HasId found id) ∧
        ((∀ id, ¬ document.NamesStart id) → found = 0) ∧
        (found = 0 ∨ found < declared.length)
    | .error error => ∃ id, error = .unknownStartNode id ∧
        document.NamesStart id ∧ ¬ document.Declares id := by
  unfold start
  cases named : document.startNode.bind Text.nonBlank? with
  | none =>
      refine ⟨?_, fun _ => rfl, .inl rfl⟩
      intro id names
      rw [← nonBlank?_startNode_eq_some_iff, named] at names
      cases names
  | some id =>
      have names := nonBlank?_startNode_eq_some_iff.1 named
      dsimp only
      cases found : position? declared id with
      | none =>
          exact ⟨id, rfl, names, (position?_eq_none_iff reads complete).1 found⟩
      | some index =>
          have hasId := (position?_eq_some_iff reads complete).1 found
          refine ⟨?_, fun unnamed => (unnamed id names).elim, .inr ?_⟩
          · intro other namesOther
            rw [← nonBlank?_startNode_eq_some_iff, named,
              Option.some.injEq] at namesOther
            rwa [← namesOther]
          · obtain ⟨node, at_, -⟩ := reads.exists_of_hasId complete hasId
            exact (List.getElem?_eq_some_iff.1 at_).1

end Successors

end Compile

/-! ### Documents -/

namespace Document

open Compile

variable {document : Document} {error other : ParseError} {place : Place}

/-- The workflow of the nodes and the start that have been found. -/
theorem hasWorkflow_of_nodes {declared : List Declared}
    (reads : Reads document declared)
    (complete : declared.length = document.nodes.length) {nodes : List Node}
    (length_eq : nodes.length = declared.length)
    (compiled : ∀ (index : Nat) (node : Declared) (compiled : Node),
      declared[index]? = some node → nodes[index]? = some compiled →
      document.HasNode index node.definition compiled) {start : Nat}
    (inside : start < nodes.length)
    (named : ∀ id, document.NamesStart id → document.HasId start id)
    (unnamed : (∀ id, ¬ document.NamesStart id) → start = 0)
    (name : String) :
    document.HasWorkflow name ⟨name, document.description, nodes, start⟩ := by
  have hasId : ∀ {index : Nat} {node : Node}, nodes[index]? = some node →
      ∃ read, declared[index]? = some read ∧ node.id = read.id := by
    intro index node at_
    have indexInside := (List.getElem?_eq_some_iff.1 at_).1
    rw [length_eq] at indexInside
    have isRead := List.getElem?_eq_getElem indexInside
    refine ⟨_, isRead, ?_⟩
    rw [(compiled index _ node isRead at_).id_eq, reads.id_eq isRead]
  refine ⟨rfl, rfl, length_eq.trans complete, ?_, ?_, inside, named,
    unnamed⟩
  · intro position definition node found at_
    obtain ⟨read, isRead, -⟩ := hasId at_
    have sameDefinition := reads.found isRead
    rw [found, Option.some.injEq] at sameDefinition
    rw [sameDefinition]
    exact compiled position read node isRead at_
  · intro id position
    rw [Workflow.indexOf?, findIdx?_key_eq_some_iff, Workflow.order,
      List.getElem?_map, Option.map_eq_some_iff]
    intro first second node other at_ at' sameId
    obtain ⟨read, isRead, id_eq⟩ := hasId at_
    obtain ⟨otherRead, isOther, other_eq⟩ := hasId at'
    exact reads.distinct isRead isOther (by rw [← id_eq, sameId, other_eq])

theorem faultlessBefore_two {declared : List Declared}
    (nodeful : document.nodes ≠ []) (reads : Reads document declared)
    (complete : declared.length = document.nodes.length) :
    document.FaultlessBefore 2 := by
  apply (faultlessBefore_one nodeful).succ
  intro position rank error fault
  have inside := fault.lt_length (.inl rfl)
  rw [← complete] at inside
  exact reads.not_fault inside fault

theorem faultlessBefore_three
    (faultless : document.FaultlessBefore 2)
    (joined : ∀ position rank error, position < document.nodes.length →
      ¬ document.JumpFault position rank error) :
    document.FaultlessBefore 3 := by
  apply faultless.succ
  intro position rank error fault
  have inside := fault.lt_length (.inr rfl)
  cases fault with
  | jump jumpFault => exact joined position rank error inside jumpFault

/-- A document compiles to its workflow if there is nothing wrong with it, and
is rejected with its first fault otherwise. -/
theorem compile_spec (document : Document) (name : String) :
    match document.compile name with
    | .ok workflow => document.HasWorkflow name workflow ∧
        ∀ place error, ¬ document.Fault place error
    | .error error => document.FirstFault error := by
  unfold compile
  by_cases nodeless : document.nodes = []
  · rw [nodeless]
    refine ⟨_, .empty nodeless, ?_⟩
    rintro ⟨stage, position, rank⟩ other (impossible | ⟨-, impossible |
      ⟨-, impossible⟩⟩)
    all_goals exact absurd impossible (Nat.not_lt_zero _)
  · rw [if_neg (by simpa using nodeless)]
    have unread : Reads document [] := ⟨by simp, by simp, by simp, by simp⟩
    have declareSpec := declareFrom_spec unread rfl
    rw [← declare] at declareSpec
    cases declares : declare document.nodes with
    | error error =>
        rw [declares] at declareSpec
        obtain ⟨position, rank, fault, first⟩ := declareSpec
        exact (faultlessBefore_one nodeless).firstFault fault first
    | ok declared =>
        rw [declares] at declareSpec
        obtain ⟨reads, complete⟩ := declareSpec
        have faultless := faultlessBefore_two nodeless reads complete
        have fromStart : ∀ index node, declared[index]? = some node →
            declared[0 + index]? = some node := by simp
        have nodesSpec := nodesFrom_spec reads complete fromStart
        have startSpec := start_spec reads complete
        simp only [Nat.zero_add] at nodesSpec
        simp only [bind, Except.bind]
        cases compiles : nodesFrom declared 0 declared with
        | error error =>
            rw [compiles] at nodesSpec
            obtain ⟨position, rank, fault, first⟩ := nodesSpec
            refine faultless.firstFault (.jump fault) ?_
            intro earlier lower other isEarlier earlierFault
            cases earlierFault with
            | jump jumpFault =>
                exact first earlier lower other isEarlier jumpFault
        | ok nodes =>
            rw [compiles] at nodesSpec
            obtain ⟨length_eq, nodesSpec⟩ := nodesSpec
            have faultless := faultlessBefore_three faultless (by
              intro position rank error inside
              rw [← complete] at inside
              have isRead := List.getElem?_eq_getElem inside
              rw [← length_eq] at inside
              have isCompiled := List.getElem?_eq_getElem inside
              exact (nodesSpec position _ _ isRead isCompiled).2 rank error)
            dsimp only
            cases starts : Compile.start declared document.startNode with
            | error error =>
                rw [starts] at startSpec
                obtain ⟨id, rfl, named, unknown⟩ := startSpec
                refine faultless.firstFault (.start named unknown) ?_
                rintro earlier lower other (impossible | ⟨-, impossible⟩)
                all_goals exact absurd impossible (Nat.not_lt_zero _)
            | ok start =>
                rw [starts] at startSpec
                obtain ⟨named, unnamed, startInside⟩ := startSpec
                have inside : start < nodes.length := by
                  have positive := List.length_pos_iff.2 nodeless
                  omega
                refine ⟨hasWorkflow_of_nodes reads complete length_eq
                  (fun index node compiled isRead isCompiled =>
                    (nodesSpec index node compiled isRead isCompiled).1)
                  inside named unnamed name, ?_⟩
                intro place error fault
                by_cases isBefore : place.stage < 3
                · exact faultless place error isBefore fault
                · cases fault with
                  | start isNamed unknown =>
                      exact unknown ⟨start, named _ isNamed⟩
                  | _ => exact isBefore (by simp)

/-- A document compiles exactly if it is well formed, it compiles to the
workflow that it stands for, and it is rejected exactly with its first
fault. -/
theorem compile_correct (document : Document) (name : String) :
    ((∃ workflow, document.compile name = .ok workflow) ↔
      document.WellFormed) ∧
    (∀ workflow, document.compile name = .ok workflow →
      document.HasWorkflow name workflow) ∧
    ∀ error, document.compile name = .error error ↔
      document.FirstFault error := by
  have spec := compile_spec document name
  cases compiled : document.compile name with
  | ok workflow =>
      rw [compiled] at spec
      obtain ⟨hasWorkflow, faultless⟩ := spec
      refine ⟨⟨fun _ => wellFormed_iff.2 faultless,
        fun _ => ⟨workflow, rfl⟩⟩, ?_, ?_⟩
      · rintro _ ⟨⟩
        exact hasWorkflow
      · intro error
        constructor
        · rintro ⟨⟩
        · rintro ⟨place, fault, -⟩
          exact (faultless place error fault).elim
  | error error =>
      rw [compiled] at spec
      refine ⟨⟨?_, ?_⟩, ?_, ?_⟩
      · rintro ⟨_, ⟨⟩⟩
      · intro wellFormed
        obtain ⟨place, fault, -⟩ := spec
        exact (wellFormed_iff.1 wellFormed place error fault).elim
      · rintro _ ⟨⟩
      · intro other
        constructor
        · rintro ⟨⟩
          exact spec
        · intro first
          rw [spec.unique first]

end Document

end Runbook
