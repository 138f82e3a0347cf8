import Mathlib.Data.List.Range
import Runbook.Proofs.Run.Quiet

/-!
# Counting

A loop that counts a variable up to another one, with nodes in its body that
set other variables.  One round of it adds one to the counter.  So it takes as
many rounds as the counter is below its limit, and then the workflow ends.
-/

namespace Runbook

open Binary64 (exactLimit)
open Decimal (intText)

/-- The variables of a loop: the counter and its limit. -/
structure Variables.Count (bindings : Variables) (value limit : Int) :
    Prop where
  counter : bindings.get? "i" = some (intText value)
  limit : bindings.get? "times" = some (intText limit)

theorem Variables.count_insert {bindings : Variables} {limit : Int}
    (limited : bindings.get? "times" = some (intText limit)) (value : Int) :
    Variables.Count (bindings.insert "i" (intText value)) value limit := by
  constructor
  · rw [OrderedMap.get?_insert, if_pos rfl]
  · rw [OrderedMap.get?_insert, if_neg (by decide), limited]

theorem Variables.Count.insert {bindings : Variables} {value limit : Int}
    (counts : bindings.Count value limit) {name : String} (text : String)
    (noCounter : name ≠ "i") (noLimit : name ≠ "times") :
    Variables.Count (bindings.insert name text) value limit := by
  constructor
  · rw [OrderedMap.get?_insert, if_neg noCounter, counts.counter]
  · rw [OrderedMap.get?_insert, if_neg noLimit, counts.limit]

namespace Workflow

/-- A node sets a variable of the body and goes on to the next node. -/
def HasBodyNode (workflow : Workflow) (position : Nat) : Prop :=
  ∃ node name, workflow.nodes[position]? = some node ∧
    (node.nodeType = .assign ∨ node.nodeType = .compute) ∧
    Template.Names node.properties name ∧ name ≠ "i" ∧ name ≠ "times" ∧
    node.jumps.next = .node (position + 1)

/-- A workflow sets the counter, and as long as that is below its limit,
executes so many other nodes and adds one. -/
structure IsCounting (workflow : Workflow) (count : Nat) (first : Int) :
    Prop where
  start_eq : workflow.start = 0
  sets : ∃ node, workflow.nodes[0]? = some node ∧
    node.nodeType = .assign ∧ Template.Names node.properties "i" ∧
    node.properties.get? "value" = some (intText first) ∧
    node.jumps.next = .node 1
  checks : ∃ node, workflow.nodes[1]? = some node ∧
    node.nodeType = .loop ∧
    node.properties.get? "condition" = some Template.belowLimit ∧
    node.jumps.branch true = .node 2 ∧ node.jumps.branch false = .finish
  body : ∀ position, 2 ≤ position → position < count + 2 →
    workflow.HasBodyNode position
  adds : ∃ node, workflow.nodes[count + 2]? = some node ∧
    node.nodeType = .compute ∧ Template.Names node.properties "i" ∧
    node.properties.get? "value" = some Template.nextCount ∧
    node.jumps.next = .node 1

end Workflow

/-- The visits of one round: the loop holds, and then each node of the body is
visited and the one that adds. -/
def Visit.IsRound (count : Nat) (round : List Visit) : Prop :=
  ∃ check others, round = check :: others ∧ check.position = 1 ∧
    check.output = some "true" ∧
    others.map Visit.position = List.range' 2 (count + 1)

namespace Engine

variable {engine : Engine} {fuel count : Nat} {scope : Scope}
  {workflow : Workflow} {frame reached : Frame} {before after : Run}
  {transcript : Run.Transcript} {visits : List Visit}
  {ended : Except Interrupt Unit} {value limit first : Int}

/-! ### What the nodes do -/

theorem does_body {node : Node} {bindings : Variables} {name : String}
    (standard : engine.registry = Registry.standard)
    (assigns : node.nodeType = .assign ∨ node.nodeType = .compute)
    (names : Template.Names node.properties name) :
    ∃ text, engine.Does node bindings node.jumps.next text
      (bindings.insert name text) := by
  rcases assigns with isAssign | isCompute
  · exact ⟨_, does_assign standard isAssign names⟩
  · exact ⟨_, does_compute standard isCompute names⟩

/-- The loop holds as long as the counter is below its limit. -/
theorem does_check {node : Node} {bindings : Variables}
    (standard : engine.registry = Registry.standard)
    (isLoop : node.nodeType = .loop)
    (conditional : node.properties.get? "condition" =
      some Template.belowLimit)
    (counts : bindings.Count value limit) (small : value.natAbs ≤ exactLimit)
    (smallToo : limit.natAbs ≤ exactLimit) :
    engine.Does node bindings (node.jumps.branch (decide (value < limit)))
      (if value < limit then "true" else "false") bindings := by
  have does := @does_loop engine node bindings standard isLoop _ conditional
  rw [Template.resolve_belowLimit counts.counter counts.limit,
    Condition.evaluate_less small smallToo] at does
  simpa only [decide_eq_true_eq] using does

/-- One more is counted. -/
theorem does_add {node : Node} {bindings : Variables}
    (standard : engine.registry = Registry.standard)
    (isCompute : node.nodeType = .compute)
    (names : Template.Names node.properties "i")
    (adds : node.properties.get? "value" = some Template.nextCount)
    (counts : bindings.Count value limit) (small : value.natAbs ≤ exactLimit)
    (smallToo : (value + 1).natAbs ≤ exactLimit) :
    engine.Does node bindings node.jumps.next (intText (value + 1))
      (bindings.insert "i" (intText (value + 1))) := by
  have does := @does_compute engine node bindings standard isCompute _ names
  rw [assignedText, adds, Option.map_some, Option.getD_some,
    Template.resolve_nextCount counts.counter,
    Arithmetic.assigned_succ small smallToo] at does
  exact does

theorem isTokenFree_intText (value : Int) :
    Template.IsTokenFree (intText value).toList :=
  Template.isTokenFree_of_noBrace
    (Reading.not_mem_intText (by decide) (by decide))

theorem does_set {node : Node} {bindings : Variables}
    (standard : engine.registry = Registry.standard)
    (isAssign : node.nodeType = .assign)
    (names : Template.Names node.properties "i")
    (given : node.properties.get? "value" = some (intText first)) :
    engine.Does node bindings node.jumps.next (intText first)
      (bindings.insert "i" (intText first)) := by
  have does := @does_assign engine node bindings standard isAssign _ names
  rw [assignedText, given, Option.map_some, Option.getD_some,
    Template.resolve_of_isTokenFree (isTokenFree_intText first)] at does
  exact does

/-! ### Rounds -/

/-- The body is executed node by node, and leaves the counter alone. -/
theorem Walk.after_body (standard : engine.registry = Registry.standard)
    (counting : workflow.IsCounting count first) {left position : Nat}
    (after_loop : 2 ≤ position) (distance : position + left = count + 2)
    (counts : frame.bindings.Count value limit)
    (walk : Walk engine scope workflow (fuel + 1 + left) (.node position) frame
      before transcript visits ended reached after)
    (unseen : ¬ transcript.SeesAbort) :
    ∃ bodies others middle current rest, visits = bodies ++ others ∧
      bodies.map Visit.position = List.range' position left ∧
      middle.bindings.Count value limit ∧ ¬ Run.Transcript.SeesAbort rest ∧
      Walk engine scope workflow (fuel + 1) (.node (count + 2)) middle current
        rest others ended reached after := by
  induction left generalizing position frame before transcript visits with
  | zero =>
      obtain rfl : position = count + 2 := distance
      exact ⟨[], visits, frame, before, transcript, rfl, rfl, counts, unseen,
        walk⟩
  | succ left ih =>
      obtain ⟨node, name, found, assigns, names, noCounter, noLimit, next⟩ :=
        counting.body position after_loop (by omega)
      obtain ⟨text, does⟩ := @does_body engine node frame.bindings name
        standard assigns names
      have steps : fuel + 1 + (left + 1) = fuel + left + 2 := by omega
      rw [steps] at walk
      obtain ⟨visit, others, middle, current, rest, rfl, isAt, -, same,
        unseen, goesOn⟩ := walk.after_does found does unseen
      rw [next] at goesOn
      have countsToo : middle.bindings.Count value limit := by
        rw [same]
        exact counts.insert text noCounter noLimit
      have stepsToo : fuel + left + 1 = fuel + 1 + left := by omega
      rw [stepsToo] at goesOn
      obtain ⟨bodies, others, middle, current, rest, rfl, places, counts,
        unseen, goesOn⟩ := ih (Nat.le_succ_of_le after_loop)
          (by omega) countsToo goesOn unseen
      refine ⟨visit :: bodies, others, middle, current, rest, rfl, ?_, counts,
        unseen, goesOn⟩
      rw [List.map_cons, isAt, places, List.range'_succ]

/-- A round adds one to the counter. -/
theorem Walk.after_round (standard : engine.registry = Registry.standard)
    (counting : workflow.IsCounting count first)
    (counts : frame.bindings.Count value limit)
    (small : value.natAbs ≤ exactLimit) (smallToo : limit.natAbs ≤ exactLimit)
    (below : value < limit)
    (walk : Walk engine scope workflow (fuel + 1 + (count + 2)) (.node 1) frame
      before transcript visits ended reached after)
    (unseen : ¬ transcript.SeesAbort) :
    ∃ round others middle current rest, visits = round ++ others ∧
      Visit.IsRound count round ∧ middle.bindings.Count (value + 1) limit ∧
      ¬ Run.Transcript.SeesAbort rest ∧
      Walk engine scope workflow (fuel + 1) (.node 1) middle current rest
        others ended reached after := by
  obtain ⟨node, found, isLoop, conditional, whenTrue, -⟩ := counting.checks
  have does := @does_check engine value limit node frame.bindings standard
    isLoop conditional counts small smallToo
  rw [decide_eq_true below, whenTrue, if_pos below] at does
  have steps : fuel + 1 + (count + 2) = fuel + 1 + count + 2 := by omega
  rw [steps] at walk
  obtain ⟨check, _, middle, current, rest, rfl, isAt, shown, same, unseen,
    goesOn⟩ := walk.after_does found does unseen
  rw [← same] at counts
  have stepsToo : fuel + 1 + count + 1 = fuel + 1 + 1 + count := by omega
  rw [stepsToo] at goesOn
  obtain ⟨bodies, _, middle, current, rest, rfl, places, counts, unseen,
    goesOn⟩ := goesOn.after_body standard counting (Nat.le_refl 2)
      (Nat.add_comm 2 count) counts unseen
  obtain ⟨adding, foundToo, isCompute, names, adds, next⟩ := counting.adds
  have smallNext : (value + 1).natAbs ≤ exactLimit := by omega
  have doesAdd := @does_add engine value limit adding middle.bindings standard
    isCompute names adds counts small smallNext
  rw [next] at doesAdd
  obtain ⟨last, others, final, current, rest, rfl, isLast, -, added, unseen,
    goesOn⟩ := goesOn.after_does foundToo doesAdd unseen
  refine ⟨check :: (bodies ++ [last]), others, final, current, rest, by simp,
    ⟨check, bodies ++ [last], rfl, isAt, shown, ?_⟩, ?_, unseen, goesOn⟩
  · rw [List.map_append, places, List.map_singleton, isLast,
      Nat.add_comm count 2, List.range'_concat]
    simp
  · rw [added]
    exact Variables.count_insert counts.limit (value + 1)

/-- From its loop on, a workflow takes as many rounds as the counter is below
its limit. -/
theorem Walk.counts (standard : engine.registry = Registry.standard)
    (counting : workflow.IsCounting count first) {rounds : Nat}
    (distance : (limit - value).toNat = rounds)
    (counts : frame.bindings.Count value limit)
    (small : value.natAbs ≤ exactLimit) (smallToo : limit.natAbs ≤ exactLimit)
    (walk : Walk engine scope workflow (fuel + 2 + rounds * (count + 2))
      (.node 1) frame before transcript visits ended reached after)
    (unseen : ¬ transcript.SeesAbort) :
    ∃ looped last, visits = List.flatten looped ++ [last] ∧
      looped.length = rounds ∧ (∀ round ∈ looped, Visit.IsRound count round) ∧
      last.position = 1 ∧ last.output = some "false" ∧ ended = .ok () ∧
      reached.bindings.get? "i" = some (intText (max value limit)) := by
  induction rounds generalizing value frame before transcript visits with
  | zero =>
      have atLimit : ¬ value < limit := by omega
      obtain ⟨node, found, isLoop, conditional, -, whenFalse⟩ :=
        counting.checks
      have does := @does_check engine value limit node frame.bindings standard
        isLoop conditional counts small smallToo
      rw [decide_eq_false atLimit, whenFalse, if_neg atLimit] at does
      rw [Nat.zero_mul] at walk
      obtain ⟨last, others, middle, current, rest, rfl, isAt, shown, same,
        unseen, goesOn⟩ := walk.after_does found does unseen
      obtain ⟨rfl, rfl, rfl⟩ := goesOn.of_nowhere rfl unseen
      refine ⟨[], last, rfl, rfl, by simp, isAt, shown, rfl, ?_⟩
      rw [same, counts.counter, Int.max_eq_left (Int.not_lt.1 atLimit)]
  | succ rounds ih =>
      have below : value < limit := by omega
      have steps : fuel + 2 + (rounds + 1) * (count + 2) =
          fuel + 1 + rounds * (count + 2) + 1 + (count + 2) := by
        rw [Nat.succ_mul]
        omega
      rw [steps] at walk
      obtain ⟨round, others, middle, current, rest, rfl, isRound, countsToo,
        unseen, goesOn⟩ := walk.after_round standard counting counts small
          smallToo below unseen
      have stepsToo : fuel + 1 + rounds * (count + 2) + 1 =
          fuel + 2 + rounds * (count + 2) := by
        omega
      rw [stepsToo] at goesOn
      obtain ⟨looped, last, rfl, length_eq, areRounds, isAt, shown, rfl,
        counted⟩ := ih (by omega) countsToo (by omega) goesOn unseen
      refine ⟨round :: looped, last, by simp, by simp [length_eq], ?_, isAt,
        shown, rfl, ?_⟩
      · simpa using ⟨isRound, areRounds⟩
      · have next : max (value + 1) limit = max value limit := by omega
        rw [counted, next]

end Engine

end Runbook
