import Runbook.Proofs.OrderedMap
import Runbook.Proofs.Run.Isolation
import Runbook.Proofs.Step.Reads

/-!
# Calls of workflows

A node that calls another workflow does to its own frame what the mapping of
outputs says, and nothing else.  The called workflow does what it would do if
it were started on its own with the inputs of the call.
-/

namespace Runbook

/-- The variables of a caller after a call: those from before, overwritten at
the mapped names for which the called workflow has a value.  New names come at
the end, in the order of the mapping. -/
structure Variables.Receives (outputs : OrderedMap String)
    (child before after : Variables) : Prop where
  get?_eq : ∀ name, after.get? name =
    ((outputs.get? name).bind child.get?).or (before.get? name)
  keys_eq : after.keys = before.keys ++
    ((outputs.entries.filter fun output => child.contains output.2).map
      Prod.fst).filter (· ∉ before.keys)

namespace Engine

theorem find?_copied (outputs : OrderedMap String) (child : Variables)
    (name : String) :
    OrderedMap.find? name (copied outputs child) =
      (outputs.get? name).bind child.get? := by
  obtain ⟨entries, distinct⟩ := outputs
  simp only [copied, OrderedMap.get?]
  induction entries with
  | nil => rfl
  | cons output rest ih =>
      obtain ⟨key, source⟩ := output
      rw [List.map_cons, List.nodup_cons] at distinct
      have others := ih distinct.2
      by_cases here : key = name
      · subst here
        have absent : OrderedMap.find? key rest = none :=
          OrderedMap.find?_eq_none_iff.2 distinct.1
        rw [absent] at others
        cases found : OrderedMap.find? source child.entries <;>
          simp_all [OrderedMap.find?, OrderedMap.get?]
      · cases found : OrderedMap.find? source child.entries <;>
          simp_all [OrderedMap.find?]

theorem keys_copied (outputs : OrderedMap String) (child : Variables) :
    (copied outputs child).map Prod.fst =
      (outputs.entries.filter fun output => child.contains output.2).map
        Prod.fst := by
  unfold copied
  induction outputs.entries with
  | nil => rfl
  | cons output rest ih =>
      cases found : child.get? output.2 with
      | none => simp [OrderedMap.contains, found, ih]
      | some value => simp [OrderedMap.contains, found, ih]

/-- Storing what is copied is all that a call does to the variables of its
caller. -/
theorem receives_copied (outputs : OrderedMap String)
    (child before : Variables) :
    Variables.Receives outputs child before
      (before.insertAll (copied outputs child)) := by
  have distinct : ((copied outputs child).map Prod.fst).Nodup := by
    rw [keys_copied]
    exact outputs.distinct.sublist (List.filter_sublist.map Prod.fst)
  constructor
  · intro name
    rw [OrderedMap.get?_insertAll distinct, find?_copied]
  · rw [OrderedMap.keys_insertAll distinct, keys_copied]

/-! ### A call with an oracle -/

variable {Services : Type} {engine : Engine} {oracle : Oracle Services}
  {scope : Scope} {node : Node} {run : Run} {state : Oracle.State Services}
  {call : SubWorkflowCall}

theorem run_interact_of_call {handler : Handler} {context : Step.Context}
    {step : Step Directive} {held ended : Step.State} (fuel : Nat)
    (described : step.program context held = .done (.ok (.call call), ended)) :
    oracle.run (engine.interact scope context handler (fuel + 1) step held)
        run state =
      ⟨[run.exchange .isAborted false], ((.ok (.call call), ended), run),
        state⟩ := by
  unfold Step.program at described
  rw [interact, runStep, described]
  rfl

theorem run_loadSource {source reference : String}
    (loads : (oracle.call (.loadWorkflow reference) state.services).1 =
      .ok source) :
    oracle.run (loadSource node reference) run state =
      ⟨[run.exchange .isAborted false,
          run.exchange (.call (.loadWorkflow reference)) (some (.ok source))],
        (.ok source, run),
        { state with services :=
          (oracle.call (.loadWorkflow reference) state.services).2 }⟩ := by
  generalize replied : oracle.call (.loadWorkflow reference) state.services =
    reply at loads
  obtain ⟨_, later⟩ := reply
  obtain rfl := loads
  have answered : oracle.reply ⟨run, .call (.loadWorkflow reference)⟩ state =
      (some (.ok source), { state with services := later }) := by
    simp only [Oracle.reply, replied]
  rw [loadSource, Oracle.run_ask_bind]
  simp only [Oracle.reply, Bool.false_eq_true, if_false]
  rw [Oracle.run_ask_bind, answered]
  rfl

theorem run_callWorkflow {runChild : FrameRunner} {source : String}
    {child : Workflow} {stack : CallStack}
    (loads : (oracle.call (.loadWorkflow call.reference) state.services).1 =
      .ok source)
    (reads : Workflow.read source call.name = .ok child)
    (enters : run.stack.push (CallStack.key call.reference child.name)
      engine.options.maxCallDepth = .ok stack) :
    oracle.run (engine.callWorkflow runChild scope node call) run state =
      let key := CallStack.key call.reference child.name
      let nested := oracle.run (runChild (scope.within key) child
        ⟨call.inputs, none⟩) { run with stack } { state with services :=
          (oracle.call (.loadWorkflow call.reference) state.services).2 }
      ⟨run.exchange .isAborted false ::
          run.exchange (.call (.loadWorkflow call.reference))
            (some (.ok source)) :: nested.transcript,
        (callResult node key call.outputs nested.value.1.2.bindings
            nested.value.1.1,
          { nested.value.2 with
            stack := nested.value.2.stack.pop, pointer := run.pointer }),
        nested.state⟩ := by
  rw [callWorkflow, Oracle.run_bind, run_loadSource loads]
  dsimp only
  rw [reads]
  dsimp only
  rw [Oracle.run_get_bind, enters]
  dsimp only
  rw [Oracle.run_set_bind, Oracle.run_bind]
  dsimp only [Scope.within]
  generalize oracle.run (runChild _ child _) _ _ = nested
  obtain ⟨transcript, ⟨⟨ended, frame⟩, reached⟩, present⟩ := nested
  have ends := congrArg (fun rest =>
    run.exchange .isAborted false ::
      run.exchange (.call (.loadWorkflow call.reference))
        (some (.ok source)) :: rest) (List.append_nil transcript)
  cases ended with
  | error interrupt => exact congrArg (Conversation.mk · _ _) ends
  | ok ended => exact congrArg (Conversation.mk · _ _) ends

/-- What comes of a node once the workflow that it calls is left. -/
def afterCall (node : Node) (bindings : Variables) :
    Except Interrupt (List (String × String)) →
      Except Interrupt Target × Option String × Variables
  | .error interrupt => (.error interrupt, none, bindings)
  | .ok pairs => (.ok node.jumps.next, some (textObject pairs).render,
      bindings.insertAll pairs)

theorem run_driveNode_of_call {runChild : FrameRunner} {fuel : Nat}
    {properties : OrderedMap String} {bindings : Variables}
    (handled : engine.registry.handler? node.nodeType =
      some Handler.workflow)
    (described : Step.describedCall? ⟨node, properties, engine.settings⟩
      bindings = some call) :
    oracle.run (engine.driveNode runChild (fuel + 1) scope node properties
        bindings) run state =
      let called := oracle.run (engine.callWorkflow runChild scope node call)
        run state
      ⟨run.exchange .isAborted false :: called.transcript,
        (afterCall node bindings called.value.1, called.value.2),
        called.state⟩ := by
  have interacted : oracle.run (engine.interact scope
      ⟨node, properties, engine.settings⟩ Handler.workflow (fuel + 1)
      Handler.workflow.execute ⟨bindings, none⟩) run state =
      ⟨[run.exchange .isAborted false],
        ((.ok (.call call), ⟨bindings, none⟩), run), state⟩ :=
    run_interact_of_call fuel (Step.program_callWorkflow described)
  unfold driveNode
  rw [handled]
  dsimp only
  rw [Oracle.run_bind, interacted]
  dsimp only
  rw [Oracle.run_bind]
  generalize oracle.run (engine.callWorkflow _ _ _ _) _ _ = called
  obtain ⟨transcript, ⟨result, reached⟩, present⟩ := called
  have ends := congrArg (fun rest => run.exchange .isAborted false :: rest)
    (List.append_nil transcript)
  cases result with
  | error interrupt => exact congrArg (Conversation.mk · _ _) ends
  | ok pairs => exact congrArg (Conversation.mk · _ _) ends

/-- Ends are told apart by how a run ends with them. -/
theorem runEnd?_injective : Function.Injective runEnd? := by
  rintro ((_ | first | _) | _) ((_ | second | _) | _) same <;>
    simp_all [runEnd?]

theorem runEnd?_eq_some {ended : Except Interrupt Unit}
    (ends : ended ≠ .error .exhausted) :
    ∃ finish, runEnd? ended = some finish := by
  rcases ended with (_ | error | _) | _
  · exact ⟨_, rfl⟩
  · exact ⟨_, rfl⟩
  · exact absurd rfl ends
  · exact ⟨_, rfl⟩

end Engine

/-- A node of a frame in a run, and the state of an oracle there. -/
structure CallSite (Services : Type) where
  scope : Engine.Scope
  node : Node
  /-- The properties of the node, with their templates resolved. -/
  properties : OrderedMap String
  /-- The variables of the frame. -/
  bindings : Variables
  run : Run
  state : Oracle.State Services
  /-- How many steps in a row may be taken in the node. -/
  fuel : Nat

namespace CallSite

open Engine

variable {Services : Type} (site : CallSite Services) (engine : Engine)
  (oracle : Oracle Services) (call : SubWorkflowCall) (child : Workflow)

/-- What comes of the node. -/
def executed : Conversation Run.Moment Run.Moment.Reply
    ((Except Interrupt Target × Option String × Variables) × Run)
    (Oracle.State Services) := oracle.run
  (engine.driveNode (engine.nested site.fuel) site.fuel site.scope site.node
    site.properties site.bindings) site.run site.state

/-- The oracle once it has loaded a document. -/
def loaded (reference : String) : Oracle.State Services :=
  { site.state with
    services := (oracle.call (.loadWorkflow reference) site.state.services).2 }

/-- What comes of the frame of a called workflow. -/
def nested : Conversation Run.Moment Run.Moment.Reply
    ((Except Interrupt Unit × Frame) × Run) (Oracle.State Services) :=
  let key := CallStack.key call.reference child.name
  oracle.run
    (engine.nested site.fuel (site.scope.within key) child
      ⟨call.inputs, none⟩)
    { site.run with stack := ⟨site.run.stack.entries ++ [key]⟩ }
    (site.loaded oracle call.reference)

/-- The node calls a workflow, and the guard of nested calls lets it run. -/
structure Calls : Prop where
  handled : engine.registry.handler? site.node.nodeType =
    some Handler.workflow
  describes : Step.describedCall?
    ⟨site.node, site.properties, engine.settings⟩ site.bindings = some call
  selects : ∃ source,
    (oracle.call (.loadWorkflow call.reference) site.state.services).1 =
      .ok source ∧ Workflow.read source call.name = .ok child
  enters : ∃ stack,
    site.run.stack.push (CallStack.key call.reference child.name)
      engine.options.maxCallDepth = .ok stack
  unguarded : ∀ error, (site.nested engine oracle call child).value.1.1 =
    .error (.failed error) → error.isGuard = false
  fuel_ne_zero : site.fuel ≠ 0

/-- A run with an id can start from a state to the same effect as the frame of
a workflow that is called here: the services are as they are for the frame,
and so are the ids, unless nothing depends on them. -/
structure StartsAlike (reference id : String)
    (state : Oracle.State Services) : Prop where
  services_eq : state.services = (site.loaded oracle reference).services
  ids : id = site.run.id ∧ state.ids = site.state.ids ∨
    engine.registry.IgnoresIds ∧ oracle.IgnoresIds

/-- What the caller has of a call: the document is loaded, the called workflow
is run, and its variables are copied as far as they are mapped. -/
structure Returns : Prop where
  activities :
    Run.Transcript.activities (site.executed engine oracle).transcript =
      .called (.loadWorkflow call.reference)
          (oracle.call (.loadWorkflow call.reference)
            site.state.services).1 ::
        Run.Transcript.activities
          (site.nested engine oracle call child).transcript
  state_eq : (site.executed engine oracle).state =
    (site.nested engine oracle call child).state
  stack_eq : (site.executed engine oracle).value.2.stack = site.run.stack
  pointer_eq : (site.executed engine oracle).value.2.pointer =
    site.run.pointer
  completed :
    (site.nested engine oracle call child).value.1.1 = .ok () →
      (site.executed engine oracle).value.1.1 = .ok site.node.jumps.next ∧
      Variables.Receives call.outputs
        (site.nested engine oracle call child).value.1.2.bindings
        site.bindings (site.executed engine oracle).value.1.2.2
  failed : ∀ interrupt,
    (site.nested engine oracle call child).value.1.1 = .error interrupt →
      (site.executed engine oracle).value.1.1 =
        .error (returned site.node
          (CallStack.key call.reference child.name) interrupt) ∧
      (site.executed engine oracle).value.1.2.2 = site.bindings

/-- Two frames do the same, each under its own path: they end in the same way,
and unless they run out of steps, with the same variables. -/
structure Same (path another : String)
    (first second : Conversation Run.Moment Run.Moment.Reply
      ((Except Interrupt Unit × Frame) × Run) (Oracle.State Services)) :
    Prop where
  result_eq : first.value.1.1 = second.value.1.1
  bindings_eq : first.value.1.1 ≠ .error .exhausted →
    first.value.1.2.bindings = second.value.1.2.bindings
  activities : ∃ activities : List Activity,
    Run.Transcript.activities first.transcript =
        activities.map (Activity.within path) ∧
      Run.Transcript.activities second.transcript =
        activities.map (Activity.within another)
  services_eq : first.state.services = second.state.services

variable {site engine oracle call child}

theorem Calls.push_eq (calls : site.Calls engine oracle call child) :
    engine.options.maxCallDepth ≠ 0 ∧
      site.run.stack.push (CallStack.key call.reference child.name)
        engine.options.maxCallDepth = .ok ⟨site.run.stack.entries ++
          [CallStack.key call.reference child.name]⟩ := by
  obtain ⟨stack, entered⟩ := calls.enters
  unfold CallStack.push at entered ⊢
  split at entered
  · cases entered
  · split at entered
    · cases entered
    · rename_i cycle deep
      refine ⟨?_, ?_⟩
      · intro none
        rw [none] at deep
        exact deep (Nat.zero_le _)
      · rw [if_neg cycle, if_neg deep]

/-- A called workflow comes to the same as the one that is started on its
own. -/
theorem Calls.matches (calls : site.Calls engine oracle call child)
    {id : String} {state : Oracle.State Services} {more : Nat}
    (starts : site.StartsAlike engine oracle call.reference id state)
    (atMost : AtMost ((site.nested engine oracle call child).value.1.1 ≠
      .error .exhausted) site.fuel more) :
    Conversation.Matches
      (site.scope.within (CallStack.key call.reference child.name)).path
      (fun ended alone => EndsAs ended.1 alone.1 ∧
        ended.2.stack.entries = site.run.stack.entries ++
          [CallStack.key call.reference child.name])
      (site.nested engine oracle call child)
      (oracle.run (engine.execute more child call.inputs)
        (.fresh id call.reference) state) := by
  obtain ⟨room, pushed⟩ := calls.push_eq
  obtain ⟨sameIds, ids_eq, registry, answers⟩ : ∃ sameIds : Prop,
      (sameIds → site.run.id = id ∧ site.state.ids = state.ids) ∧
        engine.registry.Respects sameIds ∧ oracle.Respects sameIds := by
    rcases starts.ids with ⟨rfl, same⟩ | ⟨registry, answers⟩
    · exact ⟨True, fun _ => ⟨rfl, same.symm⟩, engine.registry.respects_true,
        oracle.respects_true⟩
    · exact ⟨False, False.elim, registry, answers⟩
  let key := CallStack.key call.reference child.name
  let entered : Run :=
    { site.run with stack := ⟨site.run.stack.entries ++ [key]⟩ }
  have alike := alike_execute registry atMost (site.scope.within key).path
    child call.inputs (rfl : entered.stack.entries = _) room
    fun same => (ids_eq same).1
  rcases alike.converse answers starts.services_eq.symm
    fun same => (ids_eq same).2 with ⟨interrupt, ended, stops⟩ | matched
  · have ended : (site.nested engine oracle call child).value.1.1 =
        .error interrupt := ended
    cases interrupt with
    | cancelled => exact stops.elim
    | failed error =>
        have guarded : error.isGuard = true := stops
        rw [calls.unguarded error ended] at guarded
        cases guarded
    | exhausted => exact (stops ended).elim
  · exact ⟨⟨matched.value.1, congrArg CallStack.entries matched.value.2⟩,
      matched.activities, matched.services⟩

theorem Calls.executed_eq (calls : site.Calls engine oracle call child) :
    ∃ source,
      (oracle.call (.loadWorkflow call.reference) site.state.services).1 =
        .ok source ∧
      site.executed engine oracle =
        let key := CallStack.key call.reference child.name
        let nested := site.nested engine oracle call child
        ⟨site.run.exchange .isAborted false ::
            site.run.exchange .isAborted false ::
              site.run.exchange (.call (.loadWorkflow call.reference))
                (some (.ok source)) :: nested.transcript,
          (afterCall site.node site.bindings
              (callResult site.node key call.outputs nested.value.1.2.bindings
                nested.value.1.1),
            { nested.value.2 with
              stack := nested.value.2.stack.pop, pointer := site.run.pointer }),
          nested.state⟩ := by
  obtain ⟨source, loads, reads⟩ := calls.selects
  obtain ⟨-, entered⟩ := calls.push_eq
  obtain ⟨fuel, steps⟩ := Nat.exists_eq_succ_of_ne_zero calls.fuel_ne_zero
  refine ⟨source, loads, ?_⟩
  unfold executed nested
  rw [steps, run_driveNode_of_call calls.handled calls.describes,
    run_callWorkflow loads reads entered]
  rfl

/-- What the caller has of a call. -/
theorem Calls.returns (calls : site.Calls engine oracle call child) :
    site.Returns engine oracle call child := by
  obtain ⟨source, loads, executed_eq⟩ := calls.executed_eq
  have starts : site.StartsAlike engine oracle call.reference site.run.id
      (site.loaded oracle call.reference) := ⟨rfl, .inl ⟨rfl, rfl⟩⟩
  have stack_eq := (calls.matches starts (.inl rfl)).value.2
  constructor
  · rw [executed_eq, loads]
    rfl
  · rw [executed_eq]
  · rw [executed_eq]
    dsimp only
    rw [CallStack.pop, stack_eq, List.dropLast_concat]
  · rw [executed_eq]
  · intro completed
    rw [executed_eq]
    dsimp only
    rw [completed]
    exact ⟨rfl, receives_copied _ _ _⟩
  · intro interrupt failed
    rw [executed_eq]
    dsimp only
    rw [failed]
    exact ⟨rfl, rfl⟩

/-- Frames that end as one run does end alike. -/
theorem same_of_matches {path another : String}
    {first second : Conversation Run.Moment Run.Moment.Reply
      ((Except Interrupt Unit × Frame) × Run) (Oracle.State Services)}
    {alone : Conversation Run.Moment Run.Moment.Reply
      (Option RunOutcome × Run) (Oracle.State Services)}
    (matched : Conversation.Matches path
      (fun ended alone => EndsAs ended.1 alone.1) first alone)
    (matchedToo : Conversation.Matches another
      (fun ended alone => EndsAs ended.1 alone.1) second alone) :
    Same path another first second := by
  have same := matched.value.symm.trans matchedToo.value
  have result_eq : first.value.1.1 = second.value.1.1 := by
    apply runEnd?_injective
    have kinds := congrArg (Option.map Prod.fst) same
    simpa [Function.comp_def] using kinds
  refine ⟨result_eq, ?_, ?_, ?_⟩
  · intro ends
    obtain ⟨finish, concluded⟩ := runEnd?_eq_some ends
    rw [← result_eq, concluded] at same
    simpa using same
  · exact ⟨_, matched.activities, matchedToo.activities⟩
  · exact matched.services.trans matchedToo.services.symm

/-- A call touches its caller through the mapping of outputs only; the called
workflow does what it does if it is started on its own with the inputs of the
call; and so it does the same wherever an equal call is made. -/
theorem Calls.isolated (calls : site.Calls engine oracle call child) :
    site.Returns engine oracle call child ∧
      (∀ id state more,
        site.StartsAlike engine oracle call.reference id state →
        AtMost ((site.nested engine oracle call child).value.1.1 ≠
          .error .exhausted) site.fuel more →
        Conversation.Matches
          (site.scope.within (CallStack.key call.reference child.name)).path
          (fun ended alone => EndsAs ended.1 alone.1)
          (site.nested engine oracle call child)
          (oracle.run (engine.execute more child call.inputs)
            (.fresh id call.reference) state)) ∧
      ∀ other : CallSite Services, other.Calls engine oracle call child →
        site.StartsAlike engine oracle call.reference other.run.id
          (other.loaded oracle call.reference) →
        (site.fuel = other.fuel ∨
          (site.nested engine oracle call child).value.1.1 ≠
              .error .exhausted ∧
            (other.nested engine oracle call child).value.1.1 ≠
              .error .exhausted) →
        Same
          (site.scope.within (CallStack.key call.reference child.name)).path
          (other.scope.within (CallStack.key call.reference child.name)).path
          (site.nested engine oracle call child)
          (other.nested engine oracle call child) := by
  have alone {site : CallSite Services}
      (calls : site.Calls engine oracle call child) {id state more}
      (starts : site.StartsAlike engine oracle call.reference id state)
      (atMost : AtMost _ site.fuel more) :=
    (calls.matches starts atMost).mono fun _ _ relates => relates.1
  refine ⟨calls.returns, fun id state more => alone calls, ?_⟩
  intro other otherCalls starts fuel
  have itself : other.StartsAlike engine oracle call.reference other.run.id
      (other.loaded oracle call.reference) := ⟨rfl, .inl ⟨rfl, rfl⟩⟩
  rcases fuel with fuel | ⟨ends, otherEnds⟩
  · exact same_of_matches (alone calls starts (.inl rfl))
      (alone otherCalls itself (.inl fuel.symm))
  · let more := max site.fuel other.fuel
    exact same_of_matches
      (alone calls starts (.inr ⟨ends, Nat.le_max_left _ other.fuel⟩))
      (alone otherCalls itself (.inr ⟨otherEnds, Nat.le_max_right _ _⟩))

/-- A document that adds one to a variable. -/
def adding : String :=
  "name: inner\nnodes:\n- type: set\n  name: y\n" ++
    "  value: \"\x7b\x7ba\x7d\x7d + 1\"\n"

/-- An oracle that loads this document, whatever is asked for. -/
def library : Oracle Unit :=
  { Oracle.refusing with
    call := fun
      | .loadWorkflow _, services => (.ok adding, services)
      | call, services => Oracle.refusing.call call services }

/-- A node that has a number increased. -/
def increasing : CallSite Unit :=
  let properties := OrderedMap.ofList [("path", "inner.yaml"),
    ("input", "\x7b\"a\": \"\x7b\x7bx\x7d\x7d\"\x7d"),
    ("output", "\x7b\"result\": \"y\", \"x\": \"z\"\x7d")]
  ⟨⟨""⟩, ⟨"call", .workflow, properties, ⟨.pastEnd, none, none⟩⟩, properties,
    .ofList [("x", "1")], Run.fresh "id" "outer.yaml", .still, 3⟩

/-- The call that this node describes. -/
def increase : SubWorkflowCall :=
  ⟨"inner.yaml", none, .ofList [("a", "1")],
    .ofList [("result", "y"), ("x", "z")]⟩

theorem isolated_increasing :
    ∃ child, increasing.Calls unattended library increase child ∧
      increasing.Returns unattended library increase child ∧
      Conversation.Matches "inner.yaml:inner/"
        (fun ended alone => EndsAs ended.1 alone.1)
        (increasing.nested unattended library increase child)
        (library.run (unattended.execute 3 child increase.inputs)
          (.fresh "other" "inner.yaml") .still) ∧
      (increasing.executed unattended library).value.1.2.2.entries =
        [("x", "1"), ("result", "2")] := by
  have evaluated : ((Workflow.read adding none).toOption.bind fun child =>
      if child.name = "inner" then
        (increasing.nested unattended library increase child).value.1.1.toOption
      else none) = some () := by
    decide +kernel
  obtain ⟨child, isRead, evaluated⟩ := Option.bind_eq_some_iff.1 evaluated
  obtain ⟨named, ended⟩ := Option.ite_none_right_eq_some.1 evaluated
  have completed := eq_ok_of_toOption ended
  have calls : increasing.Calls unattended library increase child :=
    { handled := rfl
      describes := by decide +kernel
      selects := ⟨adding, rfl, eq_ok_of_toOption isRead⟩
      enters := by
        rw [named]
        exact ⟨_, rfl⟩
      unguarded := by
        rw [completed]
        rintro error ⟨⟩
      fuel_ne_zero := by decide }
  obtain ⟨returns, alone, -⟩ := calls.isolated
  refine ⟨child, calls, returns, ?_, by decide +kernel⟩
  have starts : increasing.StartsAlike unattended library "inner.yaml"
      "other" .still :=
    ⟨rfl, .inr ⟨Registry.standard_ignoresIds, fun _ _ _ _ => rfl⟩⟩
  have path_eq : (increasing.scope.within (CallStack.key increase.reference
      child.name)).path = "inner.yaml:inner/" := by
    rw [named]
    rfl
  rw [← path_eq]
  exact alone "other" .still 3 starts (.inl rfl)

end CallSite

end Runbook
