import Mathlib.Data.List.Forall2
import Runbook.Proofs.Run.Execution

/-!
# Walks through workflows

A visit is one execution of a node: what the node finds, where it leads, and
what it leaves behind.  It is reported by two lines of the log, and by a step
of the record if the frame has one.

A frame walks through its workflow: it visits a node, which leads to the next
one, until the walk ends or the run does.  Every run of a frame is such a walk,
and a run of an engine is the walk of its outermost workflow.
-/

/-! ## Visits of nodes -/

namespace Runbook

open Engine

/-- One execution of a node. -/
structure Visit where
  /-- The position of the node in its workflow. -/
  position : Nat
  node : Node
  /-- The variables at the start. -/
  bindings : Variables
  /-- Where the node leads, or why it does not. -/
  result : Except Interrupt Target
  output : Option String
  /-- The variables at the end. -/
  after : Variables

namespace Visit

/-- The properties of the node with the templates resolved. -/
def properties (visit : Visit) : OrderedMap String :=
  Template.resolveAll visit.bindings visit.node.properties

/-- The status with which a visit is recorded. -/
def status (visit : Visit) : StepStatus :=
  match visit.result with
  | .ok _ => .success
  | .error (.failed _) => .error
  | .error _ => .cancelled

/-- The error with which a visit is recorded. -/
def error? (visit : Visit) : Option String :=
  match visit.result with
  | .error (.failed error) => some error.stepMessage
  | _ => none

/-- Whether a visit leads to a target. -/
def Leads (visit : Visit) : Prop :=
  ∃ target, visit.result = .ok target

theorem status_eq_success_iff {visit : Visit} :
    visit.status = .success ↔ visit.Leads := by
  unfold status Leads
  rcases visit.result with (_ | error | _) | target <;> simp

/-- The step of a record that stands for a visit. -/
structure IsRecordedBy (visit : Visit) (step : HistoryStep) : Prop where
  nodeId_eq : step.nodeId = visit.node.id
  nodeType_eq : step.nodeType = visit.node.nodeType.tag
  input_eq : step.input = some (textObject visit.properties.entries)
  status_eq : step.status = visit.status
  output_eq : step.output = visit.output
  error_eq : step.error = visit.error?
  finished : step.finishedAt.isSome

/-- The log line with which a visit starts. -/
def firstLine (scope : Scope) (visit : Visit) : LogLine :=
  ⟨scope.path ++ visit.node.id, visit.node.nodeType.tag, "started", .info⟩

/-- The log line with which a visit ends. -/
def lastLine (engine : Engine) (scope : Scope) (visit : Visit) : LogLine :=
  let ended := engine.stepEnd visit.result visit.output
  ⟨scope.path ++ visit.node.id, visit.node.nodeType.tag, ended.2.2.1,
    ended.2.2.2⟩

theorem stepEnd_eq (engine : Engine) (visit : Visit) :
    engine.stepEnd visit.result visit.output =
      (visit.status, visit.error?,
        (engine.stepEnd visit.result visit.output).2.2) := by
  unfold stepEnd status error?
  rcases visit.result with (_ | error | _) | target <;> rfl

end Visit

namespace Engine

/-- The ways in which a visit takes place: a frame without a record only
reports it, and one with a record reads the clock around it and appends a
step. -/
inductive Performs (engine : Engine) (runChild : FrameRunner) (fuel : Nat)
    (scope : Scope) (visit : Visit) (before : Run) :
    Frame → Run.Transcript → Frame → Run → Prop
  | unrecorded {driving : Run.Transcript} {after : Run}
      (drives : Drives engine runChild fuel scope visit.node visit.properties
        visit.bindings before driving visit.result visit.output visit.after
        after) :
      Performs engine runChild fuel scope visit before ⟨visit.bindings, none⟩
        (before.exchange (.publish (.log (visit.firstLine scope))) () ::
          driving ++
            [after.exchange (.publish (.log (visit.lastLine engine scope)))
              ()])
        ⟨visit.after, none⟩ after
  | recorded {driving : Run.Transcript} {after : Run}
      {record : HistoryRecord} {step : HistoryStep} {opened closed : Instant}
      (drives : Drives engine runChild fuel scope visit.node visit.properties
        visit.bindings before driving visit.result visit.output visit.after
        after)
      (recorded : visit.IsRecordedBy step) :
      Performs engine runChild fuel scope visit before
        ⟨visit.bindings, some record⟩
        (before.exchange .now opened ::
          before.exchange (.publish (.log (visit.firstLine scope))) () ::
            driving ++
              [after.exchange (.publish (.log (visit.lastLine engine scope)))
                (), after.exchange .now closed])
        ⟨visit.after, some { record with steps := record.steps ++ [step] }⟩
        after

variable {engine : Engine} {runChild : FrameRunner} {fuel : Nat}
  {scope : Scope} {before after : Run} {transcript : Run.Transcript}

/-- A visit finds the variables of its frame, and leaves those behind with
which it ends. -/
theorem Performs.bindings_eq {visit : Visit} {frame reached : Frame}
    (performs : Performs engine runChild fuel scope visit before frame
      transcript reached after) :
    visit.bindings = frame.bindings ∧ reached.bindings = visit.after := by
  cases performs with
  | unrecorded drives => exact ⟨rfl, rfl⟩
  | recorded drives isRecorded => exact ⟨rfl, rfl⟩

/-- A visit is the execution of its node, and what is said around it. -/
theorem Performs.exists_drives {visit : Visit} {frame reached : Frame}
    (performs : Performs engine runChild fuel scope visit before frame
      transcript reached after) :
    ∃ driving, driving <:+: transcript ∧
      Drives engine runChild fuel scope visit.node visit.properties
        visit.bindings before driving visit.result visit.output visit.after
        after := by
  cases performs with
  | @unrecorded driving _ drives =>
      exact ⟨driving, List.infix_append [_] driving [_], drives⟩
  | @recorded driving _ _ _ _ _ drives isRecorded =>
      exact ⟨driving, List.infix_append [_, _] driving [_, _], drives⟩

/-- A step that was opened last and is closed at once stands at the end of the
record. -/
theorem finishStep_startStep (record : HistoryRecord) (id tag : String)
    (input : Option Json) (opened closed : Instant) (status : StepStatus)
    (output error : Option String) :
    (record.startStep id tag input opened).finishStep
        ((record.startStep id tag input opened).steps.length - 1) status
        output error closed =
      { record with
        steps := record.steps ++
          [⟨id, tag, status, input, output, error, opened, some closed⟩] } := by
  have atEnd := List.modifyTailIdx_add
    (List.modifyHead fun step => step.finish status output error closed) 0
    record.steps [HistoryStep.start id tag input opened]
  simpa [HistoryRecord.finishStep, HistoryRecord.startStep, List.modify,
    HistoryStep.start, HistoryStep.finish] using atEnd

theorem openStep_of_yields {node : Node} {properties : OrderedMap String}
    {record opened : Option HistoryRecord}
    (yields : (openStep node properties record).Yields before transcript
      opened after) :
    after = before ∧
      ((record = none ∧ opened = none ∧ transcript = []) ∨
        ∃ content now, record = some content ∧
          opened = some (content.startStep node.id node.nodeType.tag
            (some (textObject properties.entries)) now) ∧
          transcript = [before.exchange .now now]) := by
  cases record with
  | none =>
      obtain ⟨rfl, rfl, rfl⟩ := Running.yields_pure_iff.1 yields
      exact ⟨rfl, .inl ⟨rfl, rfl, rfl⟩⟩
  | some content =>
      obtain ⟨now, rest, rfl, ending⟩ := Running.yields_ask_bind_iff.1 yields
      obtain ⟨rfl, rfl, rfl⟩ := Running.yields_pure_iff.1 ending
      exact ⟨rfl, .inr ⟨content, now, rfl, rfl, rfl⟩⟩

theorem closeStep_of_yields {status : StepStatus}
    {output error : Option String} {record closed : Option HistoryRecord}
    (yields : (closeStep status output error record).Yields before transcript
      closed after) :
    after = before ∧
      ((record = none ∧ closed = none ∧ transcript = []) ∨
        ∃ content now, record = some content ∧
          closed = some (content.finishStep (content.steps.length - 1) status
            output error now) ∧
          transcript = [before.exchange .now now]) := by
  cases record with
  | none =>
      obtain ⟨rfl, rfl, rfl⟩ := Running.yields_pure_iff.1 yields
      exact ⟨rfl, .inl ⟨rfl, rfl, rfl⟩⟩
  | some content =>
      obtain ⟨now, rest, rfl, ending⟩ := Running.yields_ask_bind_iff.1 yields
      obtain ⟨rfl, rfl, rfl⟩ := Running.yields_pure_iff.1 ending
      exact ⟨rfl, .inr ⟨content, now, rfl, rfl, rfl⟩⟩

/-- Every step of an engine is a visit of its node. -/
theorem performs_of_yields {node : Node} {frame reached : Frame}
    {result : Except Interrupt Target}
    (yields : (engine.step runChild fuel scope node frame).Yields before
      transcript (result, reached) after) (position : Nat) :
    ∃ visit, visit.position = position ∧ visit.node = node ∧
      visit.result = result ∧
      Performs engine runChild fuel scope visit before frame transcript
        reached after := by
  obtain ⟨bindings, record⟩ := frame
  unfold step at yields
  dsimp only at yields
  rw [Running.yields_bind_iff] at yields
  obtain ⟨opening, rest, opened, current, rfl, opens, yields⟩ := yields
  obtain ⟨rfl, opens⟩ := openStep_of_yields opens
  rw [log, Running.yields_publish_bind_iff] at yields
  obtain ⟨rest, rfl, yields⟩ := yields
  rw [Running.yields_bind_iff] at yields
  obtain ⟨driving, rest, ⟨ended, output, final⟩, middle, rfl, driven,
    yields⟩ := yields
  have drives := drives_of_yields driven
  let visit : Visit := ⟨position, node, bindings, ended, output, final⟩
  have endEq := visit.stepEnd_eq engine
  dsimp only at yields
  rw [endEq] at yields
  dsimp only at yields
  rw [log, Running.yields_publish_bind_iff] at yields
  obtain ⟨rest, rfl, yields⟩ := yields
  rw [Running.yields_bind_iff] at yields
  obtain ⟨closing, rest, closed, current, rfl, closes, yields⟩ := yields
  obtain ⟨rfl, closes⟩ := closeStep_of_yields closes
  obtain ⟨rfl, same, rfl⟩ := Running.yields_pure_iff.1 yields
  obtain ⟨rfl, rfl⟩ := Prod.mk.inj same
  refine ⟨visit, rfl, rfl, rfl, ?_⟩
  rcases opens with ⟨rfl, rfl, rfl⟩ | ⟨content, now, rfl, rfl, rfl⟩
  · obtain ⟨-, rfl, rfl⟩ | ⟨_, _, impossible, -⟩ := closes
    · exact .unrecorded drives
    · cases impossible
  · obtain ⟨impossible, -⟩ | ⟨_, later, sameRecord, rfl, rfl⟩ := closes
    · cases impossible
    · cases sameRecord
      rw [finishStep_startStep]
      exact .recorded drives ⟨rfl, rfl, rfl, rfl, rfl, rfl, rfl⟩

end Engine

end Runbook

/-! ## Walks -/

namespace Runbook

namespace Engine

/-- The node that a target leads to, with its position. -/
def nodeAt? (workflow : Workflow) (target : Target) : Option (Nat × Node) :=
  target.index?.bind fun index =>
    workflow.nodes[index]?.map fun node => (index, node)

theorem nodeAt?_eq_some_iff {workflow : Workflow} {target : Target}
    {index : Nat} {node : Node} :
    nodeAt? workflow target = some (index, node) ↔
      target = .node index ∧ workflow.nodes[index]? = some node := by
  cases target with
  | node position =>
      simp only [nodeAt?, Target.index?, Option.bind_some,
        Option.map_eq_some_iff, Prod.mk.injEq, Target.node.injEq]
      constructor
      · rintro ⟨_, found, rfl, rfl⟩
        exact ⟨rfl, found⟩
      · rintro ⟨rfl, found⟩
        exact ⟨node, found, rfl, rfl⟩
  | finish => simp [nodeAt?, Target.index?]
  | pastEnd => simp [nodeAt?, Target.index?]

/-- How a called workflow is run as a frame of its own, with so many steps in
a row. -/
def nested (engine : Engine) (fuel : Nat) : FrameRunner :=
  fun scope child frame =>
    engine.runFrom fuel scope child (.node child.start) frame

variable {engine : Engine} {fuel : Nat} {scope : Scope} {workflow : Workflow}
  {target : Target} {before after : Run} {transcript : Run.Transcript}
  {frame reached : Frame} {visits : List Visit}
  {ended : Except Interrupt Unit}

/-- The ways in which a frame goes on from a target: it ends there, or it takes
a step and goes on from where that leads. -/
inductive GoesOn (engine : Engine) (fuel : Nat) (scope : Scope)
    (workflow : Workflow) (target : Target) (frame : Frame) (before : Run) :
    Run.Transcript → Except Interrupt Unit → Frame → Run → Prop
  | aborted :
      GoesOn engine fuel scope workflow target frame before
        [before.exchange .isAborted true] (.error .cancelled) frame before
  | finished (nowhere : nodeAt? workflow target = none) :
      GoesOn engine fuel scope workflow target frame before
        [before.exchange .isAborted false] (.ok ()) frame before
  | stopped (position : Nat) {node : Node} {visiting : Run.Transcript}
      {interrupt : Interrupt} {reached : Frame} {after : Run}
      (found : nodeAt? workflow target = some (position, node))
      (steps : (engine.step (engine.nested fuel) fuel scope node frame).Yields
        { before with pointer := some position } visiting
        (.error interrupt, reached) after) :
      GoesOn engine fuel scope workflow target frame before
        (before.exchange .isAborted false :: visiting) (.error interrupt)
        reached after
  | moved (position : Nat) {node : Node} {visiting rest : Run.Transcript}
      {next : Target} {middle reached : Frame} {current after : Run}
      {ended : Except Interrupt Unit}
      (found : nodeAt? workflow target = some (position, node))
      (steps : (engine.step (engine.nested fuel) fuel scope node frame).Yields
        { before with pointer := some position } visiting
        (.ok next, middle) current)
      (goesOn : (engine.runFrom fuel scope workflow next middle).Yields current
        rest (ended, reached) after) :
      GoesOn engine fuel scope workflow target frame before
        (before.exchange .isAborted false :: visiting ++ rest) ended reached
        after

theorem goesOn_of_yields
    (yields : (engine.runFrom (fuel + 1) scope workflow target frame).Yields
      before transcript (ended, reached) after) :
    GoesOn engine fuel scope workflow target frame before transcript ended
      reached after := by
  rw [runFrom, Running.yields_ask_bind_iff] at yields
  obtain ⟨aborted, rest, rfl, yields⟩ := yields
  cases aborted with
  | true =>
      obtain ⟨rfl, same, rfl⟩ := Running.yields_pure_iff.1 yields
      obtain ⟨rfl, rfl⟩ := Prod.mk.inj same
      exact .aborted
  | false =>
      rw [if_neg Bool.false_ne_true] at yields
      cases found : nodeAt? workflow target with
      | none =>
          rw [nodeAt?] at found
          rw [found] at yields
          obtain ⟨rfl, same, rfl⟩ := Running.yields_pure_iff.1 yields
          obtain ⟨rfl, rfl⟩ := Prod.mk.inj same
          exact .finished found
      | some place =>
          obtain ⟨position, node⟩ := place
          rw [nodeAt?] at found
          rw [found] at yields
          dsimp only at yields
          rw [Running.yields_modify_bind_iff,
            Running.yields_bind_iff] at yields
          obtain ⟨visiting, rest, ⟨result, middle⟩, current, rfl, steps,
            yields⟩ := yields
          cases result with
          | error interrupt =>
              obtain ⟨rfl, same, rfl⟩ := Running.yields_pure_iff.1 yields
              obtain ⟨rfl, rfl⟩ := Prod.mk.inj same
              simpa using GoesOn.stopped position found steps
          | ok next => exact .moved position found steps yields

/-- The walk of a frame through its workflow, visit by visit. -/
inductive Walk (engine : Engine) (scope : Scope) (workflow : Workflow) :
    Nat → Target → Frame → Run → Run.Transcript → List Visit →
      Except Interrupt Unit → Frame → Run → Prop
  | exhausted {target : Target} {frame : Frame} {run : Run} :
      Walk engine scope workflow 0 target frame run [] []
        (.error .exhausted) frame run
  /-- The run is aborted before the next node. -/
  | aborted {fuel : Nat} {target : Target} {frame : Frame} {run : Run} :
      Walk engine scope workflow (fuel + 1) target frame run
        [run.exchange .isAborted true] [] (.error .cancelled) frame run
  /-- There is no next node. -/
  | finished {fuel : Nat} {target : Target} {frame : Frame} {run : Run}
      (nowhere : nodeAt? workflow target = none) :
      Walk engine scope workflow (fuel + 1) target frame run
        [run.exchange .isAborted false] [] (.ok ()) frame run
  /-- The next node does not lead anywhere. -/
  | stopped {fuel : Nat} {target : Target} {frame reached : Frame}
      {run after : Run} {visiting : Run.Transcript} {visit : Visit}
      {interrupt : Interrupt}
      (found : nodeAt? workflow target = some (visit.position, visit.node))
      (performs : Performs engine (engine.nested fuel) fuel scope visit
        { run with pointer := some visit.position } frame visiting reached
        after)
      (stops : visit.result = .error interrupt) :
      Walk engine scope workflow (fuel + 1) target frame run
        (run.exchange .isAborted false :: visiting) [visit]
        (.error interrupt) reached after
  /-- The next node leads to another one, from where the walk goes on. -/
  | moved {fuel : Nat} {target next : Target} {frame middle reached : Frame}
      {run current after : Run} {visiting rest : Run.Transcript}
      {visit : Visit} {visits : List Visit} {ended : Except Interrupt Unit}
      (found : nodeAt? workflow target = some (visit.position, visit.node))
      (performs : Performs engine (engine.nested fuel) fuel scope visit
        { run with pointer := some visit.position } frame visiting middle
        current)
      (leads : visit.result = .ok next)
      (goesOn : Walk engine scope workflow fuel next middle current rest
        visits ended reached after) :
      Walk engine scope workflow (fuel + 1) target frame run
        (run.exchange .isAborted false :: visiting ++ rest)
        (visit :: visits) ended reached after

/-- Every run of a frame is a walk. -/
theorem walk_of_yields
    (yields : (engine.runFrom fuel scope workflow target frame).Yields before
      transcript (ended, reached) after) :
    ∃ visits, Walk engine scope workflow fuel target frame before transcript
      visits ended reached after := by
  induction fuel generalizing target frame before transcript with
  | zero =>
      rw [runFrom] at yields
      obtain ⟨rfl, same, rfl⟩ := Running.yields_pure_iff.1 yields
      obtain ⟨rfl, rfl⟩ := Prod.mk.inj same
      exact ⟨[], .exhausted⟩
  | succ fuel ih =>
      cases goesOn_of_yields yields with
      | aborted => exact ⟨[], .aborted⟩
      | finished nowhere => exact ⟨[], .finished nowhere⟩
      | stopped position found steps =>
          obtain ⟨visit, rfl, rfl, stops, performs⟩ :=
            performs_of_yields steps position
          exact ⟨[visit], .stopped found performs stops⟩
      | moved position found steps goesOn =>
          obtain ⟨visit, rfl, rfl, leads, performs⟩ :=
            performs_of_yields steps position
          obtain ⟨visits, walk⟩ := ih goesOn
          exact ⟨visit :: visits, .moved found performs leads walk⟩

/-- A walk either leads on at all its visits, or it ends at its last visit with
what stops that visit. -/
theorem Walk.leads_or_stops
    (walk : Walk engine scope workflow fuel target frame before transcript
      visits ended reached after) :
    ((∀ visit ∈ visits, visit.Leads) ∧
        ∀ error, ended ≠ .error (.failed error)) ∨
      ∃ first last interrupt, visits = first ++ [last] ∧
        (∀ visit ∈ first, visit.Leads) ∧ last.result = .error interrupt ∧
        ended = .error interrupt := by
  induction walk with
  | exhausted => exact .inl ⟨by simp, by simp⟩
  | aborted => exact .inl ⟨by simp, by simp⟩
  | finished nowhere => exact .inl ⟨by simp, by simp⟩
  | stopped found performs stops =>
      exact .inr ⟨[], _, _, rfl, by simp, stops, rfl⟩
  | moved found performs leads goesOn ih =>
      rcases ih with ⟨allLead, unfailed⟩ | ⟨first, last, interrupt, rfl,
        allLead, stops, rfl⟩
      · exact .inl ⟨by simpa using ⟨⟨_, leads⟩, allLead⟩, unfailed⟩
      · exact .inr ⟨_ :: first, last, interrupt, rfl,
          by simpa using ⟨⟨_, leads⟩, allLead⟩, stops, rfl⟩

/-- The nodes that are visited stand in the workflow. -/
theorem Walk.forall_nodes
    (walk : Walk engine scope workflow fuel target frame before transcript
      visits ended reached after) :
    ∀ visit ∈ visits,
      workflow.nodes[visit.position]? = some visit.node := by
  induction walk with
  | exhausted => simp
  | aborted => simp
  | finished nowhere => simp
  | stopped found performs stops =>
      simpa using (nodeAt?_eq_some_iff.1 found).2
  | moved found performs leads goesOn ih =>
      simpa using ⟨(nodeAt?_eq_some_iff.1 found).2, ih⟩

/-- A frame with a record appends a step for each of its visits, and for
nothing else. -/
theorem Walk.exists_steps
    (walk : Walk engine scope workflow fuel target frame before transcript
      visits ended reached after) {record : HistoryRecord}
    (recorded : frame.record = some record) :
    ∃ steps, reached.record =
        some { record with steps := record.steps ++ steps } ∧
      List.Forall₂ Visit.IsRecordedBy visits steps := by
  induction walk generalizing record with
  | exhausted => exact ⟨[], by simpa using recorded, .nil⟩
  | aborted => exact ⟨[], by simpa using recorded, .nil⟩
  | finished nowhere => exact ⟨[], by simpa using recorded, .nil⟩
  | stopped found performs stops =>
      cases performs with
      | unrecorded drives => cases recorded
      | recorded drives isRecorded =>
          cases recorded
          exact ⟨[_], rfl, .cons isRecorded .nil⟩
  | moved found performs leads goesOn ih =>
      cases performs with
      | unrecorded drives => cases recorded
      | recorded drives isRecorded =>
          cases recorded
          obtain ⟨steps, reachedRecord, others⟩ := ih rfl
          exact ⟨_ :: steps, by simpa using reachedRecord,
            .cons isRecorded others⟩

/-! ### The outermost workflow -/

/-- What a run asks before the first node of its outermost workflow. -/
def opening (before : Run) (started : Instant) : Run.Transcript :=
  before.exchange .now started :: before.announcement .running

/-- What a run asks when it ends with a status. -/
def closing (reached : Run) (status : RunStatus) (finished : Instant) :
    Run.Transcript :=
  reached.announcement status ++
    [{ reached with status }.exchange .now finished]

/-- The record with which a run begins. -/
def firstRecord (workflow : Workflow) (before : Run) (started : Instant) :
    HistoryRecord :=
  .start before.id before.reference workflow.name started

/-- The ways in which the outermost workflow is run: it is refused, or it is a
frame like any other. -/
inductive RunsOutermost (engine : Engine) (fuel : Nat) (workflow : Workflow)
    (frame : Frame) (before : Run) :
    Run.Transcript → Except Interrupt Unit → Frame → Run → Prop
  | refused {error : RunError}
      (guarded : before.stack.push
        (CallStack.key before.reference workflow.name)
        engine.options.maxCallDepth = .error error) :
      RunsOutermost engine fuel workflow frame before []
        (.error (.failed error)) frame before
  | entered {stack : CallStack} {transcript : Run.Transcript}
      {ended : Except Interrupt Unit} {reached : Frame} {inner : Run}
      (entered : before.stack.push
        (CallStack.key before.reference workflow.name)
        engine.options.maxCallDepth = .ok stack)
      (runs : (engine.runFrom fuel ⟨""⟩ workflow (.node workflow.start)
        frame).Yields { before with stack } transcript (ended, reached)
          inner) :
      RunsOutermost engine fuel workflow frame before transcript ended reached
        { inner with stack := inner.stack.pop }

theorem runsOutermost_of_yields
    (yields : (engine.runOutermost fuel workflow frame).Yields before
      transcript (ended, reached) after) :
    RunsOutermost engine fuel workflow frame before transcript ended reached
      after := by
  rw [runOutermost, Running.yields_get_bind_iff] at yields
  cases entered : before.stack.push
      (CallStack.key before.reference workflow.name)
      engine.options.maxCallDepth with
  | error error =>
      rw [entered] at yields
      obtain ⟨rfl, same, rfl⟩ := Running.yields_pure_iff.1 yields
      obtain ⟨rfl, rfl⟩ := Prod.mk.inj same
      exact .refused entered
  | ok stack =>
      rw [entered] at yields
      dsimp only at yields
      rw [Running.yields_set_bind_iff, Running.yields_bind_iff] at yields
      obtain ⟨running, rest, result, inner, rfl, runs, yields⟩ := yields
      rw [Running.yields_modify_bind_iff] at yields
      obtain ⟨rfl, rfl, rfl⟩ := Running.yields_pure_iff.1 yields
      simpa using RunsOutermost.entered entered runs

/-- The ways in which a run of an engine goes: it begins, the outermost
workflow is run, and then it ends with a status, unless the steps that it may
take do not suffice. -/
inductive Proceeds (engine : Engine) (fuel : Nat) (workflow : Workflow)
    (bindings : Variables) (before : Run) :
    Run.Transcript → Option RunOutcome → Run → Prop
  | exhausted {started : Instant} {running : Run.Transcript}
      {ended : Except Interrupt Unit} {frame : Frame} {reached : Run}
      (runs : RunsOutermost engine fuel workflow
        ⟨bindings, some (firstRecord workflow before started)⟩
        { before with status := .running } running ended frame reached)
      (endless : runEnd? ended = none) :
      Proceeds engine fuel workflow bindings before
        (opening before started ++ running) none reached
  | ended {started : Instant} (finished : Instant) {running : Run.Transcript}
      {ended : Except Interrupt Unit} {frame : Frame} {reached : Run}
      {status : RunStatus} {error : Option RunError}
      (runs : RunsOutermost engine fuel workflow
        ⟨bindings, some (firstRecord workflow before started)⟩
        { before with status := .running } running ended frame reached)
      (ends : runEnd? ended = some (status, error)) :
      Proceeds engine fuel workflow bindings before
        (opening before started ++ running ++ closing reached status finished)
        (some ⟨before.id, status, frame.bindings,
          (frame.record.getD (firstRecord workflow before started)).finalize
            status finished, error⟩)
        { reached with status }

theorem proceeds_of_yields {bindings : Variables}
    {outcome? : Option RunOutcome}
    (yields : (engine.execute fuel workflow bindings).Yields before transcript
      outcome? after) :
    Proceeds engine fuel workflow bindings before transcript outcome?
      after := by
  unfold execute at yields
  rw [Running.yields_get_bind_iff, Running.yields_ask_bind_iff] at yields
  obtain ⟨started, rest, rfl, yields⟩ := yields
  rw [Running.yields_transition_bind_iff] at yields
  obtain ⟨rest, rfl, yields⟩ := yields
  rw [Running.yields_bind_iff] at yields
  obtain ⟨running, rest, ⟨ended, frame⟩, reached, rfl, ran, yields⟩ := yields
  have runs := runsOutermost_of_yields ran
  dsimp only at yields
  cases ends : runEnd? ended with
  | none =>
      rw [ends] at yields
      obtain ⟨rfl, rfl, rfl⟩ := Running.yields_pure_iff.1 yields
      simpa [opening] using Proceeds.exhausted runs ends
  | some ending =>
      obtain ⟨status, error⟩ := ending
      rw [ends] at yields
      dsimp only at yields
      rw [Running.yields_transition_bind_iff] at yields
      obtain ⟨rest, rfl, yields⟩ := yields
      rw [Running.yields_ask_bind_iff] at yields
      obtain ⟨finished, rest, rfl, yields⟩ := yields
      obtain ⟨rfl, rfl, rfl⟩ := Running.yields_pure_iff.1 yields
      simpa [opening, closing, firstRecord] using
        Proceeds.ended finished runs ends

/-- The ways in which a run of an engine comes to an end, with the visits of
its outermost workflow. -/
inductive Executes (engine : Engine) (fuel : Nat) (workflow : Workflow)
    (bindings : Variables) (before : Run) :
    Run.Transcript → List Visit → RunOutcome → Run → Prop
  /-- The outermost workflow is not even entered. -/
  | refused {started finished : Instant} {error : RunError}
      (guarded : before.stack.push
        (CallStack.key before.reference workflow.name)
        engine.options.maxCallDepth = .error error) :
      Executes engine fuel workflow bindings before
        (opening before started ++
          closing { before with status := .running } .error finished)
        [] ⟨before.id, .error, bindings,
          (firstRecord workflow before started).finalize .error finished,
          some error⟩
        { before with status := .error }
  | walked {started : Instant} {stack : CallStack}
      {walking : Run.Transcript} {visits : List Visit}
      {ended : Except Interrupt Unit} {final : Variables}
      {record : HistoryRecord} {reached : Run} {status : RunStatus}
      {error : Option RunError}
      (entered : before.stack.push
        (CallStack.key before.reference workflow.name)
        engine.options.maxCallDepth = .ok stack)
      (walk : Walk engine ⟨""⟩ workflow fuel (.node workflow.start)
        ⟨bindings, some (firstRecord workflow before started)⟩
        { before with status := .running, stack } walking visits ended
        ⟨final, some record⟩ reached)
      (ends : runEnd? ended = some (status, error)) (finished : Instant) :
      Executes engine fuel workflow bindings before
        (opening before started ++ walking ++
          closing { reached with stack := reached.stack.pop } status finished)
        visits ⟨before.id, status, final, record.finalize status finished,
          error⟩
        { reached with stack := reached.stack.pop, status }

/-- Every run with an outcome is the walk of its outermost workflow, unless
that is refused. -/
theorem executes_of_yields {bindings : Variables} {outcome : RunOutcome}
    (yields : (engine.execute fuel workflow bindings).Yields before transcript
      (some outcome) after) :
    ∃ visits, Executes engine fuel workflow bindings before transcript visits
      outcome after := by
  cases proceeds_of_yields yields with
  | @ended started finished running ended frame _ _ _ runs ends =>
      cases runs with
      | @refused error guarded =>
          cases ends
          have guarded : before.stack.push
              (CallStack.key before.reference workflow.name)
              engine.options.maxCallDepth = .error error := guarded
          exact ⟨[], by
            simpa using Executes.refused guarded⟩
      | @entered stack _ _ _ inner entered runs =>
          have entered : before.stack.push
              (CallStack.key before.reference workflow.name)
              engine.options.maxCallDepth = .ok stack := entered
          obtain ⟨visits, walk⟩ := walk_of_yields runs
          obtain ⟨steps, recordEq, -⟩ := walk.exists_steps rfl
          obtain ⟨final, record⟩ := frame
          cases recordEq
          exact ⟨visits, .walked entered walk ends finished⟩

/-- The visits of a run are visits of nodes of its outermost workflow. -/
theorem Executes.forall_nodes {bindings : Variables} {outcome : RunOutcome}
    (executes : Executes engine fuel workflow bindings before transcript
      visits outcome after) :
    ∀ visit ∈ visits,
      workflow.nodes[visit.position]? = some visit.node := by
  cases executes with
  | refused guarded => simp
  | walked entered walk ends => exact walk.forall_nodes

end Engine

end Runbook
