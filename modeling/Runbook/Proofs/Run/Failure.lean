import Runbook.Proofs.Run.Cut
import Runbook.Proofs.Run.LogTree

/-!
# Failures in frames

A node that fails reports so with one line of the log, and nothing else does.
What comes before a call of another workflow, and what comes after it, is told
apart from what takes place in the called frame: nothing is reported to have
failed before, and what comes after follows from how the called frame ends.
-/

namespace Runbook

open Engine

/-- What follows a part of a computation that is known is what comes after it
in the whole. -/
theorem Running.Yields.rest {α β : Type} {computation : Running α}
    {next : α → Running β} {before middle after : Run} {result : α} {value : β}
    {lead later whole tail : Run.Transcript}
    (first : computation.Yields before lead result middle)
    (yields : (computation >>= next).Yields before whole value after)
    (same : whole ++ tail = lead ++ later) :
    ∃ others, whole = lead ++ others ∧ others ++ tail = later ∧
      (next result).Yields middle others value after := by
  obtain ⟨leadToo, others, resultToo, middleToo, rfl, firstToo, goesOn⟩ :=
    Running.yields_bind_iff.1 yields
  rw [List.append_assoc] at same
  obtain ⟨rfl, sameEnd⟩ := Program.Yields.unique firstToo first same
  cases sameEnd
  exact ⟨others, rfl, List.append_cancel_left same, goesOn⟩

/-- The lines that report failures, in order. -/
def Run.Transcript.failures (transcript : Run.Transcript) : List LogLine :=
  transcript.lines.filter fun line => line.status = .error

namespace Run.Transcript

variable {first second : Transcript}

@[simp]
theorem failures_nil : failures [] = [] :=
  rfl

@[simp]
theorem failures_append :
    failures (first ++ second) = first.failures ++ second.failures := by
  rw [failures, lines_append, List.filter_append]
  rfl

@[simp]
theorem failures_isAborted (run : Run) (aborted : Bool) (rest : Transcript) :
    failures (run.exchange .isAborted aborted :: rest) = rest.failures :=
  rfl

theorem failures_of_lines (silent : first.lines = []) :
    first.failures = [] := by
  rw [failures, silent]
  rfl

end Run.Transcript

namespace Engine

/-- How a frame is entered. -/
structure FrameStart where
  fuel : Nat
  scope : Scope
  workflow : Workflow
  frame : Frame
  before : Run

/-- A frame, from its start to its end. -/
structure FrameRun extends FrameStart where
  transcript : Run.Transcript
  ended : Except Interrupt Unit
  reached : Frame
  after : Run

/-- An engine runs a frame like this. -/
def FrameRun.IsBy (engine : Engine) (run : FrameRun) : Prop :=
  (engine.nested run.fuel run.scope run.workflow run.frame).Yields run.before
    run.transcript (run.ended, run.reached) run.after

/-- The line that reports that a node fails. -/
def failureLine (scope : Scope) (node : Node) (error : RunError) : LogLine :=
  ⟨scope.path ++ node.id, node.nodeType.tag, error.stepMessage, .error⟩

/-- The lines that report that a node fails, if it does. -/
def failureLines (scope : Scope) (node : Node) :
    Except Interrupt Target → List LogLine
  | .error (.failed error) => [failureLine scope node error]
  | _ => []

/-- Where a node leads when the workflow that it calls has been run. -/
def callEnd (node : Node) (key : String) :
    Except Interrupt Unit → Except Interrupt Target
  | .ok () => .ok node.jumps.next
  | .error interrupt => .error (returned node key interrupt)

variable {engine : Engine} {fuel : Nat} {scope : Scope} {node : Node}
  {before after : Run} {transcript : Run.Transcript}

theorem LoadsSource.yields {reference source : String}
    (loads : LoadsSource node reference before transcript (.ok source)) :
    (loadSource node reference).Yields before transcript (.ok source)
      before := by
  cases loads with
  | loaded =>
      rw [loadSource, Running.yields_ask_bind_iff]
      refine ⟨false, _, rfl, ?_⟩
      rw [if_neg Bool.false_ne_true, Running.yields_ask_bind_iff]
      exact ⟨_, [], rfl, Running.yields_pure_iff.2 ⟨rfl, rfl, rfl⟩⟩

/-- While a node is executed, it leads to a call, and the workflow is loaded,
read and entered as a frame of its own. -/
inductive Enters (engine : Engine) (fuel : Nat) (scope : Scope) (node : Node)
    (bindings : Variables) (before : Run) :
    Run.Transcript → String → FrameStart → Prop
  | intro {handler : Handler} {call : SubWorkflowCall} {state : Step.State}
      {asked loading : Run.Transcript} {middle : Run} {source : String}
      {child : Workflow} {stack : CallStack}
      (known : engine.registry.handler? node.nodeType = some handler)
      (leads : (engine.interact scope
        ⟨node, Template.resolveAll bindings node.properties, engine.settings⟩
        handler fuel handler.execute ⟨bindings, none⟩).Yields before asked
          (.ok (.call call), state) middle)
      (loads : LoadsSource node call.reference middle loading (.ok source))
      (read : Workflow.read source call.name = .ok child)
      (entered : middle.stack.push (CallStack.key call.reference child.name)
        engine.options.maxCallDepth = .ok stack) :
      Enters engine fuel scope node bindings before (asked ++ loading)
        (CallStack.key call.reference child.name)
        ⟨fuel, scope.within (CallStack.key call.reference child.name), child,
          ⟨call.inputs, none⟩, { middle with stack }⟩

/-- What a handler notes is not a failure. -/
theorem failures_eq_nil_of_interact {context : Step.Context}
    {handler : Handler} {step : Step Directive} {state ended : Step.State}
    {result : Except Interrupt Flow}
    (yields : (engine.interact scope context handler fuel step state).Yields
      before transcript (result, ended) after) : transcript.failures = [] := by
  obtain ⟨notes, -, lines_eq⟩ := (interacts_of_yields yields).exists_notes
  rw [Run.Transcript.failures, lines_eq, List.filter_eq_nil_iff]
  intro line member
  obtain ⟨message, -, rfl⟩ := List.mem_map.1 member
  simp

/-- Nothing has failed when a workflow is entered. -/
theorem Enters.failures_eq_nil {bindings : Variables} {key : String}
    {start : FrameStart}
    (enters : Enters engine fuel scope node bindings before transcript key
      start) : transcript.failures = [] := by
  cases enters with
  | intro known leads loads read entered =>
      rw [Run.Transcript.failures_append, failures_eq_nil_of_interact leads,
        Run.Transcript.failures_of_lines loads.lines_eq_nil, List.nil_append]

theorem Enters.fuel_eq {bindings : Variables} {key : String}
    {start : FrameStart}
    (enters : Enters engine fuel scope node bindings before transcript key
      start) : start.fuel = fuel := by
  cases enters
  rfl

theorem Enters.scope_eq {bindings : Variables} {key : String}
    {start : FrameStart}
    (enters : Enters engine fuel scope node bindings before transcript key
      start) : start.scope = scope.within key := by
  cases enters
  rfl

/-- A frame that is entered ends the call, and with it the node: nothing else
is asked. -/
theorem Enters.ends {bindings reached : Variables} {key : String}
    {inner : FrameRun} {driving later tail : Run.Transcript}
    {result : Except Interrupt Target} {output : Option String}
    (enters : Enters engine fuel scope node bindings before transcript key
      inner.toFrameStart)
    (runs : inner.IsBy engine)
    (yields : (engine.driveNode (engine.nested fuel) fuel scope node
      (Template.resolveAll bindings node.properties) bindings).Yields before
        driving (result, output, reached) after)
    (same : driving ++ tail = transcript ++ (inner.transcript ++ later)) :
    result = callEnd node key inner.ended ∧
      driving = transcript ++ inner.transcript := by
  obtain ⟨start, nested, ended, final, left⟩ := inner
  cases enters with
  | intro known leads loads read entered =>
      rw [driveNode, known] at yields
      dsimp only at yields
      rw [List.append_assoc] at same
      obtain ⟨others, rfl, same, yields⟩ := leads.rest yields same
      dsimp only at yields
      obtain ⟨calling, last, called, current, rfl, calls, yields⟩ :=
        Running.yields_bind_iff.1 yields
      rw [callWorkflow] at calls
      rw [List.append_assoc] at same
      obtain ⟨others, rfl, same, calls⟩ := loads.yields.rest calls same
      dsimp only at calls
      rw [read] at calls
      dsimp only at calls
      rw [Running.yields_get_bind_iff, entered] at calls
      dsimp only at calls
      rw [Running.yields_set_bind_iff] at calls
      obtain ⟨others, rfl, same, calls⟩ := runs.rest calls same
      rw [Running.yields_modify_bind_iff] at calls
      cases ended with
      | error _ | ok _ =>
          obtain ⟨rfl, rfl, rfl⟩ := Running.yields_pure_iff.1 calls
          obtain ⟨rfl, value, -⟩ := Running.yields_pure_iff.1 yields
          cases value
          exact ⟨rfl, by simp⟩

/-- A workflow is entered as a frame, or nothing fails before the node does. -/
theorem failures_eq_nil_or_enters {bindings reached : Variables}
    {driving : Run.Transcript} {result : Except Interrupt Target}
    {output : Option String}
    (yields : (engine.driveNode (engine.nested fuel) fuel scope node
      (Template.resolveAll bindings node.properties) bindings).Yields before
        driving (result, output, reached) after) :
    driving.failures = [] ∨
      ∃ entering key, ∃ inner : FrameRun,
        Enters engine fuel scope node bindings before entering key
          inner.toFrameStart ∧
        inner.IsBy engine ∧ driving = entering ++ inner.transcript ∧
        result = callEnd node key inner.ended := by
  rw [driveNode] at yields
  cases known : engine.registry.handler? node.nodeType with
  | none =>
      rw [known] at yields
      obtain ⟨rfl, -⟩ := Running.yields_pure_iff.1 yields
      exact .inl rfl
  | some handler =>
      rw [known] at yields
      dsimp only at yields
      obtain ⟨asked, rest, ⟨flow, state⟩, middle, rfl, leads, yields⟩ :=
        Running.yields_bind_iff.1 yields
      have noted := failures_eq_nil_of_interact leads
      rcases flow with interrupt | target | call
      · obtain ⟨rfl, -⟩ := Running.yields_pure_iff.1 yields
        rw [List.append_nil]
        exact .inl noted
      · obtain ⟨rfl, -⟩ := Running.yields_pure_iff.1 yields
        rw [List.append_nil]
        exact .inl noted
      · dsimp only at yields
        obtain ⟨calling, rest, called, current, rfl, calls, yields⟩ :=
          Running.yields_bind_iff.1 yields
        have rest_eq : rest = [] := by
          cases called <;> exact (Running.yields_pure_iff.1 yields).1
        subst rest_eq
        rw [List.append_nil, Run.Transcript.failures_append, noted,
          List.nil_append]
        cases callsWorkflow_of_yields calls with
        | notLoaded loads | notRead loads _ | refused loads _ _ =>
            exact .inl (Run.Transcript.failures_of_lines loads.lines_eq_nil)
        | @ran loading nested source child stack ended frame left loads read
            entered runs =>
            refine .inr ⟨asked ++ loading, _,
              ⟨⟨fuel, _, child, ⟨call.inputs, none⟩, { middle with stack }⟩,
                nested, ended, frame, left⟩,
              .intro known leads loads read entered, runs, by simp, ?_⟩
            cases ended with
            | error _ | ok _ =>
                exact (Prod.mk.inj (Running.yields_pure_iff.1 yields).2.1).1

/-! ### Steps -/

/-- What is asked before a node is executed: its step is recorded, if the frame
has a record, and its start is logged. -/
inductive Begins (scope : Scope) (node : Node) (frame : Frame) (before : Run) :
    Run.Transcript → Prop
  | intro {opening : Run.Transcript} {record : Option HistoryRecord}
      (opens : (openStep node
        (Template.resolveAll frame.bindings node.properties)
        frame.record).Yields before opening record before) :
      Begins scope node frame before
        (opening ++ [before.exchange (.publish (.log
          ⟨scope.path ++ node.id, node.nodeType.tag, "started", .info⟩)) ()])

theorem Begins.failures_eq_nil {frame : Frame}
    (begins : Begins scope node frame before transcript) :
    transcript.failures = [] := by
  cases begins with
  | intro opens =>
      obtain ⟨-, ⟨-, -, rfl⟩ | ⟨_, _, -, -, rfl⟩⟩ := openStep_of_yields opens
      · rfl
      · rfl

theorem Begins.unique {frame : Frame}
    {others rest tail : Run.Transcript}
    (begins : Begins scope node frame before transcript)
    (beginsToo : Begins scope node frame before others)
    (same : transcript ++ rest = others ++ tail) : transcript = others := by
  cases begins with
  | intro opens =>
      cases beginsToo with
      | intro opensToo =>
          rw [List.append_assoc, List.append_assoc] at same
          rw [(Program.Yields.unique opens opensToo same).1]

/-- What is asked after a node has been executed: how it ends is logged, and
recorded if the frame has a record. -/
inductive Closes (engine : Engine) (scope : Scope) (node : Node)
    (result : Except Interrupt Target) (output : Option String) (run : Run) :
    Run.Transcript → Prop
  | intro {status : StepStatus} {error : Option String}
      {record closed : Option HistoryRecord} {closing : Run.Transcript}
      {after : Run}
      (closes : (closeStep status output error record).Yields run closing
        closed after) :
      Closes engine scope node result output run
        (run.exchange (.publish (.log
          ⟨scope.path ++ node.id, node.nodeType.tag,
            (engine.stepEnd result output).2.2.1,
            (engine.stepEnd result output).2.2.2⟩)) () :: closing)

theorem Closes.failures_eq {result : Except Interrupt Target}
    {output : Option String}
    (closes : Closes engine scope node result output before transcript) :
    transcript.failures = failureLines scope node result := by
  cases closes with
  | @intro _ _ _ _ closing _ closes =>
      have silent : closing.lines = [] := by
        obtain ⟨-, ⟨-, -, rfl⟩ | ⟨_, _, -, -, rfl⟩⟩ :=
          closeStep_of_yields closes
        · rfl
        · rfl
      rw [Run.Transcript.failures, Run.Transcript.lines_log, silent]
      rcases result with (_ | error | _) | target <;> rfl

/-- A step is begun, its node is executed, and then it is closed. -/
theorem exists_closes_of_step {runChild : FrameRunner} {frame reached : Frame}
    {result : Except Interrupt Target}
    (steps : (engine.step runChild fuel scope node frame).Yields before
      transcript (result, reached) after) :
    ∃ beginning driving ending output final middle,
      transcript = beginning ++ (driving ++ ending) ∧
      Begins scope node frame before beginning ∧
      (engine.driveNode runChild fuel scope node
        (Template.resolveAll frame.bindings node.properties)
        frame.bindings).Yields before driving (result, output, final) middle ∧
      Closes engine scope node result output middle ending := by
  obtain ⟨bindings, record⟩ := frame
  unfold step at steps
  dsimp only at steps
  rw [Running.yields_bind_iff] at steps
  obtain ⟨opening, rest, opened, current, rfl, opens, steps⟩ := steps
  obtain ⟨rfl, -⟩ := openStep_of_yields opens
  rw [log, Running.yields_publish_bind_iff] at steps
  obtain ⟨rest, rfl, steps⟩ := steps
  rw [Running.yields_bind_iff] at steps
  obtain ⟨driving, rest, ⟨ended, output, final⟩, middle, rfl, drives,
    steps⟩ := steps
  dsimp only at steps
  rw [log, Running.yields_publish_bind_iff] at steps
  obtain ⟨rest, rfl, steps⟩ := steps
  rw [Running.yields_bind_iff] at steps
  obtain ⟨closing, rest, closed, current, rfl, closes, steps⟩ := steps
  obtain ⟨rfl, value, -⟩ := Running.yields_pure_iff.1 steps
  obtain ⟨rfl, -⟩ := Prod.mk.inj value
  rw [List.append_nil]
  exact ⟨_, driving, _, output, final, middle, List.append_cons _ _ _,
    .intro opens, drives, .intro closes⟩

/-- A step is begun, its node is executed, and then a failure is reported if
there is one. -/
theorem exists_driving_of_step {runChild : FrameRunner} {frame reached : Frame}
    {result : Except Interrupt Target}
    (steps : (engine.step runChild fuel scope node frame).Yields before
      transcript (result, reached) after) :
    ∃ beginning driving ending output final middle,
      transcript = beginning ++ (driving ++ ending) ∧
      Begins scope node frame before beginning ∧
      (engine.driveNode runChild fuel scope node
        (Template.resolveAll frame.bindings node.properties)
        frame.bindings).Yields before driving (result, output, final) middle ∧
      Run.Transcript.failures ending = failureLines scope node result := by
  obtain ⟨beginning, driving, ending, output, final, middle, split, begins,
    drives, closes⟩ := exists_closes_of_step steps
  exact ⟨beginning, driving, ending, output, final, middle, split, begins,
    drives, closes.failures_eq⟩

theorem exists_failed_of_callEnd {key : String} {ended : Except Interrupt Unit}
    {error : RunError}
    (fails : callEnd node key ended = .error (.failed error)) :
    ∃ cause, ended = .error (.failed cause) := by
  rcases ended with (_ | cause | _) | _
  · cases fails
  · exact ⟨cause, rfl⟩
  · cases fails
  · cases fails

/-- Something has not failed. -/
def Unfailed {α : Type} (result : Except Interrupt α) : Prop :=
  ∀ error, result ≠ .error (.failed error)

theorem unfailed_of_callEnd {key : String} {ended : Except Interrupt Unit}
    (unfailed : Unfailed (callEnd node key ended)) : Unfailed ended := by
  rintro error rfl
  rw [callEnd, returned] at unfailed
  split at unfailed
  · exact unfailed _ rfl
  · exact unfailed _ rfl

theorem failureLines_of_unfailed {result : Except Interrupt Target}
    (unfailed : Unfailed result) : failureLines scope node result = [] := by
  rcases result with (_ | error | _) | target
  · rfl
  · exact (unfailed error rfl).elim
  · rfl
  · rfl

/-- Frames that may take so many steps in a row report no failures unless they
fail. -/
def QuietFrames (engine : Engine) (fuel : Nat) : Prop :=
  ∀ {scope : Scope} {workflow : Workflow} {target : Target} {frame : Frame}
    {before : Run} {transcript : Run.Transcript}
    {ended : Except Interrupt Unit} {reached : Frame} {after : Run},
    (engine.runFrom fuel scope workflow target frame).Yields before transcript
      (ended, reached) after →
    Unfailed ended → transcript.failures = []

/-- A step that does not fail reports no failures. -/
theorem QuietFrames.of_step (quiet : QuietFrames engine fuel)
    {frame reached : Frame} {result : Except Interrupt Target}
    (steps : (engine.step (engine.nested fuel) fuel scope node frame).Yields
      before transcript (result, reached) after)
    (unfailed : Unfailed result) : transcript.failures = [] := by
  obtain ⟨beginning, driving, ending, output, final, middle, rfl, begins,
    drives, reported⟩ := exists_driving_of_step steps
  rw [failureLines_of_unfailed unfailed] at reported
  have silent : driving.failures = [] := by
    rcases failures_eq_nil_or_enters drives with
      silent | ⟨entering, key, inner, enters, runs, rfl, rfl⟩
    · exact silent
    · rw [← enters.fuel_eq] at quiet
      have innerQuiet := quiet runs (unfailed_of_callEnd unfailed)
      simp [enters.failures_eq_nil, innerQuiet]
  simp [begins.failures_eq_nil, silent, reported]

theorem quietFrames (engine : Engine) (fuel : Nat) :
    QuietFrames engine fuel := by
  induction fuel with
  | zero =>
      intro scope workflow target frame before transcript ended reached after
        yields unfailed
      obtain ⟨rfl, -⟩ := Running.yields_pure_iff.1 yields
      rfl
  | succ fuel ih =>
      intro scope workflow target frame before transcript ended reached after
        yields unfailed
      cases goesOn_of_yields yields with
      | aborted => rfl
      | finished nowhere => rfl
      | stopped position found steps =>
          rw [Run.Transcript.failures_isAborted]
          apply ih.of_step steps
          rintro error stops
          cases stops
          exact unfailed error rfl
      | moved position found steps goesOn =>
          rw [List.cons_append, Run.Transcript.failures_isAborted,
            Run.Transcript.failures_append, ih goesOn unfailed,
            ih.of_step steps nofun, List.nil_append]

/-! ### Frames -/

variable {workflow : Workflow} {target last : Target}
  {frame standing reached : Frame} {left : Nat} {current : Run}
  {finished : Run.Transcript}

theorem Arrives.failures_eq_nil
    (arrives : Arrives engine scope workflow fuel target frame before finished
      left last standing current) : finished.failures = [] := by
  induction arrives with
  | here fuel target frame run => rfl
  | moved found steps rest ih =>
      rw [List.cons_append, Run.Transcript.failures_isAborted,
        Run.Transcript.failures_append, ih,
        QuietFrames.of_step (quietFrames engine _) steps nofun,
        List.nil_append]

theorem Arrives.left_le
    (arrives : Arrives engine scope workflow fuel target frame before finished
      left last standing current) : left ≤ fuel := by
  induction arrives with
  | here fuel target frame run => exact Nat.le_refl fuel
  | moved found steps rest ih => omega

/-- A frame that is not aborted takes the step at the node that it finds, and
goes on after it. -/
theorem nodeAt?_step {position : Nat} {later : Run.Transcript}
    {ended : Except Interrupt Unit}
    (found : nodeAt? workflow target = some (position, node))
    (yields : (engine.runFrom (fuel + 1) scope workflow target frame).Yields
      before (before.exchange .isAborted false :: later) (ended, reached)
        after) :
    (engine.step (engine.nested fuel) fuel scope node frame >>=
      engine.afterStep fuel scope workflow).Yields
        { before with pointer := some position } later (ended, reached)
          after := by
  rw [runFrom_succ, Running.yields_ask_bind_iff] at yields
  obtain ⟨aborted, rest, same, yields⟩ := yields
  cases same
  rw [if_neg Bool.false_ne_true, found] at yields
  exact yields

/-- A frame goes on from where its finished steps lead. -/
theorem Arrives.goesOn {later : Run.Transcript} {ended : Except Interrupt Unit}
    (arrives : Arrives engine scope workflow fuel target frame before finished
      left last standing current)
    (yields : (engine.runFrom fuel scope workflow target frame).Yields before
      (finished ++ later) (ended, reached) after) :
    (engine.runFrom left scope workflow last standing).Yields current later
      (ended, reached) after := by
  induction arrives with
  | here fuel target frame run => exact yields
  | moved found steps rest ih =>
      rw [List.cons_append, List.cons_append] at yields
      have goesOn := nodeAt?_step found yields
      have same (visiting others : Run.Transcript) :
          visiting ++ others ++ later ++ [] =
            visiting ++ (others ++ later) := by
        simp
      obtain ⟨tail, -, tail_eq, goesOn⟩ := steps.rest goesOn (same _ _)
      rw [List.append_nil] at tail_eq
      rw [tail_eq] at goesOn
      exact ih goesOn

/-- A frame stands at a node: its finished steps lead there, and the run is
not aborted. -/
inductive StandsBefore (engine : Engine) (start : FrameStart) :
    Run.Transcript → Nat → Node → Frame → Run → Prop
  | intro {finished : Run.Transcript} {left position : Nat} {target : Target}
      {node : Node} {standing : Frame} {current : Run}
      (arrives : Arrives engine start.scope start.workflow start.fuel
        (.node start.workflow.start) start.frame start.before finished
        (left + 1) target standing current)
      (found : nodeAt? start.workflow target = some (position, node)) :
      StandsBefore engine start
        (finished ++ [current.exchange .isAborted false]) left node standing
        { current with pointer := some position }

variable {start : FrameStart} {lead later : Run.Transcript}

theorem StandsBefore.failures_eq_nil
    (stands : StandsBefore engine start lead left node standing current) :
    lead.failures = [] := by
  cases stands with
  | intro arrives found => simp [arrives.failures_eq_nil]

theorem StandsBefore.left_lt
    (stands : StandsBefore engine start lead left node standing current) :
    left < start.fuel := by
  cases stands with
  | intro arrives found => exact arrives.left_le

/-- A frame that stands at a node takes the step there, and goes on after it. -/
theorem StandsBefore.goesOn {run : FrameRun}
    (stands : StandsBefore engine run.toFrameStart lead left node standing
      current)
    (isBy : run.IsBy engine) (split : run.transcript = lead ++ later) :
    (engine.step (engine.nested left) left run.scope node standing >>=
      engine.afterStep left run.scope run.workflow).Yields current later
        (run.ended, run.reached) run.after := by
  unfold FrameRun.IsBy nested at isBy
  rw [split] at isBy
  cases stands with
  | intro arrives found =>
      rw [List.append_assoc] at isBy
      exact nodeAt?_step found (arrives.goesOn isBy)

end Engine

end Runbook
