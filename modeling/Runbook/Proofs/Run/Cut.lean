import Runbook.Proofs.Run.Abort
import Runbook.Proofs.Run.Record
import Runbook.Proofs.Run.Transcript
import Runbook.Proofs.Run.Untouched

/-!
# Runs that are cut short

Two ways in which a computation of a run goes that part where it asks whether
the run is aborted.  Up to there they are the same, since a computation that
gets the same replies does the same.

A run that is aborted at a read goes like one that is not aborted, up to
there.  It keeps the steps that are finished by then, and the variables that
these have left; the step that is not finished is closed as cancelled.
-/

/-! ## Forks -/

namespace Runbook

namespace Running

variable {α β : Type}

/-- What a computation does after a question. -/
structure Branch (α : Type) where
  rest : Run.Transcript
  value : α
  after : Run

/-- A computation goes on in one way where the run is not aborted, and in
another way if it is. -/
structure Forks (computation : Running α) (before : Run)
    (earlier : Run.Transcript) (current : Run) (onward cut : Branch α) :
    Prop where
  onward : computation.Yields before
    (earlier ++ current.exchange .isAborted false :: onward.rest) onward.value
    onward.after
  cut : computation.Yields before
    (earlier ++ current.exchange .isAborted true :: cut.rest) cut.value
    cut.after

variable {before current : Run} {earlier : Run.Transcript}
  {onward cut : Branch α}

theorem not_forks_pure (value : α) :
    ¬ Forks (pure value) before earlier current onward cut := by
  intro forks
  have silent := (yields_pure_iff.1 forks.onward).1
  simp at silent

/-- A computation that asks first forks there or later. -/
theorem Forks.of_read {next : Bool → Running α}
    (forks : Forks (ask .isAborted >>= next) before earlier current onward
      cut) :
    (earlier = [] ∧ current = before ∧
        (next true).Yields before cut.rest cut.value cut.after) ∨
      ∃ reply others, earlier = before.exchange .isAborted reply :: others ∧
        Forks (next reply) before others current onward cut := by
  obtain ⟨reply, rest, whole, yields⟩ := yields_ask_bind_iff.1 forks.onward
  obtain ⟨replyToo, restToo, wholeToo, yieldsToo⟩ :=
    yields_ask_bind_iff.1 forks.cut
  cases earlier with
  | nil =>
      cases wholeToo
      exact .inl ⟨rfl, rfl, yieldsToo⟩
  | cons first others =>
      cases whole
      cases wholeToo
      exact .inr ⟨reply, others, rfl, yields, yieldsToo⟩

/-- What is asked before the fork is asked on both ways. -/
theorem Forks.of_ask {question : Run.Question}
    {next : Run.Reply question → Running α} (other : question ≠ .isAborted)
    (forks : Forks (ask question >>= next) before earlier current onward
      cut) :
    ∃ reply others, earlier = before.exchange question reply :: others ∧
      Forks (next reply) before others current onward cut := by
  obtain ⟨reply, rest, whole, yields⟩ := yields_ask_bind_iff.1 forks.onward
  obtain ⟨replyToo, restToo, wholeToo, yieldsToo⟩ :=
    yields_ask_bind_iff.1 forks.cut
  cases earlier with
  | nil =>
      cases whole
      exact (other rfl).elim
  | cons first others =>
      cases whole
      cases wholeToo
      exact ⟨reply, others, rfl, yields, yieldsToo⟩

theorem Forks.of_get {next : Run → Running α}
    (forks : Forks (get >>= next) before earlier current onward cut) :
    Forks (next before) before earlier current onward cut :=
  ⟨forks.onward, forks.cut⟩

theorem Forks.of_set {run : Run} {next : PUnit → Running α}
    (forks : Forks (set run >>= next) before earlier current onward cut) :
    Forks (next ()) run earlier current onward cut :=
  ⟨forks.onward, forks.cut⟩

theorem Forks.of_modify {change : Run → Run} {next : PUnit → Running α}
    (forks : Forks (modify change >>= next) before earlier current onward
      cut) :
    Forks (next ()) (change before) earlier current onward cut :=
  ⟨forks.onward, forks.cut⟩

theorem not_forks_transition (status : RunStatus)
    {onward cut : Branch Unit} :
    ¬ Forks (transition status) before earlier current onward cut := by
  intro forks
  have asked := (yields_transition_iff.1 forks.onward).1
  have member : current.exchange .isAborted false ∈
      before.announcement status := by
    rw [← asked]
    simp
  unfold Run.announcement at member
  split at member <;> simp at member

/-- In two lists in a row an element stands in the first or in the second. -/
private theorem append_eq_append_cons {γ : Type} {first second earlier : List γ}
    {element : γ} {later : List γ}
    (same : first ++ second = earlier ++ element :: later) :
    (∃ between, first = earlier ++ element :: between ∧
        later = between ++ second) ∨
      ∃ between, earlier = first ++ between ∧
        second = between ++ element :: later := by
  rcases List.append_eq_append_iff.1 same with ⟨between, rfl, rfl⟩ |
    ⟨_ | ⟨other, between⟩, rfl, whole⟩
  · exact .inr ⟨between, rfl, rfl⟩
  · exact .inr ⟨[], by simp, by simpa using whole.symm⟩
  · obtain ⟨rfl, rfl⟩ := List.cons.inj whole
    exact .inl ⟨between, rfl, rfl⟩

/-- Of two computations in a row either the first one forks, and both ways of
it go on, or the second one does after the first is ended. -/
theorem Forks.of_bind {computation : Running α} {next : α → Running β}
    {onward cut : Branch β}
    (forks : Forks (computation >>= next) before earlier current onward cut) :
    (∃ (onwardFirst cutFirst : Branch α) (onwardRest cutRest : Run.Transcript),
        Forks computation before earlier current onwardFirst cutFirst ∧
        onward.rest = onwardFirst.rest ++ onwardRest ∧
        (next onwardFirst.value).Yields onwardFirst.after onwardRest
          onward.value onward.after ∧
        cut.rest = cutFirst.rest ++ cutRest ∧
        (next cutFirst.value).Yields cutFirst.after cutRest cut.value
          cut.after) ∨
      ∃ first others value middle, earlier = first ++ others ∧
        computation.Yields before first value middle ∧
        Forks (next value) middle others current onward cut := by
  obtain ⟨first, second, value, middle, whole, starts, goesOn⟩ :=
    yields_bind_iff.1 forks.onward
  obtain ⟨firstToo, secondToo, valueToo, middleToo, wholeToo, startsToo,
    goesOnToo⟩ := yields_bind_iff.1 forks.cut
  rcases append_eq_append_cons whole.symm with
    ⟨between, firstEq, onwardRest⟩ | ⟨between, rfl, secondEq⟩
  · rcases append_eq_append_cons wholeToo.symm with
      ⟨betweenToo, firstTooEq, cutRest⟩ | ⟨betweenToo, earlierEq, -⟩
    · subst firstEq firstTooEq
      exact .inl ⟨⟨between, value, middle⟩, ⟨betweenToo, valueToo, middleToo⟩,
        second, secondToo, ⟨starts, startsToo⟩, onwardRest, goesOn, cutRest,
        goesOnToo⟩
    · -- The first computation cannot both be ended and go on.
      have longer : firstToo ++ (betweenToo ++
          current.exchange .isAborted false :: between) = first ++ [] := by
        simp [firstEq, earlierEq]
      obtain ⟨rfl, -⟩ := Program.Yields.unique startsToo starts longer
      simp at longer
  · have same : first ++
        (between ++ current.exchange .isAborted true :: cut.rest) =
          firstToo ++ secondToo := by rw [← wholeToo, List.append_assoc]
    obtain ⟨rfl, sameEnd⟩ := Program.Yields.unique starts startsToo same
    obtain ⟨rfl, rfl⟩ := Prod.mk.inj sameEnd
    rw [secondEq] at goesOn
    rw [← List.append_cancel_left same] at goesOnToo
    exact .inr ⟨first, between, value, middle, rfl, starts, goesOn, goesOnToo⟩

end Running

end Runbook

/-! ## Up to the cut -/

namespace Runbook

/-- A step is recorded for a node that finds certain variables. -/
structure HistoryStep.IsOf (step : HistoryStep) (node : Node)
    (bindings : Variables) : Prop where
  nodeId_eq : step.nodeId = node.id
  nodeType_eq : step.nodeType = node.nodeType.tag
  input_eq : step.input = some (Engine.textObject
    (Template.resolveAll bindings node.properties).entries)

/-- A step is recorded as cancelled, without an output and without an
error. -/
structure HistoryStep.IsCancelled (step : HistoryStep) : Prop where
  status_eq : step.status = .cancelled
  output_eq : step.output = none
  error_eq : step.error = none

theorem Visit.IsRecordedBy.isOf {visit : Visit} {step : HistoryStep}
    (recorded : visit.IsRecordedBy step) :
    step.IsOf visit.node visit.bindings :=
  ⟨recorded.nodeId_eq, recorded.nodeType_eq, recorded.input_eq⟩

namespace Engine

variable {engine : Engine} {fuel : Nat} {scope : Scope} {workflow : Workflow}
  {target : Target} {before current : Run} {earlier : Run.Transcript}
  {frame : Frame}

/-- The finished steps of a frame: from a target, with so many steps that it
may still take, to another one. -/
inductive Arrives (engine : Engine) (scope : Scope) (workflow : Workflow) :
    Nat → Target → Frame → Run → Run.Transcript →
      Nat → Target → Frame → Run → Prop
  | here (fuel : Nat) (target : Target) (frame : Frame) (run : Run) :
      Arrives engine scope workflow fuel target frame run [] fuel target frame
        run
  | moved {fuel left position : Nat} {target next last : Target} {node : Node}
      {frame middle standing : Frame} {run current reached : Run}
      {visiting others : Run.Transcript}
      (found : nodeAt? workflow target = some (position, node))
      (steps : (engine.step (engine.nested fuel) fuel scope node frame).Yields
        { run with pointer := some position } visiting (.ok next, middle)
        current)
      (rest : Arrives engine scope workflow fuel next middle current others
        left last standing reached) :
      Arrives engine scope workflow (fuel + 1) target frame run
        (run.exchange .isAborted false :: visiting ++ others) left last
        standing reached

/-- Where a frame stands after part of what it exchanges: its variables and
its record after the steps that are finished by then, and the node whose step
has been begun, if there is one. -/
inductive StandsAt (engine : Engine) (scope : Scope) (workflow : Workflow)
    (fuel : Nat) (target : Target) (frame : Frame) (before : Run) :
    Run.Transcript → Frame → Option Node → Prop
  | between {left : Nat} {next : Target} {standing : Frame} {reached : Run}
      {finished : Run.Transcript}
      (arrives : Arrives engine scope workflow fuel target frame before
        finished left next standing reached) :
      StandsAt engine scope workflow fuel target frame before finished
        standing none
  | within {left position : Nat} {next : Target} {node : Node}
      {standing ended : Frame} {reached after : Run}
      {finished begun unfinished : Run.Transcript} {exchange : Run.Exchange}
      {result : Except Interrupt Target}
      (arrives : Arrives engine scope workflow fuel target frame before
        finished (left + 1) next standing reached)
      (found : nodeAt? workflow next = some (position, node))
      (steps : (engine.step (engine.nested left) left scope node
        standing).Yields { reached with pointer := some position }
          (begun ++ exchange :: unfinished) (result, ended) after) :
      StandsAt engine scope workflow fuel target frame before
        (finished ++ reached.exchange .isAborted false :: begun) standing
        (some node)

/-- What stands after a finished step stands after all that leads to it. -/
theorem StandsAt.moved {position : Nat} {node : Node} {next : Target}
    {middle standing : Frame} {begun : Option Node}
    {visiting others : Run.Transcript}
    (found : nodeAt? workflow target = some (position, node))
    (steps : (engine.step (engine.nested fuel) fuel scope node frame).Yields
      { before with pointer := some position } visiting (.ok next, middle)
      current)
    (stands : StandsAt engine scope workflow fuel next middle current others
      standing begun) :
    StandsAt engine scope workflow (fuel + 1) target frame before
      (before.exchange .isAborted false :: visiting ++ others) standing
      begun := by
  cases stands with
  | between arrives => exact .between (.moved found steps arrives)
  | within arrives foundLater stepsLater =>
      have whole := StandsAt.within (.moved found steps arrives) foundLater
        stepsLater
      simpa using whole

/-- What a frame that stands somewhere comes to if it goes on, and if it is cut
short: the steps that are finished stay recorded in both cases, and a step that
has been begun is recorded in both cases, but cancelled if it is cut short. -/
inductive CutsShort (standing : Frame) : Option Node → Frame → Frame → Prop
  | between {record : HistoryRecord} {others : List HistoryStep}
      {final : Variables} (recorded : standing.record = some record) :
      CutsShort standing none
        ⟨final, some { record with steps := record.steps ++ others }⟩
        ⟨standing.bindings, some record⟩
  | within {record : HistoryRecord} {others : List HistoryStep}
      {step next : HistoryStep} {node : Node} {final : Variables}
      (recorded : standing.record = some record)
      (isOf : step.IsOf node standing.bindings)
      (cancelled : step.IsCancelled)
      (nextIsOf : next.IsOf node standing.bindings) :
      CutsShort standing (some node)
        ⟨final, some { record with steps := record.steps ++ next :: others }⟩
        ⟨standing.bindings,
          some { record with steps := record.steps ++ [step] }⟩

theorem Performs.exists_step {runChild : FrameRunner} {visit : Visit}
    {reached : Frame} {after : Run} {transcript : Run.Transcript}
    {record : HistoryRecord}
    (performs : Performs engine runChild fuel scope visit before frame
      transcript reached after)
    (recorded : frame.record = some record) :
    ∃ step, visit.IsRecordedBy step ∧ reached.record =
      some { record with steps := record.steps ++ [step] } := by
  cases performs with
  | unrecorded drives => cases recorded
  | recorded drives isRecorded =>
      cases recorded
      exact ⟨_, isRecorded, rfl⟩

/-- How a frame goes on after a step. -/
def afterStep (engine : Engine) (fuel : Nat) (scope : Scope)
    (workflow : Workflow) :
    Except Interrupt Target × Frame → Running (Except Interrupt Unit × Frame)
  | (.error interrupt, frame) => return (.error interrupt, frame)
  | (.ok next, frame) => engine.runFrom fuel scope workflow next frame

theorem runFrom_succ :
    engine.runFrom (fuel + 1) scope workflow target frame = (do
      if ← Running.ask .isAborted then return (.error .cancelled, frame)
      match nodeAt? workflow target with
      | none => return (.ok (), frame)
      | some (position, node) =>
        modify fun run => { run with pointer := some position }
        engine.step (engine.nested fuel) fuel scope node frame >>=
          engine.afterStep fuel scope workflow) := by
  rw [runFrom]
  rfl

/-- Where the ways of a frame part: before its next node, in the step there,
or after that step. -/
inductive FrameForks (engine : Engine) (fuel : Nat) (scope : Scope)
    (workflow : Workflow) (target : Target) (frame : Frame) (before : Run) :
    Run.Transcript → Run →
      Running.Branch (Except Interrupt Unit × Frame) →
      Running.Branch (Except Interrupt Unit × Frame) → Prop
  | atNode {onward : Running.Branch (Except Interrupt Unit × Frame)} :
      FrameForks engine fuel scope workflow target frame before [] before
        onward ⟨[], (.error .cancelled, frame), before⟩
  | inStep {position : Nat} {node : Node} {begun : Run.Transcript}
      {current : Run}
      {onward cut : Running.Branch (Except Interrupt Unit × Frame)}
      {onwardStep cutStep : Running.Branch (Except Interrupt Target × Frame)}
      {onwardRest cutRest : Run.Transcript}
      (found : nodeAt? workflow target = some (position, node))
      (forks : Running.Forks
        (engine.step (engine.nested fuel) fuel scope node frame)
        { before with pointer := some position } begun current onwardStep
        cutStep)
      (onwardGoesOn : (engine.afterStep fuel scope workflow
        onwardStep.value).Yields onwardStep.after onwardRest onward.value
        onward.after)
      (cutGoesOn : (engine.afterStep fuel scope workflow
        cutStep.value).Yields cutStep.after cutRest cut.value cut.after) :
      FrameForks engine fuel scope workflow target frame before
        (before.exchange .isAborted false :: begun) current onward cut
  | afterStep {position : Nat} {node : Node} {next : Target} {middle : Frame}
      {visiting others : Run.Transcript} {reached current : Run}
      {onward cut : Running.Branch (Except Interrupt Unit × Frame)}
      (found : nodeAt? workflow target = some (position, node))
      (steps : (engine.step (engine.nested fuel) fuel scope node frame).Yields
        { before with pointer := some position } visiting (.ok next, middle)
        reached)
      (forks : Running.Forks (engine.runFrom fuel scope workflow next middle)
        reached others current onward cut) :
      FrameForks engine fuel scope workflow target frame before
        (before.exchange .isAborted false :: visiting ++ others) current
        onward cut

theorem frameForks_of_forks
    {onward cut : Running.Branch (Except Interrupt Unit × Frame)}
    (forks : Running.Forks
      (engine.runFrom (fuel + 1) scope workflow target frame) before earlier
      current onward cut) :
    FrameForks engine fuel scope workflow target frame before earlier current
      onward cut := by
  rw [runFrom_succ] at forks
  rcases forks.of_read with ⟨rfl, rfl, aborted⟩ |
    ⟨aborted, others, rfl, later⟩
  · obtain ⟨rest, value, after⟩ := cut
    obtain ⟨rfl, rfl, rfl⟩ := Running.yields_pure_iff.1 aborted
    exact .atNode
  · cases aborted with
    | true => exact (Running.not_forks_pure _ later).elim
    | false =>
        rw [if_neg Bool.false_ne_true] at later
        cases found : nodeAt? workflow target with
        | none =>
            rw [found] at later
            exact (Running.not_forks_pure _ later).elim
        | some place =>
            obtain ⟨position, node⟩ := place
            rw [found] at later
            rcases later.of_modify.of_bind with
              ⟨onwardStep, cutStep, onwardRest, cutRest, stepForks, -,
                onwardGoesOn, -, cutGoesOn⟩ |
              ⟨visiting, others, ⟨result, middle⟩, reached, rfl, steps,
                restForks⟩
            · exact .inStep found stepForks onwardGoesOn cutGoesOn
            · cases result with
              | error interrupt =>
                  exact (Running.not_forks_pure _ restForks).elim
              | ok next => exact .afterStep found steps restForks

theorem exists_steps_of_yields {reached : Frame} {after : Run}
    {transcript : Run.Transcript} {ended : Except Interrupt Unit}
    {record : HistoryRecord} (recorded : frame.record = some record)
    (yields : (engine.runFrom fuel scope workflow target frame).Yields before
      transcript (ended, reached) after) :
    ∃ others, reached.record =
      some { record with steps := record.steps ++ others } := by
  obtain ⟨visits, walk⟩ := walk_of_yields yields
  obtain ⟨others, reachedRecord, -⟩ := walk.exists_steps recorded
  exact ⟨others, reachedRecord⟩

theorem exists_steps_of_afterStep {result : Except Interrupt Target}
    {reached : Frame} {after : Run} {transcript : Run.Transcript}
    {ended : Except Interrupt Unit} {record : HistoryRecord}
    (recorded : frame.record = some record)
    (yields : (engine.afterStep fuel scope workflow (result, frame)).Yields
      before transcript (ended, reached) after) :
    ∃ others, reached.record =
      some { record with steps := record.steps ++ others } := by
  cases result with
  | error interrupt =>
      obtain ⟨-, same, -⟩ := Running.yields_pure_iff.1 yields
      obtain ⟨-, rfl⟩ := Prod.mk.inj same
      exact ⟨[], by simpa using recorded⟩
  | ok next => exact exists_steps_of_yields recorded yields

/-- A step in which an abort is read is recorded as cancelled, and changes no
variables. -/
theorem cancelled_of_step (fits : engine.registry.Fits)
    (commits : engine.registry.Commits) {node : Node}
    {record : HistoryRecord} (recorded : frame.record = some record)
    {result : Except Interrupt Target} {reached : Frame} {after : Run}
    {transcript : Run.Transcript}
    (yields : (engine.step (engine.nested fuel) fuel scope node frame).Yields
      before transcript (result, reached) after)
    (seen : transcript.SeesAbort) :
    result = .error .cancelled ∧ ∃ step : HistoryStep,
      step.IsOf node frame.bindings ∧ step.IsCancelled ∧
      reached = ⟨frame.bindings,
        some { record with steps := record.steps ++ [step] }⟩ := by
  obtain ⟨visit, -, rfl, rfl, performs⟩ := performs_of_yields yields 0
  have cancelled := performs.cancelled_of_seesAbort
    (cancelled_of_seesAbort fits) fits seen
  obtain ⟨unchanged, silent⟩ := performs.untouched (commits _) cancelled
  obtain ⟨first_eq, last_eq⟩ := performs.bindings_eq
  obtain ⟨step, isRecorded, record_eq⟩ := performs.exists_step recorded
  refine ⟨cancelled, step, ?_, ?_, ?_⟩
  · rw [← first_eq]
    exact isRecorded.isOf
  · constructor
    · rw [isRecorded.status_eq, Visit.status, cancelled]
    · rw [isRecorded.output_eq, silent]
    · rw [isRecorded.error_eq, Visit.error?, cancelled]
  · obtain ⟨bindings, lastRecord⟩ := reached
    cases record_eq
    congr 1
    rw [← first_eq, ← unchanged]
    exact last_eq

/-- A frame that reads at some point that the run is aborted ends with what
stands at that point. -/
theorem standsAt_of_forks (fits : engine.registry.Fits)
    (commits : engine.registry.Commits) {record : HistoryRecord}
    (recorded : frame.record = some record)
    {onward cut : Running.Branch (Except Interrupt Unit × Frame)}
    (forks : Running.Forks
      (engine.runFrom fuel scope workflow target frame) before earlier current
      onward cut) :
    cut.value.1 = .error .cancelled ∧ ∃ standing begun,
      StandsAt engine scope workflow fuel target frame before earlier standing
        begun ∧
      CutsShort standing begun onward.value.2 cut.value.2 := by
  -- The fuel bounds the steps of the frame; those nested in it need no
  -- induction, since an abort cancels a step wherever it is read.
  induction fuel generalizing target frame before earlier record with
  | zero =>
      rw [runFrom] at forks
      exact (Running.not_forks_pure _ forks).elim
  | succ fuel ih =>
      have onwardYields := forks.onward
      cases frameForks_of_forks forks with
      | atNode =>
          obtain ⟨rest, ⟨ended, final, lastRecord⟩, after⟩ := onward
          obtain ⟨others, rfl⟩ := exists_steps_of_yields recorded onwardYields
          obtain ⟨bindings, _⟩ := frame
          cases recorded
          exact ⟨rfl, _, none, .between (.here _ _ _ _), .between rfl⟩
      | @inStep position node begun _ _ _ onwardStep cutStep _ _ found stepForks
          onwardGoesOn cutGoesOn =>
          obtain ⟨_, ⟨cutResult, cutFrame⟩, _⟩ := cutStep
          obtain ⟨rfl, step, isOf, isCancelled, rfl⟩ :=
            cancelled_of_step fits commits recorded stepForks.cut
              (by simp [Run.Exchange.SeesAbort])
          obtain ⟨_, cutValue, _⟩ := cut
          obtain ⟨-, rfl, -⟩ := Running.yields_pure_iff.1 cutGoesOn
          -- The step is recorded too if the frame goes on.
          obtain ⟨_, ⟨result, middle⟩, _⟩ := onwardStep
          obtain ⟨visit, -, rfl, -, performs⟩ :=
            performs_of_yields stepForks.onward 0
          obtain ⟨next, isRecorded, middleRecord⟩ :=
            performs.exists_step recorded
          obtain ⟨_, ⟨ended, final, lastRecord⟩, _⟩ := onward
          obtain ⟨others, rfl⟩ :=
            exists_steps_of_afterStep middleRecord onwardGoesOn
          have nextIsOf := isRecorded.isOf
          rw [performs.bindings_eq.1] at nextIsOf
          have stands := StandsAt.within (.here (fuel + 1) target frame before)
            found stepForks.onward
          refine ⟨rfl, frame, some visit.node, stands, ?_⟩
          simpa using CutsShort.within recorded isOf isCancelled nextIsOf
      | afterStep found steps later =>
          obtain ⟨visit, -, -, -, performs⟩ := performs_of_yields steps 0
          obtain ⟨step, -, middleRecord⟩ := performs.exists_step recorded
          obtain ⟨cancelled, standing, begun, stands, cuts⟩ :=
            ih middleRecord later
          exact ⟨cancelled, standing, begun, stands.moved found steps, cuts⟩

/-! ### Whole runs -/

theorem frameForks_of_runOutermost
    {onward cut : Running.Branch (Except Interrupt Unit × Frame)}
    (forks : Running.Forks (engine.runOutermost fuel workflow frame) before
      earlier current onward cut) :
    ∃ stack onwardFrame cutFrame,
      before.stack.push (CallStack.key before.reference workflow.name)
        engine.options.maxCallDepth = .ok stack ∧
      Running.Forks
        (engine.runFrom fuel ⟨""⟩ workflow (.node workflow.start) frame)
        { before with stack } earlier current onwardFrame cutFrame ∧
      onward.value = onwardFrame.value ∧ cut.value = cutFrame.value := by
  rw [runOutermost] at forks
  have forks := forks.of_get
  cases entered : before.stack.push
      (CallStack.key before.reference workflow.name)
      engine.options.maxCallDepth with
  | error error =>
      rw [entered] at forks
      exact (Running.not_forks_pure _ forks).elim
  | ok stack =>
      rw [entered] at forks
      rcases forks.of_set.of_bind with
        ⟨onwardFrame, cutFrame, _, _, frameForks, -, onwardEnds, -,
          cutEnds⟩ | ⟨_, _, _, _, rfl, -, later⟩
      · rw [Running.yields_modify_bind_iff] at onwardEnds cutEnds
        obtain ⟨-, onwardValue, -⟩ := Running.yields_pure_iff.1 onwardEnds
        obtain ⟨-, cutValue, -⟩ := Running.yields_pure_iff.1 cutEnds
        exact ⟨stack, onwardFrame, cutFrame, rfl, frameForks, onwardValue,
          cutValue⟩
      · exact (Running.not_forks_pure _ later.of_modify).elim

/-- The outcome of a run, if there is one, when its outermost workflow has been
run. -/
inductive Concludes (id : String) (record : HistoryRecord) :
    Except Interrupt Unit × Frame → Option RunOutcome → Prop
  | endless {ended : Except Interrupt Unit} {frame : Frame}
      (endless : runEnd? ended = none) :
      Concludes id record (ended, frame) none
  | ended {ended : Except Interrupt Unit} {frame : Frame}
      {status : RunStatus} {error : Option RunError}
      (ends : runEnd? ended = some (status, error)) (finished : Instant) :
      Concludes id record (ended, frame)
        (some ⟨id, status, frame.bindings,
          (frame.record.getD record).finalize status finished, error⟩)

/-- How a run is concluded when its outermost workflow has been run. -/
def conclude (id : String) (record : HistoryRecord) :
    Except Interrupt Unit × Frame → Running (Option RunOutcome)
  | (ended, frame) =>
    match runEnd? ended with
    | none => return none
    | some (status, error) => do
      Running.transition status
      return some ⟨id, status, frame.bindings,
        (frame.record.getD record).finalize status (← Running.ask .now),
        error⟩

theorem execute_eq {bindings : Variables} :
    engine.execute fuel workflow bindings = (do
      let run ← get
      let started ← Running.ask .now
      Running.transition .running
      let record := firstRecord workflow run started
      engine.runOutermost fuel workflow ⟨bindings, some record⟩ >>=
        conclude run.id record) :=
  rfl

theorem concludes_of_yields {id : String} {record : HistoryRecord}
    {ended : Except Interrupt Unit} {outcome? : Option RunOutcome}
    {transcript : Run.Transcript} {after : Run}
    (yields : (conclude id record (ended, frame)).Yields before transcript
      outcome? after) :
    Concludes id record (ended, frame) outcome? := by
  unfold conclude at yields
  cases ends : runEnd? ended with
  | none =>
      simp only [ends] at yields
      obtain ⟨-, rfl, -⟩ := Running.yields_pure_iff.1 yields
      exact .endless ends
  | some ending =>
      obtain ⟨status, error⟩ := ending
      simp only [ends] at yields
      rw [Running.yields_transition_bind_iff] at yields
      obtain ⟨rest, rfl, yields⟩ := yields
      rw [Running.yields_ask_bind_iff] at yields
      obtain ⟨finished, rest, rfl, yields⟩ := yields
      obtain ⟨-, rfl, -⟩ := Running.yields_pure_iff.1 yields
      exact .ended ends finished

theorem not_forks_conclude {id : String} {record : HistoryRecord}
    {ended : Except Interrupt Unit × Frame}
    {onward cut : Running.Branch (Option RunOutcome)} :
    ¬ Running.Forks (conclude id record ended) before earlier current onward
      cut := by
  intro forks
  obtain ⟨ended, frame⟩ := ended
  unfold conclude at forks
  cases ends : runEnd? ended with
  | none =>
      simp only [ends] at forks
      exact Running.not_forks_pure _ forks
  | some ending =>
      simp only [ends] at forks
      rcases forks.of_bind with ⟨_, _, _, _, entering, -⟩ |
        ⟨_, _, _, _, rfl, -, later⟩
      · exact Running.not_forks_transition _ entering
      · obtain ⟨_, _, rfl, finishing⟩ := later.of_ask (by simp)
        exact Running.not_forks_pure _ finishing

/-- A run forks while its outermost workflow is run, and is concluded on both
ways. -/
theorem frameForks_of_execute {bindings : Variables}
    {onward cut : Running.Branch (Option RunOutcome)}
    (forks : Running.Forks (engine.execute fuel workflow bindings) before
      earlier current onward cut) :
    ∃ started stack running onwardFrame cutFrame,
      earlier = opening before started ++ running ∧
      before.stack.push (CallStack.key before.reference workflow.name)
        engine.options.maxCallDepth = .ok stack ∧
      Running.Forks
        (engine.runFrom fuel ⟨""⟩ workflow (.node workflow.start)
          ⟨bindings, some (firstRecord workflow before started)⟩)
        { before with status := .running, stack } running current onwardFrame
        cutFrame ∧
      Concludes before.id (firstRecord workflow before started)
        onwardFrame.value onward.value ∧
      Concludes before.id (firstRecord workflow before started)
        cutFrame.value cut.value := by
  rw [execute_eq] at forks
  obtain ⟨started, _, rfl, starting⟩ := forks.of_get.of_ask (by simp)
  rcases starting.of_bind with ⟨_, _, _, _, entering, -⟩ |
    ⟨first, _, _, _, rfl, entering, later⟩
  · exact (Running.not_forks_transition _ entering).elim
  · obtain ⟨rfl, rfl⟩ := Running.yields_transition_iff.1 entering
    rcases later.of_bind with
      ⟨onwardFirst, cutFirst, _, _, outermost, -, onwardEnds, -, cutEnds⟩ |
      ⟨_, _, _, _, rfl, -, concluding⟩
    · obtain ⟨stack, onwardFrame, cutFrame, entered, frameForks, onward_eq,
        cut_eq⟩ := frameForks_of_runOutermost outermost
      rw [onward_eq] at onwardEnds
      rw [cut_eq] at cutEnds
      exact ⟨started, stack, _, onwardFrame, cutFrame, rfl, entered,
        frameForks, concludes_of_yields onwardEnds,
        concludes_of_yields cutEnds⟩
    · exact (not_forks_conclude concluding).elim

end Engine

end Runbook
