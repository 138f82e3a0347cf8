import Runbook.Proofs.Run.Failure
import Runbook.Proofs.Run.Nesting

/-!
# Paths of calls

A frame that fails is reached through nodes that call one workflow after the
other.  Each of these nodes fails with what it has called, and says so in its
own error, so that the error of a run names the whole path; only the errors of
the call stack are passed on as they are.  What follows a call that fails is
derived from the run, and not assumed of it.
-/

namespace Runbook

open Engine

/-- A node that calls a workflow: the variables that it finds, and the key
under which the workflow is entered. -/
structure Caller where
  node : Node
  bindings : Variables
  key : String

namespace RunError

/-- The wording of a path of calls, from the key of the first one on. -/
def path (error : RunError) : List Caller → String
  | [] => error.message
  | next :: rest =>
    s!"node '{next.node.id}' failed: " ++
      (s!"sub-workflow '{next.key}' failed: " ++ error.path rest)

/-- The error of the first of some calling nodes, if the frame that is reached
through them fails: an error of the call stack is passed on as it is, and any
other one is told by the first node, with the path to where it comes from. -/
def through (error : RunError) : List Caller → RunError
  | [] => error
  | first :: rest =>
    if error.isGuard then error
    else
      .handler first.node.id
        (s!"sub-workflow '{first.key}' failed: " ++ error.path rest)

variable {error : RunError} {first : Caller} {rest path : List Caller}

theorem isGuard_through : (error.through path).isGuard = error.isGuard := by
  cases path with
  | nil => rfl
  | cons first rest =>
      rw [through]
      split
      · rfl
      · next unguarded => exact (Bool.eq_false_of_not_eq_true unguarded).symm

theorem through_of_isGuard (guarded : error.isGuard) :
    error.through path = error := by
  cases path with
  | nil => rfl
  | cons first rest => rw [through, if_pos guarded]

theorem message_through (unguarded : ¬ error.isGuard) :
    (error.through path).message = error.path path := by
  cases path with
  | nil => rfl
  | cons first rest =>
      rw [through, if_neg unguarded]
      rfl

/-- Each calling node adds itself to the path. -/
theorem returned_through :
    returned first.node first.key (.failed (error.through rest)) =
      .failed (error.through (first :: rest)) := by
  by_cases guarded : error.isGuard
  · rw [through_of_isGuard guarded, through_of_isGuard guarded, returned,
      if_pos guarded]
  · rw [returned, isGuard_through, if_neg guarded, message_through guarded,
      through, if_neg guarded]
    rfl

end RunError

namespace Engine

variable {engine : Engine} {fuel left : Nat} {scope : Scope} {node : Node}
  {workflow : Workflow} {target : Target} {frame reached : Frame}
  {before after : Run} {transcript : Run.Transcript}

/-! ### Calls -/

/-- A frame is run while another one is, which has called its workflow at a
node. -/
inductive Calls (engine : Engine) (outer : FrameRun) (caller : Caller)
    (inner : FrameRun) : Prop
  | intro {lead beginning entering later : Run.Transcript} {left : Nat}
      {record : Option HistoryRecord} {current : Run}
      (stands : StandsBefore engine outer.toFrameStart lead left caller.node
        ⟨caller.bindings, record⟩ current)
      (begins : Begins outer.scope caller.node ⟨caller.bindings, record⟩
        current beginning)
      (enters : Enters engine left outer.scope caller.node caller.bindings
        current entering caller.key inner.toFrameStart)
      (runs : inner.IsBy engine)
      (split : outer.transcript =
        lead ++ (beginning ++ (entering ++ (inner.transcript ++ later))))

variable {outer inner : FrameRun} {caller : Caller}

theorem Calls.scope_eq (calls : Calls engine outer caller inner) :
    inner.scope = outer.scope.within caller.key := by
  cases calls with
  | intro stands begins enters runs split => exact enters.scope_eq

theorem Calls.fuel_lt (calls : Calls engine outer caller inner) :
    inner.fuel < outer.fuel := by
  cases calls with
  | intro stands begins enters runs split =>
      rw [enters.fuel_eq]
      exact stands.left_lt

/-- A frame whose call fails or is cancelled ends with this call: its node
reports what the called frame comes to, and its variables are those that the
node has found. -/
theorem Calls.ends {interrupt : Interrupt}
    (calls : Calls engine outer caller inner) (isBy : outer.IsBy engine)
    (fails : inner.ended = .error interrupt) :
    let stop := returned caller.node caller.key interrupt
    outer.ended = .error stop ∧
      outer.transcript.failures = inner.transcript.failures ++
        failureLines outer.scope caller.node (.error stop) ∧
      (engine.registry.Commits →
        outer.reached.bindings = caller.bindings) := by
  cases calls with
  | intro stands begins enters runs split =>
      have goesOn := stands.goesOn isBy split
      rw [Running.yields_bind_iff] at goesOn
      obtain ⟨visiting, tail, ⟨result, moved⟩, reached, same, steps,
        goesOn⟩ := goesOn
      obtain ⟨beginning, driving, ending, output, final, middle, rfl,
        beginsToo, drives, reported⟩ := exists_driving_of_step steps
      rw [List.append_assoc] at same
      obtain rfl := begins.unique beginsToo same
      have sameRest := List.append_cancel_left same.symm
      rw [List.append_assoc] at sameRest
      obtain ⟨rfl, rfl⟩ := enters.ends runs drives sameRest
      rw [fails, callEnd] at goesOn steps reported
      obtain ⟨rfl, value, -⟩ := Running.yields_pure_iff.1 goesOn
      obtain ⟨ended_eq, reached_eq⟩ := Prod.mk.inj value
      refine ⟨ended_eq, ?_, fun commits => ?_⟩
      · rw [split, same]
        simp [stands.failures_eq_nil, begins.failures_eq_nil,
          enters.failures_eq_nil, reported]
      · obtain ⟨visit, -, -, stops, performs⟩ := performs_of_yields steps 0
        obtain ⟨first_eq, last_eq⟩ := performs.bindings_eq
        rw [reached_eq, last_eq, (performs.untouched (commits _) stops).1,
          first_eq]

theorem Calls.isBy (calls : Calls engine outer caller inner) :
    inner.IsBy engine := by
  cases calls with
  | intro stands begins enters runs split => exact runs

/-- A frame is reached from another one through calling nodes, the first one
in the outer frame. -/
inductive Nests (engine : Engine) : FrameRun → List Caller → FrameRun → Prop
  | here (run : FrameRun) : Nests engine run [] run
  | called {outer middle inner : FrameRun} {caller : Caller}
      {path : List Caller} (calls : Calls engine outer caller middle)
      (nests : Nests engine middle path inner) :
      Nests engine outer (caller :: path) inner

/-- The scope of the frame that is reached through calling nodes. -/
def Scope.through (scope : Scope) (path : List Caller) : Scope :=
  path.foldl (fun scope caller => scope.within caller.key) scope

/-- The failures that calling nodes report, the last one first, if the frame
that is reached through them fails. -/
def pathFailures (error : RunError) (scope : Scope) :
    List Caller → List LogLine
  | [] => []
  | first :: rest =>
    pathFailures error (scope.within first.key) rest ++
      [failureLine scope first.node (error.through (first :: rest))]

variable {path : List Caller} {error : RunError}

theorem Nests.isBy (nests : Nests engine outer path inner)
    (isBy : outer.IsBy engine) : inner.IsBy engine := by
  induction nests with
  | here run => exact isBy
  | called calls nests ih => exact ih calls.isBy

theorem Nests.scope_eq (nests : Nests engine outer path inner) :
    inner.scope = outer.scope.through path := by
  induction nests with
  | here run => rfl
  | called calls nests ih => rw [ih, calls.scope_eq, Scope.through]; rfl

/-- A failure is handed from frame to frame, and reported in each. -/
theorem Nests.ends (nests : Nests engine outer path inner)
    (isBy : outer.IsBy engine)
    (fails : inner.ended = .error (.failed error)) :
    outer.ended = .error (.failed (error.through path)) ∧
      outer.transcript.failures =
        inner.transcript.failures ++ pathFailures error outer.scope path := by
  induction nests with
  | here run => exact ⟨fails, (List.append_nil _).symm⟩
  | called calls nests ih =>
      obtain ⟨middleFails, reported⟩ := ih calls.isBy fails
      obtain ⟨outerFails, reportedToo, -⟩ := calls.ends isBy middleFails
      rw [RunError.returned_through] at outerFails reportedToo
      refine ⟨outerFails, ?_⟩
      rw [reportedToo, reported, calls.scope_eq, List.append_assoc]
      rfl

theorem length_pathFailures :
    (pathFailures error scope path).length = path.length := by
  induction path generalizing scope with
  | nil => rfl
  | cons first rest ih => simp [pathFailures, ih]

/-! ### Where failures come from -/

/-- A frame ends at a node that fails with an error. -/
inductive FailsAt (engine : Engine) (run : FrameRun) (node : Node)
    (error : RunError) : Prop
  | intro {lead visiting : Run.Transcript} {left : Nat} {standing : Frame}
      {current : Run}
      (stands : StandsBefore engine run.toFrameStart lead left node standing
        current)
      (steps : (engine.step (engine.nested left) left run.scope node
        standing).Yields current visiting (.error (.failed error), run.reached)
          run.after)
      (split : run.transcript = lead ++ visiting)

/-- A frame that has been called by a frame fails. -/
def FrameRun.PassesOn (engine : Engine) (run : FrameRun) : Prop :=
  ∃ caller called cause,
    Calls engine run caller called ∧ called.ended = .error (.failed cause)

/-- The last step of a frame that fails is the one that fails. -/
theorem exists_arrives_of_failed
    (yields : (engine.runFrom fuel scope workflow target frame).Yields before
      transcript (.error (.failed error), reached) after) :
    ∃ finished left next standing current position node visiting,
      Arrives engine scope workflow fuel target frame before finished
        (left + 1) next standing current ∧
      nodeAt? workflow next = some (position, node) ∧
      (engine.step (engine.nested left) left scope node standing).Yields
        { current with pointer := some position } visiting
          (.error (.failed error), reached) after ∧
      transcript =
        finished ++ current.exchange .isAborted false :: visiting := by
  induction fuel generalizing target frame before transcript with
  | zero =>
      obtain ⟨-, value, -⟩ := Running.yields_pure_iff.1 yields
      cases value
  | succ fuel ih =>
      cases goesOn_of_yields yields with
      | stopped position found steps =>
          exact ⟨[], fuel, target, frame, before, position, _, _,
            .here _ _ _ _, found, steps, rfl⟩
      | moved position found steps goesOn =>
          obtain ⟨finished, left, next, standing, current, last, node,
            visiting, arrives, foundLast, stops, rfl⟩ := ih goesOn
          refine ⟨_, left, next, standing, current, last, node, visiting,
            .moved found steps arrives, foundLast, stops, ?_⟩
          simp

theorem exists_failsAt {run : FrameRun} (isBy : run.IsBy engine)
    (fails : run.ended = .error (.failed error)) :
    ∃ node, FailsAt engine run node error := by
  unfold FrameRun.IsBy nested at isBy
  rw [fails] at isBy
  obtain ⟨finished, left, next, standing, current, position, node, visiting,
    arrives, found, stops, split⟩ := exists_arrives_of_failed isBy
  exact ⟨node, .intro (.intro arrives found) stops (by simp [split])⟩

/-- Where a frame fails, its node is the only one that reports so, or a frame
that the node has called fails. -/
theorem FailsAt.failures_eq_or_passesOn {run : FrameRun}
    (fails : FailsAt engine run node error) :
    run.transcript.failures = [failureLine run.scope node error] ∨
      run.PassesOn engine := by
  cases fails with
  | @intro _ _ _ standing _ stands steps split =>
      obtain ⟨beginning, driving, ending, output, final, middle, rfl, begins,
        drives, reported⟩ := exists_driving_of_step steps
      rcases failures_eq_nil_or_enters drives with
        silent | ⟨entering, key, inner, enters, runs, rfl, ends⟩
      · left
        rw [split]
        simp [stands.failures_eq_nil, begins.failures_eq_nil, silent, reported,
          failureLines]
      · right
        obtain ⟨cause, called⟩ := exists_failed_of_callEnd ends.symm
        refine ⟨⟨node, standing.bindings, key⟩, inner, cause, ?_, called⟩
        apply Calls.intro stands begins enters runs
        simpa using split

/-- Every failure of a frame comes from a frame in which no called frame
fails. -/
theorem exists_origin {run : FrameRun} (isBy : run.IsBy engine)
    (fails : run.ended = .error (.failed error)) :
    ∃ path inner cause, Nests engine run path inner ∧
      inner.ended = .error (.failed cause) ∧ ¬ inner.PassesOn engine := by
  -- A called frame has fewer steps left than its caller.
  induction steps : run.fuel using Nat.strong_induction_on generalizing run
    error with
  | h fuel ih =>
      by_cases passesOn : run.PassesOn engine
      · obtain ⟨caller, called, cause, calls, calledFails⟩ := passesOn
        have fewer := calls.fuel_lt
        rw [steps] at fewer
        obtain ⟨path, inner, origin, nests, ends⟩ :=
          ih called.fuel fewer calls.isBy calledFails rfl
        exact ⟨caller :: path, inner, origin, .called calls nests, ends⟩
      · exact ⟨[], run, error, .here run, fails, passesOn⟩

/-! ### Whole runs -/

/-- The frame of the workflow that is executed. -/
inductive IsOutermost (engine : Engine) (fuel : Nat) (workflow : Workflow)
    (bindings : Variables) (before : Run) (transcript : Run.Transcript)
    (outer : FrameRun) : Prop
  | intro {started : Instant} {stack : CallStack} {later : Run.Transcript}
      (entered : before.stack.push
        (CallStack.key before.reference workflow.name)
        engine.options.maxCallDepth = .ok stack)
      (start_eq : outer.toFrameStart = ⟨fuel, ⟨""⟩, workflow,
        ⟨bindings, some (firstRecord workflow before started)⟩,
        { before with status := .running, stack }⟩)
      (runs : outer.IsBy engine)
      (split : transcript = opening before started ++
        (outer.transcript ++ later))

variable {bindings : Variables} {outcome : RunOutcome}

theorem IsOutermost.isBy
    (outermost : IsOutermost engine fuel workflow bindings before transcript
      outer) : outer.IsBy engine := by
  cases outermost with
  | intro entered start_eq runs split => exact runs

theorem IsOutermost.scope_eq
    (outermost : IsOutermost engine fuel workflow bindings before transcript
      outer) : outer.scope = ⟨""⟩ := by
  cases outermost with
  | intro entered start_eq runs split => rw [start_eq]

/-- The outermost workflow is run as the outermost frame is. -/
theorem IsOutermost.eq_of_runs {startedToo : Instant}
    {running later : Run.Transcript} {ended : Except Interrupt Unit}
    (outermost : IsOutermost engine fuel workflow bindings before transcript
      outer)
    (runsToo : RunsOutermost engine fuel workflow
      ⟨bindings, some (firstRecord workflow before startedToo)⟩
      { before with status := .running } running ended frame after)
    (same : transcript = opening before startedToo ++ (running ++ later)) :
    running = outer.transcript ∧ ended = outer.ended ∧
      frame = outer.reached := by
  obtain ⟨start, nested, endedToo, final, left⟩ := outer
  cases outermost with
  | intro entered start_eq runs split =>
      cases runsToo with
      | refused guarded =>
          have guarded : before.stack.push
              (CallStack.key before.reference workflow.name)
              engine.options.maxCallDepth = .error _ := guarded
          rw [entered] at guarded
          cases guarded
      | entered enteredToo runsToo =>
          have enteredToo : before.stack.push
              (CallStack.key before.reference workflow.name)
              engine.options.maxCallDepth = .ok _ := enteredToo
          rw [entered] at enteredToo
          cases enteredToo
          subst start_eq
          rw [split] at same
          -- Both begin at the instant that is read first.
          cases (List.cons.inj same).1
          have sameRest := List.append_cancel_left same
          obtain ⟨rfl, value⟩ := Program.Yields.unique runs runsToo sameRest
          cases value
          exact ⟨rfl, rfl, rfl⟩

/-- A run whose outermost frame fails comes to an end, and ends with the error
of that frame. -/
theorem IsOutermost.fails {outcome? : Option RunOutcome}
    (outermost : IsOutermost engine fuel workflow bindings before transcript
      outer)
    (yields : (engine.execute fuel workflow bindings).Yields before transcript
      outcome? after)
    (fails : outer.ended = .error (.failed error)) :
    ∃ outcome, outcome? = some outcome ∧ outcome.status = .error ∧
      outcome.error = some error ∧
      outcome.bindings = outer.reached.bindings ∧
      transcript.failures = outer.transcript.failures := by
  cases proceeds_of_yields yields with
  | exhausted runs endless =>
      have same := outermost.eq_of_runs runs
        (congrArg _ (List.append_nil _).symm)
      rw [same.2.1, fails] at endless
      cases endless
  | ended finished runs ends =>
      obtain ⟨rfl, rfl, rfl⟩ :=
        outermost.eq_of_runs runs (List.append_assoc _ _ _)
      rw [fails] at ends
      cases ends
      refine ⟨_, rfl, rfl, rfl, rfl, ?_⟩
      simp [Run.Transcript.failures, lines_opening, lines_closing]

/-- A run that fails is refused at once, or its failure comes from a frame that
is reached from the outermost one. -/
theorem exists_path_of_error
    (yields : (engine.execute fuel workflow bindings).Yields before transcript
      (some outcome) after) (failed : outcome.status = .error) :
    (∃ error, before.stack.push (CallStack.key before.reference workflow.name)
        engine.options.maxCallDepth = .error error) ∨
      ∃ outer path inner error,
        IsOutermost engine fuel workflow bindings before transcript outer ∧
        Nests engine outer path inner ∧
        inner.ended = .error (.failed error) ∧ ¬ inner.PassesOn engine := by
  cases proceeds_of_yields yields with
  | @ended started finished running ended frame reached status _ runs ends =>
      cases runs with
      | @refused error guarded => exact .inl ⟨error, guarded⟩
      | @entered stack _ _ _ inner entered runs =>
          right
          rcases ended with (_ | error | _) | _ <;> cases ends
          · cases failed
          · let outer : FrameRun :=
              ⟨⟨fuel, ⟨""⟩, workflow,
                ⟨bindings, some (firstRecord workflow before started)⟩,
                { before with status := .running, stack }⟩,
                running, .error (.failed error), frame, inner⟩
            obtain ⟨path, inner, cause, nests, ends⟩ :=
              @exists_origin engine error outer runs rfl
            exact ⟨outer, path, inner, cause,
              .intro entered rfl runs (List.append_assoc _ _ _), nests, ends⟩
          · cases failed

/-- Each node on the way of a failure reports it once. -/
theorem length_failures {outcome? : Option RunOutcome}
    (yields : (engine.execute fuel workflow bindings).Yields before transcript
      outcome? after)
    (outermost : IsOutermost engine fuel workflow bindings before transcript
      outer)
    (nests : Nests engine outer path inner)
    (fails : inner.ended = .error (.failed error))
    (origin : ¬ inner.PassesOn engine) :
    transcript.failures.length = path.length + 1 := by
  obtain ⟨outerFails, failures_eq⟩ := nests.ends outermost.isBy fails
  obtain ⟨-, -, -, -, -, reported⟩ := outermost.fails yields outerFails
  obtain ⟨node, failsAt⟩ := exists_failsAt (nests.isBy outermost.isBy) fails
  have alone := failsAt.failures_eq_or_passesOn.resolve_right origin
  rw [reported, failures_eq, alone, List.length_append, length_pathFailures,
    List.length_singleton, Nat.add_comm]

/-- If a frame fails that is reached from the outermost one through calling
nodes, the run fails: with the very error of the frame if the call stack has
refused a workflow, and otherwise with an error of the first calling node that
names all the calls, and all the nodes on the way, and then says what the error
of the frame says.  The calling nodes are reported to have failed after all that
has failed in the frame, each once and from the last one to the first; in the
frame, this is the node at which it ends, alone if no frame that it has called
fails.  The variables of the run are those that the first calling node has
found. -/
theorem execute_error_names_path {outcome? : Option RunOutcome}
    (yields : (engine.execute fuel workflow bindings).Yields before transcript
      outcome? after)
    {first : Caller} {rest : List Caller}
    (outermost : IsOutermost engine fuel workflow bindings before transcript
      outer)
    (nests : Nests engine outer (first :: rest) inner)
    (fails : inner.ended = .error (.failed error)) :
    ∃ outcome, outcome? = some outcome ∧ outcome.status = .error ∧
      outcome.error = some
        (if error.isGuard then error
        else
          .handler first.node.id
            (s!"sub-workflow '{first.key}' failed: " ++ error.path rest)) ∧
      transcript.failures = inner.transcript.failures ++
        pathFailures error ⟨""⟩ (first :: rest) ∧
      (∃ node, FailsAt engine inner node error ∧
        (¬ inner.PassesOn engine → inner.transcript.failures =
          [failureLine (Scope.through ⟨""⟩ (first :: rest)) node error])) ∧
      (engine.registry.Commits → outcome.bindings = first.bindings) := by
  obtain ⟨outerFails, failures_eq⟩ := nests.ends outermost.isBy fails
  obtain ⟨outcome, isOutcome, status_eq, error_eq, bindings_eq, reported⟩ :=
    outermost.fails yields outerFails
  obtain ⟨node, failsAt⟩ := exists_failsAt (nests.isBy outermost.isBy) fails
  refine ⟨outcome, isOutcome, status_eq, error_eq, ?_, ⟨node, failsAt, ?_⟩, ?_⟩
  · rw [reported, failures_eq, outermost.scope_eq]
  · intro origin
    rw [← outermost.scope_eq, ← nests.scope_eq]
    exact failsAt.failures_eq_or_passesOn.resolve_right origin
  · intro commits
    cases nests with
    | called calls nests =>
        have calledFails := (nests.ends calls.isBy fails).1
        rw [bindings_eq]
        exact (calls.ends outermost.isBy calledFails).2.2 commits

/-- An oracle that loads a document that calls another one, which has a node
without the property that it needs. -/
def misprint : Oracle Unit :=
  { librarian with
    call := fun
      | .loadWorkflow "inner", services =>
        (.ok "nodes: [\x7btype: variable, value: 1\x7d]", services)
      | call, services => librarian.call call services }

theorem execute_error_names_path_misprint :
    ∃ transcript outcome after outer inner first second node error,
      (unattended.execute 5 (solo (delegate "middle"))
        (.ofList [("x", "1")])).Yields (Run.fresh "id" "outer") transcript
          (some outcome) after ∧
      Nests unattended outer [first, second] inner ∧
      FailsAt unattended inner node error ∧
      outcome.error = some (.handler "node-1"
        ("sub-workflow 'middle:default' failed: node 'node-1' failed: " ++
          "sub-workflow 'inner:default' failed: node 'node-1' failed: " ++
          "missing required property 'name'")) ∧
      transcript.failures.map LogLine.nodeId =
        ["middle:default/inner:default/node-1", "middle:default/node-1",
          "node-1"] ∧
      transcript.failures =
        [failureLine (Scope.through ⟨""⟩ [first, second]) node error] ++
          pathFailures error ⟨""⟩ [first, second] ∧
      outcome.bindings = first.bindings := by
  let bindings : Variables := .ofList [("x", "1")]
  have yields := misprint.yields_run
    (unattended.execute 5 (solo (delegate "middle")) bindings)
    (Run.fresh "id" "outer") .still
  have evaluated :
      let conversation := misprint.run
        (unattended.execute 5 (solo (delegate "middle")) bindings)
        (Run.fresh "id" "outer") .still
      conversation.value.1.map
          (fun outcome => (outcome.status, outcome.error)) =
        some (.error, some (.handler "node-1"
          ("sub-workflow 'middle:default' failed: node 'node-1' failed: " ++
            "sub-workflow 'inner:default' failed: node 'node-1' failed: " ++
            "missing required property 'name'"))) ∧
      (Run.Transcript.failures conversation.transcript).map LogLine.nodeId =
        ["middle:default/inner:default/node-1", "middle:default/node-1",
          "node-1"] := by
    decide +kernel
  generalize misprint.run
    (unattended.execute 5 (solo (delegate "middle")) bindings)
    (Run.fresh "id" "outer") .still = conversation at yields evaluated
  obtain ⟨ended, reported⟩ := evaluated
  obtain ⟨outcome, isOutcome, ended⟩ := Option.map_eq_some_iff.1 ended
  obtain ⟨status_eq, error_eq⟩ := Prod.mk.inj ended
  rw [isOutcome] at yields
  rcases exists_path_of_error yields status_eq with
    ⟨error, refused⟩ | ⟨outer, path, inner, error, outermost, nests, fails,
      origin⟩
  · cases refused
  · have length_eq := length_failures yields outermost nests fails origin
    rw [← List.length_map LogLine.nodeId, reported] at length_eq
    obtain ⟨first, second, rfl⟩ := List.length_eq_two.1
      (Nat.succ.inj length_eq).symm
    obtain ⟨_, same, -, -, failures_eq, ⟨node, failsAt, alone⟩, unchanged⟩ :=
      execute_error_names_path yields outermost nests fails
    cases same
    rw [alone origin] at failures_eq
    exact ⟨_, outcome, _, outer, inner, first, second, node, error, yields,
      nests, failsAt, error_eq, reported, failures_eq,
      unchanged Registry.standard_commits⟩

end Engine

end Runbook
