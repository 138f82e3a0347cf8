import Runbook.Proofs.Run.CallPath
import Runbook.Proofs.Run.OpenFrames

/-!
# Calls that are made

A node that calls a workflow has its document loaded and read, and then the
call stack decides whether the workflow is entered.  The stack lists what has
been entered on the way to the calling node.  A workflow that is entered is run
as a frame; a call that is refused ends its frame, and with it every frame on
the way, and nothing is executed any more.
-/

namespace Runbook

open Engine

/-! ### Reports -/

/-- Nothing is done in an exchange but to take the time, and to report that
something has failed. -/
def Run.Exchange.Reports : Run.Exchange → Prop
  | ⟨⟨_, .now⟩, _⟩ => True
  | ⟨⟨_, .publish (.log line)⟩, _⟩ => line.status = .error
  | ⟨⟨_, .publish (.status status)⟩, _⟩ => status = .error
  | _ => False

/-- Nothing is done any more but to report failures. -/
def Run.Transcript.OnlyReports (transcript : Run.Transcript) : Prop :=
  ∀ exchange ∈ transcript, exchange.Reports

namespace Run.Transcript

variable {first second : Transcript}

theorem onlyReports_nil : OnlyReports [] :=
  List.forall_mem_nil _

theorem onlyReports_append_iff :
    OnlyReports (first ++ second) ↔
      first.OnlyReports ∧ second.OnlyReports :=
  List.forall_mem_append

end Run.Transcript

namespace Engine

variable {engine : Engine} {fuel : Nat} {scope : Scope} {node : Node}
  {before after current : Run} {transcript lead later : Run.Transcript}
  {error : RunError}

/-- What follows a node that has failed is a report of it. -/
theorem Closes.onlyReports {output : Option String}
    (closes : Closes engine scope node (.error (.failed error)) output before
      transcript) : transcript.OnlyReports := by
  cases closes with
  | intro closes =>
      refine List.forall_mem_cons.2 ⟨rfl, ?_⟩
      obtain ⟨-, ⟨-, -, rfl⟩ | ⟨_, now, -, -, rfl⟩⟩ :=
        closeStep_of_yields closes
      · exact Run.Transcript.onlyReports_nil
      · exact List.forall_mem_singleton.2 trivial

theorem onlyReports_closing (reached : Run) (finished : Instant) :
    (closing reached .error finished).OnlyReports := by
  refine Run.Transcript.onlyReports_append_iff.2
    ⟨?_, List.forall_mem_singleton.2 trivial⟩
  unfold Run.announcement
  split
  · exact Run.Transcript.onlyReports_nil
  · exact List.forall_mem_singleton.2 rfl

/-! ### Calls that are made -/

/-- A call of a workflow whose document has been read: the node that makes it,
and the state of the run in which the call stack decides. -/
structure Attempt where
  node : Node
  /-- What the node finds. -/
  standing : Frame
  call : SubWorkflowCall
  source : String
  workflow : Workflow
  /-- How many steps in a row may follow. -/
  fuel : Nat
  run : Run

namespace Attempt

def callee (attempt : Attempt) : Callee :=
  ⟨attempt.call.reference, attempt.workflow.name⟩

/-- The exchange in which the document is loaded. -/
def loaded (attempt : Attempt) : Run.Exchange :=
  attempt.run.exchange (.call (.loadWorkflow attempt.callee.reference))
    (some (.ok attempt.source))

def loading (attempt : Attempt) : Run.Transcript :=
  [attempt.run.exchange .isAborted false, attempt.loaded]

/-- The frame of the workflow, if it is entered. -/
def start (attempt : Attempt) (scope : Scope) (stack : CallStack) :
    FrameStart :=
  ⟨attempt.fuel, scope.within attempt.callee.key, attempt.workflow,
    ⟨attempt.call.inputs, none⟩, { attempt.run with stack }⟩

end Attempt

/-- A node of a frame makes a call, and something follows once the document has
been loaded. -/
inductive Attempts (engine : Engine) (outer : FrameRun) (attempt : Attempt)
    (later : Run.Transcript) : Prop
  | intro {lead beginning asked : Run.Transcript} {handler : Handler}
      {state : Step.State} {current : Run}
      (stands : StandsBefore engine outer.toFrameStart lead attempt.fuel
        attempt.node attempt.standing current)
      (begins : Begins outer.scope attempt.node attempt.standing current
        beginning)
      (known : engine.registry.handler? attempt.node.nodeType = some handler)
      (leads : (engine.interact outer.scope
        ⟨attempt.node, Template.resolveAll attempt.standing.bindings
          attempt.node.properties, engine.settings⟩
        handler attempt.fuel handler.execute
        ⟨attempt.standing.bindings, none⟩).Yields current asked
          (.ok (.call attempt.call), state) attempt.run)
      (read : Workflow.read attempt.source attempt.call.name =
        .ok attempt.workflow)
      (split : outer.transcript =
        lead ++ (beginning ++ (asked ++ (attempt.loading ++ later))))

/-- A workflow that is called is entered, and run as a frame of its own. -/
inductive Invokes (engine : Engine) (outer : FrameRun) (attempt : Attempt)
    (inner : FrameRun) : Prop
  | intro {rest : Run.Transcript} {stack : CallStack}
      (attempts : Attempts engine outer attempt (inner.transcript ++ rest))
      (entered : attempt.run.stack.push attempt.callee.key
        engine.options.maxCallDepth = .ok stack)
      (start_eq : inner.toFrameStart = attempt.start outer.scope stack)
      (runs : inner.IsBy engine)

/-- A frame is reached from another one through workflows that are entered one
after the other. -/
inductive Opens (engine : Engine) : FrameRun → List Callee → FrameRun → Prop
  | here (run : FrameRun) : Opens engine run [] run
  | called {outer middle inner : FrameRun} {attempt : Attempt}
      {callees : List Callee} (invokes : Invokes engine outer attempt middle)
      (opens : Opens engine middle callees inner) :
      Opens engine outer (attempt.callee :: callees) inner

variable {outer inner : FrameRun} {attempt : Attempt} {callees : List Callee}

theorem Attempts.exists_front
    (attempts : Attempts engine outer attempt later) :
    ∃ front, outer.transcript = front ++ (attempt.loading ++ later) := by
  cases attempts with
  | @intro lead beginning asked _ _ _ stands begins known leads read split =>
      refine ⟨lead ++ beginning ++ asked, ?_⟩
      simp only [split, List.append_assoc]

theorem Attempts.loaded_mem
    (attempts : Attempts engine outer attempt later) :
    attempt.loaded ∈ outer.transcript := by
  obtain ⟨front, split⟩ := attempts.exists_front
  rw [split]
  simp [Attempt.loading]

/-- What is exchanged in a frame is part of what is exchanged in the frames
through which it is reached. -/
theorem Opens.isInfix (opens : Opens engine outer callees inner) :
    inner.transcript <:+: outer.transcript := by
  induction opens with
  | here run => exact List.infix_rfl
  | called invokes opens ih =>
      cases invokes with
      | @intro rest stack attempts entered start_eq runs =>
          obtain ⟨front, split⟩ := attempts.exists_front
          rw [split, ← List.append_assoc, ← List.append_assoc]
          exact ih.trans (List.infix_append _ _ rest)

theorem Invokes.isBy (invokes : Invokes engine outer attempt inner) :
    inner.IsBy engine := by
  cases invokes with
  | intro attempts entered start_eq runs => exact runs

theorem Opens.isBy (opens : Opens engine outer callees inner)
    (isBy : outer.IsBy engine) : inner.IsBy engine := by
  induction opens with
  | here run => exact isBy
  | called invokes opens ih => exact ih invokes.isBy

/-- Whatever frame is called has been entered. -/
theorem Calls.exists_invokes {caller : Caller}
    (calls : Calls engine outer caller inner) :
    ∃ attempt, attempt.callee.key = caller.key ∧
      Invokes engine outer attempt inner := by
  obtain ⟨start, nested, ended, reached, final⟩ := inner
  obtain ⟨node, bindings, key⟩ := caller
  cases calls with
  | @intro lead beginning entering later left record current stands begins
      enters runs split =>
      cases enters with
      | @intro handler call state asked loading middle source child stack known
          leads loads read entered =>
          cases loads
          let attempt : Attempt :=
            ⟨node, ⟨bindings, record⟩, call, source, child, left, middle⟩
          have attempts : Attempts engine outer attempt (nested ++ later) := by
            refine .intro stands begins known leads read ?_
            rw [split, List.append_assoc]
            rfl
          exact ⟨attempt, rfl, .intro attempts entered rfl runs⟩

theorem Invokes.calls (invokes : Invokes engine outer attempt inner) :
    Calls engine outer
      ⟨attempt.node, attempt.standing.bindings, attempt.callee.key⟩ inner := by
  obtain ⟨start, nested, ended, reached, final⟩ := inner
  cases invokes with
  | @intro rest stack attempts entered start_eq runs =>
      obtain rfl : start = attempt.start outer.scope stack := start_eq
      cases attempts with
      | @intro lead beginning asked _ _ _ stands begins known leads read
          split =>
          have together : outer.transcript = lead ++ (beginning ++
              (asked ++ attempt.loading ++ (nested ++ rest))) := by
            rw [split, List.append_assoc asked]
          exact .intro stands begins
            (.intro known leads (.loaded _) read entered) runs together

/-- Whatever frame is reached through calling nodes is reached through
workflows that are entered. -/
theorem Nests.exists_opens {path : List Caller}
    (nests : Nests engine outer path inner) :
    ∃ callees, callees.map Callee.key = path.map Caller.key ∧
      Opens engine outer callees inner := by
  induction nests with
  | here run => exact ⟨[], rfl, .here run⟩
  | called calls nests ih =>
      obtain ⟨attempt, key_eq, invokes⟩ := calls.exists_invokes
      obtain ⟨callees, keys_eq, opens⟩ := ih
      exact ⟨attempt.callee :: callees, by simp [key_eq, keys_eq],
        .called invokes opens⟩

/-- A frame that is entered alike and gets the same replies is the same. -/
theorem FrameRun.IsBy.unique {first second : FrameRun}
    {rest others : Run.Transcript} (isBy : first.IsBy engine)
    (isByToo : second.IsBy engine)
    (start_eq : second.toFrameStart = first.toFrameStart)
    (same : first.transcript ++ rest = second.transcript ++ others) :
    first = second := by
  obtain ⟨start, nested, ended, reached, final⟩ := first
  obtain ⟨startToo, nestedToo, endedToo, reachedToo, finalToo⟩ := second
  obtain rfl : startToo = start := start_eq
  obtain ⟨rfl, value⟩ := Program.Yields.unique isBy isByToo same
  cases value
  rfl

/-! ### The stack at calls -/

theorem Arrives.stack_eq {workflow : Workflow} {target last : Target}
    {frame standing : Frame} {left : Nat}
    (arrives : Arrives engine scope workflow fuel target frame before
      transcript left last standing current) :
    current.stack = before.stack := by
  induction arrives with
  | here fuel target frame run => rfl
  | moved found steps rest ih =>
      exact ih.trans (keepsPlace_of_step steps).stack_eq

theorem StandsBefore.stack_eq {start : FrameStart} {left : Nat}
    {standing : Frame}
    (stands : StandsBefore engine start lead left node standing current) :
    current.stack = start.before.stack := by
  cases stands with
  | intro arrives found => exact arrives.stack_eq

/-- The call stack decides on a call as it was when the calling frame was
entered. -/
theorem Attempts.stack_eq (attempts : Attempts engine outer attempt later) :
    attempt.run.stack = outer.before.stack := by
  cases attempts with
  | intro stands begins known leads read split =>
      rw [(interacts_of_yields leads).keepsPlace.stack_eq, stands.stack_eq]

/-- While a frame is run, the stack lists what has been entered on the way. -/
theorem Opens.lists {opened : List Callee}
    (opens : Opens engine outer callees inner)
    (lists : outer.before.stack.Lists opened) :
    inner.before.stack.Lists (opened ++ callees) := by
  induction opens generalizing opened with
  | here run => rwa [List.append_nil]
  | @called outer middle inner attempt callees invokes opens ih =>
      cases invokes with
      | intro attempts entered start_eq runs =>
          rw [List.append_cons]
          apply ih
          rw [start_eq]
          rw [← attempts.stack_eq] at lists
          exact .entered lists entered

/-! ### What a call leads to -/

/-- What is left of a call when the document has been read. -/
def enterWorkflow (engine : Engine) (scope : Scope) (attempt : Attempt) :
    Running (Except Interrupt (List (String × String))) := do
  let run ← get
  match run.stack.push attempt.callee.key engine.options.maxCallDepth with
  | .error error => return .error (.failed error)
  | .ok stack =>
    let start := attempt.start scope stack
    set { run with stack }
    let (ended, frame) ←
      engine.nested start.fuel start.scope start.workflow start.frame
    modify fun after =>
      { after with stack := after.stack.pop, pointer := run.pointer }
    match ended with
    | .error interrupt =>
      return .error (returned attempt.node attempt.callee.key interrupt)
    | .ok () => return .ok (copied attempt.call.outputs frame.bindings)

/-- After the document has been read, the workflow is entered, and the node is
closed; if the call fails, so does the frame, and reports it. -/
theorem Attempts.exists_entering
    (attempts : Attempts engine outer attempt later)
    (isBy : outer.IsBy engine) :
    ∃ entering rest called left, later = entering ++ rest ∧
      (engine.enterWorkflow outer.scope attempt).Yields attempt.run entering
        called left ∧
      ∀ error, called = .error (.failed error) →
        outer.ended = .error (.failed error) ∧ rest.OnlyReports := by
  cases attempts with
  | @intro lead beginning asked handler state current stands begins known leads
      read split =>
      have goesOn := stands.goesOn isBy split
      rw [Running.yields_bind_iff] at goesOn
      obtain ⟨visiting, tail, ⟨result, moved⟩, reached, same, steps,
        goesOn⟩ := goesOn
      obtain ⟨beginning, driving, ending, output, final, middle, rfl,
        beginsToo, drives, closes⟩ := exists_closes_of_step steps
      rw [List.append_assoc] at same
      obtain rfl := begins.unique beginsToo same
      have same := (List.append_cancel_left same).symm
      rw [List.append_assoc] at same
      rw [driveNode, known] at drives
      dsimp only at drives
      obtain ⟨others, rfl, same, drives⟩ := leads.rest drives same
      dsimp only at drives
      obtain ⟨calling, last, called, left, rfl, calls, drives⟩ :=
        Running.yields_bind_iff.1 drives
      have last_eq : last = [] := by
        cases called <;> exact (Running.yields_pure_iff.1 drives).1
      subst last_eq
      rw [List.append_nil] at same
      rw [callWorkflow] at calls
      have loads : LoadsSource attempt.node attempt.call.reference attempt.run
          attempt.loading (.ok attempt.source) := .loaded _
      obtain ⟨entering, rfl, same, calls⟩ := loads.yields.rest calls same
      dsimp only at calls
      rw [read] at calls
      refine ⟨entering, ending ++ tail, called, left, same.symm, calls, ?_⟩
      rintro error rfl
      obtain ⟨-, value, -⟩ := Running.yields_pure_iff.1 drives
      cases value
      obtain ⟨rfl, value, -⟩ := Running.yields_pure_iff.1 goesOn
      rw [List.append_nil]
      exact ⟨(Prod.mk.inj value).1, closes.onlyReports⟩

/-- The workflow is refused by the call stack, or run as a frame. -/
theorem refused_or_runs_of_enterWorkflow
    {result : Except Interrupt (List (String × String))}
    (yields : (engine.enterWorkflow scope attempt).Yields attempt.run
      transcript result after) :
    (∃ error, attempt.run.stack.push attempt.callee.key
        engine.options.maxCallDepth = .error error ∧ transcript = [] ∧
        result = .error (.failed error)) ∨
      ∃ (stack : CallStack) (inner : FrameRun),
        attempt.run.stack.push attempt.callee.key
          engine.options.maxCallDepth = .ok stack ∧
        inner.toFrameStart = attempt.start scope stack ∧
        inner.IsBy engine ∧ transcript = inner.transcript ∧
        result = callResult attempt.node attempt.callee.key
          attempt.call.outputs inner.reached.bindings inner.ended := by
  rw [enterWorkflow, Running.yields_get_bind_iff] at yields
  cases entered : attempt.run.stack.push attempt.callee.key
      engine.options.maxCallDepth with
  | error error =>
      rw [entered] at yields
      obtain ⟨rfl, rfl, -⟩ := Running.yields_pure_iff.1 yields
      exact .inl ⟨error, rfl, rfl, rfl⟩
  | ok stack =>
      rw [entered] at yields
      dsimp only at yields
      rw [Running.yields_set_bind_iff, Running.yields_bind_iff] at yields
      obtain ⟨nested, last, ⟨ended, frame⟩, left, rfl, runs, yields⟩ := yields
      rw [Running.yields_modify_bind_iff] at yields
      right
      refine ⟨stack, ⟨attempt.start scope stack, nested, ended, frame, left⟩,
        rfl, rfl, runs, ?_⟩
      cases ended with
      | error _ | ok _ =>
          obtain ⟨rfl, rfl, -⟩ := Running.yields_pure_iff.1 yields
          exact ⟨List.append_nil _, rfl⟩

/-- A call that is refused ends the frame. -/
theorem Attempts.refused (attempts : Attempts engine outer attempt later)
    (isBy : outer.IsBy engine)
    (guarded : attempt.run.stack.push attempt.callee.key
      engine.options.maxCallDepth = .error error) :
    outer.ended = .error (.failed error) ∧ later.OnlyReports := by
  obtain ⟨entering, rest, called, left, rfl, yields, fails⟩ :=
    attempts.exists_entering isBy
  rcases refused_or_runs_of_enterWorkflow yields with
    ⟨_, refused, rfl, rfl⟩ | ⟨_, _, entered, -⟩
  · rw [guarded] at refused
    cases refused
    exact fails error rfl
  · rw [guarded] at entered
    cases entered

/-- A workflow that may be entered is run. -/
theorem Attempts.exists_invokes
    (attempts : Attempts engine outer attempt later)
    (isBy : outer.IsBy engine) {stack : CallStack}
    (entered : attempt.run.stack.push attempt.callee.key
      engine.options.maxCallDepth = .ok stack) :
    ∃ inner, Invokes engine outer attempt inner := by
  obtain ⟨entering, rest, called, left, rfl, yields, fails⟩ :=
    attempts.exists_entering isBy
  rcases refused_or_runs_of_enterWorkflow yields with
    ⟨_, refused, -⟩ | ⟨stack, inner, entered, start_eq, runs, rfl, -⟩
  · rw [entered] at refused
    cases refused
  · exact ⟨inner, .intro attempts entered start_eq runs⟩

/-- If a frame is refused something, then so is the frame that has called it,
and nothing is executed after the called frame. -/
theorem Invokes.refused (invokes : Invokes engine outer attempt inner)
    (isBy : outer.IsBy engine)
    (fails : inner.ended = .error (.failed error)) (guarded : error.isGuard) :
    outer.ended = .error (.failed error) ∧
      ∃ front rest, outer.transcript = front ++ (inner.transcript ++ rest) ∧
        rest.OnlyReports := by
  cases invokes with
  | @intro rest stack attempts entered start_eq runs =>
      obtain ⟨entering, others, called, left, same, yields, stops⟩ :=
        attempts.exists_entering isBy
      rcases refused_or_runs_of_enterWorkflow yields with
        ⟨_, refused, -, -⟩ | ⟨_, run, enteredToo, startToo, runsToo, rfl, rfl⟩
      · rw [entered] at refused
        cases refused
      · rw [entered] at enteredToo
        cases enteredToo
        -- The frame that is entered is the one that is run.
        obtain rfl := runs.unique runsToo (startToo.trans start_eq.symm) same
        obtain rfl := List.append_cancel_left same
        obtain ⟨outerFails, reports⟩ := stops error (by
          rw [fails, callResult, returned, if_pos guarded])
        obtain ⟨front, split⟩ := attempts.exists_front
        refine ⟨outerFails, front ++ attempt.loading, rest, ?_, reports⟩
        rw [split, List.append_assoc]

/-- A refusal is handed from frame to frame, and only reported on the way. -/
theorem Opens.refused (opens : Opens engine outer callees inner)
    (isBy : outer.IsBy engine)
    (fails : inner.ended = .error (.failed error)) (guarded : error.isGuard) :
    outer.ended = .error (.failed error) ∧
      ∃ front rest, outer.transcript = front ++ (inner.transcript ++ rest) ∧
        rest.OnlyReports := by
  induction opens with
  | here run => exact ⟨fails, [], [], by simp, Run.Transcript.onlyReports_nil⟩
  | called invokes opens ih =>
      obtain ⟨middleFails, front, rest, split, reports⟩ :=
        ih invokes.isBy fails
      obtain ⟨outerFails, first, last, splitOuter, reportsToo⟩ :=
        invokes.refused isBy middleFails guarded
      refine ⟨outerFails, first ++ front, rest ++ last, ?_,
        Run.Transcript.onlyReports_append_iff.2 ⟨reports, reportsToo⟩⟩
      rw [splitOuter, split]
      simp only [List.append_assoc]

end Engine

end Runbook
