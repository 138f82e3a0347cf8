import Runbook.Proofs.Run.Transcript
import Runbook.Proofs.Step.Transcript

/-!
# The parts of an execution

For each part of an engine the ways in which it can go: what its transcript
is, what it ends with, and in which state it leaves the run.  Everything that
is said about runs follows from these lemmas.
-/

namespace Runbook

namespace Engine

variable {α : Type}

/-- How a question of a step reaches those who observe and serve the run. -/
def relay (scope : Scope) (node : Node) (run : Run) :
    Step.Exchange → Run.Exchange
  | ⟨.call call, reply⟩ => run.exchange (.call call) reply
  | ⟨.sleep nanoseconds, reply⟩ => run.exchange (.sleep nanoseconds) reply
  | ⟨.note message, ()⟩ =>
    run.exchange (.publish (.log
      ⟨scope.path ++ node.id, node.nodeType.tag, message, .info⟩)) ()

/-- What the end of a step is for the node that it runs. -/
def stepResult (node : Node) : Except Step.Stop α → Except Interrupt α
  | .ok value => .ok value
  | .error .interrupted => .error .cancelled
  | .error (.failed failure) => .error (nodeFailure node failure)

variable {engine : Engine} {runChild : FrameRunner} {fuel : Nat}
  {scope : Scope} {node : Node} {before after : Run}
  {transcript : Run.Transcript}

theorem stepResult_ne_exhausted {α : Type}
    (stepped : Except Step.Stop α) :
    stepResult node stepped ≠ .error .exhausted := by
  rcases stepped with (failure | _) | value <;> simp [stepResult, nodeFailure]

theorem yields_log_iff {message : String} {status : LogStatus}
    {value : Unit} :
    (log scope node message status).Yields before transcript value after ↔
      transcript = [before.exchange (.publish (.log
        ⟨scope.path ++ node.id, node.nodeType.tag, message, status⟩)) ()] ∧
        after = before :=
  Running.yields_publish_iff

theorem yields_answerStep_iff {question : Step.Question}
    {reply : Step.Reply question} :
    (answerStep scope node question).Yields before transcript reply after ↔
      transcript = [relay scope node before ⟨question, reply⟩] ∧
        after = before := by
  cases question with
  | call call => exact Running.yields_ask_iff
  | sleep nanoseconds => exact Running.yields_ask_iff
  | note message => exact yields_log_iff

/-- The questions of a step are asked one by one, in one state of the run. -/
theorem yields_runWith_iff
    {program : Program Step.Question Step.Reply α} {value : α} :
    (program.runWith (answerStep scope node)).Yields before transcript value
        after ↔
      after = before ∧ ∃ exchanges : Step.Transcript,
        program.Yields exchanges value ∧
        transcript = exchanges.map (relay scope node before) := by
  induction program generalizing transcript with
  | done result =>
      simp only [Program.runWith, Running.yields_pure_iff,
        Program.yields_done_iff]
      constructor
      · rintro ⟨rfl, rfl, rfl⟩
        exact ⟨rfl, [], ⟨rfl, rfl⟩, rfl⟩
      · rintro ⟨rfl, _, ⟨rfl, rfl⟩, rfl⟩
        exact ⟨rfl, rfl, rfl⟩
  | ask question next ih =>
      rw [Program.runWith, Running.yields_bind_iff]
      constructor
      · rintro ⟨first, second, reply, middle, rfl, asked, rest⟩
        obtain ⟨rfl, rfl⟩ := yields_answerStep_iff.1 asked
        obtain ⟨rfl, exchanges, yields, rfl⟩ := (ih reply).1 rest
        exact ⟨rfl, ⟨question, reply⟩ :: exchanges, .ask reply yields, rfl⟩
      · rintro ⟨rfl, exchanges, yields, rfl⟩
        obtain ⟨reply, rest, rfl, remaining⟩ :=
          Program.yields_ask_iff.1 yields
        exact ⟨_, _, reply, after, rfl, yields_answerStep_iff.2 ⟨rfl, rfl⟩,
          (ih reply).2 ⟨rfl, rest, remaining, rfl⟩⟩

/-- A step is not begun, or it is carried out. -/
theorem yields_runStep_iff {context : Step.Context} {step : Step α}
    {state ended : Step.State} {result : Except Interrupt α} :
    (runStep scope context step state).Yields before transcript
        (result, ended) after ↔
      after = before ∧
        ((transcript = [before.exchange .isAborted true] ∧
            result = .error .cancelled ∧ ended = state) ∨
          ∃ exchanges stepped,
            step.Yields context state exchanges stepped ended ∧
            transcript = before.exchange .isAborted false ::
              exchanges.map (relay scope context.node before) ∧
            result = stepResult context.node stepped) := by
  rw [runStep, Running.yields_ask_bind_iff]
  constructor
  · rintro ⟨aborted, rest, rfl, remaining⟩
    cases aborted with
    | true =>
        obtain ⟨rfl, same, rfl⟩ := Running.yields_pure_iff.1 remaining
        obtain ⟨rfl, rfl⟩ := Prod.mk.inj same
        exact ⟨rfl, .inl ⟨rfl, rfl, rfl⟩⟩
    | false =>
        obtain ⟨first, last, ⟨stepped, reached⟩, run, rfl, ran, closing⟩ :=
          Running.yields_bind_iff.1 remaining
        obtain ⟨rfl, exchanges, yields, rfl⟩ := yields_runWith_iff.1 ran
        have closed : (pure (stepResult context.node stepped, reached) :
            Running (Except Interrupt α × Step.State)).Yields run last
              (result, ended) after := by
          rcases stepped with (failure | _) | value <;> exact closing
        obtain ⟨rfl, same, rfl⟩ := Running.yields_pure_iff.1 closed
        obtain ⟨rfl, rfl⟩ := Prod.mk.inj same
        exact ⟨rfl, .inr ⟨exchanges, stepped, yields, by simp, rfl⟩⟩
  · rintro ⟨rfl, ⟨rfl, rfl, rfl⟩ | ⟨exchanges, stepped, yields, rfl, rfl⟩⟩
    · exact ⟨true, [], rfl, Running.yields_pure_iff.2 ⟨rfl, rfl, rfl⟩⟩
    · refine ⟨false, _, rfl, Running.yields_bind_iff.2 ⟨_, [], (stepped, ended),
        after, by simp, yields_runWith_iff.2 ⟨rfl, exchanges, yields, rfl⟩,
        ?_⟩⟩
      rcases stepped with (failure | _) | value <;>
        exact Running.yields_pure_iff.2 ⟨rfl, rfl, rfl⟩

/-! ### Prompts -/

/-- What is asked and published before an answer is waited for. -/
def asking (run : Run) (request : PromptRequest) : Run.Transcript :=
  run.exchange .newId request.id :: (run.announcement .waitingPrompt ++
    [{ run with status := .waitingPrompt }.exchange
      (.publish (.prompt request)) ()])

/-- The ways in which an answer is waited for. -/
inductive AwaitsAnswer (engine : Engine) (node : Node) (prompt : Prompt)
    (before : Run) : Run.Transcript →
      Except Interrupt (PromptRequest × Option String) → Run → Prop
  /-- Nobody is there to answer. -/
  | unavailable (nobody : engine.hasPrompts = false) :
      AwaitsAnswer engine node prompt before []
        (.error (.failed (.promptUnavailable node.id prompt.kind))) before
  /-- The run is aborted before the wait begins. -/
  | aborted (somebody : engine.hasPrompts = true) (id : String) :
      AwaitsAnswer engine node prompt before
        (asking before ⟨id, before.id, node.id, prompt⟩ ++
          [{ before with status := .waitingPrompt }.exchange .isAborted true])
        (.error .cancelled) { before with status := .waitingPrompt }
  /-- The run is aborted during the wait. -/
  | interrupted (somebody : engine.hasPrompts = true) (id : String) :
      AwaitsAnswer engine node prompt before
        (asking before ⟨id, before.id, node.id, prompt⟩ ++
          [{ before with status := .waitingPrompt }.exchange .isAborted false,
            { before with status := .waitingPrompt }.exchange
              (.answer ⟨id, before.id, node.id, prompt⟩) none])
        (.error .cancelled) { before with status := .waitingPrompt }
  | answered (somebody : engine.hasPrompts = true) (id : String)
      (answer : Option String) :
      AwaitsAnswer engine node prompt before
        (asking before ⟨id, before.id, node.id, prompt⟩ ++
          [{ before with status := .waitingPrompt }.exchange .isAborted false,
            { before with status := .waitingPrompt }.exchange
              (.answer ⟨id, before.id, node.id, prompt⟩) (some answer),
            { before with status := .running }.exchange
              (.publish (.status .running)) ()])
        (.ok (⟨id, before.id, node.id, prompt⟩, answer))
        { before with status := .running }

theorem awaitsAnswer_of_yields {prompt : Prompt}
    {result : Except Interrupt (PromptRequest × Option String)}
    (yields : (engine.awaitAnswer node prompt).Yields before transcript result
      after) :
    AwaitsAnswer engine node prompt before transcript result after := by
  unfold awaitAnswer at yields
  cases available : engine.hasPrompts with
  | false =>
      simp only [available, Bool.not_false, if_true,
        Running.yields_pure_iff] at yields
      obtain ⟨rfl, rfl, rfl⟩ := yields
      exact .unavailable available
  | true =>
      simp only [available, Bool.not_true, Bool.false_eq_true,
        if_false] at yields
      rw [Running.yields_ask_bind_iff] at yields
      obtain ⟨id, rest, rfl, yields⟩ := yields
      rw [Running.yields_get_bind_iff] at yields
      rw [Running.yields_transition_bind_iff] at yields
      obtain ⟨rest, rfl, yields⟩ := yields
      rw [Running.yields_publish_bind_iff] at yields
      obtain ⟨rest, rfl, yields⟩ := yields
      rw [Running.yields_ask_bind_iff] at yields
      obtain ⟨aborted, rest, rfl, yields⟩ := yields
      cases aborted with
      | true =>
          obtain ⟨rfl, rfl, rfl⟩ := Running.yields_pure_iff.1 yields
          simpa [asking] using AwaitsAnswer.aborted available id
      | false =>
          rw [if_neg Bool.false_ne_true,
            Running.yields_ask_bind_iff] at yields
          obtain ⟨reply, rest, rfl, yields⟩ := yields
          cases reply with
          | none =>
              obtain ⟨rfl, rfl, rfl⟩ := Running.yields_pure_iff.1 yields
              simpa [asking] using AwaitsAnswer.interrupted available id
          | some answer =>
              rw [Running.yields_transition_bind_iff] at yields
              obtain ⟨rest, rfl, yields⟩ := yields
              obtain ⟨rfl, rfl, rfl⟩ := Running.yields_pure_iff.1 yields
              simpa [asking, Run.announcement] using
                AwaitsAnswer.answered available id answer

theorem AwaitsAnswer.ne_exhausted {prompt : Prompt}
    {result : Except Interrupt (PromptRequest × Option String)}
    (awaits : AwaitsAnswer engine node prompt before transcript result
      after) : result ≠ .error .exhausted := by
  cases awaits <;> nofun

/-- An answer is for the prompt that has been raised. -/
theorem AwaitsAnswer.prompt_eq {prompt : Prompt} {request : PromptRequest}
    {answer : Option String}
    (awaits : AwaitsAnswer engine node prompt before transcript
      (.ok (request, answer)) after) : request.prompt = prompt := by
  cases awaits
  rfl

/-! ### Calls of other workflows -/

/-- The ways in which the document of a called workflow is loaded. -/
inductive LoadsSource (node : Node) (reference : String) (run : Run) :
    Run.Transcript → Except Interrupt String → Prop
  | aborted :
      LoadsSource node reference run [run.exchange .isAborted true]
        (.error .cancelled)
  | interrupted :
      LoadsSource node reference run
        [run.exchange .isAborted false,
          run.exchange (.call (.loadWorkflow reference)) none]
        (.error .cancelled)
  | loaded (source : String) :
      LoadsSource node reference run
        [run.exchange .isAborted false,
          run.exchange (.call (.loadWorkflow reference)) (some (.ok source))]
        (.ok source)
  | failed (failure : Failure) :
      LoadsSource node reference run
        [run.exchange .isAborted false,
          run.exchange (.call (.loadWorkflow reference))
            (some (.error failure))]
        (.error (nodeFailure node (failure.within
          s!"could not load sub-workflow '{reference}'")))

theorem loadsSource_of_yields {reference : String}
    {result : Except Interrupt String}
    (yields : (loadSource node reference).Yields before transcript result
      after) :
    LoadsSource node reference before transcript result ∧ after = before := by
  unfold loadSource at yields
  rw [Running.yields_ask_bind_iff] at yields
  obtain ⟨aborted, rest, rfl, yields⟩ := yields
  cases aborted with
  | true =>
      obtain ⟨rfl, rfl, rfl⟩ := Running.yields_pure_iff.1 yields
      exact ⟨.aborted, rfl⟩
  | false =>
      rw [if_neg Bool.false_ne_true, Running.yields_ask_bind_iff] at yields
      obtain ⟨reply, rest, rfl, yields⟩ := yields
      rcases reply with _ | failure | source
      · obtain ⟨rfl, rfl, rfl⟩ := Running.yields_pure_iff.1 yields
        exact ⟨.interrupted, rfl⟩
      · obtain ⟨rfl, rfl, rfl⟩ := Running.yields_pure_iff.1 yields
        exact ⟨.failed failure, rfl⟩
      · obtain ⟨rfl, rfl, rfl⟩ := Running.yields_pure_iff.1 yields
        exact ⟨.loaded source, rfl⟩

/-- What the end of a called workflow is for the node that calls it: the
values to copy, or why it does not go on. -/
def callResult (node : Node) (key : String) (outputs : OrderedMap String)
    (bindings : Variables) :
    Except Interrupt Unit → Except Interrupt (List (String × String))
  | .ok () => .ok (copied outputs bindings)
  | .error interrupt => .error (returned node key interrupt)

/-- The scope of a workflow that is called under a key. -/
def Scope.within (scope : Scope) (key : String) : Scope :=
  ⟨scope.path ++ key ++ "/"⟩

/-- The ways in which another workflow is called. -/
inductive CallsWorkflow (engine : Engine) (runChild : FrameRunner)
    (scope : Scope) (node : Node) (call : SubWorkflowCall) (before : Run) :
    Run.Transcript → Except Interrupt (List (String × String)) → Run → Prop
  | notLoaded {loading : Run.Transcript} {interrupt : Interrupt}
      (loads : LoadsSource node call.reference before loading
        (.error interrupt)) :
      CallsWorkflow engine runChild scope node call before loading
        (.error interrupt) before
  | notRead {loading : Run.Transcript} {source : String} {cause : ParseError}
      (loads : LoadsSource node call.reference before loading (.ok source))
      (faulty : Workflow.read source call.name = .error cause) :
      CallsWorkflow engine runChild scope node call before loading
        (.error (.failed (.subWorkflowParse (CallStack.key call.reference
          (call.name.getD Document.defaultName)) cause))) before
  | refused {loading : Run.Transcript} {source : String} {child : Workflow}
      {error : RunError}
      (loads : LoadsSource node call.reference before loading (.ok source))
      (read : Workflow.read source call.name = .ok child)
      (guarded : before.stack.push (CallStack.key call.reference child.name)
        engine.options.maxCallDepth = .error error) :
      CallsWorkflow engine runChild scope node call before loading
        (.error (.failed error)) before
  | ran {loading nested : Run.Transcript} {source : String}
      {child : Workflow} {stack : CallStack} {ended : Except Interrupt Unit}
      {frame : Frame} {reached : Run}
      (loads : LoadsSource node call.reference before loading (.ok source))
      (read : Workflow.read source call.name = .ok child)
      (entered : before.stack.push (CallStack.key call.reference child.name)
        engine.options.maxCallDepth = .ok stack)
      (runs : (runChild
        (scope.within (CallStack.key call.reference child.name)) child
        ⟨call.inputs, none⟩).Yields { before with stack } nested
          (ended, frame) reached) :
      CallsWorkflow engine runChild scope node call before
        (loading ++ nested)
        (callResult node (CallStack.key call.reference child.name)
          call.outputs frame.bindings ended)
        { reached with
          stack := reached.stack.pop
          pointer := before.pointer }

theorem callsWorkflow_of_yields {call : SubWorkflowCall}
    {result : Except Interrupt (List (String × String))}
    (yields : (engine.callWorkflow runChild scope node call).Yields before
      transcript result after) :
    CallsWorkflow engine runChild scope node call before transcript result
      after := by
  unfold callWorkflow at yields
  rw [Running.yields_bind_iff] at yields
  obtain ⟨loading, rest, loaded, middle, rfl, loadedAs, yields⟩ := yields
  obtain ⟨loads, rfl⟩ := loadsSource_of_yields loadedAs
  cases loaded with
  | error interrupt =>
      obtain ⟨rfl, rfl, rfl⟩ := Running.yields_pure_iff.1 yields
      simpa using CallsWorkflow.notLoaded loads
  | ok source =>
      dsimp only at yields
      cases read : Workflow.read source call.name with
      | error cause =>
          rw [read] at yields
          obtain ⟨rfl, rfl, rfl⟩ := Running.yields_pure_iff.1 yields
          simpa using CallsWorkflow.notRead loads read
      | ok child =>
          rw [read] at yields
          dsimp only at yields
          rw [Running.yields_get_bind_iff] at yields
          cases entered : middle.stack.push
              (CallStack.key call.reference child.name)
              engine.options.maxCallDepth with
          | error error =>
              rw [entered] at yields
              obtain ⟨rfl, rfl, rfl⟩ := Running.yields_pure_iff.1 yields
              simpa using CallsWorkflow.refused loads read entered
          | ok stack =>
              rw [entered] at yields
              dsimp only at yields
              rw [Running.yields_set_bind_iff,
                Running.yields_bind_iff] at yields
              obtain ⟨nested, rest, ⟨ended, frame⟩, reached, rfl, runs,
                yields⟩ := yields
              rw [Running.yields_modify_bind_iff] at yields
              have ran := CallsWorkflow.ran loads read entered runs
              rcases ended with interrupt | _ <;>
                obtain ⟨rfl, rfl, rfl⟩ := Running.yields_pure_iff.1 yields <;>
                simpa [callResult] using ran

/-! ### Nodes -/

/-- Where a node leads with a directive; nowhere if it asks first. -/
def flow? (node : Node) : Directive → Option Flow
  | .proceed => some (.jump node.jumps.next)
  | .jump target => some (.jump target)
  | .terminate => some (.jump .finish)
  | .call call => some (.call call)
  | .suspend _ => none

/-- The ways in which a handler runs a node, with the prompts that it raises
on the way. -/
inductive Interacts (engine : Engine) (scope : Scope)
    (context : Step.Context) (handler : Handler) :
    Nat → Step Directive → Step.State → Run → Run.Transcript →
      Except Interrupt Flow → Step.State → Run → Prop
  | exhausted {step : Step Directive} {state : Step.State} {run : Run} :
      Interacts engine scope context handler 0 step state run []
        (.error .exhausted) state run
  | aborted {fuel : Nat} {step : Step Directive} {state : Step.State}
      {run : Run} :
      Interacts engine scope context handler (fuel + 1) step state run
        [run.exchange .isAborted true] (.error .cancelled) state run
  | stopped {fuel : Nat} {step : Step Directive} {state ended : Step.State}
      {run : Run} {exchanges : Step.Transcript} {stop : Step.Stop}
      (carried : step.Yields context state exchanges (.error stop) ended) :
      Interacts engine scope context handler (fuel + 1) step state run
        (run.exchange .isAborted false ::
          exchanges.map (relay scope context.node run))
        (stepResult context.node (.error stop)) ended run
  | directed {fuel : Nat} {step : Step Directive}
      {state ended : Step.State} {run : Run} {exchanges : Step.Transcript}
      {directive : Directive} {flow : Flow}
      (carried : step.Yields context state exchanges (.ok directive) ended)
      (leads : flow? context.node directive = some flow) :
      Interacts engine scope context handler (fuel + 1) step state run
        (run.exchange .isAborted false ::
          exchanges.map (relay scope context.node run))
        (.ok flow) ended run
  | unanswered {fuel : Nat} {step : Step Directive}
      {state ended : Step.State} {run reached : Run}
      {exchanges : Step.Transcript} {prompt : Prompt}
      {waiting : Run.Transcript} {interrupt : Interrupt}
      (carried : step.Yields context state exchanges
        (.ok (.suspend prompt)) ended)
      (awaits : AwaitsAnswer engine context.node prompt run waiting
        (.error interrupt) reached) :
      Interacts engine scope context handler (fuel + 1) step state run
        (run.exchange .isAborted false ::
          exchanges.map (relay scope context.node run) ++ waiting)
        (.error interrupt) ended reached
  | resumed {fuel : Nat} {step : Step Directive}
      {state suspended ended : Step.State} {run middle reached : Run}
      {exchanges : Step.Transcript} {prompt : Prompt}
      {waiting rest : Run.Transcript} {request : PromptRequest}
      {answer : Option String} {result : Except Interrupt Flow}
      (carried : step.Yields context state exchanges
        (.ok (.suspend prompt)) suspended)
      (awaits : AwaitsAnswer engine context.node prompt run waiting
        (.ok (request, answer)) middle)
      (resumes : Interacts engine scope context handler fuel
        (handler.resume request answer) suspended middle rest result ended
        reached) :
      Interacts engine scope context handler (fuel + 1) step state run
        (run.exchange .isAborted false ::
          exchanges.map (relay scope context.node run) ++ waiting ++ rest)
        result ended reached

theorem interacts_of_yields {context : Step.Context} {handler : Handler}
    {step : Step Directive} {state ended : Step.State}
    {result : Except Interrupt Flow}
    (yields : (engine.interact scope context handler fuel step state).Yields
      before transcript (result, ended) after) :
    Interacts engine scope context handler fuel step state before transcript
      result ended after := by
  induction fuel generalizing step state before transcript with
  | zero =>
      obtain ⟨rfl, same, rfl⟩ := Running.yields_pure_iff.1 yields
      obtain ⟨rfl, rfl⟩ := Prod.mk.inj same
      exact .exhausted
  | succ fuel ih =>
      rw [interact, Running.yields_bind_iff] at yields
      obtain ⟨first, rest, ⟨attempt, reached⟩, middle, rfl, attempted,
        yields⟩ := yields
      obtain ⟨rfl, ⟨rfl, rfl, rfl⟩ | ⟨exchanges, stepped, carried, rfl,
        rfl⟩⟩ := yields_runStep_iff.1 attempted
      · obtain ⟨rfl, same, rfl⟩ := Running.yields_pure_iff.1 yields
        obtain ⟨rfl, rfl⟩ := Prod.mk.inj same
        simpa using Interacts.aborted
      · rcases stepped with stop | directive
        · have stopped : Interacts engine scope context handler (fuel + 1)
              step state middle _ _ reached middle := .stopped carried
          cases stop <;>
            obtain ⟨rfl, same, rfl⟩ := Running.yields_pure_iff.1 yields <;>
            obtain ⟨rfl, rfl⟩ := Prod.mk.inj same <;>
            simpa [stepResult] using stopped
        · cases directive with
          | suspend prompt =>
              dsimp only [stepResult] at yields
              rw [Running.yields_bind_iff] at yields
              obtain ⟨waiting, rest, answered, current, rfl, asked,
                yields⟩ := yields
              have awaits := awaitsAnswer_of_yields asked
              cases answered with
              | error interrupt =>
                  obtain ⟨rfl, same, rfl⟩ :=
                    Running.yields_pure_iff.1 yields
                  obtain ⟨rfl, rfl⟩ := Prod.mk.inj same
                  simpa using Interacts.unanswered carried awaits
              | ok answered =>
                  simpa using Interacts.resumed carried awaits (ih yields)
          | _ =>
              obtain ⟨rfl, same, rfl⟩ := Running.yields_pure_iff.1 yields
              obtain ⟨rfl, rfl⟩ := Prod.mk.inj same
              simpa using Interacts.directed carried rfl

/-- The ways in which a node is executed: what it leads to, its output, and
the variables afterwards. -/
inductive Drives (engine : Engine) (runChild : FrameRunner) (fuel : Nat)
    (scope : Scope) (node : Node) (properties : OrderedMap String)
    (bindings : Variables) (before : Run) :
    Run.Transcript → Except Interrupt Target → Option String → Variables →
      Run → Prop
  | unknown (missing : engine.registry.handler? node.nodeType = none) :
      Drives engine runChild fuel scope node properties bindings before []
        (.error (nodeFailure node (.of
          s!"no handler registered for node type '{node.nodeType.tag}'")))
        none bindings before
  | interrupted {handler : Handler} {transcript : Run.Transcript}
      {interrupt : Interrupt} {state : Step.State} {after : Run}
      (known : engine.registry.handler? node.nodeType = some handler)
      (interacts : Interacts engine scope ⟨node, properties, engine.settings⟩
        handler fuel handler.execute ⟨bindings, none⟩ before transcript
        (.error interrupt) state after) :
      Drives engine runChild fuel scope node properties bindings before
        transcript (.error interrupt) state.output state.bindings after
  | jumped {handler : Handler} {transcript : Run.Transcript}
      {target : Target} {state : Step.State} {after : Run}
      (known : engine.registry.handler? node.nodeType = some handler)
      (interacts : Interacts engine scope ⟨node, properties, engine.settings⟩
        handler fuel handler.execute ⟨bindings, none⟩ before transcript
        (.ok (.jump target)) state after) :
      Drives engine runChild fuel scope node properties bindings before
        transcript (.ok target) state.output state.bindings after
  | callFailed {handler : Handler} {first second : Run.Transcript}
      {call : SubWorkflowCall} {interrupt : Interrupt} {state : Step.State}
      {middle after : Run}
      (known : engine.registry.handler? node.nodeType = some handler)
      (interacts : Interacts engine scope ⟨node, properties, engine.settings⟩
        handler fuel handler.execute ⟨bindings, none⟩ before first
        (.ok (.call call)) state middle)
      (calls : CallsWorkflow engine runChild scope node call middle second
        (.error interrupt) after) :
      Drives engine runChild fuel scope node properties bindings before
        (first ++ second) (.error interrupt) state.output state.bindings after
  | called {handler : Handler} {first second : Run.Transcript}
      {call : SubWorkflowCall} {pairs : List (String × String)}
      {state : Step.State} {middle after : Run}
      (known : engine.registry.handler? node.nodeType = some handler)
      (interacts : Interacts engine scope ⟨node, properties, engine.settings⟩
        handler fuel handler.execute ⟨bindings, none⟩ before first
        (.ok (.call call)) state middle)
      (calls : CallsWorkflow engine runChild scope node call middle second
        (.ok pairs) after) :
      Drives engine runChild fuel scope node properties bindings before
        (first ++ second) (.ok node.jumps.next)
        (some (textObject pairs).render) (state.bindings.insertAll pairs) after

theorem drives_of_yields {properties : OrderedMap String}
    {bindings reached : Variables} {result : Except Interrupt Target}
    {output : Option String}
    (yields : (engine.driveNode runChild fuel scope node properties
      bindings).Yields before transcript (result, output, reached) after) :
    Drives engine runChild fuel scope node properties bindings before
      transcript result output reached after := by
  unfold driveNode at yields
  cases known : engine.registry.handler? node.nodeType with
  | none =>
      rw [known] at yields
      obtain ⟨rfl, same, rfl⟩ := Running.yields_pure_iff.1 yields
      simp only [Prod.mk.injEq] at same
      obtain ⟨rfl, rfl, rfl⟩ := same
      exact .unknown known
  | some handler =>
      rw [known] at yields
      dsimp only at yields
      rw [Running.yields_bind_iff] at yields
      obtain ⟨first, rest, ⟨flow, state⟩, middle, rfl, interacted,
        yields⟩ := yields
      have interacts := interacts_of_yields interacted
      rcases flow with interrupt | target | call
      · obtain ⟨rfl, same, rfl⟩ := Running.yields_pure_iff.1 yields
        simp only [Prod.mk.injEq] at same
        obtain ⟨rfl, rfl, rfl⟩ := same
        simpa using Drives.interrupted known interacts
      · obtain ⟨rfl, same, rfl⟩ := Running.yields_pure_iff.1 yields
        simp only [Prod.mk.injEq] at same
        obtain ⟨rfl, rfl, rfl⟩ := same
        simpa using Drives.jumped known interacts
      · dsimp only at yields
        rw [Running.yields_bind_iff] at yields
        obtain ⟨second, rest, called, current, rfl, calling, yields⟩ := yields
        have calls := callsWorkflow_of_yields calling
        cases called with
        | error interrupt =>
            obtain ⟨rfl, same, rfl⟩ := Running.yields_pure_iff.1 yields
            simp only [Prod.mk.injEq] at same
            obtain ⟨rfl, rfl, rfl⟩ := same
            simpa using Drives.callFailed known interacts calls
        | ok pairs =>
            obtain ⟨rfl, same, rfl⟩ := Running.yields_pure_iff.1 yields
            simp only [Prod.mk.injEq] at same
            obtain ⟨rfl, rfl, rfl⟩ := same
            simpa using Drives.called known interacts calls

end Engine

end Runbook
