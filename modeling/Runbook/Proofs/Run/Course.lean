import Runbook.Proofs.Run.Walk

/-!
# The course of a run

What happens between the beginning and the end of a run, move by move:
questions are asked, the pointer is set, the run waits for an answer and goes
on, and workflows are called, each as a frame on top of those that are open.
What the moves preserve holds at every moment of a run.
-/

namespace Runbook

namespace Run

/-- An exchange, with the keys of the workflows that are open at it, the
outermost one first. -/
structure Framed where
  frames : List String
  exchange : Exchange

@[simp]
theorem exchange_comp_mk (frames : List String) :
    Framed.exchange ∘ Framed.mk frames = fun exchange => exchange :=
  rfl

/-- The state of the run at an exchange. -/
def Framed.run (framed : Framed) : Run :=
  framed.exchange.question.run

/-- A question publishes neither a status nor a prompt, and what it logs is
logged in a scope. -/
@[simp]
def Question.IsPlain (scope : Engine.Scope) : Question → Prop
  | .publish (.log line) => ∃ id, line.nodeId = scope.path ++ id
  | .publish _ => False
  | _ => True

/-- Only plain questions are asked, all of them in one state of the run. -/
def Transcript.IsPlain (scope : Engine.Scope) (run : Run)
    (transcript : Transcript) : Prop :=
  ∀ exchange ∈ transcript,
    exchange.question.run = run ∧ exchange.question.question.IsPlain scope

variable {scope : Engine.Scope} {run : Run}

@[simp]
theorem isPlain_nil : Transcript.IsPlain scope run [] := by
  simp [Transcript.IsPlain]

@[simp]
theorem isPlain_cons {exchange : Exchange} {transcript : Transcript} :
    Transcript.IsPlain scope run (exchange :: transcript) ↔
      (exchange.question.run = run ∧
          exchange.question.question.IsPlain scope) ∧
        transcript.IsPlain scope run :=
  List.forall_mem_cons

end Run

namespace Engine

/-- The moves of a run while certain workflows are open, the innermost one of
which logs in a scope, with what is exchanged in them. -/
inductive Course (engine : Engine) :
    List String → Scope → Run → List Run.Framed → Run → Prop
  | andThen {frames : List String} {scope : Scope} {before middle after : Run}
      {first second : List Run.Framed}
      (start : Course engine frames scope before first middle)
      (rest : Course engine frames scope middle second after) :
      Course engine frames scope before (first ++ second) after
  | asked {scope : Scope} {run : Run} {transcript : Run.Transcript}
      (frames : List String) (plain : transcript.IsPlain scope run) :
      Course engine frames scope run (transcript.map (.mk frames)) run
  | pointed (frames : List String) (scope : Scope) (run : Run)
      (pointer : Option Nat) :
      Course engine frames scope run [] { run with pointer }
  /-- The run waits for an answer. -/
  | suspended {run : Run} (frames : List String) (scope : Scope)
      (request : PromptRequest) (running : run.status = .running) :
      Course engine frames scope run
        [⟨frames, { run with status := .waitingPrompt }.exchange
            (.publish (.status .waitingPrompt)) ()⟩,
          ⟨frames, { run with status := .waitingPrompt }.exchange
            (.publish (.prompt request)) ()⟩]
        { run with status := .waitingPrompt }
  | resumed {run : Run} (frames : List String) (scope : Scope)
      (waiting : run.status = .waitingPrompt) :
      Course engine frames scope run
        [⟨frames, { run with status := .running }.exchange
          (.publish (.status .running)) ()⟩]
        { run with status := .running }
  /-- A workflow is entered, run as a frame of its own, and left. -/
  | called {fuel : Nat} {scope : Scope} {reference key : String}
      {child : Workflow} {inputs : Variables} {stack : CallStack}
      {frames : List String} {before reached : Run}
      {nested : List Run.Framed} {ended : Except Interrupt Unit}
      {frame : Frame}
      (key_eq : key = CallStack.key reference child.name)
      (entered : before.stack.push key engine.options.maxCallDepth =
        .ok stack)
      (runs : (engine.nested fuel (scope.within key) child
        ⟨inputs, none⟩).Yields { before with stack }
          (nested.map Run.Framed.exchange) (ended, frame) reached)
      (course : Course engine (frames ++ [key]) (scope.within key)
        { before with stack } nested reached) :
      Course engine frames scope before nested
        { reached with
          stack := reached.stack.pop
          pointer := before.pointer }

/-- A part of an engine takes a course, whichever workflows are open, and the
run is still running after it unless it is cancelled. -/
structure Takes {α : Type} (engine : Engine) (scope : Scope) (before : Run)
    (transcript : Run.Transcript) (result : Except Interrupt α)
    (after : Run) : Prop where
  course (frames : List String) : ∃ framed,
    framed.map Run.Framed.exchange = transcript ∧
      Course engine frames scope before framed after
  running_or_cancelled : after.status = .running ∨ result = .error .cancelled

variable {α β : Type} {engine : Engine} {fuel : Nat} {scope : Scope}
  {node : Node} {before middle after : Run}
  {first second transcript : Run.Transcript}

theorem Takes.running {value : α}
    (takes : Takes engine scope before transcript (.ok value) after) :
    after.status = .running := by
  rcases takes.running_or_cancelled with running | impossible
  · exact running
  · cases impossible

theorem Takes.stopped {interrupt : Interrupt}
    (takes : Takes engine scope before transcript
      (.error interrupt : Except _ α) after) :
    Takes engine scope before transcript
      (.error interrupt : Except _ β) after where
  course := takes.course
  running_or_cancelled :=
    takes.running_or_cancelled.imp_right fun | rfl => rfl

theorem Takes.andThen {value : α} {result : Except Interrupt β}
    (start : Takes engine scope before first (.ok value) middle)
    (rest : Takes engine scope middle second result after) :
    Takes engine scope before (first ++ second) result after where
  course frames := by
    obtain ⟨starting, rfl, startCourse⟩ := start.course frames
    obtain ⟨others, rfl, restCourse⟩ := rest.course frames
    exact ⟨starting ++ others, List.map_append,
      .andThen startCourse restCourse⟩
  running_or_cancelled := rest.running_or_cancelled

theorem Takes.afterAsked {result : Except Interrupt α}
    (plain : first.IsPlain scope before)
    (rest : Takes engine scope before second result after) :
    Takes engine scope before (first ++ second) result after where
  course frames := by
    obtain ⟨others, rfl, restCourse⟩ := rest.course frames
    exact ⟨first.map (.mk frames) ++ others, by simp,
      .andThen (.asked frames plain) restCourse⟩
  running_or_cancelled := rest.running_or_cancelled

/-- Plain questions may be asked whatever comes of what was done before. -/
theorem Takes.thenAsked {result : Except Interrupt α}
    (start : Takes engine scope before first result after)
    (plain : second.IsPlain scope after) :
    Takes engine scope before (first ++ second) result after where
  course frames := by
    obtain ⟨starting, rfl, startCourse⟩ := start.course frames
    exact ⟨starting ++ second.map (.mk frames), by simp,
      .andThen startCourse (.asked frames plain)⟩
  running_or_cancelled := start.running_or_cancelled

/-- The pointer may be set before anything else is done. -/
theorem Takes.afterPointed {pointer : Option Nat}
    {result : Except Interrupt α}
    (rest : Takes engine scope { before with pointer } transcript result
      after) :
    Takes engine scope before transcript result after where
  course frames := by
    obtain ⟨framed, exchanged, course⟩ := rest.course frames
    exact ⟨framed, exchanged,
      .andThen (.pointed frames scope before pointer) course⟩
  running_or_cancelled := rest.running_or_cancelled

theorem takes_of_isPlain (running : before.status = .running)
    (plain : transcript.IsPlain scope before) (result : Except Interrupt α) :
    Takes engine scope before transcript result before where
  course frames := ⟨transcript.map (.mk frames), by simp,
    .asked frames plain⟩
  running_or_cancelled := .inl running

/-- A step that is carried out asks plain questions only. -/
theorem isPlain_carried (exchanges : Step.Transcript) (run : Run) :
    Run.Transcript.IsPlain scope run (run.exchange .isAborted false ::
      exchanges.map (relay scope node run)) := by
  refine Run.isPlain_cons.2 ⟨⟨rfl, trivial⟩, ?_⟩
  intro exchange member
  obtain ⟨⟨question, reply⟩, -, rfl⟩ := List.mem_map.1 member
  cases question with
  | call call => exact ⟨rfl, trivial⟩
  | sleep nanoseconds => exact ⟨rfl, trivial⟩
  | note message => exact ⟨rfl, node.id, rfl⟩

theorem LoadsSource.isPlain {reference : String}
    {result : Except Interrupt String}
    (loads : LoadsSource node reference before transcript result) :
    transcript.IsPlain scope before := by
  cases loads <;> simp

theorem AwaitsAnswer.takes {prompt : Prompt}
    {result : Except Interrupt (PromptRequest × Option String)}
    (awaits : AwaitsAnswer engine node prompt before transcript result
      after)
    (running : before.status = .running) :
    Takes engine scope before transcript result after := by
  let waiting : Run := { before with status := .waitingPrompt }
  -- In each case a request is published, and then plain questions are asked.
  have waits (id : String) {others : Run.Transcript}
      (plain : others.IsPlain scope waiting) (frames : List String) : ∃ framed,
      framed.map Run.Framed.exchange =
        asking before ⟨id, before.id, node.id, prompt⟩ ++ others ∧
      Course engine frames scope before framed waiting := by
    have asked : Run.Transcript.IsPlain scope before
        [before.exchange .newId id] := by simp
    refine ⟨_, ?_, .andThen (.asked frames asked) (.andThen
      (.suspended frames scope ⟨id, before.id, node.id, prompt⟩ running)
      (.asked frames plain))⟩
    simp [asking, Run.announcement, running]
  cases awaits with
  | unavailable nobody =>
      exact takes_of_isPlain running Run.isPlain_nil _
  | aborted somebody id => exact ⟨waits id (by simp [waiting]), .inr rfl⟩
  | interrupted somebody id => exact ⟨waits id (by simp [waiting]), .inr rfl⟩
  | answered somebody id answer =>
      refine ⟨fun frames => ?_, .inl rfl⟩
      let request : PromptRequest := ⟨id, before.id, node.id, prompt⟩
      have plain : Run.Transcript.IsPlain scope waiting
          [waiting.exchange .isAborted false,
            waiting.exchange (.answer request) (some answer)] := by simp
      obtain ⟨framed, exchanged, course⟩ := waits id plain frames
      refine ⟨_, ?_, .andThen course (.resumed frames scope rfl)⟩
      simp [exchanged, waiting, request]

theorem Interacts.takes {context : Step.Context} {handler : Handler}
    {step : Step Directive} {state ended : Step.State}
    {result : Except Interrupt Flow}
    (interacts : Interacts engine scope context handler fuel step state before
      transcript result ended after)
    (running : before.status = .running) :
    Takes engine scope before transcript result after := by
  induction interacts with
  | exhausted => exact takes_of_isPlain running Run.isPlain_nil _
  | aborted => exact takes_of_isPlain running (by simp) _
  | stopped carried =>
      exact takes_of_isPlain running (isPlain_carried _ _) _
  | directed carried leads =>
      exact takes_of_isPlain running (isPlain_carried _ _) _
  | unanswered carried awaits =>
      exact (awaits.takes running).stopped.afterAsked (isPlain_carried _ _)
  | resumed carried awaits resumes ih =>
      have answered : Takes engine scope _ _ _ _ := awaits.takes running
      have resumed := answered.andThen (ih answered.running)
      rw [List.append_assoc]
      exact resumed.afterAsked (isPlain_carried _ _)

section Nested

variable
  (child : ∀ {scope : Scope} {workflow : Workflow} {frame reached : Frame}
    {before after : Run} {transcript : Run.Transcript}
    {ended : Except Interrupt Unit},
    (engine.nested fuel scope workflow frame).Yields before transcript
      (ended, reached) after →
    before.status = .running → Takes engine scope before transcript ended after)

include child

theorem CallsWorkflow.takes {call : SubWorkflowCall}
    {result : Except Interrupt (List (String × String))}
    (calls : CallsWorkflow engine (engine.nested fuel) scope node call before
      transcript result after)
    (running : before.status = .running) :
    Takes engine scope before transcript result after := by
  cases calls with
  | notLoaded loads => exact takes_of_isPlain running loads.isPlain _
  | notRead loads faulty => exact takes_of_isPlain running loads.isPlain _
  | refused loads read guarded =>
      exact takes_of_isPlain running loads.isPlain _
  | @ran _ _ _ called _ _ _ _ loads read entered runs =>
      have inner := child runs running
      refine Takes.afterAsked loads.isPlain ⟨fun frames => ?_, ?_⟩
      · obtain ⟨framed, rfl, course⟩ := inner.course
          (frames ++ [CallStack.key call.reference called.name])
        exact ⟨framed, rfl, .called rfl entered runs course⟩
      · rcases inner.running_or_cancelled with running | rfl
        · exact .inl running
        · exact .inr rfl

theorem Drives.takes {properties : OrderedMap String}
    {bindings reached : Variables} {result : Except Interrupt Target}
    {output : Option String}
    (drives : Drives engine (engine.nested fuel) fuel scope node properties
      bindings before transcript result output reached after)
    (running : before.status = .running) :
    Takes engine scope before transcript result after := by
  cases drives with
  | unknown missing =>
      exact takes_of_isPlain running Run.isPlain_nil _
  | interrupted known interacts => exact (interacts.takes running).stopped
  | jumped known interacts =>
      have interacting := interacts.takes running
      exact ⟨interacting.course, .inl interacting.running⟩
  | callFailed known interacts calls =>
      have interacting := interacts.takes running
      exact (interacting.andThen
        (calls.takes child interacting.running)).stopped
  | called known interacts calls =>
      have interacting := interacts.takes running
      have whole := interacting.andThen
        (calls.takes child interacting.running)
      exact ⟨whole.course, .inl whole.running⟩

theorem Performs.takes {visit : Visit} {frame reached : Frame}
    (performs : Performs engine (engine.nested fuel) fuel scope visit before
      frame transcript reached after)
    (running : before.status = .running) :
    Takes engine scope before transcript visit.result after := by
  have starts : ∃ id, (visit.firstLine scope).nodeId = scope.path ++ id :=
    ⟨visit.node.id, rfl⟩
  have ends : ∃ id,
      (visit.lastLine engine scope).nodeId = scope.path ++ id :=
    ⟨visit.node.id, rfl⟩
  cases performs with
  | unrecorded drives =>
      have opening : Run.Transcript.IsPlain scope before
          [before.exchange (.publish (.log (visit.firstLine scope))) ()] := by
        simp [starts]
      exact ((drives.takes child running).afterAsked opening).thenAsked
        (by simp [ends])
  | @recorded _ _ _ _ opened _ drives isRecorded =>
      have opening : Run.Transcript.IsPlain scope before
          [before.exchange .now opened,
            before.exchange (.publish (.log (visit.firstLine scope))) ()] := by
        simp [starts]
      exact ((drives.takes child running).afterAsked opening).thenAsked
        (by simp [ends])

end Nested

/-- A frame that goes on takes a course. -/
theorem takes_of_yields {workflow : Workflow} {target : Target}
    {frame reached : Frame} {ended : Except Interrupt Unit}
    (yields : (engine.runFrom fuel scope workflow target frame).Yields before
      transcript (ended, reached) after)
    (running : before.status = .running) :
    Takes engine scope before transcript ended after := by
  -- The fuel bounds the frame and every frame that is nested in it.
  induction fuel generalizing scope workflow target frame reached before after
    transcript ended with
  | zero =>
      rw [runFrom] at yields
      obtain ⟨rfl, -, rfl⟩ := Running.yields_pure_iff.1 yields
      exact takes_of_isPlain running Run.isPlain_nil _
  | succ fuel ih =>
      have asked : Run.Transcript.IsPlain scope before
          [before.exchange .isAborted false] := by simp
      cases goesOn_of_yields yields with
      | aborted => exact takes_of_isPlain running (by simp) _
      | finished nowhere => exact takes_of_isPlain running (by simp) _
      | stopped position found steps =>
          obtain ⟨visit, -, -, stops, performs⟩ :=
            performs_of_yields steps position
          have visited := performs.takes ih running
          rw [stops] at visited
          exact visited.stopped.afterPointed.afterAsked asked
      | moved position found steps goesOn =>
          obtain ⟨visit, -, -, leads, performs⟩ :=
            performs_of_yields steps position
          have visited := performs.takes ih running
          rw [leads] at visited
          have entered := visited.afterPointed.afterAsked asked
          exact entered.andThen (ih goesOn visited.running)

end Engine

end Runbook
