import Runbook.Proofs.Run.Forward
import Runbook.Proofs.Run.OpenFrames
import Runbook.Proofs.Run.Transcript
import Runbook.Proofs.Step.Prompts

/-!
# Runs without loops end

A node asks a few times at most, a frame without loops executes each of its
nodes at most once, and a frame may only be nested so deep.  Hence a run ends
if there are no loops in its workflow nor in those that it loads, however these
call each other.
-/

namespace Runbook

/-- A workflow can be read from a document that a responder gives. -/
def Run.Loads {State : Type} (responder : Run.Responder State)
    (workflow : Workflow) : Prop :=
  ∃ (run : Run) (reference : String) (state : State) (source : String)
    (name : Option String),
    (responder ⟨run, .call (.loadWorkflow reference)⟩ state).1 =
        some (.ok source) ∧
      Workflow.read source name = .ok workflow

/-- No workflow that a responder gives has a loop. -/
def Run.LoadsLoopFree {State : Type} (responder : Run.Responder State) :
    Prop :=
  ∀ workflow, Run.Loads responder workflow → workflow.IsLoopFree

namespace Engine

variable {State : Type} {responder : Run.Responder State} {engine : Engine}
  {scope : Scope} {node : Node} {before : Run} {state : State}

/-- A part of a run comes to an end of its own. -/
def Finishes {α β : Type} (result : Except Interrupt α × β) (_ : Run) : Prop :=
  result.1 ≠ .error .exhausted

theorem concludes_runStep {context : Step.Context} {step : Step Directive}
    {allowed : Directive → Prop} (ensures : step.Ensures allowed)
    (start : Step.State) :
    Running.Concludes responder before state
      (fun _ => runStep scope context step start) fun result after =>
        Finishes result after ∧
          ∀ directive, result.1 = .ok directive → allowed directive := by
  refine Running.concludes_of_yields ?_
  rintro transcript ⟨result, ended⟩ after yields -
  obtain ⟨-, ⟨-, rfl, -⟩ | ⟨exchanges, stepped, carried, -, rfl⟩⟩ :=
    yields_runStep_iff.1 yields
  · exact ⟨by simp [Finishes], nofun⟩
  · refine ⟨stepResult_ne_exhausted stepped, ?_⟩
    intro directive same
    rcases stepped with (failure | _) | value
    · cases same
    · cases same
    · cases same
      exact ensures.value_allowed carried

theorem concludes_awaitAnswer (prompt : Prompt) :
    Running.Concludes responder before state
      (fun _ => engine.awaitAnswer node prompt) fun result _ =>
        result ≠ .error .exhausted ∧
          ∀ request answer, result = .ok (request, answer) →
            request.prompt = prompt := by
  refine Running.concludes_of_yields fun transcript result after yields _ => ?_
  have awaits := awaitsAnswer_of_yields yields
  refine ⟨awaits.ne_exhausted, ?_⟩
  rintro request answer rfl
  exact awaits.prompt_eq

/-- A node is done with its questions after a few rounds. -/
theorem concludes_interact (context : Step.Context) (nodeType : NodeType)
    {limit : Nat} {step : Step Directive}
    (asks : step.Ensures (Directive.AsksBelow limit)) (start : Step.State) :
    Running.Concludes responder before state
      (fun fuel => engine.interact scope context (Handler.standard nodeType)
        fuel step start) Finishes := by
  -- Every answer leaves the node with less to ask.
  induction limit using Nat.strong_induction_on generalizing step start before
    state with
  | h limit ih =>
      refine .of_succ ?_
      simp only [interact]
      refine (concludes_runStep asks start).bind ?_
      rintro ⟨result, ended⟩ after state ⟨finishes, directed⟩
      cases result with
      | error interrupt =>
          exact Running.concludes_pure (by simpa [Finishes] using finishes)
      | ok directive =>
          cases directive with
          | suspend prompt =>
              refine (concludes_awaitAnswer prompt).bind ?_
              rintro result after state ⟨unexhausted, asked⟩
              cases result with
              | error interrupt =>
                  refine Running.concludes_pure ?_
                  simpa [Finishes] using unexhausted
              | ok answered =>
                  obtain ⟨request, answer⟩ := answered
                  obtain rfl := asked request answer rfl
                  exact ih _ (directed _ rfl _ rfl)
                    (Handler.standard_resume_asksBelow _ request answer) _
          | _ => exact Running.concludes_pure (by simp [Finishes])

/-! ### Nested frames -/

/-- With enough steps, a frame that is nested deep enough comes to an end of
its own, if its workflow has no loops. -/
def NestedFinishes (engine : Engine) (responder : Run.Responder State)
    (room : Nat) : Prop :=
  ∀ {scope : Scope} {child : Workflow} {frame : Frame} {before : Run}
    {state : State}, child.LeadsForward → child.IsLoopFree →
    engine.options.maxCallDepth - before.stack.depth < room →
    Running.Concludes responder before state
      (fun fuel => engine.nested fuel scope child frame) Finishes

variable {room : Nat}

theorem concludes_loadSource (loads : Run.LoadsLoopFree responder)
    (reference : String) :
    Running.Concludes responder before state
      (fun _ => loadSource node reference) fun result after =>
        after = before ∧ result ≠ .error .exhausted ∧
          ∀ source name workflow, result = .ok source →
            Workflow.read source name = .ok workflow →
              workflow.IsLoopFree := by
  refine Running.concludes_of_yields ?_
  intro transcript result after yields isFrom
  obtain ⟨loading, rfl⟩ := loadsSource_of_yields yields
  cases loading with
  | aborted => exact ⟨rfl, by simp, nofun⟩
  | interrupted => exact ⟨rfl, by simp, nofun⟩
  | failed failure => exact ⟨rfl, by simp [nodeFailure], nofun⟩
  | loaded source =>
      refine ⟨rfl, by simp, ?_⟩
      rintro source name workflow ⟨⟩ read
      obtain ⟨state, replied⟩ := isFrom (after.exchange
        (.call (.loadWorkflow reference)) (some (.ok source))) (by simp)
      exact loads workflow ⟨after, reference, state, source, name,
        replied.symm, read⟩

theorem returned_ne_exhausted {key : String} {interrupt : Interrupt}
    (unexhausted : interrupt ≠ .exhausted) :
    returned node key interrupt ≠ .exhausted := by
  cases interrupt with
  | cancelled => simp [returned]
  | failed error =>
      simp only [returned]
      split <;> simp
  | exhausted => exact (unexhausted rfl).elim

theorem concludes_callWorkflow (loads : Run.LoadsLoopFree responder)
    (nested : NestedFinishes engine responder room)
    (within : engine.options.maxCallDepth - before.stack.depth ≤ room)
    (call : SubWorkflowCall) :
    Running.Concludes responder before state
      (fun fuel => engine.callWorkflow (engine.nested fuel) scope node call)
      fun result _ => result ≠ .error .exhausted := by
  refine (concludes_loadSource loads call.reference).bind ?_
  rintro result reached state ⟨rfl, unexhausted, loopFree⟩
  cases result with
  | error interrupt =>
      refine Running.concludes_pure ?_
      simpa using unexhausted
  | ok source =>
      dsimp only
      cases read : Workflow.read source call.name with
      | error cause => exact Running.concludes_pure (by simp)
      | ok child =>
          dsimp only
          obtain ⟨document, name, compiled⟩ :=
            Workflow.exists_compile_of_read read
          refine Running.concludes_get_bind ?_
          cases entered : reached.stack.push
              (CallStack.key call.reference child.name)
              engine.options.maxCallDepth with
          | error error => exact Running.concludes_pure (by simp)
          | ok stack =>
              obtain ⟨-, inside, rfl⟩ := CallStack.push_eq_ok_iff.1 entered
              dsimp only
              refine Running.concludes_set_bind ?_
              have deeper : engine.options.maxCallDepth -
                  (reached.stack.entries.length + 1) < room := by
                unfold CallStack.depth at within
                omega
              refine (nested (Document.leadsForward_of_compile compiled)
                (loopFree source call.name child rfl read) ?_).bind ?_
              · simpa [CallStack.depth] using deeper
              rintro ⟨ended, frame⟩ after state finishes
              refine Running.concludes_modify_bind ?_
              rcases ended with interrupt | _
              · refine Running.concludes_pure ?_
                have unexhausted : interrupt ≠ .exhausted := by
                  simpa [Finishes] using finishes
                simpa using returned_ne_exhausted unexhausted
              · exact Running.concludes_pure (by simp)

/-! ### Nodes -/

theorem concludes_driveNode (standard : engine.registry = Registry.standard)
    (loads : Run.LoadsLoopFree responder)
    (nested : NestedFinishes engine responder room)
    (within : engine.options.maxCallDepth - before.stack.depth ≤ room)
    (properties : OrderedMap String) (bindings : Variables) :
    Running.Concludes responder before state
      (fun fuel => engine.driveNode (engine.nested fuel) fuel scope node
        properties bindings) Finishes := by
  have known : engine.registry.handler? node.nodeType =
      some (Handler.standard node.nodeType) := by
    rw [standard]
    rfl
  simp only [driveNode, known]
  have asks : (Handler.standard node.nodeType).execute.Ensures
      (Directive.AsksBelow 2) :=
    (Handler.standard_fits node.nodeType).execute.mono
      fun directive _ => Directive.asksBelow_two
  refine (concludes_interact ⟨node, properties, engine.settings⟩
    node.nodeType asks ⟨bindings, none⟩).yields.bind ?_
  rintro ⟨flow, reached⟩ after state ⟨finishes, yields⟩
  obtain ⟨fuel, transcript, -, yields⟩ := yields 0
  have stays := (interacts_of_yields yields).keepsPlace
  rcases flow with interrupt | target | call
  · exact Running.concludes_pure (by simpa [Finishes] using finishes)
  · exact Running.concludes_pure (by simp [Finishes])
  · dsimp only
    have withinToo : engine.options.maxCallDepth - after.stack.depth ≤
        room := by
      rwa [stays.stack_eq]
    refine (concludes_callWorkflow loads nested withinToo call).bind ?_
    intro result after state unexhausted
    cases result with
    | error interrupt =>
        exact Running.concludes_pure (by simpa [Finishes] using unexhausted)
    | ok pairs => exact Running.concludes_pure (by simp [Finishes])

theorem concludes_openStep (properties : OrderedMap String)
    (record : Option HistoryRecord) :
    Running.Concludes responder before state
      (fun _ => openStep node properties record)
      fun _ after => before = after :=
  Running.concludes_of_yields fun _ _ _ yields _ =>
    (openStep_of_yields yields).1.symm

theorem concludes_ask (question : Run.Question) :
    Running.Concludes responder before state
      (fun _ => Running.ask question) fun _ after => before = after :=
  Running.concludes_of_yields fun _ _ _ yields _ =>
    (Running.yields_ask_iff.1 yields).2.symm

theorem concludes_log (message : String) (status : LogStatus) :
    Running.Concludes responder before state
      (fun _ => log scope node message status) fun _ after => before = after :=
  Running.concludes_of_yields fun _ _ _ yields _ =>
    (yields_log_iff.1 yields).2.symm

theorem concludes_closeStep (status : StepStatus)
    (output error : Option String) (record : Option HistoryRecord) :
    Running.Concludes responder before state
      (fun _ => closeStep status output error record) fun _ _ => True :=
  Running.concludes_of_yields fun _ _ _ _ _ => trivial

theorem concludes_step (standard : engine.registry = Registry.standard)
    (loads : Run.LoadsLoopFree responder)
    (nested : NestedFinishes engine responder room)
    (within : engine.options.maxCallDepth - before.stack.depth ≤ room)
    (frame : Frame) :
    Running.Concludes responder before state
      (fun fuel => engine.step (engine.nested fuel) fuel scope node frame)
      Finishes := by
  unfold step
  refine (concludes_openStep _ frame.record).bind ?_
  rintro record _ state rfl
  refine (concludes_log "started" .info).bind ?_
  rintro ⟨⟩ _ state rfl
  refine (concludes_driveNode standard loads nested within _ _).bind ?_
  rintro ⟨result, output, bindings⟩ after state finishes
  dsimp only
  refine (concludes_log _ _).bind ?_
  rintro ⟨⟩ _ state rfl
  refine (concludes_closeStep _ _ _ record).bind ?_
  intro closed after state _
  exact Running.concludes_pure finishes

/-! ### Frames -/

/-- How many nodes of a workflow lie ahead of a target. -/
def nodesLeft (workflow : Workflow) : Target → Nat
  | .node index => workflow.nodes.length - index
  | _ => 0

theorem nodesLeft_lt {workflow : Workflow} {position : Nat} {next : Target}
    (inside : position < workflow.nodes.length)
    (forward : ∀ index other, nodeAt? workflow next = some (index, other) →
      position < index) :
    nodesLeft workflow next < nodesLeft workflow (.node position) := by
  cases next with
  | finish => exact Nat.sub_pos_of_lt inside
  | pastEnd => exact Nat.sub_pos_of_lt inside
  | node index =>
      change workflow.nodes.length - index < workflow.nodes.length - position
      by_cases exists_ : index < workflow.nodes.length
      · have found : nodeAt? workflow (.node index) =
            some (index, workflow.nodes[index]) := by
          simp [nodeAt?, Target.index?, exists_]
        have ahead := forward index _ found
        omega
      · omega

/-- A node leads forward if there are no loops. -/
theorem forward_of_step (standard : engine.registry = Registry.standard)
    {workflow : Workflow} (leadsForward : workflow.LeadsForward)
    (loopFree : workflow.IsLoopFree) {fuel position : Nat}
    {frame reached : Frame} {next : Target} {after : Run}
    {transcript : Run.Transcript}
    (found : workflow.nodes[position]? = some node)
    (yields : (engine.step (engine.nested fuel) fuel scope node frame).Yields
      before transcript (.ok next, reached) after) {index : Nat} {other : Node}
    (foundOther : nodeAt? workflow next = some (index, other)) :
    position < index := by
  obtain ⟨visit, rfl, rfl, leads, performs⟩ :=
    performs_of_yields yields position
  obtain ⟨rfl, there⟩ := nodeAt?_eq_some_iff.1 foundOther
  obtain ⟨selected, -⟩ := performs.selected standard leads
  have outgoes := visit.selected_mem_outgoing
  rw [← selected] at outgoes
  have forward := leadsForward _ _ _ _ _ found outgoes there
  exact forward.resolve_right (loopFree other (List.mem_of_getElem? there))

theorem concludes_runFrom (standard : engine.registry = Registry.standard)
    (loads : Run.LoadsLoopFree responder)
    (nested : NestedFinishes engine responder room)
    {workflow : Workflow} (leadsForward : workflow.LeadsForward)
    (loopFree : workflow.IsLoopFree) (target : Target) (frame : Frame)
    (within : engine.options.maxCallDepth - before.stack.depth ≤ room) :
    Running.Concludes responder before state
      (fun fuel => engine.runFrom fuel scope workflow target frame)
      Finishes := by
  -- Every node that the frame executes leaves fewer nodes ahead.
  generalize isLeft : nodesLeft workflow target = left
  induction left using Nat.strong_induction_on generalizing target frame before
    state with
  | h left ih =>
      refine .of_succ ?_
      simp only [runFrom]
      refine (concludes_ask .isAborted).bind ?_
      rintro aborted _ state rfl
      cases aborted with
      | true => exact Running.concludes_pure (by simp [Finishes])
      | false =>
          simp only [Bool.false_eq_true, if_false]
          cases found : nodeAt? workflow target with
          | none =>
              rw [nodeAt?] at found
              rw [found]
              exact Running.concludes_pure (by simp [Finishes])
          | some place =>
              obtain ⟨position, node⟩ := place
              obtain ⟨rfl, there⟩ := nodeAt?_eq_some_iff.1 found
              rw [nodeAt?] at found
              rw [found]
              dsimp only
              refine Running.concludes_modify_bind ?_
              let pointed : Run := { before with pointer := some position }
              have withinToo : engine.options.maxCallDepth -
                  pointed.stack.depth ≤ room := within
              have visited : Running.Concludes responder pointed state
                  (fun fuel => engine.step (engine.nested fuel) fuel scope
                    node frame) Finishes :=
                concludes_step standard loads nested withinToo frame
              refine visited.yields.bind ?_
              rintro ⟨result, reached⟩ after state ⟨finishes, yields⟩
              cases result with
              | error interrupt =>
                  exact Running.concludes_pure
                    (by simpa [Finishes] using finishes)
              | ok next =>
                  obtain ⟨fuel, transcript, -, steps⟩ := yields 0
                  have stays := (keepsPlace_of_step steps).stack_eq
                  subst isLeft
                  refine ih _ (nodesLeft_lt ?_ ?_) next reached ?_ rfl
                  · exact (List.getElem?_eq_some_iff.1 there).1
                  · intro index other
                    exact forward_of_step standard leadsForward loopFree there
                      steps
                  · rwa [stays]

/-- However workflows without loops call each other, each frame comes to its
end. -/
theorem concludes_nested (standard : engine.registry = Registry.standard)
    (loads : Run.LoadsLoopFree responder) (room : Nat) :
    NestedFinishes engine responder room := by
  induction room with
  | zero =>
      intro scope child frame before state _ _ impossible
      exact (Nat.not_lt_zero _ impossible).elim
  | succ room ih =>
      intro scope child frame before state leadsForward loopFree within
      exact concludes_runFrom standard loads ih leadsForward loopFree _ frame
        (Nat.le_of_lt_succ within)

end Engine

end Runbook
