import Runbook.Proofs.Run.JumpTable
import Runbook.Proofs.Run.Statuses
import Runbook.Proofs.Run.VisitTree

/-!
# Logs are trees

What is logged in a run is what the trees of its visits say, one after the
other.  Each frame is shown by the trees of its walk, and those of a called
workflow stand below the visit that calls it, so that what is begun last ends
first, whatever ends it.
-/

namespace Runbook

open Engine

namespace Run

/-- The line that an exchange logs. -/
def Exchange.line? (exchange : Exchange) : Option LogLine :=
  exchange.event?.bind RunEvent.line?

/-- The lines that are logged, in order. -/
def Transcript.lines (transcript : Transcript) : List LogLine :=
  transcript.filterMap Exchange.line?

namespace Transcript

@[simp]
theorem lines_nil : lines [] = [] :=
  rfl

@[simp]
theorem lines_append (first second : Transcript) :
    lines (first ++ second) = first.lines ++ second.lines :=
  List.filterMap_append

@[simp]
theorem lines_log (run : Run) (line : LogLine) (rest : Transcript) :
    lines (run.exchange (.publish (.log line)) () :: rest) =
      line :: rest.lines :=
  rfl

@[simp]
theorem lines_now (run : Run) (instant : Instant) (rest : Transcript) :
    lines (run.exchange .now instant :: rest) = rest.lines :=
  rfl

@[simp]
theorem lines_isAborted (run : Run) (aborted : Bool) (rest : Transcript) :
    lines (run.exchange .isAborted aborted :: rest) = rest.lines :=
  rfl

@[simp]
theorem lines_announcement (run : Run) (status : RunStatus) :
    lines (run.announcement status) = [] := by
  unfold announcement
  split <;> rfl

end Transcript

end Run

/-- The status of a step that ends in a way. -/
def Engine.endStatus {α : Type} : Except Interrupt α → StepStatus
  | .ok _ => .success
  | .error (.failed _) => .error
  | .error _ => .cancelled

/-- The status of the last step of a run that ends with a status. -/
def RunStatus.lastStep : RunStatus → StepStatus
  | .completed => .success
  | .error => .error
  | _ => .cancelled

namespace Engine

variable {engine : Engine} {runChild : FrameRunner} {fuel : Nat}
  {scope : Scope} {node : Node} {before after : Run}
  {transcript whole : Run.Transcript}

/-! ### The notes of a handler -/

/-- Of what a step asks, its notes are logged. -/
theorem lines_carried (exchanges : Step.Transcript) (run : Run) :
    Run.Transcript.lines (run.exchange .isAborted false ::
        exchanges.map (relay scope node run)) =
      exchanges.notes.map fun message =>
        ⟨scope.path ++ node.id, node.nodeType.tag, message, .info⟩ := by
  rw [Run.Transcript.lines_isAborted]
  induction exchanges with
  | nil => rfl
  | cons exchange rest ih =>
      obtain ⟨question, reply⟩ := exchange
      cases question with
      | call call => exact ih
      | sleep nanoseconds => exact ih
      | note message => exact congrArg (_ :: ·) ih

theorem AwaitsAnswer.lines_eq_nil {prompt : Prompt}
    {result : Except Interrupt (PromptRequest × Option String)}
    (awaits : AwaitsAnswer engine node prompt before transcript result
      after) : transcript.lines = [] := by
  have silent {request : PromptRequest} {rest : Run.Transcript}
      (quiet : rest.lines = []) :
      (asking before request ++ rest).lines = [] := by
    rw [asking, ← List.singleton_append, Run.Transcript.lines_append,
      Run.Transcript.lines_append, Run.Transcript.lines_append,
      Run.Transcript.lines_announcement, quiet]
    rfl
  cases awaits with
  | unavailable nobody => rfl
  | aborted somebody id => exact silent rfl
  | interrupted somebody id => exact silent rfl
  | answered somebody id answer => exact silent rfl

theorem LoadsSource.lines_eq_nil {reference : String}
    {result : Except Interrupt String}
    (loads : LoadsSource node reference before transcript result) :
    transcript.lines = [] := by
  cases loads <;> rfl

/-- A handler logs its notes, and nothing else. -/
theorem Interacts.exists_notes {context : Step.Context} {handler : Handler}
    {step : Step Directive} {state ended : Step.State}
    {result : Except Interrupt Flow}
    (interacts : Interacts engine scope context handler fuel step state before
      transcript result ended after) :
    ∃ notes, handler.Notes context step state notes ∧
      transcript.lines = notes.map fun message =>
        ⟨scope.path ++ context.node.id, context.node.nodeType.tag, message,
          .info⟩ := by
  induction interacts with
  | exhausted => exact ⟨[], .nothing _ _, rfl⟩
  | aborted => exact ⟨[], .nothing _ _, rfl⟩
  | stopped carried => exact ⟨_, .carried carried, lines_carried _ _⟩
  | directed carried leads => exact ⟨_, .carried carried, lines_carried _ _⟩
  | unanswered carried awaits =>
      refine ⟨_, .carried carried, ?_⟩
      rw [Run.Transcript.lines_append, lines_carried, awaits.lines_eq_nil,
        List.append_nil]
  | resumed carried awaits resumes ih =>
      obtain ⟨rest, notes, lines_eq⟩ := ih
      obtain rfl := awaits.prompt_eq
      refine ⟨_, .resumed carried notes, ?_⟩
      rw [Run.Transcript.lines_append, Run.Transcript.lines_append,
        lines_carried, awaits.lines_eq_nil, lines_eq, List.append_nil,
        List.map_append]

/-! ### Trees of visits and walks -/

theorem status_eq_endStatus (visit : Visit) :
    visit.status = endStatus visit.result := by
  unfold Visit.status
  rcases visit.result with (_ | error | _) | target <;> rfl

theorem firstLine_eq_opening (visit : Visit) :
    visit.firstLine scope = visit.opening.within scope.path :=
  rfl

theorem lastLine_eq_closing (visit : Visit) :
    visit.lastLine engine scope =
      (visit.closing engine.options.logValues).within scope.path := by
  obtain ⟨position, node, bindings, result, output, after⟩ := visit
  rcases result with (_ | error | _) | target
  · rfl
  · rfl
  · rfl
  · simp only [Visit.lastLine, stepEnd, endMessage, Visit.closing]
    generalize engine.options.logValues = logValues
    cases output <;> cases logValues <;> rfl

/-- What is logged in a visit, given what is logged while its node is
executed. -/
theorem Performs.exists_driving {visit : Visit} {frame reached : Frame}
    (performs : Performs engine runChild fuel scope visit before frame
      transcript reached after) :
    ∃ driving,
      Drives engine runChild fuel scope visit.node visit.properties
        visit.bindings before driving visit.result visit.output visit.after
        after ∧
      driving <:+: transcript ∧
      ∀ notes called,
        driving.lines = (notes.map visit.noted ++ called).map
            (LogLine.within scope.path) →
          transcript.lines =
            (visit.lines engine.options.logValues notes called).map
              (LogLine.within scope.path) := by
  cases performs with
  | @unrecorded driving _ drives =>
      refine ⟨driving, drives, ?_, fun notes called lines_eq => ?_⟩
      · exact List.infix_append [_] driving [_]
      · simp [lines_eq, firstLine_eq_opening, lastLine_eq_closing,
          Visit.lines]
  | @recorded driving _ _ _ _ _ drives recorded =>
      refine ⟨driving, drives, ?_, fun notes called lines_eq => ?_⟩
      · exact List.infix_append [_, _] driving [_, _]
      · simp [lines_eq, firstLine_eq_opening, lastLine_eq_closing,
          Visit.lines]

/-- A called workflow is run as a frame whose end is the end of the call, or
the call fails or is cancelled before anything is logged. -/
theorem CallsWorkflow.entered_or_stopped {call : SubWorkflowCall}
    {result : Except Interrupt (List (String × String))}
    (calls : CallsWorkflow engine runChild scope node call before transcript
      result after) :
    (transcript.lines = [] ∧ ∃ interrupt, result = .error interrupt) ∨
      ∃ source child loading nested entered ended frame left,
        transcript = loading ++ nested ∧ loading.lines = [] ∧
        before.exchange (.call (.loadWorkflow call.reference))
          (some (.ok source)) ∈ loading ∧
        Workflow.read source call.name = .ok child ∧
        (runChild (scope.within (CallStack.key call.reference child.name))
          child ⟨call.inputs, none⟩).Yields entered nested (ended, frame)
            left ∧
        endStatus result = endStatus ended := by
  cases calls with
  | notLoaded loads => exact .inl ⟨loads.lines_eq_nil, _, rfl⟩
  | notRead loads faulty => exact .inl ⟨loads.lines_eq_nil, _, rfl⟩
  | refused loads read guarded => exact .inl ⟨loads.lines_eq_nil, _, rfl⟩
  | @ran _ _ _ _ _ ended _ _ loads read entered runs =>
      have silent := loads.lines_eq_nil
      cases loads with
      | loaded source =>
          refine .inr ⟨_, _, _, _, _, _, _, _, rfl, silent, by simp, read,
            runs, ?_⟩
          rcases ended with (_ | error | _) | _
          · rfl
          · simp only [callResult, returned]
            split <;> rfl
          · rfl
          · rfl

/-- A node that calls a workflow does nothing else when it succeeds. -/
theorem Interacts.ne_workflow_of_jump {context : Step.Context}
    {state ended : Step.State} {target : Target}
    (interacts : Interacts engine scope context
      (Handler.standard context.node.nodeType) fuel
      (Handler.standard context.node.nodeType).execute state before transcript
        (.ok (.jump target)) ended after) :
    context.node.nodeType ≠ .workflow := by
  intro isCall
  have fits := Handler.standard_fits context.node.nodeType
  obtain ⟨directive, leads, directiveFits⟩ :=
    interacts.exists_directive fits fits.execute
  rw [isCall] at directiveFits
  cases directive with
  | proceed => exact directiveFits.2 rfl
  | jump other => cases directiveFits
  | terminate => exact directiveFits
  | suspend prompt => cases leads
  | call call => cases leads

/-- Only a node that describes a call leads to one, and to no other. -/
theorem Interacts.describes_of_call {context : Step.Context}
    {bindings : Variables} {ended : Step.State} {call : SubWorkflowCall}
    (interacts : Interacts engine scope context
      (Handler.standard context.node.nodeType) fuel
      (Handler.standard context.node.nodeType).execute ⟨bindings, none⟩ before
        transcript (.ok (.call call)) ended after) :
    context.node.nodeType = .workflow ∧
      Step.describedCall? context bindings = some call := by
  have fits := Handler.standard_fits context.node.nodeType
  obtain ⟨directive, leads, directiveFits⟩ :=
    interacts.exists_directive fits fits.execute
  have isCall : context.node.nodeType = .workflow := by
    cases directive with
    | call other => exact directiveFits
    | _ => cases leads
  refine ⟨isCall, ?_⟩
  rw [isCall] at interacts fits
  generalize isOk : Except.ok (Flow.call call) = result at interacts
  cases interacts with
  | exhausted => cases isOk
  | aborted => cases isOk
  | @stopped _ _ _ _ _ _ stop carried => cases stop <;> cases isOk
  | @directed _ _ _ _ _ _ directive _ carried leads =>
      cases isOk
      cases directive with
      | call other =>
          cases leads
          exact Step.describedCall?_of_yields carried
      | _ => cases leads
  | unanswered carried awaits => cases isOk
  | resumed carried awaits resumes =>
      -- A call is described in one round.
      cases fits.execute.value_allowed carried

/-- What is logged while a node is executed: what its handler notes, and then
what is logged in the workflow that it calls if that is entered. -/
inductive Logs (engine : Engine) (runChild : FrameRunner) (scope : Scope)
    (node : Node) (properties : OrderedMap String) (bindings : Variables)
    (driving : Run.Transcript) (result : Except Interrupt Target) : Prop
  | noted {notes : List String}
      (noted : (Handler.standard node.nodeType).Notes
        ⟨node, properties, engine.settings⟩
        (Handler.standard node.nodeType).execute ⟨bindings, none⟩ notes)
      (lines_eq : driving.lines = notes.map fun message =>
        ⟨scope.path ++ node.id, node.nodeType.tag, message, .info⟩)
      (uncalled : node.nodeType = .workflow → endStatus result ≠ .success)
  | called {notes : List String} {call : SubWorkflowCall} {source : String}
      {child : Workflow} {calling entered left : Run}
      {nested : Run.Transcript} {ended : Except Interrupt Unit}
      {reached : Frame}
      (isCall : node.nodeType = .workflow)
      (noted : (Handler.standard node.nodeType).Notes
        ⟨node, properties, engine.settings⟩
        (Handler.standard node.nodeType).execute ⟨bindings, none⟩ notes)
      (described : Step.describedCall? ⟨node, properties, engine.settings⟩
        bindings = some call)
      (loaded : calling.exchange (.call (.loadWorkflow call.reference))
        (some (.ok source)) ∈ driving)
      (read : Workflow.read source call.name = .ok child)
      (runs : (runChild
        (scope.within (CallStack.key call.reference child.name)) child
        ⟨call.inputs, none⟩).Yields entered nested (ended, reached) left)
      (part : nested <:+: driving)
      (lines_eq : driving.lines = (notes.map fun message =>
          ⟨scope.path ++ node.id, node.nodeType.tag, message, .info⟩) ++
        nested.lines)
      (closes : endStatus result = endStatus ended)

/-- A node with a standard handler that is led to a call logs what comes of the
call. -/
theorem CallsWorkflow.logs {properties : OrderedMap String}
    {bindings : Variables} {call : SubWorkflowCall} {state : Step.State}
    {first second : Run.Transcript} {middle : Run}
    {called : Except Interrupt (List (String × String))}
    {result : Except Interrupt Target}
    (interacts : Interacts engine scope ⟨node, properties, engine.settings⟩
      (Handler.standard node.nodeType) fuel
      (Handler.standard node.nodeType).execute ⟨bindings, none⟩ before first
        (.ok (.call call)) state middle)
    (calls : CallsWorkflow engine runChild scope node call middle second
      called after)
    (same : endStatus result = endStatus called) :
    Logs engine runChild scope node properties bindings (first ++ second)
      result := by
  obtain ⟨notes, noted, lines_eq⟩ := interacts.exists_notes
  obtain ⟨isCall, described⟩ := interacts.describes_of_call
  rcases calls.entered_or_stopped with ⟨silent, interrupt, rfl⟩ |
    ⟨source, child, loading, nested, entered, ended, frame, left, rfl, silent,
      loaded, read, runs, ends⟩
  · refine .noted noted ?_ fun _ => ?_
    · rw [Run.Transcript.lines_append, lines_eq, silent, List.append_nil]
    · rw [same]
      cases interrupt <;> nofun
  · have loadedHere := List.mem_append_right first
      (List.mem_append_left nested loaded)
    refine .called isCall noted described loadedHere read runs ?_ ?_
      (same.trans ends)
    · rw [← List.append_assoc]
      exact (List.suffix_append _ _).isInfix
    · rw [Run.Transcript.lines_append, Run.Transcript.lines_append, lines_eq,
        silent, List.nil_append]

theorem Drives.logs {properties : OrderedMap String}
    {bindings final : Variables} {result : Except Interrupt Target}
    {output : Option String} (standard : engine.registry = .standard)
    (drives : Drives engine runChild fuel scope node properties bindings before
      transcript result output final after) :
    Logs engine runChild scope node properties bindings transcript result := by
  have isStandard {handler : Handler}
      (known : engine.registry.handler? node.nodeType = some handler) :
      handler = Handler.standard node.nodeType := by
    rw [standard] at known
    exact (Option.some.inj known).symm
  cases drives with
  | unknown missing =>
      rw [standard] at missing
      cases missing
  | @interrupted _ _ interrupt _ _ known interacts =>
      obtain rfl := isStandard known
      obtain ⟨notes, noted, lines_eq⟩ := interacts.exists_notes
      exact .noted noted lines_eq fun _ => by cases interrupt <;> nofun
  | jumped known interacts =>
      obtain rfl := isStandard known
      obtain ⟨notes, noted, lines_eq⟩ := interacts.exists_notes
      exact .noted noted lines_eq fun isCall =>
        (interacts.ne_workflow_of_jump isCall).elim
  | @callFailed _ _ _ _ interrupt _ _ _ known interacts calls =>
      obtain rfl := isStandard known
      exact calls.logs interacts (by cases interrupt <;> rfl)
  | called known interacts calls =>
      obtain rfl := isStandard known
      exact calls.logs interacts rfl

/-- The visits of a walk close as the walk ends. -/
theorem Walk.closesWith {workflow : Workflow} {target : Target}
    {frame reached : Frame} {visits : List Visit}
    {ended : Except Interrupt Unit}
    (walk : Walk engine scope workflow fuel target frame before transcript
      visits ended reached after) :
    Visit.ClosesWith visits (endStatus ended) ∧
      (endStatus ended = .error → visits ≠ []) := by
  rcases walk.leads_or_stops with ⟨lead, unfailed⟩ |
    ⟨first, last, interrupt, rfl, lead, stops, rfl⟩
  · have succeeds : ∀ visit ∈ visits, visit.status = .success :=
      fun visit member => Visit.status_eq_success_iff.2 (lead visit member)
    have ends : endStatus ended = .success ∨ endStatus ended = .cancelled := by
      rcases ended with (_ | error | _) | _
      · exact .inr rfl
      · exact (unfailed error rfl).elim
      · exact .inr rfl
      · exact .inl rfl
    refine ⟨⟨fun visit member =>
      succeeds visit (List.dropLast_subset _ member), fun visit isLast => ?_⟩,
      fun failed => ?_⟩
    · have success := succeeds visit (List.mem_of_getLast? isLast)
      rcases ends with succeeded | cancelled
      · exact .inl (success.trans succeeded.symm)
      · exact .inr ⟨success, cancelled⟩
    · rcases ends with other | other <;> rw [failed] at other <;> cases other
  · refine ⟨⟨fun visit member => ?_, fun visit isLast => ?_⟩, by simp⟩
    · rw [List.dropLast_concat] at member
      exact Visit.status_eq_success_iff.2 (lead visit member)
    · rw [List.getLast?_concat, Option.some.injEq] at isLast
      subst isLast
      rw [status_eq_endStatus, stops]
      cases interrupt <;> exact .inl rfl

/-- Trees show the walk of a frame, and all that is logged in it. -/
structure ShowsWalk (engine : Engine) (whole : Run.Transcript) (scope : Scope)
    (workflow : Workflow) (fuel : Nat) (target : Target) (frame : Frame)
    (before : Run) (transcript : Run.Transcript) (trees : List VisitTree)
    (ended : Except Interrupt Unit) (reached : Frame) (after : Run) :
    Prop where
  walk : Walk engine scope workflow fuel target frame before transcript
    (trees.map VisitTree.visit) ended reached after
  lines_eq : transcript.lines =
    (VisitTree.forestLines engine.options.logValues trees).map
      (LogLine.within scope.path)
  shown : ∀ tree ∈ trees, tree.Shows engine whole scope

/-- In a part of a run, every frame that may take so many steps in a row is
shown by trees. -/
def HasTrees (engine : Engine) (whole : Run.Transcript) (fuel : Nat) : Prop :=
  ∀ {scope : Scope} {workflow : Workflow} {target : Target} {frame : Frame}
    {before : Run} {transcript : Run.Transcript}
    {ended : Except Interrupt Unit} {reached : Frame} {after : Run},
    (engine.runFrom fuel scope workflow target frame).Yields before transcript
      (ended, reached) after →
    transcript <:+: whole →
    ∃ trees, ShowsWalk engine whole scope workflow fuel target frame before
      transcript trees ended reached after

/-- A visit is shown by a tree, if the frames below it are. -/
theorem Performs.exists_tree {visit : Visit} {frame reached : Frame}
    (standard : engine.registry = .standard)
    (hasTrees : HasTrees engine whole fuel)
    (performs : Performs engine (engine.nested fuel) fuel scope visit before
      frame transcript reached after)
    (part : transcript <:+: whole) :
    ∃ tree : VisitTree, tree.visit = visit ∧
      transcript.lines = (tree.lines engine.options.logValues).map
        (LogLine.within scope.path) ∧
      tree.Shows engine whole scope := by
  obtain ⟨driving, drives, drivingPart, lines_eq⟩ := performs.exists_driving
  have withinWhole := drivingPart.trans part
  cases drives.logs standard with
  | @noted notes noted drivingLines uncalled =>
      refine ⟨.leaf visit notes, rfl, lines_eq notes [] ?_, .leaf noted ?_⟩
      · rw [drivingLines, List.append_nil, List.map_map]
        rfl
      · rwa [status_eq_endStatus]
  | @called notes call source child calling entered left nested ended inside
      isCall noted described loaded read runs nestedPart drivingLines closes =>
      have nestedWhole := nestedPart.trans withinWhole
      obtain ⟨inner, showsWalk⟩ := hasTrees runs nestedWhole
      obtain ⟨closesWith, fails⟩ := showsWalk.walk.closesWith
      rw [← closes, ← status_eq_endStatus] at closesWith fails
      refine ⟨.call visit notes (CallStack.key call.reference child.name)
        inner, rfl, lines_eq notes _ ?_, .call isCall noted described
          (withinWhole.subset loaded) read showsWalk.walk nestedWhole
          closesWith (fun failed none => fails failed (by simp [none]))
          showsWalk.shown⟩
      rw [drivingLines, showsWalk.lines_eq, List.map_append, List.map_map,
        List.map_map]
      congr 1
      apply List.map_congr_left
      intro line _
      simp [Scope.within, LogLine.within_within, String.append_assoc]

/-- Every frame of a run is shown by trees: a visit and those that come after
it have fewer steps left. -/
theorem hasTrees (standard : engine.registry = .standard)
    (whole : Run.Transcript) (fuel : Nat) : HasTrees engine whole fuel := by
  induction fuel with
  | zero =>
      intro scope workflow target frame before transcript ended reached after
        yields part
      obtain ⟨rfl, same, rfl⟩ := Running.yields_pure_iff.1 yields
      cases same
      exact ⟨[], .exhausted, rfl, nofun⟩
  | succ fuel ih =>
      intro scope workflow target frame before transcript ended reached after
        yields part
      cases goesOn_of_yields yields with
      | aborted => exact ⟨[], .aborted, rfl, nofun⟩
      | finished nowhere => exact ⟨[], .finished nowhere, rfl, nofun⟩
      | stopped position found steps =>
          obtain ⟨visit, rfl, rfl, stops, performs⟩ :=
            performs_of_yields steps position
          have visitingPart := (List.suffix_cons _ _).isInfix.trans part
          obtain ⟨tree, rfl, lines_eq, shown⟩ :=
            performs.exists_tree standard ih visitingPart
          exact ⟨[tree], .stopped found performs stops,
            by simpa [VisitTree.forestLines] using lines_eq,
            by simpa using shown⟩
      | @moved position _ visiting rest next middle _ current _ _ found steps
          goesOn =>
          obtain ⟨visit, rfl, rfl, leads, performs⟩ :=
            performs_of_yields steps position
          have visitingPart := (List.infix_append
            [before.exchange .isAborted false] visiting rest).trans part
          have restPart := (List.suffix_append
            (before.exchange .isAborted false :: visiting) rest).isInfix.trans
              part
          obtain ⟨tree, rfl, lines_eq, shown⟩ :=
            performs.exists_tree standard ih visitingPart
          obtain ⟨trees, walk, restLines, shownRest⟩ := ih goesOn restPart
          exact ⟨tree :: trees, .moved found performs leads walk,
            by simp [VisitTree.forestLines, lines_eq, restLines],
            by simpa using ⟨shown, shownRest⟩⟩

/-! ### Logs of runs -/

theorem endStatus_eq_lastStep {ended : Except Interrupt Unit}
    {status : RunStatus} {error : Option RunError}
    (ends : runEnd? ended = some (status, error)) :
    endStatus ended = status.lastStep := by
  rcases ended with (_ | _ | _) | _ <;> cases ends <;> rfl

theorem lines_opening (before : Run) (started : Instant) :
    (opening before started).lines = [] := by
  rw [opening, Run.Transcript.lines_now, Run.Transcript.lines_announcement]

theorem lines_closing (reached : Run) (status : RunStatus)
    (finished : Instant) : (closing reached status finished).lines = [] := by
  rw [closing, Run.Transcript.lines_append,
    Run.Transcript.lines_announcement]
  rfl

/-- A run that comes to an end is shown by trees. -/
theorem executes_with_trees {workflow : Workflow} {bindings : Variables}
    {outcome : RunOutcome} (standard : engine.registry = .standard)
    (yields : (engine.execute fuel workflow bindings).Yields before transcript
      (some outcome) after) :
    ∃ trees : List VisitTree,
      Executes engine fuel workflow bindings before transcript
        (trees.map VisitTree.visit) outcome after ∧
      transcript.lines =
        VisitTree.forestLines engine.options.logValues trees ∧
      (∀ tree ∈ trees, tree.Shows engine transcript ⟨""⟩) ∧
      Visit.ClosesWith (trees.map VisitTree.visit) outcome.status.lastStep := by
  cases proceeds_of_yields yields with
  | @ended started finished running ended frame reached status _ runs ends =>
      cases runs with
      | @refused error guarded =>
          cases ends
          have guarded : before.stack.push
              (CallStack.key before.reference workflow.name)
              engine.options.maxCallDepth = .error error := guarded
          refine ⟨[], ?_, ?_, by simp, .nil _⟩
          · simpa using Executes.refused guarded
          · rw [List.append_nil, Run.Transcript.lines_append, lines_opening,
              lines_closing]
            rfl
      | @entered stack _ _ _ inner entered runs =>
          have entered : before.stack.push
              (CallStack.key before.reference workflow.name)
              engine.options.maxCallDepth = .ok stack := entered
          have part := List.infix_append (opening before started) running
            (closing { inner with stack := inner.stack.pop } status finished)
          obtain ⟨trees, walk, lines_eq, shown⟩ :=
            hasTrees standard _ fuel runs part
          obtain ⟨steps, recordEq, -⟩ := walk.exists_steps rfl
          obtain ⟨final, record⟩ := frame
          cases recordEq
          refine ⟨trees, .walked entered walk ends finished, ?_, shown, ?_⟩
          · rw [Run.Transcript.lines_append, Run.Transcript.lines_append,
              lines_opening, lines_closing, lines_eq,
              LogLine.map_within_empty, List.append_nil, List.nil_append]
          · rw [← endStatus_eq_lastStep ends]
            exact walk.closesWith.1

/-- The log of a run is what the trees of its visits say, one after the other:
each visit starts, its handler notes what it notes, the visits of a called
workflow follow under the key of the call, and then the visit ends.  The trees
stand for the steps of the record, one for each and in order, with the same
nodes and ends.  All visits but the last of each frame succeed.  If a run fails
or is cancelled, the last lines of its log are those with which the visits end
that are open, from the innermost one outwards, and all of them say so. -/
theorem execute_log_isTree {engine : Engine}
    (standard : engine.registry = .standard) (fuel : Nat)
    (workflow : Workflow) (bindings : Variables) (before : Run)
    {transcript : Run.Transcript} {outcome : RunOutcome} {after : Run}
    (yields : (engine.execute fuel workflow bindings).Yields before transcript
      (some outcome) after) :
    ∃ trees : List VisitTree,
      Executes engine fuel workflow bindings before transcript
        (trees.map VisitTree.visit) outcome after ∧
      transcript.lines =
        VisitTree.forestLines engine.options.logValues trees ∧
      (∀ tree ∈ trees, tree.Shows engine transcript ⟨""⟩) ∧
      List.Forall₂ (fun tree step => tree.visit.IsRecordedBy step) trees
        outcome.history.steps ∧
      Visit.ClosesWith (trees.map VisitTree.visit) outcome.status.lastStep ∧
      VisitTree.forestStopLines engine.options.logValues trees <:+
        transcript.lines ∧
      ∀ line ∈ VisitTree.forestStopLines engine.options.logValues trees,
        line.Stops outcome.status.lastStep := by
  obtain ⟨trees, executes, lines_eq, shown, closes⟩ :=
    executes_with_trees standard yields
  obtain ⟨last, stops⟩ := VisitTree.forestStopLines_suffix
    (fun tree member => (shown tree member).stopLines_suffix) closes
  refine ⟨trees, executes, lines_eq, shown, ?_, closes, ?_, stops⟩
  · exact List.forall₂_map_left_iff.1 executes.forall₂_steps
  · rwa [lines_eq]

/-- A workflow that calls one that asks. -/
def consulting : Workflow :=
  ⟨"outer", none,
    [⟨"call", .workflow, .ofList [("path", "inner.yaml")],
      ⟨.pastEnd, none, none⟩⟩], 0⟩

/-- Without anybody to ask, the called workflow fails, and then its caller
does. -/
theorem execute_log_isTree_consulting :
    ∃ transcript outcome after trees,
      (unattended.execute 5 consulting .empty).Yields
        (Run.fresh "id" "outer.yaml") transcript (some outcome) after ∧
      transcript.lines.map (fun line => (line.nodeId, line.status)) =
        [("call", .info), ("inner.yaml:inner/node-1", .info),
          ("inner.yaml:inner/node-1", .error), ("call", .error)] ∧
      transcript.lines = VisitTree.forestLines false trees ∧
      VisitTree.forestStopLines false trees <:+ transcript.lines ∧
      List.Forall₂ (fun tree step => tree.visit.IsRecordedBy step) trees
        outcome.history.steps ∧
      outcome.history.steps.map HistoryStep.status = [.error] := by
  have yields := questionnaire.yields_run
    (unattended.execute 5 consulting .empty) (Run.fresh "id" "outer.yaml")
    .still
  have evaluated :
      let conversation := questionnaire.run
        (unattended.execute 5 consulting .empty)
        (Run.fresh "id" "outer.yaml") .still
      conversation.value.1.map
          (fun outcome => outcome.history.steps.map HistoryStep.status) =
        some [.error] ∧
      (Run.Transcript.lines conversation.transcript).map
          (fun line => (line.nodeId, line.status)) =
        [("call", .info), ("inner.yaml:inner/node-1", .info),
          ("inner.yaml:inner/node-1", .error), ("call", .error)] := by
    decide +kernel
  generalize questionnaire.run (unattended.execute 5 consulting .empty)
    (Run.fresh "id" "outer.yaml") .still = conversation at yields evaluated
  obtain ⟨statuses, logged⟩ := evaluated
  obtain ⟨outcome, isOutcome, statuses⟩ := Option.map_eq_some_iff.1 statuses
  rw [isOutcome] at yields
  obtain ⟨trees, -, lines_eq, -, recorded, -, last, -⟩ :=
    execute_log_isTree rfl 5 consulting .empty _ yields
  exact ⟨_, outcome, _, trees, yields, logged, lines_eq, last, recorded,
    statuses⟩

end Engine

end Runbook
