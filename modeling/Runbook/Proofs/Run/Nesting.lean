import Runbook.Proofs.Run.LoopFree
import Runbook.Proofs.Run.LogTree
import Runbook.Proofs.Run.OpenFrames
import Runbook.Proofs.Run.Quiet

/-!
# Chains of calls

Workflows of one node each call one another in a row, and the last one sets a
variable.  How many of them may be nested is limited, the outermost one
included.  The limit is exact: a run enters as many workflows of the chain as
are allowed, and the first one beyond them is refused.  All nodes that have
called on the way end with this very error.
-/

namespace Runbook

/-- The loads in a transcript give what is stored. -/
def Run.Transcript.LoadsFrom (transcript : Run.Transcript)
    (library : String → Option String) : Prop :=
  ∀ (run : Run) (reference stored : String)
    (reply : Except Failure String),
    run.exchange (.call (.loadWorkflow reference)) (some reply) ∈ transcript →
      library reference = some stored → reply = .ok stored

namespace Run.Transcript

variable {transcript part : Transcript} {library : String → Option String}

theorem LoadsFrom.of_infix (inside : part <:+: transcript)
    (loads : transcript.LoadsFrom library) : part.LoadsFrom library :=
  fun run reference stored reply member =>
    loads run reference stored reply (inside.subset member)

end Run.Transcript

/-- A workflow that is not open is refused exactly if there is no room. -/
theorem CallStack.push_of_not_mem {stack : CallStack} {key : String}
    (closed : key ∉ stack.entries) (maxDepth : Nat) :
    stack.push key maxDepth =
      if maxDepth ≤ stack.depth then .error (.depthExceeded key maxDepth)
      else .ok ⟨stack.entries ++ [key]⟩ := by
  simp [push, contains, closed]

namespace Engine

/-! ### Workflows of one node -/

/-- A workflow has one node, which is where it starts and where it ends. -/
structure HasOnly (workflow : Workflow) (node : Node) : Prop where
  starts : nodeAt? workflow (.node workflow.start) = some (0, node)
  ends : nodeAt? workflow node.jumps.next = none

theorem hasOnly_of_read {source : String} {name : Option String}
    {workflow : Workflow} {node : Node}
    (read : Workflow.read source name = .ok workflow)
    (only : workflow.nodes = [node])
    (plain : node.nodeType.isBranching = false) : HasOnly workflow node := by
  obtain ⟨document, title, compiled⟩ := Workflow.exists_compile_of_read read
  have forward := Document.leadsForward_of_compile compiled
  have hasWorkflow := (document.compile_correct title).2.1 workflow compiled
  have first : workflow.nodes[0]? = some node := by rw [only]; rfl
  constructor
  · have inside := hasWorkflow.start_lt
    rw [only, List.length_singleton, Nat.lt_one_iff] at inside
    rw [inside]
    exact nodeAt?_eq_some_iff.2 ⟨rfl, first⟩
  · have outgoes : (node.jumps.next, Workflow.EdgeKind.next) ∈
        Workflow.outgoing node := by
      rw [Workflow.outgoing, plain]
      exact List.mem_singleton.2 rfl
    rw [hasWorkflow.nodeAt?_eq_none_iff first outgoes]
    cases leads : node.jumps.next with
    | finish => exact .inl rfl
    | pastEnd => exact .inr rfl
    | node index =>
        rw [leads] at outgoes
        have inside := hasWorkflow.lt_length first outgoes
        rw [only, List.length_singleton, Nat.lt_one_iff] at inside
        subst inside
        rcases forward 0 0 node node .next first outgoes first with
          impossible | isLoop
        · exact absurd impossible (Nat.lt_irrefl 0)
        · rw [isLoop] at plain
          cases plain

variable {engine : Engine} {library : String → Option String}
  {runChild : FrameRunner} {fuel : Nat} {scope : Scope} {workflow : Workflow}
  {node : Node} {frame reached : Frame} {before after : Run}
  {transcript : Run.Transcript} {visits : List Visit}
  {ended : Except Interrupt Unit}

/-- A frame ends as a visit of a node does that leads to the next target or
nowhere, and it logs what the visit does. -/
def SettledBy (engine : Engine) (scope : Scope) (visit : Visit)
    (driving transcript : Run.Transcript) (ended : Except Interrupt Unit) :
    Prop :=
  ∀ (result : Except Interrupt Unit) (called : List LogLine),
    visit.result = result.map (fun _ => visit.node.jumps.next) →
    driving.lines = called.map (LogLine.within scope.path) →
    ended = result ∧ transcript.lines =
      (visit.lines engine.options.logValues [] called).map
        (LogLine.within scope.path)

/-- A walk through a workflow of one node executes this node, and ends as the
node does. -/
theorem Walk.of_hasOnly (solitary : HasOnly workflow node)
    (walk : Walk engine scope workflow (fuel + 2) (.node workflow.start) frame
      before transcript visits ended reached after)
    (unseen : ¬ transcript.SeesAbort) :
    ∃ (visit : Visit) (driving : Run.Transcript) (current : Run),
      visit.node = node ∧ visit.bindings = frame.bindings ∧
      Drives engine (engine.nested (fuel + 1)) (fuel + 1) scope visit.node
        visit.properties visit.bindings
        { before with pointer := some visit.position } driving visit.result
        visit.output visit.after current ∧
      driving <:+: transcript ∧
      SettledBy engine scope visit driving transcript ended := by
  cases walk with
  | aborted => exact (unseen (by simp [Run.Exchange.SeesAbort])).elim
  | finished nowhere =>
      rw [solitary.starts] at nowhere
      cases nowhere
  | @stopped _ _ _ _ _ _ visiting visit interrupt found performs stops =>
      obtain rfl : node = visit.node :=
        (Prod.mk.inj (Option.some.inj (solitary.starts.symm.trans found))).2
      obtain ⟨driving, drives, inside, lines_eq⟩ := performs.exists_driving
      refine ⟨visit, driving, _, rfl, performs.bindings_eq.1, drives,
        inside.trans (List.suffix_cons _ visiting).isInfix, ?_⟩
      intro result called ends logs
      rw [Run.Transcript.lines_isAborted]
      refine ⟨?_, lines_eq [] called logs⟩
      rw [stops] at ends
      cases result with
      | error other => exact congrArg Except.error (Except.error.inj ends)
      | ok _ => cases ends
  | @moved _ _ next _ middle _ _ current _ visiting rest visit _ _ found
      performs leads goesOn =>
      obtain rfl : node = visit.node :=
        (Prod.mk.inj (Option.some.inj (solitary.starts.symm.trans found))).2
      obtain ⟨driving, drives, inside, lines_eq⟩ := performs.exists_driving
      refine ⟨visit, driving, _, rfl, performs.bindings_eq.1, drives,
        inside.trans (List.infix_append [_] visiting rest), ?_⟩
      intro result called ends logs
      rw [leads] at ends
      cases result with
      | error other => cases ends
      | ok _ =>
          obtain rfl : next = visit.node.jumps.next := Except.ok.inj ends
          cases goesOn with
          | aborted => exact (unseen (by simp [Run.Exchange.SeesAbort])).elim
          | finished _ =>
              refine ⟨rfl, ?_⟩
              rw [List.cons_append, Run.Transcript.lines_isAborted,
                Run.Transcript.lines_append, lines_eq [] called logs,
                Run.Transcript.lines_isAborted, Run.Transcript.lines_nil,
                List.append_nil]
          | stopped foundToo =>
              rw [solitary.ends] at foundToo
              cases foundToo
          | moved foundToo =>
              rw [solitary.ends] at foundToo
              cases foundToo

/-! ### Calls -/

theorem LoadsSource.of_stored {reference source : String}
    {result : Except Interrupt String}
    (loading : LoadsSource node reference before transcript result)
    (stored : library reference = some source)
    (unseen : ¬ transcript.SeesAbort) (loads : transcript.LoadsFrom library) :
    result = .ok source := by
  cases loading with
  | aborted => exact (unseen (by simp [Run.Exchange.SeesAbort])).elim
  | interrupted => exact (unseen (by simp [Run.Exchange.SeesAbort])).elim
  | loaded other =>
      have given := loads before reference source (.ok other) (by simp) stored
      rw [Except.ok.inj given]
  | failed failure =>
      cases loads before reference source (.error failure) (by simp) stored

/-- A workflow that is stored is refused, or it is run as a frame of its
own. -/
theorem CallsWorkflow.of_stored {call : SubWorkflowCall} {source : String}
    {child : Workflow} {result : Except Interrupt (List (String × String))}
    (calls : CallsWorkflow engine runChild scope node call before transcript
      result after)
    (stored : library call.reference = some source)
    (read : Workflow.read source call.name = .ok child)
    (unseen : ¬ transcript.SeesAbort) (loads : transcript.LoadsFrom library) :
    let key := CallStack.key call.reference child.name
    let pushed := before.stack.push key engine.options.maxCallDepth
    (∃ error, pushed = .error error ∧ transcript.lines = [] ∧
        result = .error (.failed error)) ∨
      ∃ stack nested ended frame current, pushed = .ok stack ∧
        (runChild (scope.within key) child ⟨call.inputs, none⟩).Yields
          { before with stack } nested (ended, frame) current ∧
        nested <:+: transcript ∧ transcript.lines = nested.lines ∧
        result = callResult node key call.outputs frame.bindings ended := by
  cases calls with
  | notLoaded loading =>
      cases loading.of_stored stored unseen loads
  | notRead loading faulty =>
      obtain rfl := Except.ok.inj (loading.of_stored stored unseen loads)
      rw [read] at faulty
      cases faulty
  | refused loading readToo guarded =>
      obtain rfl := Except.ok.inj (loading.of_stored stored unseen loads)
      obtain rfl := Except.ok.inj (read.symm.trans readToo)
      exact .inl ⟨_, guarded, loading.lines_eq_nil, rfl⟩
  | @ran first nested _ _ stack ended frame current loading readToo entered
      runs =>
      have inside := (List.prefix_append first nested).isInfix
      obtain rfl := Except.ok.inj (loading.of_stored stored
        (Run.Transcript.not_seesAbort_of_infix inside unseen)
        (loads.of_infix inside))
      obtain rfl := Except.ok.inj (read.symm.trans readToo)
      refine .inr ⟨stack, nested, ended, frame, current, entered, runs,
        (List.suffix_append first nested).isInfix, ?_, rfl⟩
      rw [Run.Transcript.lines_append, loading.lines_eq_nil, List.nil_append]

/-- A workflow that is stored and not open is refused if there is no room, and
runs as a frame of its own otherwise. -/
theorem CallsWorkflow.of_closed {call : SubWorkflowCall}
    {source key : String} {child : Workflow} {room : Nat}
    {result : Except Interrupt (List (String × String))}
    (calls : CallsWorkflow engine runChild scope node call before transcript
      result after)
    (stored : library call.reference = some source)
    (read : Workflow.read source call.name = .ok child)
    (unseen : ¬ transcript.SeesAbort) (loads : transcript.LoadsFrom library)
    (entering : CallStack.key call.reference child.name = key)
    (closed : key ∉ before.stack.entries)
    (capacity : before.stack.entries.length + room =
      engine.options.maxCallDepth) :
    (room = 0 ∧ transcript.lines = [] ∧ result = .error (.failed
        (.depthExceeded key engine.options.maxCallDepth))) ∨
      ∃ more nested ended frame current, room = more + 1 ∧
        (runChild (scope.within key) child ⟨call.inputs, none⟩).Yields
          { before with stack := ⟨before.stack.entries ++ [key]⟩ } nested
          (ended, frame) current ∧
        nested <:+: transcript ∧ transcript.lines = nested.lines ∧
        result = callResult node key call.outputs frame.bindings ended := by
  subst entering
  have pushes := CallStack.push_of_not_mem closed engine.options.maxCallDepth
  rw [CallStack.depth] at pushes
  rcases calls.of_stored stored read unseen loads with
    ⟨error, refused, silent, failed⟩ |
      ⟨stack, nested, ended, frame, current, entered, runs⟩
  · rw [refused] at pushes
    split at pushes
    · obtain rfl := Except.error.inj pushes
      exact .inl ⟨by omega, silent, failed⟩
    · cases pushes
  · rw [entered] at pushes
    split at pushes
    · cases pushes
    · obtain rfl := Except.ok.inj pushes
      exact .inr ⟨room - 1, nested, ended, frame, current, by omega, runs⟩

/-- A node that describes a call makes it, unless the run is aborted. -/
theorem Drives.of_call {properties : OrderedMap String}
    {bindings left : Variables} {call : SubWorkflowCall}
    {result : Except Interrupt Target} {shown : Option String}
    (drives : Drives engine runChild (fuel + 1) scope node properties bindings
      before transcript result shown left after)
    (handled : engine.registry.handler? node.nodeType =
      some Handler.workflow)
    (describes : Step.describedCall? ⟨node, properties, engine.settings⟩
      bindings = some call)
    (unseen : ¬ transcript.SeesAbort) :
    ∃ calling outcome,
      CallsWorkflow engine runChild scope node call before calling outcome
        after ∧
      calling <:+: transcript ∧ transcript.lines = calling.lines ∧
      (result, shown, left) = afterCall node bindings outcome := by
  have carried := Step.program_callWorkflow describes
  cases drives with
  | unknown missing =>
      rw [missing] at handled
      cases handled
  | interrupted known interacts =>
      obtain rfl := Option.some.inj (known.symm.trans handled)
      obtain ⟨impossible, -⟩ := interacts.of_done carried rfl unseen
      cases impossible
  | jumped known interacts =>
      obtain rfl := Option.some.inj (known.symm.trans handled)
      obtain ⟨impossible, -⟩ := interacts.of_done carried rfl unseen
      cases impossible
  | callFailed known interacts calls =>
      obtain rfl := Option.some.inj (known.symm.trans handled)
      obtain ⟨same, rfl, rfl, rfl⟩ := interacts.of_done carried rfl
        fun seen => unseen (by simp [seen])
      cases same
      exact ⟨_, _, calls, (List.suffix_append _ _).isInfix, rfl, rfl⟩
  | called known interacts calls =>
      obtain rfl := Option.some.inj (known.symm.trans handled)
      obtain ⟨same, rfl, rfl, rfl⟩ := interacts.of_done carried rfl
        fun seen => unseen (by simp [seen])
      cases same
      exact ⟨_, _, calls, (List.suffix_append _ _).isInfix, rfl, rfl⟩

/-! ### Chains -/

/-- A workflow in a chain: the key under which it is entered, its node, and the
output with which this node succeeds. -/
structure Link where
  key : String
  node : Node
  output : String

/-- With some variables, a workflow begins a chain: it has one node, which
calls the next workflow and takes nothing over from it, or which sets a
variable. -/
inductive CallChain (settings : ServiceSettings)
    (library : String → Option String) :
    String → Workflow → Variables → List Link → Prop
  | sets {key text : String} {workflow : Workflow} {node : Node}
      {bindings : Variables} (only : workflow.nodes = [node])
      (isAssign : node.nodeType = .assign)
      (named : (Template.resolveAll bindings node.properties).get? "name" =
        some text)
      (notBlank : Text.isBlankText text = false) :
      CallChain settings library key workflow bindings
        [⟨key, node, assignedText node bindings⟩]
  | calls {key source : String} {workflow child : Workflow} {node : Node}
      {bindings : Variables} {call : SubWorkflowCall} {links : List Link}
      (only : workflow.nodes = [node]) (isCall : node.nodeType = .workflow)
      (describes : Step.describedCall?
        ⟨node, Template.resolveAll bindings node.properties, settings⟩
        bindings = some call)
      (unmapped : call.outputs = .empty)
      (stored : library call.reference = some source)
      (read : Workflow.read source call.name = .ok child)
      (rest : CallChain settings library
        (CallStack.key call.reference child.name) child call.inputs links) :
      CallChain settings library key workflow bindings
        (⟨key, node, "\x7b\x7d"⟩ :: links)

theorem CallChain.exists_first {settings : ServiceSettings} {key : String}
    {bindings : Variables} {links : List Link}
    (chain : CallChain settings library key workflow bindings links) :
    ∃ first rest, links = first :: rest ∧ first.key = key := by
  cases chain with
  | sets => exact ⟨_, _, rfl, rfl⟩
  | calls => exact ⟨_, _, rfl, rfl⟩

namespace Link

/-- Why the first workflow is refused for which there is no room. -/
def refusal (maxDepth room : Nat) (links : List Link) : Option RunError :=
  links[room]?.map fun link => .depthExceeded link.key maxDepth

def line (link : Link) (message : String) (status : LogStatus) : LogLine :=
  ⟨link.node.id, link.node.nodeType.tag, message, status⟩

/-- The last line of a node: it succeeds, unless a workflow is refused further
on. -/
def closing (logValues : Bool) (link : Link) : Option RunError → LogLine
  | none =>
    link.line (if logValues then "completed: " ++ link.output else "completed")
      .success
  | some error => link.line error.message .error

/-- Where the first workflow of a chain logs, seen from its caller. -/
def path : List Link → String
  | [] => ""
  | link :: _ => link.key ++ "/"

/-- The log of a chain: each node starts, the called workflow logs what it
does, and then the node ends. -/
def log (logValues : Bool) (refused : Option RunError) :
    List Link → List LogLine
  | [] => []
  | link :: rest =>
    link.line "started" .info ::
      ((log logValues refused rest).map (LogLine.within (path rest)) ++
        [link.closing logValues refused])

variable {logValues : Bool} {visit : Visit} {error : RunError}

/-- The lines of a node that succeeds, with those of a chain that it calls. -/
theorem lines_of_ok (link : Link) {target : Target}
    (same : visit.node = link.node) (leads : visit.result = .ok target)
    (shown : visit.output = some link.output) (rest : List Link) :
    visit.lines logValues []
        ((log logValues none rest).map (LogLine.within (path rest))) =
      log logValues none (link :: rest) := by
  have closes : visit.closing logValues = link.closing logValues none := by
    cases logValues <;> simp [Visit.closing, closing, line, same, leads, shown]
  rw [Visit.lines, closes, Visit.opening, same]
  rfl

/-- The lines of a node in which the guard of nested calls refuses a workflow:
the error is worded as it is at the end of a run. -/
theorem lines_of_guard (link : Link) (same : visit.node = link.node)
    (stops : visit.result = .error (.failed error))
    (guarded : error.isGuard = true) (rest : List Link) :
    visit.lines logValues []
        ((log logValues (some error) rest).map (LogLine.within (path rest))) =
      log logValues (some error) (link :: rest) := by
  have worded : error.stepMessage = error.message := by
    cases error <;> first | rfl | cases guarded
  have closes : visit.closing logValues =
      link.closing logValues (some error) := by
    simp [Visit.closing, closing, line, same, stops, worded]
  rw [Visit.lines, closes, Visit.opening, same]
  rfl

end Link

/-- How a frame ends in which a workflow is refused, or none. -/
def endsWith : Option RunError → Except Interrupt Unit
  | none => .ok ()
  | some error => .error (.failed error)

/-- A frame ends and logs as a chain does of which so many workflows are
entered: it ends well if there are no more, and with the refusal of the next
one otherwise.  Nothing is executed but the nodes of the workflows that are
entered. -/
structure GoesAlong (engine : Engine) (scope : Scope) (entered : Nat)
    (links : List Link) (ended : Except Interrupt Unit)
    (transcript : Run.Transcript) : Prop where
  ended_eq : ended =
    endsWith (Link.refusal engine.options.maxCallDepth entered links)
  lines_eq : transcript.lines = (Link.log engine.options.logValues
    (Link.refusal engine.options.maxCallDepth entered links)
    (links.take entered)).map (LogLine.within scope.path)

section Steps

variable {key : String} {visit : Visit} {first : Link} {others : List Link}
  {call : SubWorkflowCall} {child : Variables}
  {driving nested : Run.Transcript} {endedChild : Except Interrupt Unit}

/-- The last workflow of a chain. -/
theorem goesAlong_of_last {output : String} (room : Nat)
    (settled : SettledBy engine scope visit driving transcript ended)
    (silent : driving.lines = [])
    (leads : visit.result = .ok visit.node.jumps.next)
    (shown : visit.output = some output) :
    GoesAlong engine scope (room + 1) [⟨key, visit.node, output⟩] ended
      transcript := by
  obtain ⟨rfl, logs⟩ := settled (.ok ()) [] leads silent
  refine ⟨rfl, ?_⟩
  rw [logs, List.take_succ_cons, List.take_nil]
  exact congrArg _
    (Link.lines_of_ok ⟨key, visit.node, output⟩ rfl leads shown [])

/-- A workflow whose node calls one for which there is no room. -/
theorem goesAlong_of_refused
    (settled : SettledBy engine scope visit driving transcript ended)
    (silent : driving.lines = [])
    (stops : visit.result = .error (.failed
      (.depthExceeded first.key engine.options.maxCallDepth))) :
    GoesAlong engine scope 1
      (⟨key, visit.node, "\x7b\x7d"⟩ :: first :: others) ended
      transcript := by
  obtain ⟨rfl, logs⟩ := settled (.error _) [] stops silent
  refine ⟨rfl, ?_⟩
  rw [logs]
  exact congrArg _
    (Link.lines_of_guard ⟨key, visit.node, "\x7b\x7d"⟩ rfl stops rfl [])

/-- A workflow whose node calls one that is entered: the end of the called one
is the end of the caller. -/
theorem GoesAlong.of_called {room : Nat}
    (along : GoesAlong engine (scope.within first.key) (room + 1)
      (first :: others) endedChild nested)
    (settled : SettledBy engine scope visit driving transcript ended)
    (logsCall : driving.lines = nested.lines)
    (unmapped : call.outputs = .empty)
    (results : (visit.result, visit.output, visit.after) =
      afterCall visit.node visit.bindings
        (callResult visit.node first.key call.outputs child endedChild)) :
    GoesAlong engine scope (room + 2)
      (⟨key, visit.node, "\x7b\x7d"⟩ :: first :: others) ended
      transcript := by
  obtain ⟨rfl, logsAs⟩ := along
  have same : Link.refusal engine.options.maxCallDepth (room + 2)
      (⟨key, visit.node, "\x7b\x7d"⟩ :: first :: others) =
      Link.refusal engine.options.maxCallDepth (room + 1)
        (first :: others) := rfl
  rw [List.take_succ_cons] at logsAs
  have logsDriving : driving.lines = ((Link.log engine.options.logValues
      (Link.refusal engine.options.maxCallDepth (room + 1) (first :: others))
      (first :: others.take room)).map
        (LogLine.within (first.key ++ "/"))).map
          (LogLine.within scope.path) := by
    rw [logsCall, logsAs, List.map_map]
    refine List.map_congr_left fun line _ => ?_
    rw [Function.comp_apply, LogLine.within_within, Scope.within,
      String.append_assoc]
  cases found : others[room]? with
  | none =>
      have unrefused : Link.refusal engine.options.maxCallDepth (room + 1)
          (first :: others) = none := by
        simp [Link.refusal, found]
      rw [unrefused] at same results logsDriving
      obtain ⟨leads, left⟩ := Prod.mk.inj results
      have shown := (Prod.mk.inj left).1
      rw [unmapped] at shown
      obtain ⟨rfl, logs⟩ := settled (.ok ()) _ leads logsDriving
      constructor
      · rw [same]
        rfl
      · rw [logs, same]
        exact congrArg _ (Link.lines_of_ok ⟨key, visit.node, "\x7b\x7d"⟩
          rfl leads shown (first :: others.take room))
  | some link =>
      have refused : Link.refusal engine.options.maxCallDepth (room + 1)
          (first :: others) = some (.depthExceeded link.key
            engine.options.maxCallDepth) := by
        simp [Link.refusal, found]
      rw [refused] at same results logsDriving
      have stops := (Prod.mk.inj results).1
      obtain ⟨rfl, logs⟩ := settled (.error _) _ stops logsDriving
      constructor
      · rw [same]
        rfl
      · rw [logs, same]
        exact congrArg _ (Link.lines_of_guard ⟨key, visit.node, "\x7b\x7d"⟩
          rfl stops rfl (first :: others.take room))

end Steps

/-- The frame of a chain that has been entered, with room for so many more
workflows. -/
theorem CallChain.goesAlong
    (standard : engine.registry = Registry.standard) {room : Nat}
    {key source : String} {name : Option String} {bindings : Variables}
    {links : List Link}
    (chain : CallChain engine.settings library key workflow bindings links)
    (read : Workflow.read source name = .ok workflow)
    (capacity : before.stack.entries.length + room =
      engine.options.maxCallDepth)
    (distinct : (before.stack.entries ++ links.tail.map Link.key).Nodup)
    (enough : links.length < fuel) (given : frame.bindings = bindings)
    (yields : (engine.nested fuel scope workflow frame).Yields before
      transcript (ended, reached) after)
    (unseen : ¬ transcript.SeesAbort) (loads : transcript.LoadsFrom library) :
    GoesAlong engine scope (room + 1) links ended transcript := by
  induction chain generalizing room source name frame fuel scope before
      transcript ended reached after with
  | @sets key text workflow node bindings only isAssign named notBlank =>
      have solitary := hasOnly_of_read read only (by rw [isAssign]; rfl)
      obtain ⟨fuel, rfl⟩ : ∃ more, fuel = more + 2 :=
        ⟨fuel - 2, by simp only [List.length_singleton] at enough; omega⟩
      obtain ⟨visits, walk⟩ := walk_of_yields yields
      obtain ⟨visit, driving, current, rfl, same, drives, inside, settled⟩ :=
        walk.of_hasOnly solitary unseen
      rw [given] at same
      subst same
      have handled : engine.registry.handler? visit.node.nodeType =
          some ⟨Step.assignWith id, Handler.refuse⟩ := by
        rw [standard, isAssign]
        rfl
      obtain ⟨leads, shown, -, asked⟩ := drives.of_does rfl
        (does_assignWith_of_named handled named notBlank)
        (Run.Transcript.not_seesAbort_of_infix inside unseen)
      exact goesAlong_of_last room settled (by rw [asked]; rfl) leads shown
  | @calls key source workflow child node bindings call links only isCall
      describes unmapped stored readChild rest ih =>
      have solitary := hasOnly_of_read read only (by rw [isCall]; rfl)
      obtain ⟨fuel, rfl⟩ : ∃ more, fuel = more + 2 :=
        ⟨fuel - 2, by simp only [List.length_cons] at enough; omega⟩
      obtain ⟨visits, walk⟩ := walk_of_yields yields
      obtain ⟨visit, driving, current, rfl, same, drives, inside, settled⟩ :=
        walk.of_hasOnly solitary unseen
      rw [given] at same
      subst same
      have handled : engine.registry.handler? visit.node.nodeType =
          some Handler.workflow := by
        rw [standard, isCall]
        rfl
      obtain ⟨calling, outcome, calls, within, logsCall, results⟩ :=
        drives.of_call handled describes
          (Run.Transcript.not_seesAbort_of_infix inside unseen)
      have insideToo := within.trans inside
      obtain ⟨first, others, rfl, entering⟩ := rest.exists_first
      rw [List.tail_cons, List.map_cons, ← List.singleton_append,
        ← List.append_assoc] at distinct
      have closed : first.key ∉ before.stack.entries := fun isOpen =>
        (List.nodup_append.1 (List.nodup_append.1 distinct).1).2.2 _ isOpen _
          (List.mem_singleton_self _) rfl
      rcases calls.of_closed stored readChild
          (Run.Transcript.not_seesAbort_of_infix insideToo unseen)
          (loads.of_infix insideToo) entering.symm closed capacity with
        ⟨rfl, silent, rfl⟩ | ⟨room, nested, endedChild, childFrame,
          currentChild, rfl, runs, innermost, logsNested, rfl⟩
      · exact goesAlong_of_refused settled (by rw [logsCall, silent])
          (Prod.mk.inj results).1
      · have capacityChild : (before.stack.entries ++
            [first.key]).length + room = engine.options.maxCallDepth := by
          rw [List.length_append, List.length_singleton]
          omega
        have along := ih readChild capacityChild distinct
          (by simp only [List.length_cons] at enough ⊢; omega) rfl runs
          (Run.Transcript.not_seesAbort_of_infix
            (innermost.trans insideToo) unseen)
          (loads.of_infix (innermost.trans insideToo))
        exact along.of_called settled (logsCall.trans logsNested) unmapped
          results

/-- The outermost workflow of a chain counts among those that are nested. -/
theorem RunsOutermost.goesAlong
    (standard : engine.registry = Registry.standard) {source : String}
    {name : Option String} {links : List Link}
    (chain : CallChain engine.settings library
      (CallStack.key before.reference workflow.name) workflow frame.bindings
      links)
    (read : Workflow.read source name = .ok workflow)
    (nothingOpen : before.stack = .empty)
    (distinct : (links.map Link.key).Nodup) (enough : links.length < fuel)
    (runs : RunsOutermost engine fuel workflow frame before transcript ended
      reached after)
    (unseen : ¬ transcript.SeesAbort) (loads : transcript.LoadsFrom library) :
    GoesAlong engine ⟨""⟩ engine.options.maxCallDepth links ended
      transcript := by
  obtain ⟨first, others, rfl, entering⟩ := chain.exists_first
  have closed : first.key ∉ CallStack.empty.entries := List.not_mem_nil
  have pushes := CallStack.push_of_not_mem closed engine.options.maxCallDepth
  cases runs with
  | refused guarded =>
      rw [nothingOpen, ← entering, pushes] at guarded
      split at guarded
      · rename_i full
        obtain rfl := Except.error.inj guarded
        have noRoom : engine.options.maxCallDepth = 0 := Nat.le_zero.1 full
        constructor <;> rw [noRoom] <;> rfl
      · cases guarded
  | entered entered yields =>
      rw [nothingOpen, ← entering, pushes] at entered
      split at entered
      · cases entered
      · rename_i full
        obtain rfl := Except.ok.inj entered
        obtain ⟨room, capacity⟩ :=
          Nat.exists_eq_add_of_lt (Nat.lt_of_not_le full)
        have counted : (CallStack.empty.entries ++ [first.key]).length + room =
            engine.options.maxCallDepth := by
          simp only [CallStack.depth, CallStack.empty] at capacity ⊢
          simp only [List.length_nil, List.nil_append, List.length_singleton]
            at capacity ⊢
          omega
        have along := chain.goesAlong standard read counted
          (by simpa [CallStack.empty, ← List.map_cons] using distinct) enough
          rfl yields unseen loads
        rwa [capacity, CallStack.depth, CallStack.empty, List.length_nil,
          Nat.zero_add]

/-- The limit of nested calls is exact.  A run of a chain of workflows with
distinct keys that nobody aborts comes to an end: it completes if no more
workflows are in the chain than may be nested, and fails otherwise with the
refusal of the first one beyond them, which is not wrapped by any caller.  Its
log is that of the workflows that may be nested, and since whatever is executed
starts with a line of its log, nothing is executed beyond them. -/
theorem execute_nests_exactly {engine : Engine}
    (standard : engine.registry = Registry.standard)
    (library : String → Option String) {workflow : Workflow} {source : String}
    {name : Option String} (read : Workflow.read source name = .ok workflow)
    {bindings : Variables} {links : List Link} (id reference : String)
    (chain : CallChain engine.settings library
      (CallStack.key reference workflow.name) workflow bindings links)
    (distinct : (links.map Link.key).Nodup) {fuel : Nat}
    (enough : links.length < fuel) {transcript : Run.Transcript}
    {outcome? : Option RunOutcome} {after : Run}
    (yields : (engine.execute fuel workflow bindings).Yields
      (.fresh id reference) transcript outcome? after)
    (unseen : ¬ transcript.SeesAbort) (loads : transcript.LoadsFrom library) :
    let maxDepth := engine.options.maxCallDepth
    ∃ outcome, outcome? = some outcome ∧
      (outcome.status = .completed ↔ links.length ≤ maxDepth) ∧
      (∀ link, links[maxDepth]? = some link → outcome.status = .error ∧
        outcome.error = some (.depthExceeded link.key maxDepth)) ∧
      transcript.lines = Link.log engine.options.logValues
        (Link.refusal maxDepth maxDepth links) (links.take maxDepth) := by
  have along {running : Run.Transcript} {ended : Except Interrupt Unit}
      {started : Instant} {frame : Frame} {reached : Run}
      (runs : RunsOutermost engine fuel workflow
        ⟨bindings, some (firstRecord workflow (.fresh id reference) started)⟩
        { Run.fresh id reference with status := .running } running ended frame
        reached)
      (inside : running <:+: transcript) :=
    runs.goesAlong standard chain read rfl distinct enough
      (Run.Transcript.not_seesAbort_of_infix inside unseen)
      (loads.of_infix inside)
  cases proceeds_of_yields yields with
  | @exhausted started running ended frame _ runs endless =>
      obtain ⟨rfl, -⟩ := along runs (List.suffix_append _ _).isInfix
      cases found : links[engine.options.maxCallDepth]? <;>
        simp [Link.refusal, found, endsWith, runEnd?] at endless
  | @ended started finished running ended frame reached status error runs
      ends =>
      obtain ⟨rfl, logs⟩ := along runs (List.infix_append _ _ _)
      refine ⟨_, rfl, ?_⟩
      dsimp only
      rw [Run.Transcript.lines_append, Run.Transcript.lines_append,
        lines_opening, lines_closing, logs, LogLine.map_within_empty,
        List.nil_append, List.append_nil]
      cases found : links[engine.options.maxCallDepth]? with
      | none =>
          rw [Link.refusal, found] at ends
          cases ends
          refine ⟨iff_of_true rfl (List.getElem?_eq_none_iff.1 found), ?_, rfl⟩
          rintro link ⟨⟩
      | some refused =>
          rw [Link.refusal, found] at ends
          cases ends
          have beyond := (List.getElem?_eq_some_iff.1 found).1
          refine ⟨iff_of_false (by simp) (Nat.not_le.2 beyond), ?_, rfl⟩
          rintro link ⟨⟩
          exact ⟨rfl, rfl⟩

/-! ### Three workflows in a row -/

deriving instance DecidableEq for Node, Workflow

/-- The node that has another workflow run. -/
def delegate (path : String) : Node :=
  ⟨"node-1", .workflow, .ofList [("path", path)], ⟨.pastEnd, none, none⟩⟩

/-- The node that sets a variable. -/
def setter : Node :=
  ⟨"node-1", .assign, .ofList [("name", "y"), ("value", "1")],
    ⟨.pastEnd, none, none⟩⟩

/-- The workflow of one node. -/
def solo (node : Node) : Workflow :=
  ⟨"default", none, [node], 0⟩

/-- A document that sets a variable. -/
def settingText : String :=
  "nodes: [\x7btype: variable, name: y, value: 1\x7d]"

/-- A store with a document that calls another one, which sets a variable. -/
def shelf : String → Option String
  | "middle" => some (delegationText "inner")
  | "inner" => some settingText
  | _ => none

/-- An oracle that loads these documents. -/
def librarian : Oracle Unit :=
  { Oracle.refusing with
    call := fun
      | .loadWorkflow reference, services =>
        ((shelf reference).elim (.error (.of "no such document")) .ok,
          services)
      | call, services => Oracle.refusing.call call services }

theorem librarian_loadsFrom {α : Type} (computation : Running α)
    (before : Run) (state : Oracle.State Unit) :
    Run.Transcript.LoadsFrom
      (librarian.run computation before state).transcript shelf := by
  intro run reference stored reply member isStored
  obtain ⟨state, replied⟩ := Run.isFrom_converse librarian.reply
    (computation before) state _ member
  have given : some reply = some ((shelf reference).elim
      (.error (.of "no such document")) .ok) := replied
  rw [isStored] at given
  exact Option.some.inj given

/-- The engine that knows all types of nodes, and nests two workflows. -/
def shallow : Engine :=
  { unattended with options := ⟨2, false⟩ }

/-- The three workflows. -/
def row : List Link :=
  [⟨"outer:default", delegate "middle", "\x7b\x7d"⟩,
    ⟨"middle:default", delegate "inner", "\x7b\x7d"⟩,
    ⟨"inner:default", setter, "1"⟩]

theorem row_isChain :
    CallChain shallow.settings shelf "outer:default" (solo (delegate "middle"))
      .empty row := by
  have describes (path : String) (among : path = "middle" ∨ path = "inner") :
      Step.describedCall? ⟨delegate path,
        Template.resolveAll .empty (delegate path).properties,
        shallow.settings⟩ .empty = some ⟨path, none, .empty, .empty⟩ := by
    rcases among with rfl | rfl <;> decide +kernel
  have middle : Workflow.read (delegationText "inner") none =
      .ok (solo (delegate "inner")) :=
    eq_ok_of_toOption (by decide +kernel)
  have inner : Workflow.read settingText none = .ok (solo setter) :=
    eq_ok_of_toOption (by decide +kernel)
  have named : (Template.resolveAll .empty setter.properties).get? "name" =
      some "y" := by
    decide +kernel
  refine .calls rfl rfl (describes "middle" (.inl rfl)) rfl rfl middle ?_
  refine .calls rfl rfl (describes "inner" (.inr rfl)) rfl rfl inner ?_
  exact .sets rfl rfl named (by decide)

theorem execute_nests_exactly_row :
    ∃ transcript outcome after,
      (shallow.execute 4 (solo (delegate "middle")) .empty).Yields
        (.fresh "id" "outer") transcript (some outcome) after ∧
      outcome.status = .error ∧
      outcome.error = some (.depthExceeded "inner:default" 2) ∧
      transcript.lines.map LogLine.nodeId =
        ["node-1", "middle:default/node-1", "middle:default/node-1",
          "node-1"] := by
  have read : Workflow.read (delegationText "middle") none =
      .ok (solo (delegate "middle")) :=
    eq_ok_of_toOption (by decide +kernel)
  have yields := librarian.yields_run
    (shallow.execute 4 (solo (delegate "middle")) .empty)
    (Run.fresh "id" "outer") .still
  obtain ⟨outcome, ended, -, refused, lines_eq⟩ :=
    execute_nests_exactly rfl shelf read "id" "outer" row_isChain
      (by decide +kernel) (by decide) yields
      (librarian.not_seesAbort_run _ _ _) (librarian_loadsFrom _ _ _)
  obtain ⟨status, error⟩ := refused _ rfl
  rw [ended] at yields
  refine ⟨_, outcome, _, yields, status, error, ?_⟩
  rw [lines_eq]
  decide +kernel

end Engine

end Runbook
