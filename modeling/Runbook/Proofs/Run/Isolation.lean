import Runbook.Proofs.Run.Alike
import Runbook.Proofs.Run.Walk
import Runbook.Proofs.Step.Directive

/-!
# Workflows run on their own

A called workflow runs as it would on its own: the parts of an engine are alike
in a frame that is nested and in one that is not, up to the path of the log.
Only the guard of nested calls sees the difference, and the ids if handlers
look at them.
-/

namespace Runbook

/-- A scope under a path. -/
def Engine.Scope.under (path : String) (scope : Scope) : Scope :=
  ⟨path ++ scope.path⟩

/-- A handler that does the same with twins of a request, or never asks. -/
def Handler.Respects (sameIds : Prop) (handler : Handler) : Prop :=
  (∀ first second answer, first.Twins sameIds second →
    handler.resume first answer = handler.resume second answer) ∨
  ∀ context before transcript prompt after,
    ¬ handler.execute.Yields context before transcript
      (.ok (.suspend prompt)) after

/-- A registry whose handlers do the same with twins of a request. -/
def Registry.Respects (sameIds : Prop) (registry : Registry) : Prop :=
  ∀ nodeType handler, registry.handler? nodeType = some handler →
    handler.Respects sameIds

theorem Registry.respects_true (registry : Registry) :
    registry.Respects True := by
  refine fun nodeType handler known => .inl fun first second answer twins => ?_
  rw [twins.eq_of_sameIds trivial]

theorem Oracle.respects_true {Services : Type} (oracle : Oracle Services) :
    oracle.Respects True := by
  intro first second services twins
  rw [twins.eq_of_sameIds trivial]

/-- A registry whose handlers do not look at ids. -/
abbrev Registry.IgnoresIds (registry : Registry) : Prop :=
  registry.Respects False

/-- The standard handlers look at the prompt of a request only, or do not
ask. -/
theorem Registry.standard_ignoresIds : Registry.standard.IgnoresIds := by
  intro nodeType handler known
  obtain rfl := Option.some.inj known
  by_cases asksNobody : nodeType.prompts = []
  · refine .inr fun context before transcript prompt after yields => ?_
    have fits : prompt.kind ∈ nodeType.prompts :=
      (Handler.standard_fits nodeType).execute.value_allowed yields
    rw [asksNobody] at fits
    cases fits
  · refine .inl ?_
    rintro ⟨id, run, nodeId, prompt⟩ ⟨other, otherRun, _, _⟩ answer
      ⟨_, rfl, -⟩
    cases nodeType with
    | driveFile => rfl
    | driveRead => rfl
    | dialog => rfl
    | promptValue => rfl
    | promptFile => rfl
    | promptSelection => rfl
    | _ => exact absurd rfl asksNobody

/-- An oracle that does not look at ids. -/
abbrev Oracle.IgnoresIds {Services : Type} (oracle : Oracle Services) : Prop :=
  oracle.Respects False

namespace Engine

/-- What ends an execution that need not be like another one: the guard of
nested calls, and the end of the steps if it may take fewer of them. -/
def Interrupt.Stops (fewer : Prop) : Interrupt → Prop
  | .cancelled => False
  | .failed error => error.isGuard = true
  | .exhausted => fewer

/-- An execution ends in a way that says nothing of another one. -/
def Stops {α : Type} (fewer : Prop) (result : Except Interrupt α) : Prop :=
  ∃ interrupt, result = .error interrupt ∧ interrupt.Stops fewer

/-- As many steps, or fewer if that is allowed. -/
def AtMost (fewer : Prop) (fuel more : Nat) : Prop :=
  fuel = more ∨ fewer ∧ fuel ≤ more

theorem AtMost.pred {fewer : Prop} {fuel more : Nat}
    (atMost : AtMost fewer (fuel + 1) more) :
    ∃ rest, more = rest + 1 ∧ AtMost fewer fuel rest := by
  rcases atMost with rfl | ⟨allowed, fits⟩
  · exact ⟨fuel, rfl, .inl rfl⟩
  · obtain ⟨rest, rfl⟩ := Nat.exists_eq_add_of_le' fits
    exact ⟨rest + fuel, rfl, .inr ⟨allowed, Nat.le_add_left fuel rest⟩⟩

variable {engine : Engine} {sameIds fewer : Prop} {path : String}
  {outer inner : List String} {scope : Scope} {node : Node}
  {α γ δ : Type} {matched : γ → δ → Prop} {stopped : γ → Prop}

theorem alike_log (message : String) (status : LogStatus)
    {next : Unit → Running γ} {other : Unit → Running δ}
    (rest : Running.Alike sameIds path outer inner matched stopped (next ())
      (other ())) :
    Running.Alike sameIds path outer inner matched stopped
      (log (scope.under path) node message status >>= next)
      (log scope node message status >>= other) := by
  have line : log (scope.under path) node message status =
      Running.publish (.log (LogLine.within path
        ⟨scope.path ++ node.id, node.nodeType.tag, message, status⟩)) := by
    simp only [log, Scope.under, LogLine.within, String.append_assoc]
  rw [line]
  exact .log _ rest

theorem alike_runWith (program : Program Step.Question Step.Reply α) :
    Running.Alike sameIds path outer inner Eq (fun _ => False)
      (program.runWith (answerStep (scope.under path) node))
      (program.runWith (answerStep scope node)) := by
  induction program with
  | done value => exact .pure rfl
  | ask question next ih =>
      cases question with
      | call call => exact .call call fun result => ih (some result)
      | sleep nanoseconds => exact .sleep nanoseconds (ih (some ()))
      | note message => exact alike_log message .info (ih ())

theorem alike_runStep (context : Step.Context) (step : Step α)
    (state : Step.State) :
    Running.Alike sameIds path outer inner Eq (fun _ => False)
      (runStep (scope.under path) context step state)
      (runStep scope context step state) := by
  refine .unaborted ?_
  refine (alike_runWith _).andThen ?_
  rintro ⟨result, ended⟩ _ rfl
  rcases result with (failure | _) | value <;> exact .pure rfl

/-- Answers to twins of a request. -/
def AnswersAlike (sameIds : Prop) :
    Except Interrupt (PromptRequest × Option String) →
      Except Interrupt (PromptRequest × Option String) → Prop
  | .ok (first, answer), .ok (second, another) =>
    first.Twins sameIds second ∧ answer = another
  | .error first, .error second => first = second
  | _, _ => False

theorem alike_awaitAnswer (prompt : Prompt) :
    Running.Alike sameIds path outer inner (AnswersAlike sameIds)
      (fun _ => False) (engine.awaitAnswer node prompt)
      (engine.awaitAnswer node prompt) := by
  unfold awaitAnswer
  cases engine.hasPrompts with
  | false => exact .pure rfl
  | true =>
      simp only [Bool.not_true, Bool.false_eq_true, if_false]
      refine .newId fun id another same => ?_
      refine .get fun first second beside => ?_
      have twins : PromptRequest.Twins sameIds
          ⟨id, first.id, node.id, prompt⟩
          ⟨another, second.id, node.id, prompt⟩ := by
        refine ⟨rfl, rfl, fun isSame => ?_⟩
        rw [same isSame, beside.id_eq isSame]
      refine .transition _ ?_
      refine .prompt twins ?_
      refine .unaborted ?_
      refine .answer twins fun answer => ?_
      refine .transition _ ?_
      exact .pure ⟨twins, rfl⟩

/-- What has no steps left is like what has none left either. -/
theorem alike_exhausted {left : Running α} {right : Running γ} {more : Nat}
    {related : α → γ → Prop} {result : α → Except Interrupt δ}
    (atMost : AtMost fewer 0 more)
    (both : more = 0 → Running.Alike sameIds path outer inner related
      (fun value => Stops fewer (result value)) left right)
    (ends : left.EndsWith fun value => result value = .error .exhausted) :
    Running.Alike sameIds path outer inner related
      (fun value => Stops fewer (result value)) left right := by
  rcases atMost with rfl | ⟨allowed, -⟩
  · exact both rfl
  · refine .trips fun before transcript value after yields => ?_
    exact ⟨.exhausted, ends _ _ _ _ yields, allowed⟩

/-- A step that never asks, or a handler for whose answers the ids do not
matter. -/
theorem alike_interact (context : Step.Context) {handler : Handler}
    {fuel more : Nat} (atMost : AtMost fewer fuel more)
    (step : Step Directive) (state : Step.State)
    (respects : (∀ first second answer, first.Twins sameIds second →
        handler.resume first answer = handler.resume second answer) ∨
      ∀ context before transcript prompt after,
        ¬ step.Yields context before transcript (.ok (.suspend prompt))
          after) :
    Running.Alike sameIds path outer inner Eq
      (fun result => Stops fewer result.1)
      (engine.interact (scope.under path) context handler fuel step state)
      (engine.interact scope context handler more step state) := by
  induction fuel generalizing more step state with
  | zero =>
      refine alike_exhausted atMost ?_ (.pure rfl)
      rintro rfl
      exact .pure rfl
  | succ fuel ih =>
      obtain ⟨more, rfl, remaining⟩ := atMost.pred
      rw [interact, interact]
      refine (alike_runStep context step state).yielded.andThen ?_
      rintro ⟨result, ended⟩ _ ⟨rfl, before, transcript, after, yields⟩
      rcases result with interrupt | directive
      · exact .pure rfl
      · cases directive with
        | suspend prompt =>
            refine (alike_awaitAnswer prompt).andThen ?_
            rintro (interrupt | ⟨first, answer⟩) (other | ⟨second, another⟩)
              alike
            · obtain rfl : interrupt = other := alike
              exact .pure rfl
            · exact alike.elim
            · exact alike.elim
            · obtain ⟨twins, rfl⟩ := alike
              dsimp only
              -- A step that never asks does not come here.
              rcases respects with sameResume | silent
              · rw [← sameResume first second answer twins]
                exact ih remaining _ _ (.inl sameResume)
              · rw [yields_runStep_iff] at yields
                obtain ⟨-, ⟨-, impossible, -⟩ | ⟨exchanges, stepped, carried,
                  -, result_eq⟩⟩ := yields
                · cases impossible
                · rcases stepped with (failure | _) | directive
                  · cases result_eq
                  · cases result_eq
                  · cases result_eq
                    exact (silent _ _ _ _ _ carried).elim
        | _ => exact .pure rfl

theorem alike_loadSource (reference : String) :
    Running.Alike sameIds path outer inner Eq (fun _ => False)
      (loadSource node reference) (loadSource node reference) := by
  refine .unaborted ?_
  refine .call _ fun result => ?_
  cases result with
  | error failure => exact .pure rfl
  | ok source => exact .pure rfl

/-- The guard refuses what it refuses below another stack. -/
theorem push_append {first second : CallStack} {key : String} {maxDepth : Nat}
    (stack_eq : first.entries = outer ++ second.entries) :
    (∃ error, first.push key maxDepth = .error error ∧
        error.isGuard = true) ∨
      first.push key maxDepth = .ok ⟨outer ++ (second.entries ++ [key])⟩ ∧
        second.push key maxDepth = .ok ⟨second.entries ++ [key]⟩ := by
  unfold CallStack.push CallStack.contains CallStack.depth
  rw [stack_eq]
  by_cases cycle : (outer ++ second.entries).contains key = true
  · rw [if_pos cycle]
    exact .inl ⟨_, rfl, rfl⟩
  · rw [if_neg cycle]
    by_cases deep : maxDepth ≤ (outer ++ second.entries).length
    · rw [if_pos deep]
      exact .inl ⟨_, rfl, rfl⟩
    · have noCycle : ¬ second.entries.contains key = true := by
        simp only [List.contains_eq_mem, decide_eq_true_eq,
          List.mem_append, not_or] at cycle ⊢
        exact cycle.2
      have notDeep : ¬ maxDepth ≤ second.entries.length := by
        rw [List.length_append] at deep
        omega
      rw [if_neg deep, if_neg noCycle, if_neg notDeep, List.append_assoc]
      exact .inr ⟨rfl, rfl⟩

/-- The ends of two frames: the same variables, and no record on the left. -/
def FramesAlike {α : Type} (first second : Except Interrupt α × Frame) :
    Prop :=
  first.1 = second.1 ∧ first.2.bindings = second.2.bindings ∧
    first.2.record = none

/-- What stops a called workflow is passed on as it is. -/
theorem returned_of_stops {key : String} {interrupt : Interrupt}
    (stops : interrupt.Stops fewer) :
    returned node key interrupt = interrupt := by
  cases interrupt with
  | cancelled => rfl
  | failed error => exact if_pos stops
  | exhausted => rfl

/-- What runs the frames below two frames is alike. -/
def RunnersAlike (sameIds fewer : Prop) (path : String) (outer : List String)
    (runChild runOther : FrameRunner) : Prop :=
  ∀ inner scope workflow bindings,
    Running.Alike sameIds path outer inner FramesAlike
      (fun ended => Stops fewer ended.1)
      (runChild (scope.under path) workflow ⟨bindings, none⟩)
      (runOther scope workflow ⟨bindings, none⟩)

theorem alike_callWorkflow {runChild runOther : FrameRunner}
    (call : SubWorkflowCall)
    (alikeChild : RunnersAlike sameIds fewer path outer runChild runOther) :
    Running.Alike sameIds path outer inner Eq (Stops fewer)
      (engine.callWorkflow runChild (scope.under path) node call)
      (engine.callWorkflow runOther scope node call) := by
  refine (alike_loadSource call.reference).andThen ?_
  rintro (interrupt | source) _ rfl
  · exact .pure rfl
  · dsimp only
    cases Workflow.read source call.name with
    | error cause => exact .pure rfl
    | ok child =>
        dsimp only
        refine .get fun first second beside => ?_
        have stack_eq : first.stack.entries =
            outer ++ second.stack.entries := by
          rw [beside.stack_eq, beside.inner_eq]
        rcases push_append stack_eq with ⟨error, refused, isGuard⟩ |
          ⟨pushed, pushedToo⟩
        · -- Only the stack that stands on others can be refused here.
          rw [refused]
          exact .trips (.pure ⟨.failed error, rfl, isGuard⟩)
        · rw [beside.inner_eq] at pushed pushedToo
          rw [pushed, pushedToo]
          have under : Scope.mk ((scope.under path).path ++
              CallStack.key call.reference child.name ++ "/") =
              Scope.under path ⟨scope.path ++
                CallStack.key call.reference child.name ++ "/"⟩ := by
            simp only [Scope.under, String.append_assoc]
          rw [under]
          have entered (framed : List String) :
              Run.Beside sameIds outer framed
                { first with stack := ⟨outer ++ framed⟩ }
                { second with stack := ⟨framed⟩ } := ⟨rfl, rfl, beside.id_eq⟩
          refine .enter (entered _) (alikeChild _ _ _ _) ?_ ?_
          · rintro ⟨ended, frame⟩ ⟨_, other⟩ ⟨rfl, bindings_eq, -⟩ reached
              otherReached still
            have left : Run.Beside sameIds outer inner
                { reached with
                  stack := reached.stack.pop, pointer := first.pointer }
                { otherReached with
                  stack := otherReached.stack.pop
                  pointer := second.pointer } := by
              refine ⟨?_, ?_, still.id_eq⟩
              · rw [CallStack.pop, still.stack_eq, ← List.append_assoc,
                  List.dropLast_concat]
              · rw [CallStack.pop, still.inner_eq, List.dropLast_concat]
            cases ended with
            | error interrupt => exact .done ⟨rfl, left⟩
            | ok ended =>
                refine .done ⟨?_, left⟩
                dsimp only
                rw [bindings_eq]
          · rintro ⟨ended, frame⟩ trips before transcript value after yields
            dsimp only at yields
            rw [Running.yields_modify_bind_iff] at yields
            obtain ⟨interrupt, rfl, stops⟩ := trips
            obtain ⟨-, rfl, -⟩ := Running.yields_pure_iff.1 yields
            exact ⟨interrupt, by rw [returned_of_stops stops], stops⟩

theorem alike_driveNode {runChild runOther : FrameRunner} {fuel more : Nat}
    (atMost : AtMost fewer fuel more) (properties : OrderedMap String)
    (bindings : Variables) (respects : engine.registry.Respects sameIds)
    (alikeChild : RunnersAlike sameIds fewer path outer runChild runOther) :
    Running.Alike sameIds path outer inner Eq
      (fun result => Stops fewer result.1)
      (engine.driveNode runChild fuel (scope.under path) node properties
        bindings)
      (engine.driveNode runOther more scope node properties bindings) := by
  unfold driveNode
  cases found : engine.registry.handler? node.nodeType with
  | none => exact .pure rfl
  | some handler =>
      dsimp only
      have silent := respects node.nodeType handler found
      refine (alike_interact ⟨node, properties, engine.settings⟩ atMost
        handler.execute ⟨bindings, none⟩ silent).bind ?_ ?_
      · rintro ⟨flow, ended⟩ _ rfl
        rcases flow with interrupt | (target | call)
        · exact .pure rfl
        · exact .pure rfl
        · refine (alike_callWorkflow call alikeChild).bind ?_ ?_
          · rintro (interrupt | pairs) _ rfl <;> exact .pure rfl
          · rintro _ ⟨interrupt, rfl, stops⟩
            exact .pure ⟨interrupt, rfl, stops⟩
      · rintro ⟨_, ended⟩ ⟨interrupt, rfl, stops⟩
        exact .pure ⟨interrupt, rfl, stops⟩

/-- A step of a frame without a record is not opened, and one of a frame that
has a record is. -/
theorem alike_openStep (properties : OrderedMap String)
    (record : Option HistoryRecord) :
    Running.Alike sameIds path outer inner (fun first _ => first = none)
      (fun _ => False) (openStep node properties none)
      (openStep node properties record) := by
  cases record with
  | none => exact .pure rfl
  | some record => exact .clock fun now => .pure rfl

theorem alike_closeStep (status : StepStatus) (output error : Option String)
    (record : Option HistoryRecord) :
    Running.Alike sameIds path outer inner (fun first _ => first = none)
      (fun _ => False) (closeStep status output error none)
      (closeStep status output error record) := by
  cases record with
  | none => exact .pure rfl
  | some record => exact .clock fun now => .pure rfl

theorem alike_step {runChild runOther : FrameRunner} {fuel more : Nat}
    (atMost : AtMost fewer fuel more) (bindings : Variables)
    (record : Option HistoryRecord)
    (respects : engine.registry.Respects sameIds)
    (alikeChild : RunnersAlike sameIds fewer path outer runChild runOther) :
    Running.Alike sameIds path outer inner FramesAlike
      (fun ended => Stops fewer ended.1)
      (engine.step runChild fuel (scope.under path) node ⟨bindings, none⟩)
      (engine.step runOther more scope node ⟨bindings, record⟩) := by
  unfold step
  dsimp only
  refine (alike_openStep _ record).andThen ?_
  rintro _ opened rfl
  refine alike_log _ _ ?_
  refine (alike_driveNode atMost _ bindings respects alikeChild).bind ?_ ?_
  · rintro ⟨result, output, changed⟩ _ rfl
    refine alike_log _ _ ?_
    refine (alike_closeStep _ _ _ opened).andThen ?_
    rintro _ closed rfl
    exact .pure ⟨rfl, rfl, rfl⟩
  · rintro ⟨result, output, changed⟩ stops
    refine .bind fun _ => .bind fun record => ?_
    exact .pure stops

/-- The frames of an engine are alike, whatever lies below them. -/
theorem alike_runFrom (respects : engine.registry.Respects sameIds)
    {fuel more : Nat} (atMost : AtMost fewer fuel more) (workflow : Workflow)
    (target : Target) (bindings : Variables)
    (record : Option HistoryRecord) :
    Running.Alike sameIds path outer inner FramesAlike
      (fun ended => Stops fewer ended.1)
      (engine.runFrom fuel (scope.under path) workflow target
        ⟨bindings, none⟩)
      (engine.runFrom more scope workflow target ⟨bindings, record⟩) := by
  -- The frames below take their steps from the same fuel, so the induction
  -- hypothesis is for them as well as for the next node.
  induction fuel generalizing inner scope workflow target bindings record
    more with
  | zero =>
      refine alike_exhausted atMost ?_ (.pure rfl)
      rintro rfl
      exact .pure ⟨rfl, rfl, rfl⟩
  | succ fuel ih =>
      obtain ⟨more, rfl, remaining⟩ := atMost.pred
      rw [runFrom, runFrom]
      refine .unaborted ?_
      simp only [Bool.false_eq_true, if_false]
      cases target.index?.bind fun index =>
          workflow.nodes[index]?.map fun node => (index, node) with
      | none => exact .pure ⟨rfl, rfl, rfl⟩
      | some place =>
          obtain ⟨index, node⟩ := place
          dsimp only
          have pointed : Running.Alike sameIds path outer inner
              (fun (_ : Unit) (_ : Unit) => True) (fun _ => False)
              (modify fun run => { run with pointer := some index })
              (modify fun run => { run with pointer := some index }) :=
            fun _ _ beside => .done ⟨trivial, beside.stack_eq,
              beside.inner_eq, beside.id_eq⟩
          refine pointed.andThen fun _ _ _ => ?_
          refine (alike_step remaining bindings record respects
            fun inner scope workflow bindings =>
              ih remaining workflow _ bindings none).bind ?_ ?_
          · rintro ⟨result, frame⟩ ⟨_, other⟩ ⟨rfl, bindings_eq, noRecord⟩
            obtain ⟨changed, _⟩ := frame
            obtain ⟨_, opened⟩ := other
            obtain rfl : changed = _ := bindings_eq
            obtain rfl := noRecord
            cases result with
            | error interrupt => exact .pure ⟨rfl, rfl, rfl⟩
            | ok next => exact ih remaining workflow next changed opened
          · rintro ⟨_, frame⟩ ⟨interrupt, rfl, stops⟩
            exact .pure ⟨interrupt, rfl, stops⟩

/-! ### Executions -/

/-- A frame ends as a run does: in the same way, with the same error and the
same variables. -/
def EndsAs (ended : Except Interrupt Unit × Frame)
    (outcome? : Option RunOutcome) : Prop :=
  outcome?.map (fun outcome =>
      ((outcome.status, outcome.error), outcome.bindings)) =
    (runEnd? ended.1).map fun finish => (finish, ended.2.bindings)

theorem alike_runOutermost {fuel more : Nat} {child : Workflow}
    {inputs : Variables} {run alone : Run}
    (respects : engine.registry.Respects sameIds)
    (atMost : AtMost fewer fuel more) (record : HistoryRecord)
    (entered : run.stack.entries =
      outer ++ [CallStack.key alone.reference child.name])
    (begins : alone.stack = .empty) (room : engine.options.maxCallDepth ≠ 0)
    (ids : sameIds → run.id = alone.id) :
    Program.Alike sameIds path
      (fun ended other =>
        FramesAlike ended.1 other.1 ∧ ended.2.stack = run.stack)
      (fun ended => Stops fewer ended.1.1)
      (engine.nested fuel ⟨path⟩ child ⟨inputs, none⟩ run)
      (engine.runOutermost more child ⟨inputs, some record⟩ alone) := by
  let key := CallStack.key alone.reference child.name
  have pushed : alone.stack.push key engine.options.maxCallDepth =
      .ok ⟨[key]⟩ := by
    simp [begins, CallStack.push, CallStack.contains, CallStack.depth,
      CallStack.empty, room]
  have runs : (engine.runOutermost more child ⟨inputs, some record⟩ alone) =
      (engine.runFrom more ⟨""⟩ child (.node child.start)
        ⟨inputs, some record⟩ { alone with stack := ⟨[key]⟩ }).bind
          fun ended => .done (ended.1,
            { ended.2 with stack := ended.2.stack.pop }) := by
    rw [runOutermost, Running.get_bind_apply, pushed]
    rfl
  have under : Scope.mk path = Scope.under path ⟨""⟩ := by
    simp [Scope.under]
  have beside : Run.Beside sameIds outer [key] run
      { alone with stack := ⟨[key]⟩ } := ⟨entered, rfl, ids⟩
  rw [runs, nested, under, ← Program.bind_done (engine.runFrom fuel _ _ _ _ _)]
  refine (alike_runFrom respects atMost child _ inputs (some record) _ _
    beside).bind ?_ ?_
  · rintro ended other ⟨alike, left⟩
    exact .done ⟨alike,
      congrArg CallStack.mk (left.stack_eq.trans entered.symm)⟩
  · rintro ended stops transcript value yields
    obtain ⟨-, rfl⟩ := Program.yields_done_iff.1 yields
    exact stops

/-- A workflow that is run as a frame below others, and the same one run on its
own. -/
theorem alike_execute (respects : engine.registry.Respects sameIds)
    {fuel more : Nat} (atMost : AtMost fewer fuel more) (path : String)
    (child : Workflow) (inputs : Variables) {run : Run}
    {id reference : String}
    (entered : run.stack.entries =
      outer ++ [CallStack.key reference child.name])
    (room : engine.options.maxCallDepth ≠ 0) (ids : sameIds → run.id = id) :
    Program.Alike sameIds path
      (fun ended other => EndsAs ended.1 other.1 ∧ ended.2.stack = run.stack)
      (fun ended => Stops fewer ended.1.1)
      (engine.nested fuel ⟨path⟩ child ⟨inputs, none⟩ run)
      (engine.execute more child inputs (.fresh id reference)) := by
  unfold execute
  refine .clock fun now => ?_
  refine .statusRight ?_
  let record := HistoryRecord.start id reference child.name now
  let alone : Run := { Run.fresh id reference with status := .running }
  have frames : Program.Alike sameIds path _ _ _
      (engine.runOutermost more child ⟨inputs, some record⟩ alone) :=
    alike_runOutermost respects atMost record entered rfl room ids
  rw [← Program.bind_done (engine.nested fuel _ _ _ _)]
  refine frames.bind ?_ ?_
  · rintro ⟨⟨result, frame⟩, reached⟩ ⟨⟨_, other⟩, otherReached⟩
      ⟨⟨rfl, bindings_eq, -⟩, left⟩
    obtain ⟨changed, written⟩ := other
    obtain rfl : frame.bindings = changed := bindings_eq
    dsimp only
    cases concluded : runEnd? result with
    | none => exact .done ⟨by simp [EndsAs, concluded], left⟩
    | some finish =>
        obtain ⟨status, error⟩ := finish
        dsimp only
        rw [Running.transition_bind_apply]
        split
        · exact .clock fun now => .done ⟨by simp [EndsAs, concluded], left⟩
        · exact .statusRight (.clock fun now =>
            .done ⟨by simp [EndsAs, concluded], left⟩)
  · rintro ended stops transcript value yields
    obtain ⟨-, rfl⟩ := Program.yields_done_iff.1 yields
    exact stops

end Engine

end Runbook
