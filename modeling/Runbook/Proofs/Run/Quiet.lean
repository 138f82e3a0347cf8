import Runbook.Proofs.Expression.Counter
import Runbook.Proofs.Run.JumpTable

/-!
# Nodes that ask nothing

A node that sets a variable or checks a condition asks nothing of anybody.
What it does is settled by the variables that it finds, and unless the run is
aborted, a walk goes on from there.
-/

namespace Runbook

/-- The property `name` is a text without tokens that names a variable. -/
def Template.Names (properties : OrderedMap String) (name : String) : Prop :=
  ∃ text, properties.get? "name" = some text ∧
    Template.IsTokenFree text.toList ∧ Text.isBlankText text = false ∧
      Text.trim text = name

namespace Step

variable {context : Context} {state : State}

theorem program_branch :
    let outcome := Condition.evaluate
      ((context.properties.get? "condition").getD "")
    branch.program context state =
      .done (.ok (.jump (context.node.jumps.branch outcome)),
        { state with output := some (if outcome then "true" else "false") }) :=
  rfl

theorem program_required {name text : String}
    (given : context.properties.get? name = some text)
    (notBlank : Text.isBlankText text = false) :
    (required name).program context state = .done (.ok text, state) := by
  have found : (property? name).program context state =
      .done (.ok (some text), state) := by
    change Program.done (Except.ok ((context.properties.get? name).filter
      fun value => !Text.isBlankText value), state) = _
    rw [given, Option.filter_some, notBlank]
    rfl
  rw [required, program_bind, found]
  rfl

theorem program_assignWith {function : String → String} {text : String}
    (named : context.properties.get? "name" = some text)
    (notBlank : Text.isBlankText text = false) :
    let value := function ((context.properties.get? "value").getD "")
    (assignWith function).program context state =
      .done (.ok .proceed,
        ⟨state.bindings.insert (Text.trim text) value, some value⟩) := by
  have trimmed : (requiredTrimmed "name").program context state =
      .done (.ok (Text.trim text), state) := by
    rw [requiredTrimmed, program_bind, program_required named notBlank]
    rfl
  dsimp only
  rw [assignWith, program_bind, trimmed]
  rfl

end Step

namespace Engine

variable {engine : Engine} {runChild : FrameRunner} {fuel : Nat}
  {scope : Scope} {node : Node} {before after : Run}
  {transcript : Run.Transcript} {bindings final : Variables}
  {target : Target} {output : String}

/-- With some variables, a node leads to a target and leaves an output and
variables behind, without asking anything. -/
def Does (engine : Engine) (node : Node) (bindings : Variables)
    (target : Target) (output : String) (final : Variables) : Prop :=
  ∃ handler directive,
    engine.registry.handler? node.nodeType = some handler ∧
    handler.execute.program
      ⟨node, Template.resolveAll bindings node.properties, engine.settings⟩
      ⟨bindings, none⟩ = .done (.ok directive, ⟨final, some output⟩) ∧
    flow? node directive = some (.jump target)

/-! ### Nodes of three types -/

/-- The text that a node assigns. -/
def assignedText (node : Node) (bindings : Variables) : String :=
  ((node.properties.get? "value").map (Template.resolve bindings)).getD ""

/-- A node that names a variable once its templates are resolved sets it. -/
theorem does_assignWith_of_named {function : String → String} {text : String}
    (handled : engine.registry.handler? node.nodeType =
      some ⟨Step.assignWith function, Handler.refuse⟩)
    (named : (Template.resolveAll bindings node.properties).get? "name" =
      some text)
    (notBlank : Text.isBlankText text = false) :
    let value := function (assignedText node bindings)
    engine.Does node bindings node.jumps.next value
      (bindings.insert (Text.trim text) value) := by
  have same : ((Template.resolveAll bindings node.properties).get?
      "value").getD "" = assignedText node bindings := by
    rw [Template.resolveAll, OrderedMap.get?_mapValues, assignedText]
  refine ⟨_, .proceed, handled, ?_, rfl⟩
  rw [← same]
  exact Step.program_assignWith named notBlank

theorem does_assignWith {function : String → String} {name : String}
    (handled : engine.registry.handler? node.nodeType =
      some ⟨Step.assignWith function, Handler.refuse⟩)
    (names : Template.Names node.properties name) :
    let value := function (assignedText node bindings)
    engine.Does node bindings node.jumps.next value
      (bindings.insert name value) := by
  obtain ⟨text, given, tokenFree, notBlank, rfl⟩ := names
  have named : (Template.resolveAll bindings node.properties).get? "name" =
      some text := by
    rw [Template.resolveAll, OrderedMap.get?_mapValues, given,
      Option.map_some, Template.resolve_of_isTokenFree tokenFree]
  exact does_assignWith_of_named handled named notBlank

theorem does_assign (standard : engine.registry = Registry.standard)
    (isAssign : node.nodeType = .assign) {name : String}
    (names : Template.Names node.properties name) :
    engine.Does node bindings node.jumps.next (assignedText node bindings)
      (bindings.insert name (assignedText node bindings)) := by
  refine @does_assignWith _ _ _ id _ ?_ names
  rw [standard, isAssign]
  rfl

theorem does_compute (standard : engine.registry = Registry.standard)
    (isCompute : node.nodeType = .compute) {name : String}
    (names : Template.Names node.properties name) :
    let value := Arithmetic.assigned (assignedText node bindings)
    engine.Does node bindings node.jumps.next value
      (bindings.insert name value) := by
  refine does_assignWith ?_ names
  rw [standard, isCompute]
  rfl

/-- A loop leaves the variables as they are. -/
theorem does_loop (standard : engine.registry = Registry.standard)
    (isLoop : node.nodeType = .loop) {condition : String}
    (conditional : node.properties.get? "condition" = some condition) :
    let outcome := Condition.evaluate (Template.resolve bindings condition)
    engine.Does node bindings (node.jumps.branch outcome)
      (if outcome then "true" else "false") bindings := by
  have same : ((Template.resolveAll bindings node.properties).get?
      "condition").getD "" = Template.resolve bindings condition := by
    rw [Template.resolveAll, OrderedMap.get?_mapValues, conditional]
    rfl
  have carried := @Step.program_branch
    ⟨node, Template.resolveAll bindings node.properties, engine.settings⟩
    ⟨bindings, none⟩
  dsimp only at carried
  rw [same] at carried
  refine ⟨Handler.branch, _, ?_, carried, rfl⟩
  rw [standard, isLoop]
  rfl

/-! ### Visits and walks -/

/-- An execution is cut off: it may take no steps, or the run is aborted. -/
def CutOff {α : Type} (fuel : Nat) (transcript : Run.Transcript)
    (result : Except Interrupt α) : Prop :=
  (fuel = 0 ∧ result = .error .exhausted) ∨
    (transcript.SeesAbort ∧ result = .error .cancelled)

theorem CutOff.elim {α : Type} {result : Except Interrupt α}
    (cut : CutOff (fuel + 1) transcript result)
    (unseen : ¬ transcript.SeesAbort) {goal : Prop} : goal := by
  rcases cut with ⟨impossible, -⟩ | ⟨seen, -⟩
  · cases impossible
  · exact (unseen seen).elim

/-- What cuts off a part of an execution is passed on. -/
theorem CutOff.passed {α β : Type} {interrupt : Interrupt}
    (cut : CutOff fuel transcript (.error interrupt : Except Interrupt α)) :
    CutOff fuel transcript (.error interrupt : Except Interrupt β) := by
  simpa [CutOff] using cut

/-- A step that asks nothing is carried out, or it is cut off before. -/
theorem Interacts.cases_of_done {context : Step.Context} {handler : Handler}
    {step : Step Directive} {state middle ended : Step.State}
    {directive : Directive} {flow : Flow} {result : Except Interrupt Flow}
    (interacts : Interacts engine scope context handler fuel step state
      before transcript result ended after)
    (carried : step.program context state = .done (.ok directive, middle))
    (leads : flow? context.node directive = some flow) :
    (result = .ok flow ∧ ended = middle ∧
        transcript = [before.exchange .isAborted false] ∧ after = before) ∨
      CutOff fuel transcript result := by
  cases interacts with
  | exhausted => exact .inr (.inl ⟨rfl, rfl⟩)
  | aborted => exact .inr (.inr ⟨by simp [Run.Exchange.SeesAbort], rfl⟩)
  | stopped stops =>
      obtain ⟨-, impossible, -⟩ := (Step.yields_iff_of_done carried).1 stops
      cases impossible
  | directed directs leadsToo =>
      obtain ⟨rfl, same, rfl⟩ := (Step.yields_iff_of_done carried).1 directs
      cases same
      rw [leads, Option.some.injEq] at leadsToo
      exact .inl ⟨congrArg Except.ok leadsToo.symm, rfl, rfl, rfl⟩
  | unanswered suspends awaits =>
      obtain ⟨-, same, -⟩ := (Step.yields_iff_of_done carried).1 suspends
      cases same
      cases leads
  | resumed suspends awaits resumes =>
      obtain ⟨-, same, -⟩ := (Step.yields_iff_of_done carried).1 suspends
      cases same
      cases leads

/-- A node that asks nothing does what its handler says, unless the run is
aborted. -/
theorem Interacts.of_done {context : Step.Context} {handler : Handler}
    {step : Step Directive} {state middle ended : Step.State}
    {directive : Directive} {flow : Flow} {result : Except Interrupt Flow}
    (interacts : Interacts engine scope context handler (fuel + 1) step state
      before transcript result ended after)
    (carried : step.program context state = .done (.ok directive, middle))
    (leads : flow? context.node directive = some flow)
    (unseen : ¬ transcript.SeesAbort) :
    result = .ok flow ∧ ended = middle ∧
      transcript = [before.exchange .isAborted false] ∧ after = before :=
  (interacts.cases_of_done carried leads).elim id fun cut => cut.elim unseen

/-- Executing a node comes to what is settled, or it is cut off before. -/
theorem Drives.cases_of_does {properties : OrderedMap String}
    {result : Except Interrupt Target} {shown : Option String}
    {left : Variables}
    (drives : Drives engine runChild fuel scope node properties bindings
      before transcript result shown left after)
    (resolved : properties = Template.resolveAll bindings node.properties)
    (does : engine.Does node bindings target output final) :
    (result = .ok target ∧ shown = some output ∧ left = final ∧
        transcript = [before.exchange .isAborted false]) ∨
      CutOff fuel transcript result := by
  obtain ⟨handler, directive, handled, carried, leads⟩ := does
  subst resolved
  have sameHandler {other : Handler} (known : engine.registry.handler?
      node.nodeType = some other) : other = handler :=
    Option.some.inj (known.symm.trans handled)
  cases drives with
  | unknown missing =>
      rw [missing] at handled
      cases handled
  | interrupted known interacts =>
      obtain rfl := sameHandler known
      rcases interacts.cases_of_done carried leads with ⟨impossible, -⟩ | cut
      · cases impossible
      · exact .inr cut.passed
  | jumped known interacts =>
      obtain rfl := sameHandler known
      rcases interacts.cases_of_done carried leads with
        ⟨same, rfl, asked, -⟩ | (⟨-, impossible⟩ | ⟨-, impossible⟩)
      · cases same
        exact .inl ⟨rfl, rfl, rfl, asked⟩
      · cases impossible
      · cases impossible
  | callFailed known interacts calls =>
      obtain rfl := sameHandler known
      rcases interacts.cases_of_done carried leads with
        ⟨impossible, -⟩ | (⟨-, impossible⟩ | ⟨-, impossible⟩) <;>
        cases impossible
  | called known interacts calls =>
      obtain rfl := sameHandler known
      rcases interacts.cases_of_done carried leads with
        ⟨impossible, -⟩ | (⟨-, impossible⟩ | ⟨-, impossible⟩) <;>
        cases impossible

/-- Executing a node comes to what is settled, unless the run is aborted. -/
theorem Drives.of_does {properties : OrderedMap String}
    {result : Except Interrupt Target} {shown : Option String}
    {left : Variables}
    (drives : Drives engine runChild (fuel + 1) scope node properties bindings
      before transcript result shown left after)
    (resolved : properties = Template.resolveAll bindings node.properties)
    (does : engine.Does node bindings target output final)
    (unseen : ¬ transcript.SeesAbort) :
    result = .ok target ∧ shown = some output ∧ left = final ∧
      transcript = [before.exchange .isAborted false] :=
  (drives.cases_of_does resolved does).elim id fun cut => cut.elim unseen

/-- A visit of a node does what is settled, or it is cut off before. -/
theorem Performs.cases_of_does {visit : Visit} {frame reached : Frame}
    (performs : Performs engine runChild fuel scope visit before frame
      transcript reached after)
    (does : engine.Does visit.node visit.bindings target output final) :
    (visit.result = .ok target ∧ visit.output = some output ∧
        visit.after = final) ∨ CutOff fuel transcript visit.result := by
  obtain ⟨driving, inside, drives⟩ := performs.exists_drives
  rcases drives.cases_of_does rfl does with ⟨leads, shown, left, -⟩ | cut
  · exact .inl ⟨leads, shown, left⟩
  · refine .inr (cut.imp_right (And.imp_left fun seen => ?_))
    obtain ⟨exchange, member, sees⟩ := seen
    exact ⟨exchange, inside.subset member, sees⟩

/-- A visit of a node does what is settled, unless the run is aborted. -/
theorem Performs.of_does {visit : Visit} {frame reached : Frame}
    (performs : Performs engine runChild (fuel + 1) scope visit before frame
      transcript reached after)
    (does : engine.Does visit.node visit.bindings target output final)
    (unseen : ¬ transcript.SeesAbort) :
    visit.result = .ok target ∧ visit.output = some output ∧
      visit.after = final :=
  (performs.cases_of_does does).elim id fun cut => cut.elim unseen

variable {workflow : Workflow} {frame reached : Frame} {visits : List Visit}
  {ended : Except Interrupt Unit} {position : Nat}

/-- A walk to a node that asks nothing goes on from where the node leads,
unless the run is aborted. -/
theorem Walk.after_does
    (walk : Walk engine scope workflow (fuel + 2) (.node position) frame before
      transcript visits ended reached after)
    (found : workflow.nodes[position]? = some node)
    (does : engine.Does node frame.bindings target output final)
    (unseen : ¬ transcript.SeesAbort) :
    ∃ visit others middle current rest, visits = visit :: others ∧
      visit.position = position ∧ visit.output = some output ∧
      middle.bindings = final ∧ ¬ Run.Transcript.SeesAbort rest ∧
      Walk engine scope workflow (fuel + 1) target middle current rest others
        ended reached after := by
  have isAt : nodeAt? workflow (.node position) = some (position, node) :=
    nodeAt?_eq_some_iff.2 ⟨rfl, found⟩
  cases walk with
  | aborted => exact (unseen (by simp [Run.Exchange.SeesAbort])).elim
  | finished nowhere =>
      rw [isAt] at nowhere
      cases nowhere
  | @stopped _ _ _ _ _ _ visiting visit interrupt foundToo performs stops =>
      have sameNode := Option.some.inj (isAt.symm.trans foundToo)
      obtain ⟨rfl, rfl⟩ := Prod.mk.inj sameNode
      rw [← performs.bindings_eq.1] at does
      obtain ⟨leads, -⟩ := performs.of_does does
        fun seen => unseen (by simp [seen])
      rw [stops] at leads
      cases leads
  | @moved _ _ next _ middle _ _ current _ visiting rest visit others _
      foundToo performs leads goesOn =>
      have sameNode := Option.some.inj (isAt.symm.trans foundToo)
      obtain ⟨rfl, rfl⟩ := Prod.mk.inj sameNode
      rw [← performs.bindings_eq.1] at does
      obtain ⟨leadsToo, shown, left⟩ := performs.of_does does
        fun seen => unseen (by simp [seen])
      rw [leads, Except.ok.injEq] at leadsToo
      subst leadsToo
      exact ⟨visit, others, middle, current, rest, rfl, rfl, shown,
        performs.bindings_eq.2.trans left, fun seen => unseen (by simp [seen]),
        goesOn⟩

/-- A walk ends where there is no node, unless the run is aborted. -/
theorem Walk.of_nowhere
    (walk : Walk engine scope workflow (fuel + 1) target frame before
      transcript visits ended reached after)
    (nowhere : nodeAt? workflow target = none)
    (unseen : ¬ transcript.SeesAbort) :
    visits = [] ∧ ended = .ok () ∧ reached = frame := by
  cases walk with
  | aborted => exact (unseen (by simp [Run.Exchange.SeesAbort])).elim
  | finished _ => exact ⟨rfl, rfl, rfl⟩
  | stopped found =>
      rw [nowhere] at found
      cases found
  | moved found =>
      rw [nowhere] at found
      cases found

end Engine

end Runbook
