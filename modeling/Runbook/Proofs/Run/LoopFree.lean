import Runbook.Proofs.Run.Transcript
import Runbook.Proofs.Run.Termination

/-!
# Only loops repeat

A frame gets back to a node only by way of a loop.  So a run without loops has
an end, whatever cycle of documents call each other: each of its frames
executes a node once, and the guard of nested calls limits the frames.
-/

namespace Runbook

/-! ### Documents without loops -/

theorem Document.isLoopFree_of_compile {document : Document} {name : String}
    {workflow : Workflow} (compiled : document.compile name = .ok workflow)
    (noLoop : ∀ definition ∈ document.nodes,
      NodeType.ofTag? definition.tag ≠ some .loop) :
    workflow.IsLoopFree := by
  have spec := document.compile_spec name
  rw [compiled] at spec
  obtain ⟨hasWorkflow, -⟩ := spec
  intro node member isLoop
  obtain ⟨position, found⟩ := List.mem_iff_getElem?.1 member
  have inside := (List.getElem?_eq_some_iff.1 found).1
  rw [hasWorkflow.length_eq] at inside
  have defined := List.getElem?_eq_getElem inside
  have hasNode := hasWorkflow.node position _ node defined found
  apply noLoop _ (List.getElem_mem inside)
  rw [NodeType.ofTag?_eq_some_iff, hasNode.tag_eq, isLoop]

theorem Bundle.mem_of_select {bundle : Bundle} {name : Option String}
    {entry : String × Document} (selected : bundle.select name = .ok entry) :
    ∃ key, (key, entry.2) ∈ bundle.entries := by
  unfold Bundle.select at selected
  split at selected
  · split at selected
    · next document found =>
        cases selected
        exact ⟨_, OrderedMap.mem_of_find? found⟩
    · cases selected
  · split at selected
    · cases selected
    · next only isOnly =>
        cases selected
        exact ⟨entry.1, by simp [isOnly]⟩
    · cases selected

theorem Workflow.isLoopFree_of_read {source : String} {name : Option String}
    {workflow : Workflow} {bundle : Bundle}
    (read : Workflow.read source name = .ok workflow)
    (bundled : Bundle.read source = .ok bundle)
    (noLoop : ∀ entry ∈ bundle.entries, ∀ definition ∈ entry.2.nodes,
      NodeType.ofTag? definition.tag ≠ some .loop) :
    workflow.IsLoopFree := by
  unfold Workflow.read at read
  rw [bundled] at read
  cases selected : bundle.select name with
  | error error => simp [selected, bind, Except.bind] at read
  | ok entry =>
      simp only [selected, bind, Except.bind] at read
      obtain ⟨key, member⟩ := Bundle.mem_of_select selected
      exact Document.isLoopFree_of_compile read (noLoop (key, entry.2) member)

/-- Visits go through a workflow forward, unless they go to a loop. -/
structure Workflow.IsPassed (workflow : Workflow) (visits : List Visit) :
    Prop where
  advances : visits.IsChain Visit.Advances
  bounded : ∀ part, part <:+: visits →
    (∀ visit ∈ part, visit.node.nodeType ≠ .loop) →
    part.length ≤ workflow.nodes.length
  once : workflow.IsLoopFree → (visits.map Visit.position).Nodup

namespace Engine

variable {State : Type} {responder : Run.Responder State} {engine : Engine}
  {fuel : Nat} {workflow : Workflow} {before after : Run}
  {transcript : Run.Transcript} {state : State}

/-- Every frame that runs a workflow makes visits of some kind. -/
def EveryFrame (engine : Engine) (workflow : Workflow)
    (allowed : List Visit → Prop) : Prop :=
  ∀ (fuel : Nat) (scope : Scope) (frame reached : Frame) (before after : Run)
    (transcript : Run.Transcript) (ended : Except Interrupt Unit),
    (engine.nested fuel scope workflow frame).Yields before transcript
      (ended, reached) after →
    ∃ visits, Walk engine scope workflow fuel (.node workflow.start) frame
      before transcript visits ended reached after ∧ allowed visits

theorem everyFrame_isPassed (standard : engine.registry = Registry.standard)
    (leadsForward : workflow.LeadsForward) :
    engine.EveryFrame workflow workflow.IsPassed := by
  intro fuel scope frame reached before after transcript ended yields
  obtain ⟨visits, walk⟩ := walk_of_yields yields
  refine ⟨visits, walk, walk.isChain_advances standard leadsForward, ?_, ?_⟩
  · intro part isPart noLoop
    exact walk.length_le_of_part standard leadsForward isPart noLoop
  · intro loopFree
    exact Visit.nodup_of_pairwise
      (walk.pairwise_precedes standard leadsForward loopFree)

theorem everyFrame_nodup (standard : engine.registry = Registry.standard)
    (leadsForward : workflow.LeadsForward) (loopFree : workflow.IsLoopFree) :
    engine.EveryFrame workflow fun visits =>
      (visits.map Visit.position).Nodup := by
  intro fuel scope frame reached before after transcript ended yields
  obtain ⟨visits, walk, isPassed⟩ := everyFrame_isPassed standard leadsForward
    fuel scope frame reached before after transcript ended yields
  exact ⟨visits, walk, isPassed.once loopFree⟩

/-! ### The end of a run -/

theorem concludes_runOutermost
    (standard : engine.registry = Registry.standard)
    (loads : Run.LoadsLoopFree responder)
    (leadsForward : workflow.LeadsForward) (loopFree : workflow.IsLoopFree)
    (frame : Frame) :
    Running.Concludes responder before state
      (fun fuel => engine.runOutermost fuel workflow frame) Finishes := by
  unfold runOutermost
  refine Running.concludes_get_bind ?_
  cases entered : before.stack.push
      (CallStack.key before.reference workflow.name)
      engine.options.maxCallDepth with
  | error error => exact Running.concludes_pure (by simp [Finishes])
  | ok stack =>
      dsimp only
      refine Running.concludes_set_bind ?_
      refine (concludes_runFrom standard loads
        (concludes_nested standard loads engine.options.maxCallDepth)
        leadsForward loopFree _ frame (Nat.sub_le _ _)).bind ?_
      intro result after state finishes
      refine Running.concludes_modify_bind ?_
      exact Running.concludes_pure finishes

theorem concludes_transition (status : RunStatus) :
    Running.Concludes responder before state
      (fun _ => Running.transition status) fun _ _ => True :=
  Running.concludes_of_yields fun _ _ _ _ _ => trivial

theorem concludes_execute (standard : engine.registry = Registry.standard)
    (loads : Run.LoadsLoopFree responder)
    (leadsForward : workflow.LeadsForward) (loopFree : workflow.IsLoopFree)
    (bindings : Variables) :
    Running.Concludes responder before state
      (fun fuel => engine.execute fuel workflow bindings)
      fun outcome? _ => outcome?.isSome = true := by
  unfold execute
  refine Running.concludes_get_bind ?_
  refine (concludes_ask .now).bind ?_
  rintro started _ state rfl
  refine (concludes_transition .running).bind ?_
  rintro ⟨⟩ running state -
  refine (concludes_runOutermost standard loads leadsForward loopFree _).bind ?_
  rintro ⟨ended, frame⟩ after state finishes
  dsimp only
  cases ends : runEnd? ended with
  | none =>
      have exhausted : ended = .error .exhausted := by
        rcases ended with (_ | _ | _) | _
        all_goals first | rfl | cases ends
      exact (finishes exhausted).elim
  | some ending =>
      obtain ⟨status, error⟩ := ending
      dsimp only
      refine (concludes_transition status).bind ?_
      rintro ⟨⟩ closing state -
      refine (concludes_ask .now).bind ?_
      rintro finished _ state rfl
      exact Running.concludes_pure rfl

theorem depth_le_of_yields {bindings : Variables} {id reference : String}
    {outcome : RunOutcome}
    (yields : (engine.execute fuel workflow bindings).Yields
      (Run.fresh id reference) transcript (some outcome) after)
    {exchange : Run.Exchange} (member : exchange ∈ transcript) :
    exchange.question.run.stack.depth ≤ engine.options.maxCallDepth := by
  cases proceeds_of_yields yields with
  | @ended started finished _ _ _ reached status _ runs ends =>
      obtain ⟨emptied, framed, rfl, -, stacked⟩ := runs.isStacked rfl rfl
      -- Before and after the outermost workflow, nothing is open.
      have opened : ∀ exchange ∈ opening (Run.fresh id reference) started,
          exchange.question.run.stack = .empty := by
        simp [opening, Run.announcement, Run.fresh]
      have closed : ∀ exchange ∈ closing reached status finished,
          exchange.question.run.stack = .empty := by
        unfold closing Run.announcement
        split <;> simp [emptied]
      have few : ∀ exchange ∈ framed.map Run.Framed.exchange,
          exchange.question.run.stack.depth ≤
            engine.options.maxCallDepth := by
        intro exchange inside
        obtain ⟨place, placed, rfl⟩ := List.mem_map.1 inside
        obtain ⟨isStacked, -⟩ := stacked place placed
        have bounded := isStacked.length_le
        rw [← isStacked.entries_eq] at bounded
        exact bounded
      have none_open {run : Run} (nothing : run.stack = .empty) :
          run.stack.depth ≤ engine.options.maxCallDepth := by
        rw [nothing]
        exact Nat.zero_le _
      rcases List.mem_append.1 member with earlier | atLast
      · rcases List.mem_append.1 earlier with atFirst | inside
        · exact none_open (opened exchange atFirst)
        · exact few exchange inside
      · exact none_open (closed exchange atLast)

/-- With the standard handlers, every frame of a compiled workflow moves on
forward, unless it moves to a loop, and so it executes at most as many nodes in
a row without a loop as there are.  If neither a compiled workflow nor any that
can be loaded has loops, then its run ends, whoever answers and however the
documents call each other: from some number of steps on it is always the same
run, which has an outcome.  Never are more workflows nested than may be, and no
frame executes a node twice. -/
theorem only_loops_repeat (standard : engine.registry = Registry.standard) :
    (∀ (document : Document) (name : String) (workflow : Workflow),
      document.compile name = .ok workflow →
      engine.EveryFrame workflow workflow.IsPassed) ∧
    ∀ (document : Document) (name : String) (workflow : Workflow),
      document.compile name = .ok workflow → workflow.IsLoopFree →
      ∀ (State : Type) (responder : Run.Responder State),
        Run.LoadsLoopFree responder →
        (∀ (bindings : Variables) (id reference : String) (state : State),
          ∃ enough conversation outcome,
            (∀ fuel, enough ≤ fuel →
              (engine.execute fuel workflow bindings
                (Run.fresh id reference)).converse responder state =
                  conversation) ∧
            conversation.value.1 = some outcome ∧
            ∀ exchange ∈ conversation.transcript,
              exchange.question.run.stack.depth ≤
                engine.options.maxCallDepth) ∧
        ∀ child, child = workflow ∨ Run.Loads responder child →
          engine.EveryFrame child fun visits =>
            (visits.map Visit.position).Nodup := by
  constructor
  · intro document name workflow compiled
    exact everyFrame_isPassed standard
      (Document.leadsForward_of_compile compiled)
  intro document name workflow compiled loopFree State responder loads
  have leadsForward := Document.leadsForward_of_compile compiled
  constructor
  · intro bindings id reference state
    have concludes : Running.Concludes responder (Run.fresh id reference) state
        (fun fuel => engine.execute fuel workflow bindings)
        fun outcome? _ => outcome?.isSome = true :=
      concludes_execute standard loads leadsForward loopFree bindings
    obtain ⟨enough, conversation, same, concluded⟩ := concludes
    obtain ⟨outcome, isOutcome⟩ := Option.isSome_iff_exists.1 concluded
    refine ⟨enough, conversation, outcome, same, isOutcome, ?_⟩
    have yields : (engine.execute enough workflow bindings).Yields
        (Run.fresh id reference) conversation.transcript (some outcome)
        conversation.value.2 := by
      rw [Running.Yields, ← isOutcome, ← same enough (Nat.le_refl enough)]
      exact Program.yields_converse _ _
    intro exchange member
    exact depth_le_of_yields yields member
  · rintro child (rfl | loaded)
    · exact everyFrame_nodup standard leadsForward loopFree
    · obtain ⟨run, given, sourceState, source, name, -, read⟩ := id loaded
      obtain ⟨document, name, compiled⟩ :=
        Workflow.exists_compile_of_read read
      exact everyFrame_nodup standard
        (Document.leadsForward_of_compile compiled) (loads child loaded)

/-- A document that has another one run. -/
def delegation (path : String) : Document :=
  ⟨none, none, none,
    [⟨some "call", "workflow", none, none, none, none,
      .ofList [("path", .string path)]⟩]⟩

/-- The same as a text. -/
def delegationText (path : String) : String :=
  "nodes: [\x7btype: workflow, path: " ++ path ++ "\x7d]"

/-- An oracle with two documents that call each other. -/
def pingPong : Oracle Unit :=
  { Oracle.refusing with
    call := fun
      | .loadWorkflow reference, services =>
        (.ok (delegationText (if reference = "ping" then "pong" else "ping")),
          services)
      | call, services => Oracle.refusing.call call services }

theorem pingPong_loadsLoopFree : Run.LoadsLoopFree pingPong.reply := by
  have loopFree (path : String) (among : path = "ping" ∨ path = "pong") :
      ((Bundle.read (delegationText path)).toOption.map fun bundle =>
        bundle.entries.all fun entry => entry.2.nodes.all fun definition =>
          NodeType.ofTag? definition.tag != some .loop) = some true := by
    rcases among with rfl | rfl <;> decide +kernel
  rintro workflow ⟨run, reference, state, source, name, given, read⟩
  have same : delegationText (if reference = "ping" then "pong" else "ping") =
      source := Except.ok.inj (Option.some.inj given)
  obtain ⟨bundle, bundled, noLoop⟩ := Option.map_eq_some_iff.1
    (loopFree (if reference = "ping" then "pong" else "ping")
      (by split <;> simp))
  rw [same] at bundled
  refine Workflow.isLoopFree_of_read read (eq_ok_of_toOption bundled) ?_
  simpa [List.all_eq_true] using noLoop

theorem only_loops_repeat_pingPong :
    ∃ workflow, (delegation "pong").compile "default" = .ok workflow ∧
      workflow.IsLoopFree ∧ Run.LoadsLoopFree pingPong.reply ∧
      ((pingPong.run (unattended.execute 9 workflow .empty)
        (Run.fresh "id" "ping") .still).value.1.bind
          RunOutcome.error).map RunError.message =
        some ("sub-workflow cycle detected: " ++
          "ping:default -> pong:default -> ping:default") ∧
      ∃ enough conversation outcome,
        (∀ fuel, enough ≤ fuel →
          pingPong.run (unattended.execute fuel workflow .empty)
            (Run.fresh "id" "ping") .still = conversation) ∧
        conversation.value.1 = some outcome ∧
        ∀ exchange ∈ conversation.transcript,
          exchange.question.run.stack.depth ≤ 20 := by
  have evaluated : (((delegation "pong").compile "default").toOption.bind
      fun workflow => ((pingPong.run (unattended.execute 9 workflow .empty)
        (Run.fresh "id" "ping") .still).value.1.bind
          RunOutcome.error).map RunError.message) =
      some ("sub-workflow cycle detected: " ++
        "ping:default -> pong:default -> ping:default") := by
    decide +kernel
  obtain ⟨workflow, isCompiled, evaluated⟩ :=
    Option.bind_eq_some_iff.1 evaluated
  have compiled := eq_ok_of_toOption isCompiled
  have loopFree : workflow.IsLoopFree :=
    Document.isLoopFree_of_compile compiled (by decide +kernel)
  have standard : unattended.registry = Registry.standard := rfl
  obtain ⟨-, ends⟩ := only_loops_repeat standard
  obtain ⟨concludes, -⟩ := ends _ _ workflow compiled loopFree _ pingPong.reply
    pingPong_loadsLoopFree
  exact ⟨workflow, compiled, loopFree, pingPong_loadsLoopFree, evaluated,
    concludes _ _ _ _⟩

end Engine

end Runbook
