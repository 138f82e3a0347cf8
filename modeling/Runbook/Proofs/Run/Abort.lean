import Runbook.Proofs.Run.Transcript
import Runbook.Proofs.Run.Walk
import Runbook.Proofs.Step.Directive

/-!
# Aborted runs

A run sees that it is aborted when it asks for that, or when it gets no reply
to what it waits for.  With handlers that pass interruptions on, whatever sees
an abort is cancelled, at every depth of nested workflows.

Once a run has read that it is aborted it only closes what is open: the steps
that have been begun are reported as cancelled, and then so is the run.
Nothing is called, asked or entered any more, at whatever depth the abort is
read.
-/

namespace Runbook

namespace Run

/-- An exchange shows that the run is aborted. -/
def Exchange.SeesAbort : Exchange → Prop
  | ⟨⟨_, .isAborted⟩, reply⟩ => reply = true
  | ⟨⟨_, .call _⟩, reply⟩ => reply = none
  | ⟨⟨_, .sleep _⟩, reply⟩ => reply = none
  | ⟨⟨_, .answer _⟩, reply⟩ => reply = none
  | _ => False

/-- Something in a transcript shows that the run is aborted. -/
def Transcript.SeesAbort (transcript : Transcript) : Prop :=
  ∃ exchange ∈ transcript, Exchange.SeesAbort exchange

@[simp]
theorem not_seesAbort_nil : ¬ Transcript.SeesAbort [] := by
  simp [Transcript.SeesAbort]

@[simp]
theorem seesAbort_cons {exchange : Exchange} {transcript : Transcript} :
    Transcript.SeesAbort (exchange :: transcript) ↔
      Exchange.SeesAbort exchange ∨ transcript.SeesAbort := by
  simp [Transcript.SeesAbort]

@[simp]
theorem seesAbort_append {first second : Transcript} :
    Transcript.SeesAbort (first ++ second) ↔
      first.SeesAbort ∨ second.SeesAbort := by
  simp only [Transcript.SeesAbort, List.mem_append, or_and_right, exists_or]

@[simp]
theorem not_seesAbort_announcement (run : Run) (status : RunStatus) :
    ¬ Transcript.SeesAbort (run.announcement status) := by
  unfold announcement
  split
  · simp
  · simp [Exchange.SeesAbort]

theorem Transcript.not_seesAbort_of_infix {part transcript : Transcript}
    (inside : part <:+: transcript) (unseen : ¬ transcript.SeesAbort) :
    ¬ part.SeesAbort :=
  fun ⟨exchange, member, seen⟩ =>
    unseen ⟨exchange, inside.subset member, seen⟩

end Run

/-- Nobody aborts a run that an oracle answers. -/
theorem Oracle.not_seesAbort_run {Services α : Type}
    (oracle : Oracle Services) (computation : Running α) (before : Run)
    (state : State Services) :
    ¬ Run.Transcript.SeesAbort
      (oracle.run computation before state).transcript := by
  rintro ⟨⟨⟨run, question⟩, reply⟩, member, seen⟩
  obtain ⟨state, replied⟩ := Run.isFrom_converse oracle.reply
    (computation before) state _ member
  dsimp only at replied
  subst replied
  cases question <;> simp [Run.Exchange.SeesAbort, Oracle.reply] at seen

/-- The handlers of a registry end with directives that fit, and pass
interruptions on. -/
def Registry.Fits (registry : Registry) : Prop :=
  ∀ nodeType handler, registry.handler? nodeType = some handler →
    Handler.Fits nodeType handler

theorem Registry.standard_fits : Registry.standard.Fits := by
  intro nodeType handler known
  obtain rfl := Option.some.inj known
  exact Handler.standard_fits nodeType

namespace Engine

variable {engine : Engine} {runChild : FrameRunner} {fuel : Nat}
  {scope : Scope} {node : Node} {before after : Run}
  {transcript : Run.Transcript}

/-- A step is interrupted exactly when an abort is seen in it. -/
theorem seesAbort_relay {exchanges : Step.Transcript} (run : Run) :
    Run.Transcript.SeesAbort (exchanges.map (relay scope node run)) ↔
      exchanges.IsInterrupted := by
  have one : ∀ exchange : Step.Exchange,
      Run.Exchange.SeesAbort (relay scope node run exchange) ↔
        Step.Exchange.IsInterrupted exchange := by
    rintro ⟨question, reply⟩
    cases question with
    | call call => exact Iff.rfl
    | sleep nanoseconds => exact Iff.rfl
    | note message => exact Iff.rfl
  simp [Run.Transcript.SeesAbort, Step.Transcript.IsInterrupted, one]

theorem AwaitsAnswer.cancelled_of_seesAbort {prompt : Prompt}
    {result : Except Interrupt (PromptRequest × Option String)}
    (awaits : AwaitsAnswer engine node prompt before transcript result after)
    (seen : transcript.SeesAbort) : result = .error .cancelled := by
  cases awaits with
  | unavailable nobody => simp at seen
  | aborted somebody id => rfl
  | interrupted somebody id => rfl
  | answered somebody id answer =>
      simp [asking, Run.Exchange.SeesAbort] at seen

theorem LoadsSource.cancelled_of_seesAbort {reference : String}
    {result : Except Interrupt String}
    (loads : LoadsSource node reference before transcript result)
    (seen : transcript.SeesAbort) : result = .error .cancelled := by
  cases loads with
  | aborted => rfl
  | interrupted => rfl
  | loaded source => simp [Run.Exchange.SeesAbort] at seen
  | failed failure => simp [Run.Exchange.SeesAbort] at seen

theorem Interacts.cancelled_of_seesAbort {context : Step.Context}
    {handler : Handler} {step : Step Directive} {state ended : Step.State}
    {result : Except Interrupt Flow} {nodeType : NodeType}
    (fits : Handler.Fits nodeType handler)
    (ensures : step.Ensures (Directive.Fits nodeType))
    (interacts : Interacts engine scope context handler fuel step state before
      transcript result ended after)
    (seen : transcript.SeesAbort) : result = .error .cancelled := by
  induction interacts with
  | exhausted => simp at seen
  | aborted => rfl
  | stopped carried =>
      rw [Run.seesAbort_cons, seesAbort_relay,
        ensures.interrupted_iff carried] at seen
      rcases seen with impossible | interrupted
      · cases impossible
      · cases interrupted
        rfl
  | directed carried leads =>
      rw [Run.seesAbort_cons, seesAbort_relay,
        ensures.interrupted_iff carried] at seen
      rcases seen with impossible | impossible <;> cases impossible
  | unanswered carried awaits =>
      rw [Run.seesAbort_append, Run.seesAbort_cons, seesAbort_relay,
        ensures.interrupted_iff carried] at seen
      rcases seen with (impossible | impossible) | seen
      · cases impossible
      · cases impossible
      · have cancelled := awaits.cancelled_of_seesAbort seen
        cases cancelled
        rfl
  | resumed carried awaits resumes ih =>
      rw [Run.seesAbort_append, Run.seesAbort_append, Run.seesAbort_cons,
        seesAbort_relay, ensures.interrupted_iff carried] at seen
      rcases seen with ((impossible | impossible) | seen) | seen
      · cases impossible
      · cases impossible
      · have impossible := awaits.cancelled_of_seesAbort seen
        cases impossible
      · exact ih (fits.resume _ _) seen

section Nested

variable
  (child : ∀ {scope : Scope} {workflow : Workflow} {frame reached : Frame}
    {before after : Run} {transcript : Run.Transcript}
    {ended : Except Interrupt Unit},
    (runChild scope workflow frame).Yields before transcript (ended, reached)
      after → transcript.SeesAbort → ended = .error .cancelled)

include child

theorem CallsWorkflow.cancelled_of_seesAbort {call : SubWorkflowCall}
    {result : Except Interrupt (List (String × String))}
    (calls : CallsWorkflow engine runChild scope node call before transcript
      result after)
    (seen : transcript.SeesAbort) : result = .error .cancelled := by
  cases calls with
  | notLoaded loads =>
      have cancelled := loads.cancelled_of_seesAbort seen
      cases cancelled
      rfl
  | notRead loads faulty =>
      have impossible := loads.cancelled_of_seesAbort seen
      cases impossible
  | refused loads read guarded =>
      have impossible := loads.cancelled_of_seesAbort seen
      cases impossible
  | ran loads read entered runs =>
      rcases Run.seesAbort_append.1 seen with seen | seen
      · have impossible := loads.cancelled_of_seesAbort seen
        cases impossible
      · have cancelled := child runs seen
        subst cancelled
        rfl

theorem Drives.cancelled_of_seesAbort {properties : OrderedMap String}
    {bindings reached : Variables} {result : Except Interrupt Target}
    {output : Option String} (fits : engine.registry.Fits)
    (drives : Drives engine runChild fuel scope node properties bindings before
      transcript result output reached after)
    (seen : transcript.SeesAbort) : result = .error .cancelled := by
  cases drives with
  | unknown missing => simp at seen
  | interrupted known interacts =>
      have handlerFits := fits _ _ known
      have cancelled := interacts.cancelled_of_seesAbort handlerFits
        handlerFits.execute seen
      cases cancelled
      rfl
  | jumped known interacts =>
      have handlerFits := fits _ _ known
      have impossible := interacts.cancelled_of_seesAbort handlerFits
        handlerFits.execute seen
      cases impossible
  | callFailed known interacts calls =>
      have handlerFits := fits _ _ known
      rcases Run.seesAbort_append.1 seen with seen | seen
      · have impossible := interacts.cancelled_of_seesAbort handlerFits
          handlerFits.execute seen
        cases impossible
      · have cancelled := calls.cancelled_of_seesAbort child seen
        cases cancelled
        rfl
  | called known interacts calls =>
      have handlerFits := fits _ _ known
      rcases Run.seesAbort_append.1 seen with seen | seen
      · have impossible := interacts.cancelled_of_seesAbort handlerFits
          handlerFits.execute seen
        cases impossible
      · have impossible := calls.cancelled_of_seesAbort child seen
        cases impossible

theorem Performs.cancelled_of_seesAbort {visit : Visit}
    {frame reached : Frame} (fits : engine.registry.Fits)
    (performs : Performs engine runChild fuel scope visit before frame
      transcript reached after)
    (seen : transcript.SeesAbort) : visit.result = .error .cancelled := by
  cases performs with
  | unrecorded drives =>
      apply drives.cancelled_of_seesAbort child fits
      simpa [Run.Exchange.SeesAbort] using seen
  | recorded drives isRecorded =>
      apply drives.cancelled_of_seesAbort child fits
      simpa [Run.Exchange.SeesAbort] using seen

end Nested

/-- A walk in which an abort is seen is cancelled. -/
theorem Walk.cancelled_of_seesAbort {workflow : Workflow} {target : Target}
    {frame reached : Frame} {visits : List Visit}
    {ended : Except Interrupt Unit} (fits : engine.registry.Fits)
    (walk : Walk engine scope workflow fuel target frame before transcript
      visits ended reached after)
    (seen : transcript.SeesAbort) : ended = .error .cancelled := by
  -- The fuel bounds the walk and every frame that is nested in it.
  induction fuel generalizing scope workflow target frame before transcript
    visits ended reached after with
  | zero =>
      cases walk with
      | exhausted => simp at seen
  | succ fuel ih =>
      have child : ∀ {scope : Scope} {workflow : Workflow}
          {frame reached : Frame} {before after : Run}
          {transcript : Run.Transcript} {ended : Except Interrupt Unit},
          (engine.nested fuel scope workflow frame).Yields before transcript
            (ended, reached) after → transcript.SeesAbort →
          ended = .error .cancelled := by
        intro scope workflow frame reached before after transcript ended
          yields seen
        obtain ⟨visits, walk⟩ := walk_of_yields yields
        exact ih walk seen
      cases walk with
      | aborted => rfl
      | finished nowhere => simp [Run.Exchange.SeesAbort] at seen
      | stopped found performs stops =>
          rcases Run.seesAbort_cons.1 seen with impossible | seen
          · cases impossible
          · have cancelled := performs.cancelled_of_seesAbort child fits seen
            rw [stops] at cancelled
            cases cancelled
            rfl
      | moved found performs leads goesOn =>
          rw [Run.seesAbort_append, Run.seesAbort_cons] at seen
          rcases seen with (impossible | seen) | seen
          · cases impossible
          · have impossible := performs.cancelled_of_seesAbort child fits seen
            rw [leads] at impossible
            cases impossible
          · exact ih goesOn seen

end Engine

end Runbook

/-! ## After an abort -/

namespace Runbook

namespace Run

/-- The run is found to be aborted when it asks for that. -/
def Exchange.Aborts : Exchange → Prop
  | ⟨⟨_, .isAborted⟩, reply⟩ => reply = true
  | _ => False

/-- An exchange only closes what is open: the clock is read, or it is
published that a step or the run is cancelled. -/
def Exchange.Closes : Exchange → Prop
  | ⟨⟨_, .now⟩, _⟩ => True
  | ⟨⟨_, .publish (.log line)⟩, _⟩ =>
    line.message = "cancelled" ∧ line.status = .info
  | ⟨⟨_, .publish (.status status)⟩, _⟩ => status = .cancelled
  | _ => False

theorem Exchange.Aborts.seesAbort {exchange : Exchange}
    (aborts : Exchange.Aborts exchange) : Exchange.SeesAbort exchange := by
  obtain ⟨⟨run, question⟩, reply⟩ := exchange
  cases question with
  | isAborted => exact aborts
  | _ => exact aborts.elim

namespace Transcript

/-- No abort is read. -/
def Unaborted (transcript : Transcript) : Prop :=
  ∀ exchange ∈ transcript, ¬ Exchange.Aborts exchange

/-- What follows after an abort has been read only closes what is open. -/
def ClosesOnAbort (transcript : Transcript) : Prop :=
  transcript.Pairwise fun exchange later =>
    Exchange.Aborts exchange → Exchange.Closes later

variable {first second transcript : Transcript}

@[simp]
theorem unaborted_nil : Unaborted [] := by
  simp [Unaborted]

@[simp]
theorem unaborted_cons {exchange : Exchange} :
    Unaborted (exchange :: transcript) ↔
      ¬ exchange.Aborts ∧ transcript.Unaborted :=
  List.forall_mem_cons

@[simp]
theorem unaborted_append :
    Unaborted (first ++ second) ↔ first.Unaborted ∧ second.Unaborted :=
  List.forall_mem_append

theorem unaborted_of_not_seesAbort (unseen : ¬ transcript.SeesAbort) :
    transcript.Unaborted :=
  fun exchange member aborts => unseen ⟨exchange, member, aborts.seesAbort⟩

@[simp]
theorem unaborted_announcement (run : Run) (status : RunStatus) :
    Unaborted (run.announcement status) :=
  unaborted_of_not_seesAbort (not_seesAbort_announcement run status)

theorem Unaborted.closesOnAbort (unaborted : transcript.Unaborted) :
    transcript.ClosesOnAbort :=
  List.Pairwise.imp_of_mem
    (fun member _ _ aborts => (unaborted _ member aborts).elim)
    (List.pairwise_of_forall fun _ _ => trivial)

/-- What precedes the abort may be anything. -/
theorem ClosesOnAbort.after (unaborted : first.Unaborted)
    (closes : second.ClosesOnAbort) : ClosesOnAbort (first ++ second) :=
  List.pairwise_append.2 ⟨unaborted.closesOnAbort, closes,
    fun exchange member _ _ aborts => (unaborted exchange member aborts).elim⟩

/-- What is added at the end has to close if an abort has been seen in the
middle. -/
theorem ClosesOnAbort.surrounded {last : Transcript}
    (unseen : ¬ first.SeesAbort) (closes : second.ClosesOnAbort)
    (unaborted : last.Unaborted)
    (closing : second.SeesAbort → ∀ exchange ∈ last, exchange.Closes) :
    ClosesOnAbort (first ++ second ++ last) := by
  rw [List.append_assoc]
  refine .after (unaborted_of_not_seesAbort unseen) ?_
  refine List.pairwise_append.2 ⟨closes, unaborted.closesOnAbort, ?_⟩
  intro exchange member later added aborts
  exact closing ⟨exchange, member, aborts.seesAbort⟩ later added

@[simp]
theorem closesOnAbort_singleton (exchange : Exchange) :
    ClosesOnAbort [exchange] :=
  List.pairwise_singleton _ _

end Transcript

end Run

namespace Engine

open Run.Transcript

variable {engine : Engine} {fuel : Nat} {scope : Scope} {node : Node}
  {before after : Run} {transcript : Run.Transcript}

/-- A part that ends well has not read that the run is aborted. -/
theorem unaborted_of_ok {α : Type} {result : Except Interrupt α} {value : α}
    (cancelled : transcript.SeesAbort → result = .error .cancelled)
    (ends : result = .ok value) : transcript.Unaborted := by
  refine unaborted_of_not_seesAbort fun seen => ?_
  rw [cancelled seen] at ends
  cases ends

/-- A step that is carried out does not ask whether the run is aborted. -/
theorem unaborted_carried (exchanges : Step.Transcript) (run : Run) :
    Unaborted (run.exchange .isAborted false ::
      exchanges.map (relay scope node run)) := by
  refine unaborted_cons.2 ⟨by simp [Run.Exchange.Aborts], ?_⟩
  intro exchange member
  obtain ⟨⟨question, reply⟩, -, rfl⟩ := List.mem_map.1 member
  cases question <;> exact id

theorem AwaitsAnswer.closesOnAbort {prompt : Prompt}
    {result : Except Interrupt (PromptRequest × Option String)}
    (awaits : AwaitsAnswer engine node prompt before transcript result
      after) : transcript.ClosesOnAbort := by
  cases awaits with
  | unavailable nobody => exact unaborted_nil.closesOnAbort
  | aborted somebody id =>
      exact .after (by simp [asking, Run.Exchange.Aborts])
        (closesOnAbort_singleton _)
  | interrupted somebody id =>
      exact Unaborted.closesOnAbort (by simp [asking, Run.Exchange.Aborts])
  | answered somebody id answer =>
      exact Unaborted.closesOnAbort (by simp [asking, Run.Exchange.Aborts])

theorem LoadsSource.closesOnAbort {reference : String}
    {result : Except Interrupt String}
    (loads : LoadsSource node reference before transcript result) :
    transcript.ClosesOnAbort := by
  cases loads with
  | aborted => exact closesOnAbort_singleton _
  | _ => exact Unaborted.closesOnAbort (by simp [Run.Exchange.Aborts])

theorem Interacts.closesOnAbort {context : Step.Context} {handler : Handler}
    {step : Step Directive} {state ended : Step.State}
    {result : Except Interrupt Flow}
    (interacts : Interacts engine scope context handler fuel step state before
      transcript result ended after) : transcript.ClosesOnAbort := by
  induction interacts with
  | exhausted => exact unaborted_nil.closesOnAbort
  | aborted => exact closesOnAbort_singleton _
  | stopped carried => exact (unaborted_carried _ _).closesOnAbort
  | directed carried leads => exact (unaborted_carried _ _).closesOnAbort
  | unanswered carried awaits =>
      exact .after (unaborted_carried _ _) awaits.closesOnAbort
  | resumed carried awaits resumes ih =>
      have answered := unaborted_of_ok awaits.cancelled_of_seesAbort rfl
      exact .after (unaborted_append.2 ⟨unaborted_carried _ _, answered⟩) ih

section Nested

variable
  (fits : engine.registry.Fits)
  (cancels : ∀ {scope : Scope} {workflow : Workflow} {frame reached : Frame}
    {before after : Run} {transcript : Run.Transcript}
    {ended : Except Interrupt Unit},
    (engine.nested fuel scope workflow frame).Yields before transcript
      (ended, reached) after →
    transcript.SeesAbort → ended = .error .cancelled)
  (child : ∀ {scope : Scope} {workflow : Workflow} {frame reached : Frame}
    {before after : Run} {transcript : Run.Transcript}
    {ended : Except Interrupt Unit},
    (engine.nested fuel scope workflow frame).Yields before transcript
      (ended, reached) after →
    transcript.ClosesOnAbort)

include child

theorem CallsWorkflow.closesOnAbort {call : SubWorkflowCall}
    {result : Except Interrupt (List (String × String))}
    (calls : CallsWorkflow engine (engine.nested fuel) scope node call before
      transcript result after) : transcript.ClosesOnAbort := by
  cases calls with
  | notLoaded loads => exact loads.closesOnAbort
  | notRead loads faulty => exact loads.closesOnAbort
  | refused loads read guarded => exact loads.closesOnAbort
  | ran loads read entered runs =>
      have loaded := unaborted_of_ok loads.cancelled_of_seesAbort rfl
      exact .after loaded (child runs)

include fits

theorem Drives.closesOnAbort {properties : OrderedMap String}
    {bindings reached : Variables} {result : Except Interrupt Target}
    {output : Option String}
    (drives : Drives engine (engine.nested fuel) fuel scope node properties
      bindings before transcript result output reached after) :
    transcript.ClosesOnAbort := by
  cases drives with
  | unknown missing => exact unaborted_nil.closesOnAbort
  | interrupted known interacts => exact interacts.closesOnAbort
  | jumped known interacts => exact interacts.closesOnAbort
  | callFailed known interacts calls =>
      have handlerFits := fits _ _ known
      have unaborted := unaborted_of_ok
        (interacts.cancelled_of_seesAbort handlerFits handlerFits.execute) rfl
      exact .after unaborted (calls.closesOnAbort child)
  | called known interacts calls =>
      have handlerFits := fits _ _ known
      have unaborted := unaborted_of_ok
        (interacts.cancelled_of_seesAbort handlerFits handlerFits.execute) rfl
      exact .after unaborted (calls.closesOnAbort child)

include cancels

theorem Performs.closesOnAbort {visit : Visit} {frame reached : Frame}
    (performs : Performs engine (engine.nested fuel) fuel scope visit before
      frame transcript reached after) : transcript.ClosesOnAbort := by
  have reported (cancelled : visit.result = .error .cancelled)
      (run : Run) : Run.Exchange.Closes (run.exchange
        (.publish (.log (visit.lastLine engine scope))) ()) := by
    simp [Run.Exchange.Closes, Visit.lastLine, stepEnd, cancelled]
  have clock (run : Run) (closed : Instant) :
      Run.Exchange.Closes (run.exchange .now closed) := trivial
  cases performs with
  | unrecorded drives =>
      have unseen : ¬ Run.Transcript.SeesAbort [before.exchange
          (.publish (.log (visit.firstLine scope))) ()] := by
        simp [Run.Exchange.SeesAbort]
      refine .surrounded unseen (drives.closesOnAbort fits child)
        (by simp [Run.Exchange.Aborts]) fun seen => ?_
      simp [reported (drives.cancelled_of_seesAbort cancels fits seen)]
  | @recorded _ _ _ _ opened _ drives isRecorded =>
      have unseen : ¬ Run.Transcript.SeesAbort [before.exchange .now opened,
          before.exchange (.publish (.log (visit.firstLine scope))) ()] := by
        simp [Run.Exchange.SeesAbort]
      refine .surrounded unseen (drives.closesOnAbort fits child)
        (by simp [Run.Exchange.Aborts]) fun seen => ?_
      simp [reported (drives.cancelled_of_seesAbort cancels fits seen), clock]

end Nested

theorem cancelled_of_seesAbort {workflow : Workflow} {target : Target}
    {frame reached : Frame} {ended : Except Interrupt Unit}
    (fits : engine.registry.Fits)
    (yields : (engine.runFrom fuel scope workflow target frame).Yields before
      transcript (ended, reached) after)
    (seen : transcript.SeesAbort) : ended = .error .cancelled := by
  obtain ⟨visits, walk⟩ := walk_of_yields yields
  exact walk.cancelled_of_seesAbort fits seen

/-- Whatever a frame does after an abort has been read in it only closes what
is open. -/
theorem closesOnAbort_of_yields {workflow : Workflow} {target : Target}
    {frame reached : Frame} {ended : Except Interrupt Unit}
    (fits : engine.registry.Fits)
    (yields : (engine.runFrom fuel scope workflow target frame).Yields before
      transcript (ended, reached) after) : transcript.ClosesOnAbort := by
  -- The fuel bounds the frame and every frame that is nested in it.
  induction fuel generalizing scope workflow target frame reached before after
    transcript ended with
  | zero =>
      rw [runFrom] at yields
      obtain ⟨rfl, -, -⟩ := Running.yields_pure_iff.1 yields
      exact unaborted_nil.closesOnAbort
  | succ fuel ih =>
      have asked (run : Run) :
          Unaborted [run.exchange .isAborted false] := by
        simp [Run.Exchange.Aborts]
      cases goesOn_of_yields yields with
      | aborted => exact closesOnAbort_singleton _
      | finished nowhere => exact closesOnAbort_singleton _
      | stopped position found steps =>
          obtain ⟨visit, -, -, -, performs⟩ :=
            performs_of_yields steps position
          exact .after (asked before) (performs.closesOnAbort fits
            (cancelled_of_seesAbort fits) ih)
      | moved position found steps goesOn =>
          obtain ⟨visit, -, -, leads, performs⟩ :=
            performs_of_yields steps position
          have visited := unaborted_of_ok (performs.cancelled_of_seesAbort
            (cancelled_of_seesAbort fits) fits) leads
          exact .after (unaborted_append.2 ⟨asked before, visited⟩)
            (ih goesOn)

theorem RunsOutermost.closesOnAbort {workflow : Workflow}
    {frame reached : Frame} {ended : Except Interrupt Unit}
    (fits : engine.registry.Fits)
    (runs : RunsOutermost engine fuel workflow frame before transcript ended
      reached after) :
    transcript.ClosesOnAbort ∧
      (transcript.SeesAbort → ended = .error .cancelled) := by
  cases runs with
  | refused guarded => exact ⟨unaborted_nil.closesOnAbort, by simp⟩
  | entered entered runs =>
      exact ⟨closesOnAbort_of_yields fits runs,
        cancelled_of_seesAbort fits runs⟩

theorem closes_closing (reached : Run) (finished : Instant) :
    ∀ exchange ∈ closing reached .cancelled finished,
      Run.Exchange.Closes exchange := by
  unfold closing Run.announcement
  split <;> simp [Run.Exchange.Closes]

/-- A run that has read that it is aborted only closes what is open. -/
theorem Proceeds.closesOnAbort {workflow : Workflow} {bindings : Variables}
    {outcome? : Option RunOutcome} (fits : engine.registry.Fits)
    (proceeds : Proceeds engine fuel workflow bindings before transcript
      outcome? after) : transcript.ClosesOnAbort := by
  have unseen (started : Instant) :
      ¬ Run.Transcript.SeesAbort (opening before started) := by
    simp [opening, Run.Exchange.SeesAbort]
  cases proceeds with
  | exhausted runs endless =>
      exact .after (unaborted_of_not_seesAbort (unseen _))
        (runs.closesOnAbort fits).1
  | @ended started finished _ _ _ reached _ _ runs ends =>
      obtain ⟨closes, cancels⟩ := runs.closesOnAbort fits
      refine .surrounded (unseen started) closes
        (by simp [closing, Run.Exchange.Aborts]) fun seen => ?_
      rw [cancels seen] at ends
      cases ends
      exact closes_closing reached finished

end Engine

end Runbook
