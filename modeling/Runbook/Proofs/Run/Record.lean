import Runbook.Proofs.Run.ClosedOnce
import Runbook.Proofs.Run.Transcript
import Runbook.Proofs.Run.Walk

/-!
# The record and the outcome

The record of a run lists the visits of its outermost workflow and nothing
else, every step of it is closed, and its last step says how the run ended.
-/

namespace Runbook

open Engine

/-- The statuses of steps, in their order, agree with the outcome of the run
whose record they are. -/
structure RunOutcome.IsRecorded (outcome : RunOutcome) : Prop where
  status_eq : outcome.history.status = outcome.status
  error_iff : outcome.error.isSome ↔ outcome.status = .error
  finished : ∀ step ∈ outcome.history.steps,
    step.finishedAt.isSome ∧ step.status ≠ .running
  success_of_dropLast : ∀ step ∈ outcome.history.steps.dropLast,
    step.status = .success
  success_of_completed : outcome.status = .completed →
    ∀ step ∈ outcome.history.steps, step.status = .success
  last_of_cancelled : outcome.status = .cancelled →
    ∀ step, outcome.history.steps.getLast? = some step →
      step.status = .success ∨ step.status = .cancelled ∧ step.error = none

/-- The last step of a record shows an error of the run. -/
def RunOutcome.ShowsError (outcome : RunOutcome) (error : RunError) : Prop :=
  ∃ step, outcome.history.steps.getLast? = some step ∧
    step.status = .error ∧ step.error = some error.stepMessage

namespace HistoryRecord

/-- Closing a record changes no step that is closed. -/
theorem steps_finalize {record : HistoryRecord} {status : RunStatus}
    {now : Instant}
    (closed : ∀ step ∈ record.steps, step.finishedAt.isSome) :
    (record.finalize status now).steps = record.steps :=
  calc
    record.steps.map (fun step => step.cancelOpen now) =
        record.steps.map (fun step => step) :=
      List.map_congr_left fun step member =>
        HistoryStep.cancelOpen_of_finished (closed step member) now
    _ = record.steps := List.map_id' _

end HistoryRecord

namespace Visit

variable {visits : List Visit} {steps : List HistoryStep}

theorem IsRecordedBy.success_iff {visit : Visit} {step : HistoryStep}
    (recorded : visit.IsRecordedBy step) :
    step.status = .success ↔ visit.Leads := by
  rw [recorded.status_eq, status_eq_success_iff]

/-- What holds of the recorded visits holds of the steps. -/
theorem forall_steps {property : HistoryStep → Prop} {visited : Visit → Prop}
    (recorded : List.Forall₂ IsRecordedBy visits steps)
    (holds : ∀ visit ∈ visits, visited visit)
    (implies : ∀ visit step, IsRecordedBy visit step → visited visit →
      property step) :
    ∀ step ∈ steps, property step := by
  induction recorded with
  | nil => simp
  | cons first rest ih =>
      intro step member
      rcases List.mem_cons.1 member with rfl | later
      · exact implies _ _ first (holds _ (by simp))
      · exact ih (fun visit visited => holds visit (by simp [visited])) step
          later

/-- The record of visits of which only the last one may not lead on. -/
theorem exists_steps_of_append {first : List Visit} {last : Visit}
    (recorded : List.Forall₂ IsRecordedBy (first ++ [last]) steps) :
    ∃ others step, steps = others ++ [step] ∧
      List.Forall₂ IsRecordedBy first others ∧ IsRecordedBy last step := by
  induction first generalizing steps with
  | nil =>
      cases recorded with
      | cons recordedLast none =>
          cases none
          exact ⟨[], _, rfl, .nil, recordedLast⟩
  | cons visit first ih =>
      cases recorded with
      | cons recordedVisit rest =>
          obtain ⟨others, step, rfl, recordedFirst, recordedLast⟩ := ih rest
          exact ⟨_ :: others, step, rfl, .cons recordedVisit recordedFirst,
            recordedLast⟩

end Visit

namespace Engine

variable {engine : Engine} {fuel : Nat} {workflow : Workflow}
  {bindings : Variables} {before after : Run} {transcript : Run.Transcript}
  {visits : List Visit} {outcome : RunOutcome}

/-- The outermost workflow of a fresh run is refused only if no workflow may
be nested at all. -/
theorem push_empty_eq_error_iff {key : String} {maxDepth : Nat}
    {error : RunError} :
    CallStack.empty.push key maxDepth = .error error ↔
      maxDepth = 0 ∧ error = .depthExceeded key 0 := by
  rcases Nat.eq_zero_or_pos maxDepth with rfl | positive
  · simp [CallStack.push, CallStack.empty, CallStack.contains,
      CallStack.depth, eq_comm]
  · simp [CallStack.push, CallStack.empty, CallStack.contains,
      CallStack.depth, Nat.pos_iff_ne_zero.1 positive]

/-- The steps of the record are the visits of the outermost workflow. -/
theorem Executes.forall₂_steps
    (executes : Executes engine fuel workflow bindings before transcript
      visits outcome after) :
    List.Forall₂ Visit.IsRecordedBy visits outcome.history.steps := by
  cases executes with
  | refused guarded => exact .nil
  | walked entered walk ends =>
      obtain ⟨steps, recordEq, recorded⟩ := walk.exists_steps rfl
      cases recordEq
      rw [HistoryRecord.steps_finalize]
      · simpa [firstRecord, HistoryRecord.start] using recorded
      · simpa [firstRecord, HistoryRecord.start] using
          Visit.forall_steps recorded (fun _ _ => trivial)
            fun _ _ isRecorded _ => isRecorded.finished

theorem runEnd?_error_eq_some {interrupt : Interrupt} {status : RunStatus}
    {error : Option RunError}
    (ends : runEnd? (.error interrupt) = some (status, error)) :
    interrupt = .cancelled ∧ status = .cancelled ∧ error = none ∨
      ∃ failure, interrupt = .failed failure ∧ status = .error ∧
        error = some failure := by
  cases interrupt with
  | cancelled =>
      cases ends
      exact .inl ⟨rfl, rfl, rfl⟩
  | failed failure =>
      cases ends
      exact .inr ⟨failure, rfl, rfl, rfl⟩
  | exhausted => cases ends

/-- A run whose visits all lead on shows only successful steps. -/
theorem isRecorded_of_leads {steps : List HistoryStep}
    {ended : Except Interrupt Unit} {status : RunStatus}
    {error : Option RunError}
    (ends : runEnd? ended = some (status, error))
    (unfailed : ∀ error, ended ≠ .error (.failed error))
    (recorded : List.Forall₂ Visit.IsRecordedBy visits steps)
    (lead : ∀ visit ∈ visits, visit.Leads)
    (outcomeStatus : outcome.status = status)
    (outcomeError : outcome.error = error)
    (historyStatus : outcome.history.status = status)
    (historySteps : outcome.history.steps = steps) :
    outcome.IsRecorded ∧ outcome.error = none := by
  have succeeded : ∀ step ∈ steps,
      step.finishedAt.isSome ∧ step.status = .success :=
    Visit.forall_steps recorded lead fun visit step isRecorded leads =>
      ⟨isRecorded.finished, isRecorded.success_iff.2 leads⟩
  have errorless : error = none ∧ status ≠ .error := by
    rcases ended with (_ | error | _) | _
    · simp [runEnd?] at ends
      simp [← ends]
    · exact (unfailed error rfl).elim
    · simp [runEnd?] at ends
    · simp [runEnd?] at ends
      simp [← ends]
  refine ⟨?_, by rw [outcomeError, errorless.1]⟩
  constructor
  · rw [historyStatus, outcomeStatus]
  · simp [outcomeError, outcomeStatus, errorless]
  · intro step member
    rw [historySteps] at member
    obtain ⟨finished, success⟩ := succeeded step member
    exact ⟨finished, by simp [success]⟩
  · intro step member
    rw [historySteps] at member
    exact (succeeded step (List.dropLast_subset _ member)).2
  · intro _ step member
    rw [historySteps] at member
    exact (succeeded step member).2
  · intro _ step last
    rw [historySteps] at last
    exact .inl (succeeded step (List.mem_of_getLast? last)).2

/-- A run that ends at its last visit shows there what stops it. -/
theorem isRecorded_of_stops {steps : List HistoryStep}
    {interrupt : Interrupt} {first : List Visit} {last : Visit}
    {status : RunStatus} {error : Option RunError}
    (ends : runEnd? (.error interrupt) = some (status, error))
    (recorded : List.Forall₂ Visit.IsRecordedBy (first ++ [last]) steps)
    (lead : ∀ visit ∈ first, visit.Leads)
    (stops : last.result = .error interrupt)
    (outcomeStatus : outcome.status = status)
    (outcomeError : outcome.error = error)
    (historyStatus : outcome.history.status = status)
    (historySteps : outcome.history.steps = steps) :
    outcome.IsRecorded ∧ ∀ error, outcome.error = some error →
      outcome.ShowsError error := by
  obtain ⟨others, step, rfl, recordedFirst, recordedLast⟩ :=
    Visit.exists_steps_of_append recorded
  have succeeded : ∀ step ∈ others,
      step.finishedAt.isSome ∧ step.status = .success :=
    Visit.forall_steps recordedFirst lead fun visit step isRecorded leads =>
      ⟨isRecorded.finished, isRecorded.success_iff.2 leads⟩
  have lastStatus := recordedLast.status_eq
  have lastError := recordedLast.error_eq
  rw [Visit.status, stops] at lastStatus
  rw [Visit.error?, stops] at lastError
  have lastOf : outcome.history.steps.getLast? = some step := by
    rw [historySteps, List.getLast?_concat]
  have ended := runEnd?_error_eq_some ends
  constructor
  · constructor
    · rw [historyStatus, outcomeStatus]
    · rw [outcomeError, outcomeStatus]
      rcases ended with ⟨-, rfl, rfl⟩ | ⟨failure, -, rfl, rfl⟩ <;> simp
    · intro other member
      rw [historySteps, List.mem_append, List.mem_singleton] at member
      rcases member with earlier | rfl
      · obtain ⟨finished, success⟩ := succeeded other earlier
        exact ⟨finished, by simp [success]⟩
      · refine ⟨recordedLast.finished, ?_⟩
        rcases ended with ⟨rfl, -, -⟩ | ⟨failure, rfl, -, -⟩ <;>
          simp [lastStatus]
    · intro other member
      rw [historySteps, List.dropLast_concat] at member
      exact (succeeded other member).2
    · intro completed
      rw [outcomeStatus] at completed
      rcases ended with ⟨-, rfl, -⟩ | ⟨failure, -, rfl, -⟩ <;>
        cases completed
    · intro cancelled other isLast
      rw [outcomeStatus] at cancelled
      rw [lastOf, Option.some.injEq] at isLast
      subst isLast
      rcases ended with ⟨rfl, -, -⟩ | ⟨failure, -, rfl, -⟩
      · exact .inr ⟨lastStatus, lastError⟩
      · cases cancelled
  · intro error given
    rw [outcomeError] at given
    rcases ended with ⟨-, -, rfl⟩ | ⟨failure, rfl, -, rfl⟩
    · cases given
    · obtain rfl := Option.some.inj given
      exact ⟨step, lastOf, lastStatus, lastError⟩

/-- The record of a run agrees with its outcome, and shows its error unless the
run is refused. -/
theorem Executes.isRecorded
    (executes : Executes engine fuel workflow bindings before transcript
      visits outcome after) :
    outcome.IsRecorded ∧ ∀ error, outcome.error = some error →
      outcome.ShowsError error ∨
        outcome.history.steps = [] ∧
          before.stack.push (CallStack.key before.reference workflow.name)
            engine.options.maxCallDepth = .error error := by
  have recorded := executes.forall₂_steps
  cases executes with
  | refused guarded =>
      constructor
      · constructor <;> simp [HistoryRecord.finalize, firstRecord,
          HistoryRecord.start]
      · intro error given
        obtain rfl := Option.some.inj given
        exact .inr ⟨rfl, guarded⟩
  | walked entered walk ends =>
      rcases walk.leads_or_stops with ⟨lead, unfailed⟩ |
        ⟨first, last, interrupt, rfl, lead, stops, rfl⟩
      · obtain ⟨isRecorded, errorless⟩ :=
          isRecorded_of_leads ends unfailed recorded lead rfl rfl rfl rfl
        refine ⟨isRecorded, fun error given => ?_⟩
        rw [errorless] at given
        cases given
      · obtain ⟨isRecorded, shows⟩ :=
          isRecorded_of_stops ends recorded lead stops rfl rfl rfl rfl
        exact ⟨isRecorded, fun error given => .inl (shows error given)⟩

/-- The record of a fresh run agrees with the outcome, and its steps are the
visits of the outermost workflow in their order. -/
theorem execute_isRecorded (engine : Engine) (fuel : Nat)
    (workflow : Workflow) (bindings : Variables) (id reference : String)
    {transcript : Run.Transcript} {outcome : RunOutcome} {after : Run}
    (yields : (engine.execute fuel workflow bindings).Yields
      (Run.fresh id reference) transcript (some outcome) after) :
    outcome.IsRecorded ∧
      (∀ error, outcome.error = some error →
        outcome.ShowsError error ∨
          outcome.history.steps = [] ∧
            CallStack.empty.push (CallStack.key reference workflow.name)
              engine.options.maxCallDepth = .error error ∧
            error = .depthExceeded (CallStack.key reference workflow.name)
              engine.options.maxCallDepth) ∧
      ∃ visits,
        Executes engine fuel workflow bindings (Run.fresh id reference)
          transcript visits outcome after ∧
        List.Forall₂ Visit.IsRecordedBy visits outcome.history.steps ∧
        ∀ visit ∈ visits,
          workflow.nodes[visit.position]? = some visit.node := by
  obtain ⟨visits, executes⟩ := executes_of_yields yields
  obtain ⟨isRecorded, shows⟩ := executes.isRecorded
  refine ⟨isRecorded, ?_, visits, executes, executes.forall₂_steps,
    executes.forall_nodes⟩
  intro error given
  rcases shows error given with shown | ⟨stepless, refused⟩
  · exact .inl shown
  · refine .inr ⟨stepless, refused, ?_⟩
    obtain ⟨zero, rfl⟩ := push_empty_eq_error_iff.1 refused
    rw [zero]
    rfl

/-- A workflow that sets a variable, and then asks for one. -/
def greeting : Workflow :=
  ⟨"greeting", none,
    [⟨"set", .assign, .ofList [("name", "x"), ("value", "1")],
      ⟨.node 1, none, none⟩⟩,
      ⟨"ask", .promptValue, .ofList [("title", "y")],
        ⟨.pastEnd, none, none⟩⟩], 0⟩

theorem execute_isRecorded_greeting :
    ∃ outcome transcript after,
      (unattended.execute 3 greeting .empty).Yields (Run.fresh "id" "file")
        transcript (some outcome) after ∧
      outcome.status = .error ∧ outcome.IsRecorded ∧
      outcome.history.steps.map HistoryStep.status = [.success, .error] := by
  have yields := Oracle.refusing.yields_run
    (unattended.execute 3 greeting .empty) (Run.fresh "id" "file") .still
  exact ⟨_, _, _, yields, rfl,
    (execute_isRecorded unattended 3 greeting .empty "id" "file" yields).1,
    rfl⟩

end Engine

end Runbook
