import Runbook.Run.History

/-!
# Steps are closed once

Steps are started in a record and finished in it, in any order and as often as
one likes.  Whatever is done, a step keeps the place and the data with which it
has been started, and the first closing of a step is the one that counts.
Closing the record closes the steps that are still open, and no other ones.
-/

namespace Runbook

namespace HistoryStep

/-- What is recorded of a step when it is started. -/
structure Opening where
  nodeId : String
  nodeType : String
  input : Option Json
  startedAt : Instant

/-- What is recorded of a step when it is closed. -/
structure Closing where
  status : StepStatus
  output : Option String
  error : Option String
  finishedAt : Instant

variable {step : HistoryStep}

def opening (step : HistoryStep) : Opening :=
  ⟨step.nodeId, step.nodeType, step.input, step.startedAt⟩

/-- The step that has been started, and nothing more. -/
def Opening.started (opening : Opening) : HistoryStep :=
  start opening.nodeId opening.nodeType opening.input opening.startedAt

/-- The step that has been started and closed. -/
def Opening.closedBy (opening : Opening) (closing : Closing) : HistoryStep :=
  ⟨opening.nodeId, opening.nodeType, closing.status, opening.input,
    closing.output, closing.error, opening.startedAt, some closing.finishedAt⟩

/-- The closing of a step that nobody finishes. -/
def Closing.cancelled (now : Instant) : Closing :=
  ⟨.cancelled, none, none, now⟩

/-- Finish a step if there is a closing for it. -/
def closeWith (step : HistoryStep) : Option Closing → HistoryStep
  | none => step
  | some closing =>
      step.finish closing.status closing.output closing.error
        closing.finishedAt

@[simp]
theorem opening_finish (step : HistoryStep) (status : StepStatus)
    (output error : Option String) (now : Instant) :
    (step.finish status output error now).opening = step.opening := by
  unfold finish
  split <;> rfl

@[simp]
theorem opening_cancelOpen (step : HistoryStep) (now : Instant) :
    (step.cancelOpen now).opening = step.opening := by
  unfold cancelOpen
  split <;> rfl

theorem finished_finish (step : HistoryStep) (status : StepStatus)
    (output error : Option String) (now : Instant) :
    (step.finish status output error now).finishedAt.isSome := by
  unfold finish
  split
  · assumption
  · rfl

theorem finished_cancelOpen (step : HistoryStep) (now : Instant) :
    (step.cancelOpen now).finishedAt.isSome := by
  unfold cancelOpen
  split
  · assumption
  · rfl

theorem cancelOpen_of_finished (finished : step.finishedAt.isSome)
    (now : Instant) : step.cancelOpen now = step :=
  if_pos finished

/-- A step that is closed stays as it is. -/
theorem closeWith_of_finished (finished : step.finishedAt.isSome)
    (closing : Option Closing) : step.closeWith closing = step := by
  cases closing with
  | none => rfl
  | some closing => exact if_pos finished

/-- Of two closings the first one counts. -/
theorem closeWith_closeWith (step : HistoryStep)
    (first second : Option Closing) :
    (step.closeWith first).closeWith second =
      step.closeWith (first.or second) := by
  cases first with
  | none => rfl
  | some closing =>
      exact closeWith_of_finished (finished_finish step _ _ _ _) second

/-- A step that is finished has its closing, and another one is cancelled. -/
theorem cancelOpen_closeWith_started (opening : Opening)
    (closing : Option Closing) (now : Instant) :
    (opening.started.closeWith closing).cancelOpen now =
      opening.closedBy (closing.getD (.cancelled now)) := by
  cases closing with
  | none => rfl
  | some closing => rfl

end HistoryStep

namespace HistoryRecord

open HistoryStep

/-- A change of a record: a step is started in it, or the step that has been
started under a handle is finished. -/
inductive Change
  | start (opening : Opening)
  | finish (handle : Nat) (closing : Closing)

namespace Change

def opening? : Change → Option Opening
  | .start opening => some opening
  | .finish _ _ => none

/-- The closing that a change has for the step under a handle. -/
def closing? (handle : Nat) : Change → Option Closing
  | .start _ => none
  | .finish target closing => if target = handle then some closing else none

end Change

/-- Change a record. -/
def apply (record : HistoryRecord) : Change → HistoryRecord
  | .start opening =>
      record.startStep opening.nodeId opening.nodeType opening.input
        opening.startedAt
  | .finish handle closing =>
      record.finishStep handle closing.status closing.output closing.error
        closing.finishedAt

/-- The record after some changes. -/
def after (record : HistoryRecord) (changes : List Change) : HistoryRecord :=
  changes.foldl apply record

/-- The handle that starting a step gives, seen from the record in which it has
just been started. -/
def lastHandle (record : HistoryRecord) : Nat :=
  record.steps.length - 1

variable {record : HistoryRecord} {handle : Nat} {step : HistoryStep}

@[simp]
theorem after_nil (record : HistoryRecord) : record.after [] = record :=
  rfl

@[simp]
theorem after_cons (record : HistoryRecord) (change : Change)
    (changes : List Change) :
    record.after (change :: changes) = (record.apply change).after changes :=
  rfl

theorem after_append (record : HistoryRecord) (earlier later : List Change) :
    record.after (earlier ++ later) = (record.after earlier).after later :=
  List.foldl_append

/-! ### The order of the steps -/

/-- A change adds the step that it starts, at the end, and leaves what has been
recorded of the other ones at their start. -/
theorem openings_apply (record : HistoryRecord) (change : Change) :
    (record.apply change).steps.map opening =
      record.steps.map opening ++ change.opening?.toList := by
  cases change with
  | start opening =>
      simp [apply, startStep, Change.opening?, HistoryStep.opening,
        HistoryStep.start]
  | finish target closing =>
      apply List.ext_getElem?
      intro position
      by_cases same : target = position <;>
        simp [apply, finishStep, Change.opening?, same, Function.comp_def]

theorem openings_after (record : HistoryRecord) (changes : List Change) :
    (record.after changes).steps.map opening =
      record.steps.map opening ++ changes.filterMap Change.opening? := by
  induction changes generalizing record with
  | nil => simp
  | cons change changes ih =>
      rw [after_cons, ih, openings_apply, List.append_assoc]
      cases change <;> rfl

theorem openings_finalize (record : HistoryRecord) (status : RunStatus)
    (now : Instant) :
    (record.finalize status now).steps.map opening =
      record.steps.map opening := by
  simp [finalize]

/-- Starting a step gives the number of the steps before it as its handle. -/
theorem lastHandle_start (record : HistoryRecord) (opening : Opening) :
    (record.apply (.start opening)).lastHandle = record.steps.length := by
  simp [lastHandle, apply, startStep]

/-! ### The closing of a step -/

/-- A change does to a step what it has for it. -/
theorem getElem?_apply (found : record.steps[handle]? = some step)
    (change : Change) :
    (record.apply change).steps[handle]? =
      some (step.closeWith (change.closing? handle)) := by
  cases change with
  | start opening =>
      have within : handle < record.steps.length :=
        (List.getElem?_eq_some_iff.1 found).1
      simpa [apply, startStep, closeWith, Change.closing?,
        List.getElem?_append_left within] using found
  | finish target closing =>
      by_cases same : target = handle <;>
        simp [apply, finishStep, found, same, closeWith, Change.closing?]

/-- Of all that is done after the start of a step, the first closing of it
counts. -/
theorem getElem?_after (found : record.steps[handle]? = some step)
    (changes : List Change) :
    (record.after changes).steps[handle]? =
      some (step.closeWith (changes.findSome? (Change.closing? handle))) := by
  induction changes generalizing record step with
  | nil => exact found
  | cons change changes ih =>
      rw [after_cons, ih (getElem?_apply found change), closeWith_closeWith,
        List.findSome?_cons]
      cases change.closing? handle <;> rfl

theorem getElem?_finalize (found : record.steps[handle]? = some step)
    (status : RunStatus) (now : Instant) :
    (record.finalize status now).steps[handle]? =
      some (step.cancelOpen now) := by
  simp [finalize, found]

/-- What comes to be of a step that is started now: the first of its closings,
if there is one, is what the closed record has of it. -/
theorem getElem?_finalize_after_start (record : HistoryRecord)
    (opening : Opening) (later : List Change) (status : RunStatus)
    (now : Instant) :
    (((record.apply (.start opening)).after later).finalize status
        now).steps[record.steps.length]? =
      some (opening.closedBy
        ((later.findSome? (Change.closing? record.steps.length)).getD
          (.cancelled now))) := by
  have found : (record.apply (.start opening)).steps[record.steps.length]? =
      some opening.started := by
    simp [apply, startStep, Opening.started]
  rw [getElem?_finalize (getElem?_after found later),
    cancelOpen_closeWith_started]

/-- A record goes on as another one: its steps stay in their places with what
has been recorded of them at their start, and those that are closed stay as
they are. -/
structure GoesOnAs (record next : HistoryRecord) : Prop where
  openings_isPrefix :
    record.steps.map opening <+: next.steps.map opening
  getElem?_eq_of_finished {handle : Nat} {step : HistoryStep} :
    record.steps[handle]? = some step → step.finishedAt.isSome →
      next.steps[handle]? = some step

theorem goesOnAs_after (record : HistoryRecord) (changes : List Change)
    (status : RunStatus) (now : Instant) :
    record.GoesOnAs ((record.after changes).finalize status now) where
  openings_isPrefix := by
    rw [openings_finalize, openings_after]
    exact List.prefix_append _ _
  getElem?_eq_of_finished found finished := by
    rw [getElem?_finalize (getElem?_after found changes),
      closeWith_of_finished finished, cancelOpen_of_finished finished]

/-- A closed record has one step for each start, in the order of the starts
and with the node, the type and the input that they give.  Under the handle
that a start gives stands its step: closed by the first change that finishes
it, or cancelled if there is none.  What is closed at any time is not touched
again, a handle that no start has given changes nothing, and in the end all
steps are closed, and so is the record. -/
theorem steps_closed_once (id workflowRef workflowName : String)
    (opened : Instant) (changes : List Change) (status : RunStatus)
    (now : Instant) :
    let first := HistoryRecord.start id workflowRef workflowName opened
    let record := (first.after changes).finalize status now
    record.steps.map opening = changes.filterMap Change.opening? ∧
      (∀ earlier opening later,
        changes = earlier ++ .start opening :: later →
          let handle := (first.after (earlier ++ [.start opening])).lastHandle
          handle = (earlier.filterMap Change.opening?).length ∧
            record.steps[handle]? = some (opening.closedBy
              ((later.findSome? (Change.closing? handle)).getD
                (.cancelled now)))) ∧
      (∀ earlier later, changes = earlier ++ later →
        (first.after earlier).GoesOnAs record) ∧
      (∀ step ∈ record.steps, step.finishedAt.isSome) ∧
      record.status = status ∧ record.finishedAt = some now := by
  intro first record
  have openings (part : List Change) :
      (first.after part).steps.map opening =
        part.filterMap Change.opening? := by
    rw [openings_after]
    rfl
  refine ⟨?_, ?_, ?_, ?_, rfl, rfl⟩
  · rw [openings_finalize, openings]
  · rintro earlier opening later rfl handle
    have startsLast : first.after (earlier ++ [.start opening]) =
        (first.after earlier).apply (.start opening) :=
      after_append first earlier [.start opening]
    have handleEq : handle = (first.after earlier).steps.length := by
      simp only [handle, startsLast, lastHandle_start]
    refine ⟨?_, ?_⟩
    · rw [handleEq, ← openings, List.length_map]
    · rw [handleEq]
      simpa only [record, after_append, after_cons] using
        getElem?_finalize_after_start (first.after earlier) opening later
          status now
  · rintro earlier later rfl
    simpa only [record, after_append] using
      goesOnAs_after (first.after earlier) later status now
  · intro step member
    obtain ⟨earlier, -, rfl⟩ := List.mem_map.1 member
    exact finished_cancelOpen earlier now

/-- Two steps that are finished crosswise, one of them once more, and a step
that is left open. -/
def crosswise : List Change :=
  [.start ⟨"init", "variable", none, .epoch⟩,
    .start ⟨"fetch", "http", none, .epoch⟩,
    .finish 1 ⟨.error, none, some "status 500", .epoch⟩,
    .finish 0 ⟨.success, some "0", none, .epoch⟩,
    .start ⟨"wait", "sleep", none, .epoch⟩,
    .finish 1 ⟨.success, some "late", none, .epoch⟩]

theorem steps_closed_once_crosswise :
    let record := ((HistoryRecord.start "run" "flow.yaml" "flow"
      .epoch).after crosswise).finalize .error .epoch
    record.steps.map opening = [⟨"init", "variable", none, .epoch⟩,
        ⟨"fetch", "http", none, .epoch⟩, ⟨"wait", "sleep", none, .epoch⟩] ∧
      record.steps[1]? = some ⟨"fetch", "http", .error, none, none,
        some "status 500", .epoch, some .epoch⟩ ∧
      record.steps[2]? = some ⟨"wait", "sleep", .cancelled, none, none, none,
        .epoch, some .epoch⟩ := by
  obtain ⟨openings, steps, -⟩ := steps_closed_once "run" "flow.yaml" "flow"
    .epoch crosswise .error .epoch
  exact ⟨openings, (steps (crosswise.take 1) _ _ rfl).2,
    (steps (crosswise.take 4) _ _ rfl).2⟩

end HistoryRecord

end Runbook
