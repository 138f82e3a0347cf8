import Runbook.Proofs.Run.CallSite
import Runbook.Proofs.Run.Cut

/-!
# Runs that are cancelled

Two runs are compared that get the same replies: one is never aborted, and the
other one is from some read on.  The cancelled run is the other one cut short
at that read.
-/

namespace Runbook

namespace Run

/-- Whether an exchange reads if the run is aborted. -/
def Exchange.isRead : Exchange → Bool
  | ⟨⟨_, .isAborted⟩, _⟩ => true
  | _ => false

/-- How often it is read whether the run is aborted. -/
def Transcript.reads (transcript : Transcript) : Nat :=
  transcript.countP Exchange.isRead

end Run

namespace Oracle

variable {Services α : Type}

/-- Reply like an oracle, but let the run be aborted after so many reads. -/
def replyUntil (oracle : Oracle Services) :
    (moment : Run.Moment) → Nat × State Services →
      moment.Reply × (Nat × State Services)
  | ⟨_, .isAborted⟩, (0, state) => (true, (0, state))
  | ⟨_, .isAborted⟩, (left + 1, state) => (false, (left, state))
  | moment, (left, state) =>
    let (reply, state) := oracle.reply moment state
    (reply, (left, state))

/-- What comes of a computation that is aborted after so many reads. -/
def runUntil (oracle : Oracle Services) (left : Nat)
    (computation : Running α) (run : Run) (state : State Services) :
    Conversation Run.Moment Run.Moment.Reply (α × Run)
      (Nat × State Services) :=
  (computation run).converse oracle.replyUntil (left, state)

/-- A computation that reads often enough goes on in the same way up to the
read at which it is aborted. -/
theorem converse_replyUntil (oracle : Oracle Services)
    (program : Program Run.Moment Run.Moment.Reply α)
    (state : State Services) (left : Nat)
    (reads : left < Run.Transcript.reads
      (program.converse oracle.reply state).transcript) :
    ∃ earlier current onwardRest cutRest,
      (program.converse oracle.reply state).transcript =
        earlier ++ Run.exchange current .isAborted false :: onwardRest ∧
      (program.converse oracle.replyUntil (left, state)).transcript =
        earlier ++ current.exchange .isAborted true :: cutRest ∧
      Run.Transcript.reads earlier = left := by
  induction program generalizing state left with
  | done value => cases reads
  | ask moment next ih =>
      obtain ⟨run, question⟩ := moment
      cases question with
      | isAborted =>
          cases left with
          | zero => exact ⟨[], run, _, _, rfl, rfl, rfl⟩
          | succ left =>
              have readsMore := Nat.lt_of_succ_lt_succ
                (Nat.lt_of_lt_of_eq reads (List.countP_cons_of_pos rfl))
              obtain ⟨earlier, current, _, _, onward, cut, rfl⟩ :=
                ih false state left readsMore
              exact ⟨run.exchange .isAborted false :: earlier, current, _, _,
                congrArg (_ :: ·) onward, congrArg (_ :: ·) cut,
                List.countP_cons_of_pos rfl⟩
      | _ =>
          have readsLater := Nat.lt_of_lt_of_eq reads
            (List.countP_cons_of_neg Bool.false_ne_true)
          obtain ⟨earlier, current, _, _, onward, cut, rfl⟩ :=
            ih _ _ left readsLater
          exact ⟨_ :: earlier, current, _, _, congrArg (_ :: ·) onward,
            congrArg (_ :: ·) cut,
            List.countP_cons_of_neg Bool.false_ne_true⟩

/-- A computation that reads often enough forks at the read at which it is
aborted. -/
theorem forks_of_reads (oracle : Oracle Services) (computation : Running α)
    (before : Run) (state : State Services) (left : Nat)
    (reads : left < Run.Transcript.reads
      (oracle.run computation before state).transcript) :
    ∃ earlier current onward cut,
      Running.Forks computation before earlier current onward cut ∧
      Run.Transcript.reads earlier = left ∧
      (oracle.run computation before state).transcript =
        earlier ++ Run.exchange current .isAborted false :: onward.rest ∧
      (oracle.run computation before state).value.1 = onward.value ∧
      (oracle.runUntil left computation before state).transcript =
        earlier ++ current.exchange .isAborted true :: cut.rest ∧
      (oracle.runUntil left computation before state).value.1 =
        cut.value := by
  obtain ⟨earlier, current, onwardRest, cutRest, onward_eq, cut_eq, same⟩ :=
    oracle.converse_replyUntil (computation before) state left reads
  let onward := oracle.run computation before state
  let cut := oracle.runUntil left computation before state
  refine ⟨earlier, current, ⟨onwardRest, onward.value.1, onward.value.2⟩,
    ⟨cutRest, cut.value.1, cut.value.2⟩, ⟨?_, ?_⟩, same, onward_eq, rfl,
    cut_eq, rfl⟩
  · have yields := oracle.yields_run computation before state
    rwa [run, onward_eq] at yields
  · have yields : computation.Yields before cut.transcript cut.value.1
        cut.value.2 := Program.yields_converse _ _
    rwa [show cut.transcript = _ from cut_eq] at yields

end Oracle

namespace Engine

variable {engine : Engine}

/-- A run whose outermost workflow is cancelled ends as cancelled. -/
theorem Concludes.exists_outcome {id : String} {first : HistoryRecord}
    {frame : Frame} {outcome? : Option RunOutcome}
    (concludes : Concludes id first (.error .cancelled, frame) outcome?) :
    ∃ outcome, outcome? = some outcome ∧ outcome.status = .cancelled ∧
      outcome.error = none ∧ outcome.bindings = frame.bindings := by
  cases concludes with
  | endless endless => cases endless
  | ended ends finished =>
      cases ends
      exact ⟨_, rfl, rfl, rfl, rfl⟩

theorem Concludes.steps_eq {id : String} {first record : HistoryRecord}
    {ended : Except Interrupt Unit} {frame : Frame} {outcome : RunOutcome}
    (concludes : Concludes id first (ended, frame) (some outcome))
    (recorded : frame.record = some record)
    (closed : ∀ step ∈ record.steps, step.finishedAt.isSome) :
    outcome.history.steps = record.steps := by
  cases concludes with
  | ended ends finished =>
      rw [recorded]
      exact HistoryRecord.steps_finalize closed

/-- A frame closes all steps that it records. -/
theorem closed_of_yields {fuel : Nat} {scope : Scope} {workflow : Workflow}
    {target : Target} {frame reached : Frame} {before after : Run}
    {transcript : Run.Transcript} {ended : Except Interrupt Unit}
    {first last : HistoryRecord}
    (yields : (engine.runFrom fuel scope workflow target frame).Yields before
      transcript (ended, reached) after)
    (recorded : frame.record = some first) (fresh : first.steps = [])
    (lastRecorded : reached.record = some last) :
    ∀ step ∈ last.steps, step.finishedAt.isSome := by
  obtain ⟨visits, walk⟩ := walk_of_yields yields
  obtain ⟨steps, reachedRecord, isRecorded⟩ := walk.exists_steps recorded
  rw [lastRecorded, Option.some.injEq] at reachedRecord
  subst reachedRecord
  simpa [fresh] using Visit.forall_steps isRecorded (fun _ _ => trivial)
    fun _ _ recordedBy _ => recordedBy.finished

/-- Where a run stands after part of what it exchanges: its outermost workflow
has been entered, and stands somewhere. -/
inductive RunStandsAt (engine : Engine) (fuel : Nat) (workflow : Workflow)
    (bindings : Variables) (before : Run) :
    Run.Transcript → Frame → Option Node → Prop
  | entered (started : Instant) {stack : CallStack} {running : Run.Transcript}
      {standing : Frame} {begun : Option Node}
      (entered : before.stack.push
        (CallStack.key before.reference workflow.name)
        engine.options.maxCallDepth = .ok stack)
      (stands : StandsAt engine ⟨""⟩ workflow fuel (.node workflow.start)
        ⟨bindings, some (firstRecord workflow before started)⟩
        { before with status := .running, stack } running standing begun) :
      RunStandsAt engine fuel workflow bindings before
        (opening before started ++ running) standing begun

/-- A run that is aborted from some read on is cancelled, and it is the run
that goes on, cut short at that read.  Up to there both exchange the same.
After it the cancelled run only closes what is open, so that it does not enter
any handler or workflow, each of which begins with a read.  It keeps the
variables and the steps that stand at the read.  If a step has been begun there
then it is recorded too, as cancelled; it is the next step of the run that goes
on. -/
theorem execute_cutShort {Services : Type} (engine : Engine)
    (standard : engine.registry = Registry.standard)
    (oracle : Oracle Services) (state : Oracle.State Services) (fuel : Nat)
    (workflow : Workflow) (bindings : Variables) (id reference : String)
    (left : Nat)
    (reads : left < Run.Transcript.reads
      (oracle.run (engine.execute fuel workflow bindings)
        (Run.fresh id reference) state).transcript) :
    let onward := oracle.run (engine.execute fuel workflow bindings)
      (Run.fresh id reference) state
    let cut := oracle.runUntil left (engine.execute fuel workflow bindings)
      (Run.fresh id reference) state
    ∃ earlier current onwardRest cutRest standing begun record last outcome,
      onward.transcript =
        earlier ++ Run.exchange current .isAborted false :: onwardRest ∧
      Run.Transcript.reads earlier = left ∧
      cut.transcript =
        earlier ++ current.exchange .isAborted true :: cutRest ∧
      (∀ exchange ∈ cutRest, Run.Exchange.Closes exchange) ∧
      RunStandsAt engine fuel workflow bindings (Run.fresh id reference)
        earlier standing begun ∧
      standing.record = some record ∧
      cut.value.1 = some outcome ∧ outcome.status = .cancelled ∧
      outcome.error = none ∧ outcome.bindings = standing.bindings ∧
      outcome.history.steps = record.steps ++ last ∧
      last.length = begun.toList.length ∧
      (∀ step ∈ last, step.IsCancelled ∧
        ∃ node ∈ begun, step.IsOf node standing.bindings) ∧
      ∀ full, onward.value.1 = some full →
        ∃ others, full.history.steps = record.steps ++ others ∧
          ∀ node ∈ begun, ∃ next ∈ others.head?,
            next.IsOf node standing.bindings := by
  intro onward cut
  have fits : engine.registry.Fits := by
    rw [standard]
    exact Registry.standard_fits
  have commits : engine.registry.Commits := by
    rw [standard]
    exact Registry.standard_commits
  obtain ⟨earlier, current, ⟨onwardRest, onwardValue, onwardAfter⟩,
    ⟨cutRest, cutValue, cutAfter⟩, forks, readsEarlier, onward_eq,
    onwardValue_eq, cut_eq, cutValue_eq⟩ :=
    oracle.forks_of_reads _ _ state left reads
  have closes : ∀ exchange ∈ cutRest, Run.Exchange.Closes exchange := by
    intro exchange member
    have whole := (proceeds_of_yields forks.cut).closesOnAbort fits
    have afterRead := (List.pairwise_append.1 whole).2.1
    exact (List.pairwise_cons.1 afterRead).1 exchange member rfl
  obtain ⟨started, stack, running, ⟨_, ⟨onwardEnded, onwardFrame⟩, _⟩,
    ⟨_, ⟨cutEnded, cutFrame⟩, _⟩, rfl, entered, frameForks, onwardConcludes,
    cutConcludes⟩ := frameForks_of_execute forks
  obtain ⟨rfl, standing, begun, stands, cuts⟩ :=
    standsAt_of_forks fits commits rfl frameForks
  have runStands := RunStandsAt.entered started entered stands
  obtain ⟨outcome, rfl, cancelled, errorless, bindings_eq⟩ :=
    cutConcludes.exists_outcome
  -- All steps of the record are closed, so that the history shows them as they
  -- are, on either way.
  have cutSteps {last : HistoryRecord}
      (recorded : cutFrame.record = some last) :
      outcome.history.steps = last.steps :=
    cutConcludes.steps_eq recorded
      (closed_of_yields frameForks.cut rfl rfl recorded)
  have onwardSteps {last : HistoryRecord} {full : RunOutcome}
      (recorded : onwardFrame.record = some last)
      (ends : onward.value.1 = some full) :
      full.history.steps = last.steps := by
    rw [onwardValue_eq] at ends
    subst ends
    exact onwardConcludes.steps_eq recorded
      (closed_of_yields frameForks.onward rfl rfl recorded)
  cases cuts with
  | @between record others _ recorded =>
      have unextended : outcome.history.steps = record.steps ++ [] := by
        rw [cutSteps rfl, List.append_nil]
      exact ⟨_, current, onwardRest, cutRest, standing, none, record, [],
        outcome, onward_eq, readsEarlier, cut_eq, closes, runStands, recorded,
        cutValue_eq, cancelled, errorless, bindings_eq, unextended, rfl,
        by simp, fun full ends => ⟨others, onwardSteps rfl ends, by simp⟩⟩
  | @within record others step next node _ recorded isOf isCancelled
      nextIsOf =>
      exact ⟨_, current, onwardRest, cutRest, standing, some node, record,
        [step], outcome, onward_eq, readsEarlier, cut_eq, closes, runStands,
        recorded, cutValue_eq, cancelled, errorless, bindings_eq, cutSteps rfl,
        rfl, by simpa using ⟨isCancelled, isOf⟩, fun full ends =>
          ⟨next :: others, onwardSteps rfl ends, by simpa using nextIsOf⟩⟩

/-- A workflow that sets a variable, and has another workflow increase it. -/
def preparing : Workflow :=
  ⟨"outer", none,
    [⟨"set", .assign, .ofList [("name", "x"), ("value", "1")],
        ⟨.node 1, none, none⟩⟩,
      CallSite.increasing.node], 0⟩

/-- This run is aborted when the handler of the called workflow would be
entered. -/
theorem execute_cutShort_preparing :
    ∃ outcome,
      (CallSite.library.runUntil 6 (unattended.execute 5 preparing .empty)
        (Run.fresh "id" "outer.yaml") .still).value.1 = some outcome ∧
      outcome.status = .cancelled ∧ outcome.error = none ∧
      outcome.history.steps.map HistoryStep.status = [.success, .cancelled] ∧
      outcome.bindings.entries = [("x", "1")] := by
  have evaluated : (CallSite.library.runUntil 6
      (unattended.execute 5 preparing .empty) (Run.fresh "id" "outer.yaml")
      .still).value.1.map (fun outcome =>
        (outcome.history.steps.map HistoryStep.status,
          outcome.bindings.entries)) =
        some ([.success, .cancelled], [("x", "1")]) := by
    decide +kernel
  obtain ⟨_, _, _, _, _, _, _, _, outcome, -, -, -, -, -, -, cutShort,
    cancelled, errorless, -⟩ := execute_cutShort unattended rfl
      CallSite.library .still 5 preparing .empty "id" "outer.yaml" 6
      (by decide +kernel)
  rw [cutShort, Option.map_some, Option.some.injEq, Prod.mk.injEq] at evaluated
  exact ⟨outcome, cutShort, cancelled, errorless, evaluated⟩

end Engine

end Runbook
