import Runbook.Proofs.Run.Course
import Runbook.Proofs.Run.Transcript

/-!
# The statuses of a run

What is published of the statuses and prompts of a run.  A run starts, waits
for answers and goes on, and ends once; it is cancelled if it ends while it
waits.  Its status is at every moment the one that has been published last.
-/

namespace Runbook

/-- The changes of its status that a run can make. -/
def RunStatus.mayBecome : RunStatus → RunStatus → Bool
  | .pending, .running => true
  | .running, .waitingPrompt => true
  | .running, .completed => true
  | .running, .error => true
  | .running, .cancelled => true
  | .waitingPrompt, .running => true
  | .waitingPrompt, .cancelled => true
  | _, _ => false

/-- No status is entered twice in a row. -/
theorem RunStatus.ne_of_mayBecome {before after : RunStatus}
    (becomes : before.mayBecome after) : before ≠ after := by
  rintro rfl
  cases before <;> cases becomes

namespace RunEvent

/-- An event is a status or a prompt. -/
def isSignal : RunEvent → Bool
  | .log _ => false
  | _ => true

/-- An event reports that the run waits for an answer. -/
def isSuspension : RunEvent → Bool
  | .status entered => entered = .waitingPrompt
  | .prompt _ => true
  | .log _ => false

/-- The events with which a run waits for an answer. -/
def suspension (request : PromptRequest) : List RunEvent :=
  [.status .waitingPrompt, .prompt request]

end RunEvent

namespace Run

/-- The event that an exchange publishes. -/
def Exchange.event? : Exchange → Option RunEvent
  | ⟨⟨_, .publish event⟩, _⟩ => some event
  | _ => none

namespace Transcript

/-- The statuses and prompts that are published, in order. -/
def signals (transcript : Transcript) : List RunEvent :=
  (transcript.filterMap Exchange.event?).filter RunEvent.isSignal

/-- The statuses that are published, in order. -/
def statuses (transcript : Transcript) : List RunStatus :=
  transcript.signals.filterMap RunEvent.status?

/-- The prompts that are published, in order. -/
def requests (transcript : Transcript) : List PromptRequest :=
  transcript.signals.filterMap RunEvent.request?

@[simp]
theorem signals_append (first second : Transcript) :
    signals (first ++ second) = first.signals ++ second.signals := by
  simp [signals]

/-- From one status to another, the run is at every exchange in the status
that has been published last. -/
inductive Tracks : RunStatus → Transcript → RunStatus → Prop
  | nothing (status : RunStatus) : Tracks status [] status
  | exchanged {status after : RunStatus} {exchange : Exchange}
      {rest : Transcript}
      (current : exchange.question.run.status =
        (exchange.event?.bind RunEvent.status?).getD status)
      (tracks : Tracks exchange.question.run.status rest after) :
      Tracks status (exchange :: rest) after

theorem Tracks.append {before middle after : RunStatus}
    {first second : Transcript} (start : Tracks before first middle)
    (rest : Tracks middle second after) :
    Tracks before (first ++ second) after := by
  induction start with
  | nothing status => exact rest
  | exchanged current tracks ih => exact .exchanged current (ih rest)

end Transcript

end Run

/-- How the statuses and prompts of a run go on while it is not ended. -/
inductive Signals : RunStatus → List RunEvent → RunStatus → Prop
  | nothing (status : RunStatus) : Signals status [] status
  | suspended (request : PromptRequest) {rest : List RunEvent}
      {after : RunStatus} (signals : Signals .waitingPrompt rest after) :
      Signals .running (RunEvent.suspension request ++ rest) after
  | resumed {rest : List RunEvent} {after : RunStatus}
      (signals : Signals .running rest after) :
      Signals .waitingPrompt (.status .running :: rest) after

/-- What a run publishes between its start and its end: prompts that are
answered one by one, and perhaps one that is not. -/
inductive IsDialogue : List RunEvent → RunStatus → Prop
  | nothing : IsDialogue [] .running
  | waiting (request : PromptRequest) :
      IsDialogue (RunEvent.suspension request) .waitingPrompt
  | answered (request : PromptRequest) {rest : List RunEvent}
      {after : RunStatus} (dialogue : IsDialogue rest after) :
      IsDialogue
        (RunEvent.suspension request ++ .status .running :: rest) after

namespace Signals

variable {before middle after : RunStatus} {first second : List RunEvent}

theorem append (start : Signals before first middle)
    (rest : Signals middle second after) :
    Signals before (first ++ second) after := by
  induction start with
  | nothing status => exact rest
  | suspended request signals ih => exact .suspended request (ih rest)
  | resumed signals ih => exact .resumed (ih rest)

/-- From a running run on, all prompts are answered but perhaps the last
one. -/
theorem isDialogue (signals : Signals before first after)
    (running : before = .running) : IsDialogue first after := by
  -- After a prompt, the induction needs it in front of what follows.
  have generalized : (before = .running → IsDialogue first after) ∧
      (before = .waitingPrompt → ∀ request,
        IsDialogue (RunEvent.suspension request ++ first) after) := by
    clear running
    induction signals with
    | nothing status =>
        constructor
        · rintro rfl
          exact .nothing
        · rintro rfl request
          exact .waiting request
    | suspended request signals ih =>
        exact ⟨fun _ => ih.2 rfl request, nofun⟩
    | resumed signals ih =>
        exact ⟨nofun, fun _ request => .answered request (ih.1 rfl)⟩
  exact generalized.1 running

end Signals

namespace IsDialogue

variable {events : List RunEvent} {after : RunStatus}

/-- The statuses of a dialogue follow each other as they may. -/
theorem isChain (dialogue : IsDialogue events after) {ending : List RunStatus}
    (ends : List.IsChain (·.mayBecome ·) (after :: ending)) :
    List.IsChain (·.mayBecome ·)
      (.running :: events.filterMap RunEvent.status? ++ ending) := by
  induction dialogue with
  | nothing => exact ends
  | waiting request => exact .cons_cons rfl ends
  | answered request dialogue ih =>
      exact .cons_cons rfl (.cons_cons rfl (ih ends))

theorem not_isTerminal (dialogue : IsDialogue events after) :
    (events.filterMap RunEvent.status?).filter RunStatus.isTerminal = [] := by
  induction dialogue with
  | nothing => rfl
  | waiting request => rfl
  | answered request dialogue ih => exact ih

theorem status_cases (dialogue : IsDialogue events after) :
    after = .running ∨ after = .waitingPrompt := by
  induction dialogue with
  | nothing => exact .inl rfl
  | waiting request => exact .inr rfl
  | answered request dialogue ih => exact ih

/-- Whenever a run begins to wait it publishes the prompt, and it publishes no
other prompts. -/
theorem filter_isSuspension (dialogue : IsDialogue events after) :
    events.filter RunEvent.isSuspension =
      (events.filterMap RunEvent.request?).flatMap RunEvent.suspension := by
  induction dialogue with
  | nothing => rfl
  | waiting request => rfl
  | answered request dialogue ih =>
      exact congrArg (RunEvent.suspension request ++ ·) ih

end IsDialogue

namespace Engine

open Run.Transcript

variable {engine : Engine} {before after : Run} {transcript : Run.Transcript}

/-- Plain questions publish no signals, and are asked in one status. -/
theorem signals_of_isPlain {scope : Scope} {run : Run}
    (plain : transcript.IsPlain scope run) :
    transcript.signals = [] ∧
      Tracks run.status transcript run.status := by
  induction transcript with
  | nil => exact ⟨rfl, .nothing _⟩
  | cons exchange rest ih =>
      obtain ⟨⟨rfl, silent⟩, plainRest⟩ := Run.isPlain_cons.1 plain
      obtain ⟨signals, tracks⟩ := ih plainRest
      obtain ⟨⟨run, question⟩, reply⟩ := exchange
      have unpublished : Run.Transcript.signals [⟨⟨run, question⟩, reply⟩] =
          [] ∧ (Run.Exchange.event? ⟨⟨run, question⟩, reply⟩).bind
            RunEvent.status? = none := by
        cases question with
        | publish event =>
            cases event with
            | log line => exact ⟨rfl, rfl⟩
            | status status => cases silent
            | prompt request => cases silent
        | _ => exact ⟨rfl, rfl⟩
      refine ⟨?_, .exchanged (by rw [unpublished.2]; rfl) tracks⟩
      rw [← List.singleton_append, signals_append, unpublished.1, signals]
      rfl

/-- The signals along the course of a run, and its status. -/
theorem Course.signals {frames : List String} {scope : Scope}
    {framed : List Run.Framed}
    (course : Course engine frames scope before framed after) :
    Signals before.status
        (Run.Transcript.signals (framed.map Run.Framed.exchange))
        after.status ∧
      Tracks before.status (framed.map Run.Framed.exchange) after.status := by
  induction course with
  | andThen start rest startIh restIh =>
      rw [List.map_append, signals_append]
      exact ⟨startIh.1.append restIh.1, startIh.2.append restIh.2⟩
  | asked frames plain =>
      obtain ⟨silent, tracks⟩ := signals_of_isPlain plain
      rw [List.map_map, Run.exchange_comp_mk, List.map_id', silent]
      exact ⟨.nothing _, tracks⟩
  | pointed frames scope run pointer => exact ⟨.nothing _, .nothing _⟩
  | suspended frames scope request running =>
      rw [running]
      refine ⟨.suspended request (.nothing _), ?_⟩
      exact .exchanged rfl (.exchanged rfl (.nothing _))
  | resumed frames scope waiting =>
      rw [waiting]
      exact ⟨.resumed (.nothing _), .exchanged rfl (.nothing _)⟩
  | called key_eq entered runs course ih => exact ih

/-- While the outermost workflow is run there is a dialogue, and the run waits
after it only if it is cancelled. -/
theorem RunsOutermost.isDialogue {fuel : Nat} {workflow : Workflow}
    {frame reached : Frame} {ended : Except Interrupt Unit}
    (runs : RunsOutermost engine fuel workflow frame before transcript ended
      reached after)
    (running : before.status = .running) :
    IsDialogue transcript.signals after.status ∧
      transcript.Tracks .running after.status ∧
      (after.status = .running ∨ ended = .error .cancelled) := by
  cases runs with
  | refused guarded =>
      rw [running]
      exact ⟨.nothing, .nothing _, .inl rfl⟩
  | entered entered runs =>
      have takes := takes_of_yields runs running
      obtain ⟨framed, rfl, course⟩ := takes.course []
      obtain ⟨signals, tracks⟩ := course.signals
      refine ⟨signals.isDialogue running, ?_, takes.running_or_cancelled⟩
      rwa [running] at tracks

/-- A run ends with a terminal status, and only in the way that it may. -/
theorem mayBecome_of_runEnd? {ended : Except Interrupt Unit}
    {status last : RunStatus} {error : Option RunError}
    (ends : runEnd? ended = some (last, error))
    (waits : status = .running ∨
      status = .waitingPrompt ∧ ended = .error .cancelled) :
    last.isTerminal ∧ status.mayBecome last := by
  rcases waits with rfl | ⟨rfl, rfl⟩
  · rcases ended with (_ | error | _) | _ <;> cases ends <;> exact ⟨rfl, rfl⟩
  · cases ends
    exact ⟨rfl, rfl⟩

/-- What a run publishes: its start, a dialogue, and then its end, unless the
steps that it may take do not suffice. -/
theorem Proceeds.isDialogue {fuel : Nat} {workflow : Workflow}
    {bindings : Variables} {outcome? : Option RunOutcome}
    (proceeds : Proceeds engine fuel workflow bindings before transcript
      outcome? after)
    (pending : before.status = .pending) :
    transcript.Tracks .pending after.status ∧
      ∃ dialogue status, IsDialogue dialogue status ∧
        (outcome? = none ∧
            transcript.signals = .status .running :: dialogue ∨
          ∃ outcome, outcome? = some outcome ∧
            transcript.signals =
              .status .running :: dialogue ++ [.status outcome.status] ∧
            outcome.status.isTerminal ∧ status.mayBecome outcome.status ∧
            after.status = outcome.status) := by
  have opened (started : Instant) :
      (opening before started).signals = [.status .running] ∧
        Tracks .pending (opening before started) .running := by
    simp only [opening, Run.announcement, pending, reduceCtorEq, if_false]
    exact ⟨rfl, .exchanged pending (.exchanged rfl (.nothing _))⟩
  cases proceeds with
  | @exhausted started _ _ _ _ runs endless =>
      obtain ⟨openedSignals, openedTracks⟩ := opened started
      obtain ⟨dialogue, tracks, -⟩ := runs.isDialogue rfl
      refine ⟨openedTracks.append tracks, _, _, dialogue, .inl ⟨rfl, ?_⟩⟩
      rw [signals_append, openedSignals, List.singleton_append]
  | @ended started finished _ _ _ reached status _ runs ends =>
      obtain ⟨openedSignals, openedTracks⟩ := opened started
      obtain ⟨dialogue, tracks, waits⟩ := runs.isDialogue rfl
      obtain ⟨terminal, becomes⟩ := mayBecome_of_runEnd? ends
        (by
          rcases dialogue.status_cases with running | waiting
          · exact .inl running
          · refine .inr ⟨waiting, waits.resolve_left ?_⟩
            simp [waiting])
      have changed := RunStatus.ne_of_mayBecome becomes
      have closed : (closing reached status finished).signals =
            [.status status] ∧
          Tracks reached.status (closing reached status finished) status := by
        simp only [closing, Run.announcement, changed, if_false]
        exact ⟨rfl, .exchanged rfl (.exchanged rfl (.nothing _))⟩
      refine ⟨(openedTracks.append tracks).append closed.2, _, _, dialogue,
        .inr ⟨_, rfl, ?_, terminal, becomes, rfl⟩⟩
      rw [signals_append, signals_append, openedSignals, closed.1,
        List.singleton_append]

/-- The statuses of a fresh run follow the state machine, and its observers and
its state agree on them: it starts, its prompts are answered one by one, and
then it ends, once and in its last status, which is to be cancelled if it still
waits for an answer.  Each time that it begins to wait it publishes its prompt,
and at no other time.  That is so for runs of any length, and as far as a run
has come if it is not ended. -/
theorem execute_follows_statuses (engine : Engine) (fuel : Nat)
    (workflow : Workflow) (bindings : Variables) (id reference : String)
    {transcript : Run.Transcript} {outcome? : Option RunOutcome} {after : Run}
    (yields : (engine.execute fuel workflow bindings).Yields
      (Run.fresh id reference) transcript outcome? after) :
    transcript.Tracks .pending after.status ∧
      (∃ dialogue status, IsDialogue dialogue status ∧
        (outcome? = none ∧
            transcript.signals = .status .running :: dialogue ∨
          ∃ outcome, outcome? = some outcome ∧
            transcript.signals =
              .status .running :: dialogue ++ [.status outcome.status] ∧
            outcome.status.isTerminal ∧ status.mayBecome outcome.status ∧
            after.status = outcome.status)) ∧
      (∀ outcome, outcome? = some outcome →
        transcript.statuses.filter RunStatus.isTerminal = [outcome.status] ∧
        transcript.statuses.getLast? = some outcome.status) ∧
      List.IsChain (·.mayBecome ·) (.pending :: transcript.statuses) ∧
      transcript.signals.filter RunEvent.isSuspension =
        transcript.requests.flatMap RunEvent.suspension := by
  have proceeds := (proceeds_of_yields yields).isDialogue rfl
  refine ⟨proceeds.1, proceeds.2, ?_⟩
  obtain ⟨-, dialogue, status, isDialogue, ⟨rfl, signals_eq⟩ |
    ⟨outcome, rfl, signals_eq, terminal, becomes, -⟩⟩ := proceeds
  · have statuses_eq : transcript.statuses =
        .running :: dialogue.filterMap RunEvent.status? := by
      rw [statuses, signals_eq]
      rfl
    have ends : List.IsChain (·.mayBecome ·) [status] := .singleton _
    have chain := isDialogue.isChain ends
    rw [List.append_nil] at chain
    refine ⟨?_, ?_, ?_⟩
    · rintro _ ⟨⟩
    · rw [statuses_eq]
      exact .cons_cons rfl chain
    · rw [requests, signals_eq]
      exact isDialogue.filter_isSuspension
  · have statuses_eq : transcript.statuses =
        .running :: dialogue.filterMap RunEvent.status? ++
          [outcome.status] := by
      rw [statuses, signals_eq, List.filterMap_append]
      rfl
    have ends : List.IsChain (·.mayBecome ·) [status, outcome.status] :=
      .cons_cons becomes (.singleton _)
    refine ⟨?_, ?_, ?_⟩
    · rintro _ ⟨⟩
      rw [statuses_eq]
      constructor
      · rw [List.filter_append, List.filter_cons_of_neg Bool.false_ne_true,
          isDialogue.not_isTerminal, List.filter_singleton, terminal]
        rfl
      · exact List.getLast?_concat
    · rw [statuses_eq]
      exact .cons_cons rfl (isDialogue.isChain ends)
    · have unsuspended :
          RunEvent.isSuspension (.status outcome.status) = false := by
        cases last : outcome.status <;> simp_all [RunEvent.isSuspension,
          RunStatus.isTerminal]
      have requests_eq : transcript.requests =
          dialogue.filterMap RunEvent.request? := by
        rw [requests, signals_eq, List.filterMap_append]
        exact List.append_nil _
      rw [requests_eq, ← isDialogue.filter_isSuspension, signals_eq,
        List.filter_append, List.filter_singleton, unsuspended]
      exact List.append_nil _

/-- An oracle that loads a document with one prompt, whatever is asked for, and
declines every prompt. -/
def questionnaire : Oracle Unit :=
  { Oracle.refusing with
    call := fun
      | .loadWorkflow _, services =>
        (.ok "name: inner\nnodes:\n- type: prompt-value\n", services)
      | call, services => Oracle.refusing.call call services }

/-- A workflow that asks, and calls another one. -/
def inquiring : Workflow :=
  ⟨"outer", none,
    [⟨"ask", .promptValue, .empty, ⟨.node 1, none, none⟩⟩,
      ⟨"call", .workflow, .ofList [("path", "inner.yaml")],
        ⟨.pastEnd, none, none⟩⟩], 0⟩

theorem execute_follows_statuses_inquiring :
    ∃ transcript outcome? after,
      ({ unattended with hasPrompts := true }.execute 5 inquiring
          .empty).Yields (Run.fresh "id" "outer.yaml") transcript outcome?
        after ∧
      outcome?.map RunOutcome.status = some .completed ∧
      transcript.statuses = [.running, .waitingPrompt, .running,
        .waitingPrompt, .running, .completed] ∧
      transcript.requests.map PromptRequest.nodeId = ["ask", "node-1"] ∧
      transcript.Tracks .pending after.status := by
  let engine : Engine := { unattended with hasPrompts := true }
  have yields := questionnaire.yields_run (engine.execute 5 inquiring .empty)
    (Run.fresh "id" "outer.yaml") .still
  have evaluated :
      let conversation := questionnaire.run
        (engine.execute 5 inquiring .empty) (Run.fresh "id" "outer.yaml")
        .still
      conversation.value.1.map RunOutcome.status = some .completed ∧
        Run.Transcript.statuses conversation.transcript =
          [.running, .waitingPrompt, .running, .waitingPrompt, .running,
            .completed] ∧
        (Run.Transcript.requests conversation.transcript).map
          PromptRequest.nodeId = ["ask", "node-1"] := by
    decide +kernel
  obtain ⟨completed, statuses, requests⟩ := evaluated
  have tracks := (execute_follows_statuses engine 5 inquiring .empty "id"
    "outer.yaml" yields).1
  exact ⟨_, _, _, yields, completed, statuses, requests, tracks⟩

end Engine

end Runbook
