import Runbook.CommandLine.Basic
import Runbook.Proofs.Program.Transcript
import Runbook.Proofs.Rehearsal.Contained
import Runbook.Proofs.Run.Transcript

/-!
# Runs of workflow files

The command that runs a file reads the workflow, looks for the surroundings in
which it is run, has an engine execute it whose questions the local services
answer, and finishes with what comes of that.  Unless it fails before the engine
begins, all this can be told apart in what the command asks of the machine.
-/

namespace Runbook

/-- What has been asked of a machine, with the replies. -/
abbrev Host.Transcript := Runbook.Transcript Host.Question Host.Reply

theorem Program.AsksOnly.forall_mem {Question α : Type}
    {Reply : Question → Type} {isAsked : Question → Prop}
    {program : Program Question Reply α} {value : α}
    {transcript : Transcript Question Reply}
    (asks : program.AsksOnly isAsked)
    (yields : program.Yields transcript value) :
    ∀ exchange ∈ transcript, isAsked exchange.question := by
  induction yields with
  | done value => exact List.forall_mem_nil _
  | ask reply rest ih =>
      cases asks with
      | ask first others =>
          exact List.forall_mem_cons.2 ⟨first, ih (others reply)⟩

theorem Hosted.yields_ask_bind_iff {α : Type} {question : Host.Question}
    {next : Host.Reply question → Hosted α} {value : α}
    {hosted : Host.Transcript} :
    (Hosted.ask question >>= next).Yields hosted value ↔
      ∃ reply rest, hosted = ⟨question, reply⟩ :: rest ∧
        (next reply).Yields rest value :=
  Program.yields_ask_iff

namespace CommandLine

open Program (Answered AsksOnly)

variable {α β : Type} {hosted : Host.Transcript} {arguments : RunArguments}

/-! ### The parts of commands -/

theorem yields_bind_iff {first : Commanded α} {next : α → Commanded β}
    {ended : Except Failure β} :
    (first >>= next).run.Yields hosted ended ↔
      ∃ front rest attempt, hosted = front ++ rest ∧
        first.run.Yields front attempt ∧
        ((∃ failure, attempt = .error failure ∧ rest = [] ∧
            ended = .error failure) ∨
          ∃ value, attempt = .ok value ∧
            (next value).run.Yields rest ended) := by
  refine Program.yields_bind_iff.trans ?_
  constructor
  · rintro ⟨front, rest, attempt, split, start, goesOn⟩
    refine ⟨front, rest, attempt, split, start, ?_⟩
    cases attempt with
    | error failure =>
        obtain ⟨rfl, rfl⟩ := Program.yields_done_iff.1 goesOn
        exact .inl ⟨failure, rfl, rfl, rfl⟩
    | ok value => exact .inr ⟨value, rfl, goesOn⟩
  · rintro ⟨front, rest, _, split, start,
      ⟨failure, rfl, rfl, rfl⟩ | ⟨value, rfl, goesOn⟩⟩
    · exact ⟨front, [], _, split, start, .done _⟩
    · exact ⟨front, rest, _, split, start, goesOn⟩

theorem yields_lift_bind_iff {program : Hosted α} {next : α → Commanded β}
    {ended : Except Failure β} :
    ((ExceptT.lift program : Commanded α) >>= next).run.Yields hosted ended ↔
      ∃ front rest value, hosted = front ++ rest ∧
        program.Yields front value ∧ (next value).run.Yields rest ended := by
  rw [ExceptT.run_bind_lift]
  exact Program.yields_bind_iff

theorem yields_ask_bind_iff {question : Host.Question}
    {next : Host.Reply question → Commanded β} {ended : Except Failure β} :
    (ask question >>= next).run.Yields hosted ended ↔
      ∃ reply rest, hosted = ⟨question, reply⟩ :: rest ∧
        (next reply).run.Yields rest ended :=
  Program.yields_ask_iff

theorem asksOnly_ask_bind {isAsked : Host.Question → Prop}
    {question : Host.Question} {next : Host.Reply question → Commanded β}
    (asks : isAsked question)
    (rest : ∀ reply, (next reply).run.AsksOnly isAsked) :
    (ask question >>= next).run.AsksOnly isAsked :=
  .ask asks rest

/-- A question does not announce an event of a run. -/
def IsQuiet (question : Host.Question) : Prop :=
  ∀ event, question ≠ .observe event

theorem modelEndpoint_asksOnly : modelEndpoint.run.AsksOnly IsQuiet :=
  .ask nofun fun _ => .ask nofun fun _ => .ask nofun fun _ => .done _

theorem storeRoot_asksOnly (given : Option String) :
    (storeRoot given).run.AsksOnly IsQuiet := by
  refine asksOnly_ask_bind nofun fun named => ?_
  dsimp only
  cases given with
  | some root => exact .done _
  | none =>
      cases named.filter fun root => !root.isEmpty with
      | some root => exact .done _
      | none =>
          refine asksOnly_ask_bind nofun fun reply => ?_
          cases reply <;> exact .done _

theorem readFrom_of_yields {file : String} {name : Option String}
    {result : Except WorkflowFileError Workflow}
    (yields : (Workflow.readFrom file name).Yields hosted result) :
    ∃ reply, hosted = [⟨.load file, reply⟩] ∧
      ∀ workflow, result = .ok workflow → ∃ bytes, reply = .ok bytes ∧
        Workflow.read (Text.ofBytes bytes) name = .ok workflow := by
  obtain ⟨reply, rest, rfl, goesOn⟩ := Hosted.yields_ask_bind_iff.1 yields
  refine ⟨reply, ?_⟩
  cases reply with
  | error error =>
      obtain ⟨rfl, rfl⟩ := Program.yields_done_iff.1 goesOn
      exact ⟨rfl, nofun⟩
  | ok bytes =>
      dsimp only at goesOn
      cases read : Workflow.read (Text.ofBytes bytes) name with
      | error error =>
          rw [read] at goesOn
          obtain ⟨rfl, rfl⟩ := Program.yields_done_iff.1 goesOn
          exact ⟨rfl, nofun⟩
      | ok workflow =>
          rw [read] at goesOn
          obtain ⟨rfl, rfl⟩ := Program.yields_done_iff.1 goesOn
          refine ⟨rfl, fun other same => ⟨bytes, rfl, ?_⟩⟩
          cases same
          exact read

theorem loadWorkflow_of_yields {file : String} {name : Option String}
    {attempt : Except Failure Workflow}
    (yields : (loadWorkflow file name).run.Yields hosted attempt) :
    ∃ reply, hosted = [⟨.load file, reply⟩] ∧
      ∀ workflow, attempt = .ok workflow → ∃ bytes, reply = .ok bytes ∧
        Workflow.read (Text.ofBytes bytes) name = .ok workflow := by
  rw [loadWorkflow, yields_lift_bind_iff] at yields
  obtain ⟨front, rest, result, rfl, reads, ends⟩ := yields
  obtain ⟨reply, rfl, read⟩ := readFrom_of_yields reads
  refine ⟨reply, ?_⟩
  cases result with
  | error error =>
      obtain ⟨rfl, rfl⟩ := Program.yields_done_iff.1 ends
      exact ⟨rfl, nofun⟩
  | ok workflow =>
      obtain ⟨rfl, rfl⟩ := Program.yields_done_iff.1 ends
      refine ⟨rfl, fun other same => ?_⟩
      cases same
      exact read workflow rfl

/-- A workflow is executed by an engine whose questions are answered one by
one. -/
theorem execute_of_yields {setup : LocalRun} {workflow : Workflow}
    {reference : String} {bindings : Variables} {outcome? : Option RunOutcome}
    (yields : (setup.execute workflow reference bindings).Yields hosted
      outcome?) :
    ∃ id, ∃ answered : List (Answered Run.Moment Run.Moment.Reply Host.Question
        Host.Reply), ∃ after,
      hosted = ⟨.newId, id⟩ :: answered.flatMap Answered.asked ∧
      (∀ one ∈ answered, one.IsBy
        fun (moment : Run.Moment) => setup.answer moment.question) ∧
      (setup.engine.execute LocalRun.stepLimit workflow bindings).Yields
        (.fresh id reference) (answered.map Answered.toExchange) outcome?
          after := by
  obtain ⟨id, rest, rfl, goesOn⟩ := Hosted.yields_ask_bind_iff.1 yields
  obtain ⟨asked, last, ⟨ended, after⟩, rfl, runs, ends⟩ :=
    Program.yields_bind_iff.1 goesOn
  obtain ⟨rfl, rfl⟩ := Program.yields_done_iff.1 ends
  obtain ⟨answered, answers, rfl, executes⟩ :=
    Program.yields_answeredBy_iff.1 runs
  exact ⟨id, answered, after, by simp, answers, executes⟩

theorem loadText_of_yields {path text : String}
    (yields : (Hosted.loadText path).Yields hosted (.ok text)) :
    ∃ bytes, hosted = [⟨.load path, .ok bytes⟩] ∧
      Text.ofBytes? bytes = some text := by
  obtain ⟨reply, rest, rfl, goesOn⟩ := Hosted.yields_ask_bind_iff.1 yields
  cases reply with
  | error error => cases (Program.yields_done_iff.1 goesOn).2
  | ok bytes =>
      dsimp only at goesOn
      cases read : Text.ofBytes? bytes with
      | none =>
          rw [read] at goesOn
          cases (Program.yields_done_iff.1 goesOn).2
      | some other =>
          rw [read] at goesOn
          obtain ⟨rfl, same⟩ := Program.yields_done_iff.1 goesOn
          cases same
          exact ⟨bytes, rfl, read⟩

/-- The document of a workflow is loaded from where its reference leads. -/
theorem loadWorkflow_of_answer {setup : LocalRun} {reference source : String}
    (yields : (setup.answer (.call (.loadWorkflow reference))).Yields hosted
      (some (.ok source))) :
    ∃ bytes, hosted =
        [⟨.load (Path.join setup.services.workflowFolder reference),
          .ok bytes⟩] ∧
      Text.ofBytes? bytes = some source := by
  obtain ⟨first, rest, result, rfl, performs, ends⟩ :=
    Program.yields_bind_iff.1 yields
  obtain ⟨rfl, same⟩ := Program.yields_done_iff.1 ends
  cases same
  obtain ⟨first, rest, attempt, rfl, loads, ends⟩ :=
    Program.yields_bind_iff.1 performs
  cases attempt with
  | error error => cases (Program.yields_done_iff.1 ends).2
  | ok text =>
      obtain ⟨rfl, same⟩ := Program.yields_done_iff.1 ends
      cases same
      simpa using loadText_of_yields loads

/-- What a command does when its workflow has been executed. -/
def finish (arguments : RunArguments) : Option RunOutcome → Commanded Unit
  | none => throw (.of "the workflow takes too many steps")
  | some outcome => do
    ask (.output (renderVariables outcome.bindings ++ "\n"))
    if let some path := arguments.historyOut then
      writeHistory outcome.history path
    conclude outcome

/-- A command fails if the run does; if no record is written, then it fails
with the error of the run. -/
theorem fails_of_finish {outcome : RunOutcome} {error : RunError}
    {ended : Except Failure Unit}
    (finishes : (finish arguments (some outcome)).run.Yields hosted ended)
    (failed : outcome.status = .error)
    (error_eq : outcome.error = some error) :
    ∃ failure, ended = .error failure ∧
      (arguments.historyOut = none → failure = error.failure) := by
  have concludes {front : Host.Transcript}
      (yields : (conclude outcome).run.Yields front ended) :
      ended = .error error.failure := by
    rw [conclude, failed, error_eq] at yields
    exact (Program.yields_done_iff.1 yields).2
  rw [finish, yields_ask_bind_iff] at finishes
  obtain ⟨_, rest, rfl, finishes⟩ := finishes
  cases historyOut : arguments.historyOut with
  | none =>
      rw [historyOut] at finishes
      exact ⟨_, concludes finishes, fun _ => rfl⟩
  | some path =>
      rw [historyOut] at finishes
      obtain ⟨_, _, _, rfl, -, ⟨failure, -, -, rfl⟩ | ⟨_, -, finishes⟩⟩ :=
        yields_bind_iff.1 finishes
      · exact ⟨failure, rfl, nofun⟩
      · exact ⟨_, concludes finishes, nofun⟩

/-! ### Runs of files -/

/-- A run of a file: the workflow that has been read, the surroundings, and
what the engine asks with the answers of the services. -/
structure FileRun where
  arguments : RunArguments
  workflow : Workflow
  endpoint : Option ModelEndpoint
  root : String
  id : String
  answered : List (Answered Run.Moment Run.Moment.Reply Host.Question
    Host.Reply)
  outcome? : Option RunOutcome
  after : Run

namespace FileRun

def folder (run : FileRun) : String :=
  (Path.parent? run.arguments.file).getD ""

def setup (run : FileRun) : LocalRun :=
  ⟨⟨⟨run.root⟩, run.endpoint, run.folder, run.arguments.keepsHistory⟩,
    run.arguments.isAccepting, { logValues := run.arguments.logsValues }⟩

/-- How the questions of the engine are answered. -/
def answer (run : FileRun) (moment : Run.Moment) : Hosted moment.Reply :=
  run.setup.answer moment.question

/-- What the engine asks, with the replies. -/
def transcript (run : FileRun) : Run.Transcript :=
  run.answered.map Answered.toExchange

/-- Where the document of a called workflow is loaded from. -/
def path (run : FileRun) (reference : String) : String :=
  Path.join run.folder reference

/-- A command runs a file like this. -/
inductive IsBy (run : FileRun) (hosted : Host.Transcript)
    (ended : Except Failure Unit) : Prop
  | intro {bytes : Bytes} {first second closing : Host.Transcript}
      (read : Workflow.read (Text.ofBytes bytes) run.arguments.name =
        .ok run.workflow)
      (findsEndpoint : modelEndpoint.run.Yields first (.ok run.endpoint))
      (findsRoot : (storeRoot run.arguments.root).run.Yields second
        (.ok run.root))
      (answers : ∀ one ∈ run.answered, one.IsBy run.answer)
      (executes : (run.setup.engine.execute LocalRun.stepLimit run.workflow
        (.ofList run.arguments.bindings)).Yields
          (.fresh run.id run.arguments.file) run.transcript run.outcome?
            run.after)
      (finishes : (finish run.arguments run.outcome?).run.Yields closing ended)
      (split : hosted = ⟨.load run.arguments.file, .ok bytes⟩ ::
        (first ++ (second ++ (⟨.newId, run.id⟩ ::
          (run.answered.flatMap Answered.asked ++ closing)))))

variable {run : FileRun} {ended : Except Failure Unit}

/-- A run of a file is one of the command. -/
theorem IsBy.yields (isBy : run.IsBy hosted ended) :
    (CommandLine.run run.arguments).run.Yields hosted ended := by
  cases isBy with
  | @intro bytes first second closing read findsEndpoint findsRoot answers
      executes finishes split =>
      have reads : (Workflow.readFrom run.arguments.file
          run.arguments.name).Yields [⟨.load run.arguments.file, .ok bytes⟩]
            (.ok run.workflow) := by
        refine Hosted.yields_ask_bind_iff.2 ⟨.ok bytes, [], rfl, ?_⟩
        dsimp only
        rw [read]
        exact .done _
      have runs : (run.setup.execute run.workflow run.arguments.file
          (.ofList run.arguments.bindings)).Yields
            (⟨.newId, run.id⟩ :: run.answered.flatMap Answered.asked)
            run.outcome? := by
        refine Hosted.yields_ask_bind_iff.2 ⟨run.id, _, rfl, ?_⟩
        refine Program.yields_bind_iff.2
          ⟨_, [], (run.outcome?, run.after), (List.append_nil _).symm, ?_,
            .done _⟩
        exact Program.yields_answeredBy_iff.2 ⟨_, answers, rfl, executes⟩
      rw [CommandLine.run, split]
      refine yields_bind_iff.2 ⟨[_], _, _, rfl,
        yields_lift_bind_iff.2 ⟨_, [], _, (List.append_nil _).symm, reads,
          .done _⟩, .inr ⟨run.workflow, rfl, ?_⟩⟩
      refine yields_bind_iff.2 ⟨first, _, _, rfl, findsEndpoint,
        .inr ⟨run.endpoint, rfl, ?_⟩⟩
      refine yields_bind_iff.2 ⟨second, _, _, rfl, findsRoot,
        .inr ⟨run.root, rfl, ?_⟩⟩
      refine yields_lift_bind_iff.2 ⟨_, closing, run.outcome?,
        List.cons_append.symm, runs, ?_⟩
      cases outcome : run.outcome? with
      | none | some _ =>
          rw [outcome] at finishes
          exact finishes

/-- The document of a called workflow is loaded from where its reference leads
from the folder of the file. -/
theorem IsBy.loads (isBy : run.IsBy hosted ended) {current : Run}
    {reference source : String}
    (loaded : current.exchange (.call (.loadWorkflow reference))
      (some (.ok source)) ∈ run.transcript) :
    ∃ bytes, ⟨.load (run.path reference), .ok bytes⟩ ∈ hosted ∧
      Text.ofBytes? bytes = some source := by
  cases isBy with
  | intro read findsEndpoint findsRoot answers executes finishes split =>
      obtain ⟨⟨exchange, asked⟩, member, same⟩ := List.mem_map.1 loaded
      obtain rfl : exchange = _ := same
      obtain ⟨bytes, rfl, read⟩ := loadWorkflow_of_answer (answers _ member)
      have asked : ⟨.load (run.path reference), .ok bytes⟩ ∈
          run.answered.flatMap Answered.asked :=
        List.mem_flatMap.2 ⟨_, member, List.mem_singleton.2 rfl⟩
      refine ⟨bytes, ?_, read⟩
      rw [split]
      simp [asked]

end FileRun

/-- A command fails before anything of a run can be observed. -/
structure FailsBeforehand (hosted : Host.Transcript)
    (ended : Except Failure Unit) : Prop where
  exists_failure : ∃ failure, ended = .error failure
  isQuiet : ∀ exchange ∈ hosted, IsQuiet exchange.question

/-- A command that runs a file fails beforehand, or has the engine execute the
workflow. -/
theorem failsBeforehand_or_exists_fileRun {ended : Except Failure Unit}
    (yields : (run arguments).run.Yields hosted ended) :
    FailsBeforehand hosted ended ∨
      ∃ fileRun : FileRun, fileRun.arguments = arguments ∧
        fileRun.IsBy hosted ended := by
  rw [run, yields_bind_iff] at yields
  obtain ⟨loading, rest, attempt, rfl, loads, ⟨failure, rfl, rfl, rfl⟩ |
    ⟨workflow, rfl, yields⟩⟩ := yields
  · obtain ⟨reply, rfl, -⟩ := loadWorkflow_of_yields loads
    exact .inl ⟨⟨failure, rfl⟩, List.forall_mem_singleton.2 nofun⟩
  obtain ⟨_, rfl, reads⟩ := loadWorkflow_of_yields loads
  obtain ⟨bytes, rfl, read⟩ := reads workflow rfl
  rw [yields_bind_iff] at yields
  obtain ⟨first, rest, attempt, rfl, findsEndpoint,
    ⟨failure, rfl, rfl, rfl⟩ | ⟨endpoint, rfl, yields⟩⟩ := yields
  · refine .inl ⟨⟨failure, rfl⟩, ?_⟩
    rw [List.append_nil, List.singleton_append]
    exact List.forall_mem_cons.2
      ⟨nofun, modelEndpoint_asksOnly.forall_mem findsEndpoint⟩
  rw [yields_bind_iff] at yields
  obtain ⟨second, rest, attempt, rfl, findsRoot,
    ⟨failure, rfl, rfl, rfl⟩ | ⟨root, rfl, yields⟩⟩ := yields
  · refine .inl ⟨⟨failure, rfl⟩, ?_⟩
    rw [List.append_nil, List.singleton_append]
    exact List.forall_mem_cons.2 ⟨nofun, List.forall_mem_append.2
      ⟨modelEndpoint_asksOnly.forall_mem findsEndpoint,
        (storeRoot_asksOnly _).forall_mem findsRoot⟩⟩
  right
  rw [yields_lift_bind_iff] at yields
  obtain ⟨executing, closing, outcome?, rfl, executes, finishes⟩ := yields
  obtain ⟨id, answered, after, rfl, answers, runs⟩ :=
    execute_of_yields executes
  have finishes : (finish arguments outcome?).run.Yields closing ended := by
    cases outcome? <;> exact finishes
  exact ⟨⟨arguments, workflow, endpoint, root, id, answered, outcome?, after⟩,
    rfl, .intro read findsEndpoint findsRoot answers runs finishes (by simp)⟩

end CommandLine

end Runbook
