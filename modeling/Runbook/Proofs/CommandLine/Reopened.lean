import Runbook.Proofs.CommandLine.FileRun
import Runbook.Proofs.Rehearsal.Locate
import Runbook.Proofs.Run.Refusal

/-!
# Files that are opened again

While a workflow file is run, its nodes call workflows of other files, and so
on.  A workflow that is open is not to be entered again.  The call stack tells
workflows apart by the texts of their references, and the workflow of the
command by the path that the command gives; but documents are loaded from where
references lead from the folder of that path.  Both ways agree if references
are written plainly and the command names its file without a folder: then a
call that leads back to an open workflow is refused.  A file that is named with
its folder is opened again by the first node that refers to it.
-/

namespace Runbook.CommandLine

open Engine

/-- A workflow that is open, and where its document has been loaded from. -/
structure Opened where
  callee : Callee
  path : String

namespace FileRun

/-- The workflows that have been called on the way to a frame. -/
def called (run : FileRun) (callees : List Callee) : List Opened :=
  callees.map fun callee => ⟨callee, run.path callee.reference⟩

/-- The workflows that are open in a frame: the one of the file, and those that
have been called on the way. -/
def opened (run : FileRun) (callees : List Callee) : List Opened :=
  ⟨⟨run.arguments.file, run.workflow.name⟩, run.arguments.file⟩ ::
    run.called callees

/-- A workflow is called that is open: its document is in the same file, and it
has the same name.  Relative paths start from a folder. -/
structure LeadsBack (run : FileRun) (start : String) (callee : Callee)
    (opened : Opened) : Prop where
  target_eq : Path.target start (run.path callee.reference) =
    Path.target start opened.path
  name_eq : callee.name = opened.callee.name

/-- A frame of a run makes a call, when some workflows have been called on the
way to it. -/
inductive Reaches (run : FileRun) (callees : List Callee) (inner : FrameRun)
    (attempt : Attempt) : Prop
  | intro {outer : FrameRun} {later : Run.Transcript}
      (outermost : IsOutermost run.setup.engine LocalRun.stepLimit run.workflow
        (.ofList run.arguments.bindings) (.fresh run.id run.arguments.file)
        run.transcript outer)
      (opens : Opens run.setup.engine outer callees inner)
      (attempts : Attempts run.setup.engine inner attempt later)

/-- A call is refused because its workflow is open: nothing is executed after
the document has been loaded, the run fails, and so does the command. -/
structure Refuses (run : FileRun) (ended : Except Failure Unit)
    (callees : List Callee) (attempt : Attempt) : Prop
    extends EndsInCycle run.transcript run.outcome? attempt
      ((run.opened callees).map Opened.callee) where
  exists_failure : ∃ failure, ended = .error failure ∧
    (run.arguments.historyOut = none → failure =
      (RunError.cycle attempt.callee.key
        (((run.opened callees).map Opened.callee).map Callee.key ++
          [attempt.callee.key])).failure)

variable {run : FileRun} {hosted : Host.Transcript}
  {ended : Except Failure Unit} {callees : List Callee} {inner : FrameRun}
  {attempt : Attempt} {opened : Opened} {start : String}

theorem map_callee_opened (run : FileRun) (callees : List Callee) :
    (run.opened callees).map Opened.callee =
      ⟨run.arguments.file, run.workflow.name⟩ :: callees := by
  simp [FileRun.opened, called, Function.comp_def]

/-! ### Plain references -/

/-- The reference under which a workflow is open leads to its file, unless it is
the path of the command and names a folder. -/
theorem path_eq_of_opened (member : opened ∈ run.opened callees)
    (named : Path.IsName run.arguments.file ∨ opened ∈ run.called callees) :
    run.path opened.callee.reference = opened.path := by
  have ofCalled (isCalled : opened ∈ run.called callees) :
      run.path opened.callee.reference = opened.path := by
    obtain ⟨callee, -, rfl⟩ := List.mem_map.1 isCalled
    rfl
  rcases named with isName | isCalled
  · rcases List.mem_cons.1 member with rfl | isCalled
    · rw [path, folder, Path.parent?_of_isName isName, Option.getD_some,
        Path.join_of_isEmpty]
    · exact ofCalled isCalled
  · exact ofCalled isCalled

/-- A call that leads back to a workflow has the key under which it is open. -/
theorem LeadsBack.key_eq
    (leadsBack : run.LeadsBack start attempt.callee opened)
    (isPlain : Path.IsPlain attempt.callee.reference)
    (isPlainToo : Path.IsPlain opened.callee.reference)
    (path_eq : run.path opened.callee.reference = opened.path) :
    opened.callee.key = attempt.callee.key := by
  have same := leadsBack.target_eq
  rw [← path_eq] at same
  rw [Callee.key, Callee.key, Path.eq_of_target_eq isPlain isPlainToo same,
    leadsBack.name_eq]

/-! ### Calls of open workflows -/

/-- The document of a workflow is loaded before the call stack decides. -/
theorem IsBy.loads_attempt (isBy : run.IsBy hosted ended)
    (reaches : run.Reaches callees inner attempt) :
    ∃ bytes,
      ⟨.load (run.path attempt.callee.reference), .ok bytes⟩ ∈ hosted ∧
      Text.ofBytes? bytes = some attempt.source := by
  cases reaches with
  | intro outermost opens attempts =>
      have inside := opens.isInfix.trans outermost.isInfix
      exact isBy.loads (inside.subset attempts.loaded_mem)

/-- A call of a workflow whose key is that of an open one is refused. -/
theorem IsBy.refuses (isBy : run.IsBy hosted ended)
    (reaches : run.Reaches callees inner attempt)
    (isOpen : ∃ opened ∈ run.opened callees,
      opened.callee.key = attempt.callee.key) :
    run.Refuses ended callees attempt := by
  cases reaches with
  | intro outermost opens attempts =>
      cases isBy with
      | intro read findsEndpoint findsRoot answers executes finishes split =>
          have keys : attempt.callee.key ∈
              ((run.opened callees).map Opened.callee).map Callee.key := by
            simpa using isOpen
          have ends : EndsInCycle run.transcript run.outcome? attempt
              ((run.opened callees).map Opened.callee) := by
            rw [map_callee_opened] at keys ⊢
            exact (attempts.endsInCycle_or_invokes executes outermost
              opens).1 keys
          obtain ⟨outcome, isOutcome, failed, error_eq⟩ := ends.exists_outcome
          rw [isOutcome] at finishes
          exact ⟨ends, fails_of_finish finishes failed error_eq⟩

/-- A call of any other workflow is not refused if there is room. -/
theorem IsBy.exists_invokes (isBy : run.IsBy hosted ended)
    (reaches : run.Reaches callees inner attempt)
    (isClosed : ∀ opened ∈ run.opened callees,
      opened.callee.key ≠ attempt.callee.key)
    (room : (run.opened callees).length <
      run.setup.engine.options.maxCallDepth) :
    ∃ called, Invokes run.setup.engine inner attempt called := by
  cases reaches with
  | intro outermost opens attempts =>
      cases isBy with
      | intro read findsEndpoint findsRoot answers executes finishes split =>
          have closed : attempt.callee.key ∉
              ((run.opened callees).map Opened.callee).map Callee.key := by
            simpa using isClosed
          rw [← List.length_map Opened.callee] at room
          rw [map_callee_opened] at closed room
          exact (attempts.endsInCycle_or_invokes executes outermost opens).2
            closed room

end FileRun

/-- A command that runs a file fails before anything of the run can be
observed, or it has the engine execute the workflow.  In every run, and for
every call of a frame that is reached through calls: the document is loaded
from where the reference leads from the folder of the file.  If the key of the
called workflow is that of an open one, then the call is refused: nothing is
executed any more, and the run and the command fail with the cycle.  If not,
then the workflow is entered, as long as there is room.  Hence a call that
leads back to the file and the name of an open workflow is refused if both
references are plain; if the workflow is that of the command, then its file has
to be named without a folder. -/
theorem run_refuses_opened {arguments : RunArguments}
    {hosted : Host.Transcript} {ended : Except Failure Unit}
    (yields : (CommandLine.run arguments).run.Yields hosted ended) :
    (FailsBeforehand hosted ended ∨
      ∃ run : FileRun, run.arguments = arguments ∧ run.IsBy hosted ended) ∧
    ∀ run : FileRun, run.arguments = arguments → run.IsBy hosted ended →
      ∀ callees inner attempt, run.Reaches callees inner attempt →
        (∃ bytes,
          ⟨.load (run.path attempt.callee.reference), .ok bytes⟩ ∈ hosted ∧
          Text.ofBytes? bytes = some attempt.source) ∧
        ((∃ opened ∈ run.opened callees,
            opened.callee.key = attempt.callee.key) →
          run.Refuses ended callees attempt) ∧
        ((∀ opened ∈ run.opened callees,
            opened.callee.key ≠ attempt.callee.key) →
          (run.opened callees).length <
            run.setup.engine.options.maxCallDepth →
          ∃ called, Invokes run.setup.engine inner attempt called) ∧
        ∀ start, ∀ opened ∈ run.opened callees,
          run.LeadsBack start attempt.callee opened →
          Path.IsPlain attempt.callee.reference →
          Path.IsPlain opened.callee.reference →
          Path.IsName arguments.file ∨ opened ∈ run.called callees →
          run.Refuses ended callees attempt := by
  refine ⟨failsBeforehand_or_exists_fileRun yields, ?_⟩
  rintro run rfl isBy callees inner attempt reaches
  refine ⟨isBy.loads_attempt reaches, isBy.refuses reaches,
    isBy.exists_invokes reaches, ?_⟩
  intro start opened member leadsBack isPlain isPlainToo named
  have path_eq := FileRun.path_eq_of_opened member named
  exact isBy.refuses reaches
    ⟨opened, member, leadsBack.key_eq isPlain isPlainToo path_eq⟩

/-! ### A file that calls itself -/

/-- The reply of a rehearsed machine to a question. -/
def machineReply (question : Host.Question) (machine : Rehearsal.Machine) :
    Host.Reply question × Rehearsal.Machine :=
  machine.answer question

namespace FileRun

/-- The run with the replies of a rehearsed machine. -/
def rehearsed (run : FileRun) (machine : Rehearsal.Machine) : FileRun :=
  let served := Program.answeredFrom run.answer machineReply
    ((run.setup.engine.execute LocalRun.stepLimit run.workflow
      (.ofList run.arguments.bindings))
        (.fresh run.id run.arguments.file)) machine
  { run with
    answered := served.1
    outcome? := served.2.1.1
    after := served.2.1.2 }

theorem exists_isBy_rehearsed {run : FileRun} {bytes : Bytes}
    {first second : Host.Transcript}
    (read : Workflow.read (Text.ofBytes bytes) run.arguments.name =
      .ok run.workflow)
    (findsEndpoint : modelEndpoint.run.Yields first (.ok run.endpoint))
    (findsRoot : (storeRoot run.arguments.root).run.Yields second
      (.ok run.root)) (machine : Rehearsal.Machine) :
    ∃ hosted ended, (run.rehearsed machine).IsBy hosted ended := by
  obtain ⟨answers, executes⟩ := Program.yields_answeredFrom run.answer
    machineReply ((run.setup.engine.execute LocalRun.stepLimit run.workflow
      (.ofList run.arguments.bindings))
        (.fresh run.id run.arguments.file)) machine
  let finishing := finish run.arguments (run.rehearsed machine).outcome?
  let closing := finishing.run.converse machineReply machine
  have finishes : finishing.run.Yields closing.transcript closing.value :=
    Program.yields_converse _ _
  exact ⟨_, _, .intro read findsEndpoint findsRoot answers executes finishes
    rfl⟩

/-- Where the environment says nothing, there is no endpoint, and the root is
the current folder. -/
theorem exists_surroundings (folder : String) :
    (∃ first, modelEndpoint.run.Yields first (.ok none)) ∧
      ∃ second, (storeRoot none).run.Yields second (.ok folder) :=
  ⟨⟨_, yields_ask_bind_iff.2 ⟨none, _, rfl,
      yields_ask_bind_iff.2 ⟨none, _, rfl,
        yields_ask_bind_iff.2 ⟨none, [], rfl, .done _⟩⟩⟩⟩,
    ⟨_, yields_ask_bind_iff.2 ⟨none, _, rfl,
      yields_ask_bind_iff.2 ⟨.ok folder, [], rfl, .done _⟩⟩⟩⟩

end FileRun

/-- A document that appends to a file, and then calls the workflow of
`main.yaml`. -/
def recurrentText : String :=
  "nodes: [\x7btype: drive-file, path: m, content: x, mode: append\x7d, " ++
    "\x7btype: workflow, path: main.yaml\x7d]"

def recurrent : Workflow :=
  ⟨"default", none,
    [⟨"node-1", .driveFile,
        .ofList [("path", "m"), ("content", "x"), ("mode", "append")],
        ⟨.node 1, none, none⟩⟩,
      ⟨"node-2", .workflow, .ofList [("path", "main.yaml")],
        ⟨.pastEnd, none, none⟩⟩], 0⟩

/-- A machine that has the document in a folder and in one below it. -/
def recurrentMachine : Rehearsal.Machine :=
  let file := Rehearsal.Disk.file (Text.toBytes recurrentText) Instant.epoch
  .new (.folder [("main.yaml", file),
    ("flows", .folder [("main.yaml", file)])]) "/" .empty [] .offline 0

/-- The arguments that name the document by a path. -/
def recurrentArguments (file : String) : RunArguments :=
  ⟨file, none, [], none, none, true, false, false⟩

namespace FileRun

/-- The run of the document from a path. -/
def recurring (file : String) : FileRun :=
  rehearsed ⟨recurrentArguments file, recurrent, none, "/", "id-1", [], none,
    default⟩ recurrentMachine

theorem recurrent_read :
    Workflow.read (Text.ofBytes (Text.toBytes recurrentText)) none =
      .ok recurrent :=
  eq_ok_of_toOption (by decide +kernel)

theorem exists_isBy_recurring (file : String) :
    ∃ hosted ended, (recurring file).IsBy hosted ended := by
  obtain ⟨⟨first, findsEndpoint⟩, second, findsRoot⟩ := exists_surroundings "/"
  apply exists_isBy_rehearsed
  · exact recurrent_read
  · exact findsEndpoint
  · exact findsRoot

/-- The reference from which a document is loaded in an exchange. -/
def loadedFrom? : Run.Exchange → Option String
  | ⟨⟨_, .call (.loadWorkflow reference)⟩, _⟩ => some reference
  | _ => none

/-- If all documents are loaded from one reference, and a call has the key of
it and a name, then this is what is called. -/
theorem Reaches.callee_eq {run : FileRun} {callees : List Callee}
    {inner : FrameRun} {attempt : Attempt} {callee : Callee}
    (reaches : run.Reaches callees inner attempt)
    (loaded : ∀ reference ∈ run.transcript.filterMap loadedFrom?,
      reference = callee.reference)
    (key_eq : attempt.callee.key = callee.key) : attempt.callee = callee := by
  have reference_eq : attempt.callee.reference = callee.reference := by
    cases reaches with
    | intro outermost opens attempts =>
        have inside := opens.isInfix.trans outermost.isInfix
        exact loaded _ (List.mem_filterMap.2
          ⟨_, inside.subset attempts.loaded_mem, rfl⟩)
  have same := congrArg String.toList key_eq
  rw [Callee.toList_key, Callee.toList_key, reference_eq] at same
  exact Callee.ext reference_eq (String.toList_injective
    (List.cons.inj (List.append_cancel_left same)).2)

/-- A run that ends in a cycle has refused a call. -/
theorem IsBy.exists_reaches {run : FileRun} {hosted : Host.Transcript}
    {ended : Except Failure Unit} {key : String} {entries : List String}
    (isBy : run.IsBy hosted ended)
    (ends : run.outcome?.map (fun outcome => (outcome.status, outcome.error)) =
      some (.error, some (.cycle key entries))) :
    ∃ outer callees inner attempt later,
      IsOutermost run.setup.engine LocalRun.stepLimit run.workflow
        (.ofList run.arguments.bindings) (.fresh run.id run.arguments.file)
        run.transcript outer ∧
      Opens run.setup.engine outer callees inner ∧
      Attempts run.setup.engine inner attempt later ∧
      attempt.callee.key = key ∧
      entries = Callee.key ⟨run.arguments.file, run.workflow.name⟩ ::
        (callees.map Callee.key ++ [key]) := by
  obtain ⟨outcome, isOutcome, same⟩ := Option.map_eq_some_iff.1 ends
  obtain ⟨failed, error_eq⟩ := Prod.mk.inj same
  cases isBy with
  | intro read findsEndpoint findsRoot answers executes finishes split =>
      rw [isOutcome] at executes
      exact exists_refused_of_cycle executes (Nat.zero_lt_succ 19) failed
        error_eq

end FileRun

/-- A file that calls itself under the name by which the command has named it
is not opened again. -/
theorem run_refuses_opened_recurring :
    ∃ hosted ended, ∃ run : FileRun, ∃ callees inner attempt opened,
      (CommandLine.run (recurrentArguments "main.yaml")).run.Yields hosted
        ended ∧
      run.arguments = recurrentArguments "main.yaml" ∧
      run.IsBy hosted ended ∧ run.Reaches callees inner attempt ∧
      opened ∈ run.opened callees ∧
      run.LeadsBack "/" attempt.callee opened ∧
      Path.IsPlain attempt.callee.reference ∧
      Path.IsPlain opened.callee.reference ∧ Path.IsName "main.yaml" ∧
      run.Refuses ended callees attempt := by
  have evaluated :
      let run := FileRun.recurring "main.yaml"
      run.outcome?.map (fun outcome => (outcome.status, outcome.error)) =
          some (.error, some (.cycle "main.yaml:default"
            ["main.yaml:default", "main.yaml:default"])) ∧
        ∀ reference ∈ run.transcript.filterMap FileRun.loadedFrom?,
          reference = "main.yaml" := by
    decide +kernel
  obtain ⟨ends, loaded⟩ := evaluated
  obtain ⟨hosted, ended, isBy⟩ := FileRun.exists_isBy_recurring "main.yaml"
  obtain ⟨outer, callees, inner, attempt, later, outermost, opens, attempts,
    key_eq, entries_eq⟩ := isBy.exists_reaches ends
  have reaches := FileRun.Reaches.intro outermost opens attempts
  have callee_eq := @FileRun.Reaches.callee_eq _ _ _ _
    ⟨"main.yaml", "default"⟩ reaches loaded key_eq
  let file : Opened := ⟨⟨"main.yaml", "default"⟩, "main.yaml"⟩
  have isName : Path.IsName "main.yaml" :=
    ⟨by decide, by decide, by decide, by decide⟩
  have leadsBack : (FileRun.recurring "main.yaml").LeadsBack "/"
      attempt.callee file := by
    rw [callee_eq]
    exact ⟨by decide, rfl⟩
  have isPlain : Path.IsPlain attempt.callee.reference := by
    rw [callee_eq]
    exact isName.isPlain
  have member : file ∈ (FileRun.recurring "main.yaml").opened callees :=
    List.mem_cons_self
  have refuses := ((run_refuses_opened isBy.yields).2 _ rfl isBy callees inner
    attempt reaches).2.2.2 "/" file member leadsBack isPlain isName.isPlain
      (.inl isName)
  exact ⟨hosted, ended, _, callees, inner, attempt, file, isBy.yields, rfl,
    isBy, reaches, member, leadsBack, isPlain, isName.isPlain, isName, refuses⟩

/-- A file that is named with its folder is opened again by its own node, under
the name that it has there. -/
theorem run_opens_file_again :
    ¬ ∀ (arguments : RunArguments) (hosted : Host.Transcript)
      (ended : Except Failure Unit),
      (CommandLine.run arguments).run.Yields hosted ended →
      ∀ run : FileRun, run.arguments = arguments → run.IsBy hosted ended →
        ∀ callees inner attempt, run.Reaches callees inner attempt →
          ∀ start, ∀ opened ∈ run.opened callees,
            run.LeadsBack start attempt.callee opened →
            run.Refuses ended callees attempt := by
  intro refuses
  have evaluated :
      let run := FileRun.recurring "flows/main.yaml"
      run.outcome?.map (fun outcome => (outcome.status, outcome.error)) =
          some (.error, some (.cycle "main.yaml:default"
            ["flows/main.yaml:default", "main.yaml:default",
              "main.yaml:default"])) ∧
        ∀ reference ∈ run.transcript.filterMap FileRun.loadedFrom?,
          reference = "main.yaml" := by
    decide +kernel
  obtain ⟨ends, loaded⟩ := evaluated
  obtain ⟨hosted, ended, isBy⟩ :=
    FileRun.exists_isBy_recurring "flows/main.yaml"
  obtain ⟨outer, callees, inner, last, later, outermost, opens, -, -,
    entries_eq⟩ := isBy.exists_reaches ends
  -- The refused call is in a frame that the first call has opened.
  cases opens with
  | here run => cases entries_eq
  | @called _ middle _ attempt _ invokes opens =>
      cases invokes with
      | intro attempts entered start_eq runs =>
          have reaches := FileRun.Reaches.intro outermost (.here outer) attempts
          have callee_eq := @FileRun.Reaches.callee_eq _ _ _ _
            ⟨"main.yaml", "default"⟩ reaches loaded
            (List.cons.inj (List.cons.inj entries_eq).2).1.symm
          have leadsBack : (FileRun.recurring "flows/main.yaml").LeadsBack "/"
              attempt.callee
              ⟨⟨"flows/main.yaml", "default"⟩, "flows/main.yaml"⟩ := by
            rw [callee_eq]
            exact ⟨by decide, rfl⟩
          have refused := refuses _ hosted ended isBy.yields _ rfl isBy []
            outer attempt reaches "/" _ List.mem_cons_self leadsBack
          obtain ⟨outcome, isOutcome, -, error_eq⟩ := refused.exists_outcome
          rw [isOutcome, Option.map_some, Option.some.injEq, Prod.mk.injEq,
            error_eq, callee_eq] at ends
          exact absurd ends.2 (by decide)

end Runbook.CommandLine
