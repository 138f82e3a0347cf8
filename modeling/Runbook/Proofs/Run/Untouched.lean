import Runbook.Proofs.Run.Transcript
import Runbook.Proofs.Run.Walk
import Runbook.Proofs.Step.Commit

/-!
# Steps without success

A step that fails or is cancelled leaves the variables of its frame as it
found them, and has no output: its handler commits at the end only, and what a
called workflow leaves behind is copied only if it is completed.
-/

namespace Runbook

/-- The handlers of a registry commit at their end. -/
def Registry.Commits (registry : Registry) : Prop :=
  ∀ nodeType handler, registry.handler? nodeType = some handler →
    handler.Commits

theorem Registry.standard_commits : Registry.standard.Commits := by
  intro nodeType handler known
  obtain rfl := Option.some.inj known
  exact Handler.standard_commits nodeType

namespace Engine

variable {engine : Engine} {runChild : FrameRunner} {fuel : Nat}
  {scope : Scope} {node : Node} {before after : Run}
  {transcript : Run.Transcript}

/-- A final directive leads to a jump, and no other one does. -/
theorem isFinal_iff_of_flow? {directive : Directive} {flow : Flow}
    (leads : flow? node directive = some flow) :
    directive.isFinal ↔ ∃ target, flow = .jump target := by
  cases directive with
  | suspend prompt => cases leads
  | _ =>
      cases leads
      simp [Directive.isFinal]

/-- A handler that commits at its end has changed nothing unless the node
jumps. -/
theorem Interacts.state_eq {context : Step.Context} {handler : Handler}
    {step : Step Directive} {state ended : Step.State}
    {result : Except Interrupt Flow} (commits : handler.Commits)
    (stepCommits : step.Commits)
    (interacts : Interacts engine scope context handler fuel step state before
      transcript result ended after)
    (unfinished : ∀ target, result ≠ .ok (.jump target)) : ended = state := by
  -- Each answer starts a step of its own, from the state left by the last one.
  induction interacts with
  | exhausted => rfl
  | aborted => rfl
  | stopped carried =>
      rcases stepCommits.final_or_eq carried with ⟨_, impossible, -⟩ | same
      · cases impossible
      · exact same
  | directed carried leads =>
      rcases stepCommits.final_or_eq carried with ⟨_, ⟨⟩, final⟩ | same
      · obtain ⟨target, rfl⟩ := (isFinal_iff_of_flow? leads).1 final
        exact (unfinished target rfl).elim
      · exact same
  | unanswered carried awaits =>
      rcases stepCommits.final_or_eq carried with ⟨_, ⟨⟩, impossible⟩ | same
      · cases impossible
      · exact same
  | resumed carried awaits resumes ih =>
      rcases stepCommits.final_or_eq carried with ⟨_, ⟨⟩, impossible⟩ | same
      · cases impossible
      · exact (ih (commits.resume _ _) unfinished).trans same

/-- A node that does not lead anywhere leaves the variables as they are, and
has no output. -/
theorem Drives.untouched {properties : OrderedMap String}
    {bindings reached : Variables} {interrupt : Interrupt}
    {output : Option String}
    (commits : ∀ handler, engine.registry.handler? node.nodeType =
      some handler → handler.Commits)
    (drives : Drives engine runChild fuel scope node properties bindings before
      transcript (.error interrupt) output reached after) :
    reached = bindings ∧ output = none := by
  cases drives with
  | unknown missing => exact ⟨rfl, rfl⟩
  | interrupted known interacts =>
      obtain rfl := interacts.state_eq (commits _ known)
        (commits _ known).execute (by simp)
      exact ⟨rfl, rfl⟩
  | callFailed known interacts calls =>
      obtain rfl := interacts.state_eq (commits _ known)
        (commits _ known).execute (by simp)
      exact ⟨rfl, rfl⟩

/-- A visit that does not lead on has no effect on the variables. -/
theorem Performs.untouched {visit : Visit} {frame reached : Frame}
    {interrupt : Interrupt}
    (commits : ∀ handler, engine.registry.handler? visit.node.nodeType =
      some handler → handler.Commits)
    (performs : Performs engine runChild fuel scope visit before frame
      transcript reached after)
    (stops : visit.result = .error interrupt) :
    visit.after = visit.bindings ∧ visit.output = none := by
  obtain ⟨driving, -, drives⟩ := performs.exists_drives
  rw [stops] at drives
  exact drives.untouched commits

theorem stepEnd_ne_success_iff {result : Except Interrupt Target}
    {output : Option String} :
    (engine.stepEnd result output).1 ≠ .success ↔
      ∃ interrupt, result = .error interrupt := by
  unfold stepEnd
  rcases result with (_ | error | _) | target <;> simp

/-- With the standard handler of its type, a node whose step does not end with
success leaves the variables of its frame exactly as they were.  That is so for
all properties and variables, whatever services and people reply, however often
the node is suspended, and whatever a called workflow does. -/
theorem unsuccessful_step_untouched
    (handled : engine.registry.handler? node.nodeType =
      some (Handler.standard node.nodeType)) :
    (∀ properties bindings before transcript result output reached after,
      (engine.driveNode runChild fuel scope node properties bindings).Yields
        before transcript (result, output, reached) after →
      (engine.stepEnd result output).1 ≠ .success → reached = bindings) ∧
    ∀ frame before transcript result reached after,
      (engine.step runChild fuel scope node frame).Yields before transcript
        (result, reached) after →
      (engine.stepEnd result none).1 ≠ .success →
      reached.bindings = frame.bindings := by
  have commits : ∀ handler, engine.registry.handler? node.nodeType =
      some handler → handler.Commits := by
    intro handler known
    rw [handled] at known
    obtain rfl := Option.some.inj known
    exact Handler.standard_commits node.nodeType
  constructor
  · intro properties bindings before transcript result output reached after
      yields unsuccessful
    obtain ⟨interrupt, rfl⟩ := stepEnd_ne_success_iff.1 unsuccessful
    exact ((drives_of_yields yields).untouched commits).1
  · intro frame before transcript result reached after yields unsuccessful
    obtain ⟨interrupt, rfl⟩ := stepEnd_ne_success_iff.1 unsuccessful
    obtain ⟨visit, -, rfl, stops, performs⟩ := performs_of_yields yields 0
    obtain ⟨first_eq, last_eq⟩ := performs.bindings_eq
    rw [last_eq, (performs.untouched commits stops).1, first_eq]

/-- Services with one file, which no password opens, and a person who answers
every prompt with its path. -/
def lockedFile : Oracle Unit :=
  let info : FileInfo := ⟨"1", "a.txt", "a.txt", none, none, none⟩
  { call := fun
      | .findFile _, services => (.ok (some info), services)
      | .getFile _ _, services => (.ok ⟨info, "", true⟩, services)
      | call, services => Oracle.refusing.call call services
    sleep := fun _ services => services
    answer := fun _ services => (some "a.txt", services) }

/-- A node that has a person choose a file. -/
def choosing : Node :=
  ⟨"choose", .promptFile, .ofList [("saveTo", "x"), ("saveFileTo", "y")],
    ⟨.pastEnd, none, none⟩⟩

theorem unsuccessful_step_untouched_choosing :
    ∃ result transcript reached after,
      ({ unattended with hasPrompts := true }.step (unattended.nested 3) 3
          ⟨""⟩ choosing ⟨.ofList [("x", "1"), ("z", "2")], none⟩).Yields
        (Run.fresh "id" "file") transcript (result, reached) after ∧
      result = .error (.failed (.handler "choose"
        "incorrect password for 'a.txt'")) ∧
      (transcript.countP fun (exchange : Run.Exchange) =>
        match exchange.question.question with
        | .answer _ => true
        | _ => false) = 2 ∧
      reached.bindings = .ofList [("x", "1"), ("z", "2")] := by
  let engine : Engine := { unattended with hasPrompts := true }
  let frame : Frame := ⟨.ofList [("x", "1"), ("z", "2")], none⟩
  have handled : engine.registry.handler? choosing.nodeType =
      some (Handler.standard choosing.nodeType) := rfl
  have yields := lockedFile.yields_run
    (engine.step (unattended.nested 3) 3 ⟨""⟩ choosing frame)
    (Run.fresh "id" "file") .still
  have evaluated :
      (lockedFile.run (engine.step (unattended.nested 3) 3 ⟨""⟩ choosing frame)
        (Run.fresh "id" "file") .still).value.1.1 =
          .error (.failed (.handler "choose"
            "incorrect password for 'a.txt'")) ∧
        ((lockedFile.run
          (engine.step (unattended.nested 3) 3 ⟨""⟩ choosing frame)
          (Run.fresh "id" "file") .still).transcript.countP
            fun (exchange : Run.Exchange) =>
              match exchange.question.question with
              | .answer _ => true
              | _ => false) = 2 := by
    decide +kernel
  generalize lockedFile.run
    (engine.step (unattended.nested 3) 3 ⟨""⟩ choosing frame)
    (Run.fresh "id" "file") .still = conversation at yields evaluated
  obtain ⟨failed, asked⟩ := evaluated
  have untouched := (unsuccessful_step_untouched handled).2 frame _ _ _ _ _
    yields (stepEnd_ne_success_iff.2 ⟨_, failed⟩)
  exact ⟨_, _, _, _, yields, failed, asked, untouched⟩

end Engine

end Runbook
