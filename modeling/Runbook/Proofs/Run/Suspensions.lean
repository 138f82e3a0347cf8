import Runbook.Proofs.Run.Statuses
import Runbook.Proofs.Run.Untouched
import Runbook.Proofs.Step.Mismatch

/-!
# The prompts of a visit

A handler asks for as long as it suspends, and is resumed with the prompt that
it has raised.  A standard handler raises the prompts of its type one after
the other, so that it asks twice at most, and what it does with any other
prompt plays no part in a run.
-/

namespace Runbook

namespace Run.Transcript

/-- The kinds of the prompts that are published, in order. -/
def promptKinds (transcript : Transcript) : List PromptKind :=
  transcript.requests.map fun request => request.prompt.kind

@[simp]
theorem promptKinds_append (first second : Transcript) :
    promptKinds (first ++ second) =
      first.promptKinds ++ second.promptKinds := by
  simp [promptKinds, requests]

end Run.Transcript

namespace Program

variable {Question : Type} {Reply : Question → Type} {α β : Type}

end Program

namespace Handler

end Handler

namespace Engine

variable {engine : Engine} {scope : Scope} {node : Node} {fuel : Nat}
  {context : Step.Context} {handler : Handler} {prompt : Prompt}
  {before after : Run} {transcript : Run.Transcript}
  {left : List PromptKind}

/-! ### How often a node asks -/

theorem promptKinds_carried (exchanges : Step.Transcript) (run : Run) :
    Run.Transcript.promptKinds (run.exchange .isAborted false ::
      exchanges.map (relay scope node run)) = [] := by
  have plain : Run.Transcript.IsPlain scope run
      (run.exchange .isAborted false ::
        exchanges.map (relay scope node run)) := isPlain_carried exchanges run
  rw [Run.Transcript.promptKinds, Run.Transcript.requests,
    (signals_of_isPlain plain).1]
  rfl

theorem promptKinds_asking (run : Run) (request : PromptRequest) :
    (asking run request).promptKinds = [request.prompt.kind] := by
  have silent : (run.announcement .waitingPrompt).promptKinds = [] := by
    unfold Run.announcement
    split <;> rfl
  rw [asking, ← List.singleton_append, Run.Transcript.promptKinds_append,
    Run.Transcript.promptKinds_append, silent]
  rfl

theorem promptKinds_asking_append {id : String} {rest : Run.Transcript}
    (silent : rest.promptKinds = []) :
    (asking before ⟨id, before.id, node.id, prompt⟩ ++ rest).promptKinds =
      [prompt.kind] := by
  rw [Run.Transcript.promptKinds_append, promptKinds_asking, silent]
  rfl

/-- An answer is waited for after the prompt has been raised once. -/
theorem AwaitsAnswer.promptKinds_eq
    {answered : PromptRequest × Option String}
    (awaits : AwaitsAnswer engine node prompt before transcript (.ok answered)
      after) : transcript.promptKinds = [prompt.kind] := by
  cases awaits
  exact promptKinds_asking_append rfl

theorem AwaitsAnswer.promptKinds_prefix
    {result : Except Interrupt (PromptRequest × Option String)}
    (awaits : AwaitsAnswer engine node prompt before transcript result
      after) : transcript.promptKinds <+: [prompt.kind] := by
  have once {id : String} {rest : Run.Transcript}
      (silent : rest.promptKinds = []) :
      (asking before ⟨id, before.id, node.id, prompt⟩ ++ rest).promptKinds <+:
        [prompt.kind] := by
    simp only [promptKinds_asking_append silent, List.prefix_rfl]
  cases awaits with
  | unavailable nobody => exact List.nil_prefix
  | aborted somebody id => exact once rfl
  | interrupted somebody id => exact once rfl
  | answered somebody id answer => exact once rfl

/-- A handler that raises some prompts one after the other raises no more of
them than there are, and does not suspend more often. -/
theorem Interacts.promptKinds {step : Step Directive}
    {state ended : Step.State} {result : Except Interrupt Flow}
    (interacts : Interacts engine scope context handler fuel step state before
      transcript result ended after)
    (asks : handler.Asks left)
    (begins : step.Ensures (Directive.AsksFirst left)) :
    transcript.promptKinds <+: left ∧
      (left.length < fuel → result ≠ .error .exhausted) := by
  induction interacts generalizing left with
  | exhausted =>
      exact ⟨List.nil_prefix, fun enough => (Nat.not_lt_zero _ enough).elim⟩
  | aborted => exact ⟨List.nil_prefix, nofun⟩
  | stopped carried =>
      rw [promptKinds_carried]
      exact ⟨List.nil_prefix, fun _ => stepResult_ne_exhausted _⟩
  | directed carried leads =>
      rw [promptKinds_carried]
      exact ⟨List.nil_prefix, nofun⟩
  | unanswered carried awaits =>
      have first := begins.value_allowed carried _ rfl
      have unexhausted := awaits.ne_exhausted
      obtain ⟨rest, rfl⟩ := List.head?_eq_some_iff.1 first
      rw [Run.Transcript.promptKinds_append, promptKinds_carried,
        List.nil_append]
      exact ⟨awaits.promptKinds_prefix.trans (List.prefix_append [_] rest),
        fun _ => by simpa using unexhausted⟩
  | resumed carried awaits resumes ih =>
      have first := begins.value_allowed carried _ rfl
      obtain ⟨rest, rfl⟩ := List.head?_eq_some_iff.1 first
      obtain ⟨others, enough⟩ := ih asks.2
        (asks.1 _ _ (congrArg Prompt.kind awaits.prompt_eq))
      rw [Run.Transcript.promptKinds_append,
        Run.Transcript.promptKinds_append, promptKinds_carried,
        awaits.promptKinds_eq]
      exact ⟨List.cons_prefix_cons.2 ⟨rfl, others⟩,
        fun more => enough (Nat.lt_of_succ_lt_succ more)⟩

variable {other : NodeType → PromptRequest → Option String → Step Directive}

end Engine

end Runbook
