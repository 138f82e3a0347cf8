import Runbook.Proofs.Step.Prompts

/-!
# Answers to other prompts

A handler that is resumed with a prompt of another kind than those that its
nodes raise says so, unless it takes any answer.  Resumed with a prompt that
its nodes raise, it has other things to say when it fails, or leaves it to the
service that has failed.
-/

namespace Runbook

/-- What a node says if it is resumed with a prompt that it does not raise. -/
def NodeType.mismatch (nodeType : NodeType) (request : PromptRequest) :
    String :=
  match nodeType with
  | .driveFile | .driveRead | .promptFile =>
    "unexpected prompt kind for " ++ nodeType.tag
  | _ =>
    "node type '" ++ nodeType.tag ++ "' cannot resume prompt '" ++
      request.id ++ "'"

/-- Some node says this when it is resumed with a prompt that it does not
raise. -/
def IsMismatch (text : String) : Prop :=
  ∃ nodeType request, text = NodeType.mismatch nodeType request

section Texts

variable {first text : String} {character : Char}

end Texts

namespace Step

variable {α β : Type}

/-- If a step fails, it says nothing of a mismatch, or a service has failed
with just what it says. -/
structure Blames (step : Step α) : Prop where
  own_or_service : ∀ {context before transcript failure after},
    Yields step context before transcript (.error (.failed failure)) after →
      ¬ IsMismatch failure.outermost ∨
        ∃ call, ⟨.call call, some (.error failure)⟩ ∈ transcript

/-- A step that does not fail blames nobody. -/
theorem Blames.of_ok {step : Step α}
    (ok : ∀ {context before transcript result after},
      Yields step context before transcript result after →
        ∃ value, result = .ok value) : step.Blames where
  own_or_service yields := by
    obtain ⟨value, impossible⟩ := ok yields
    cases impossible

theorem Blames.pure (value : α) : Blames (Pure.pure value : Step α) :=
  .of_ok fun yields => ⟨value, (yields_pure_iff.1 yields).2.1⟩

theorem Blames.bind {step : Step α} {next : α → Step β} (first : step.Blames)
    (rest : ∀ value, (next value).Blames) : (step >>= next).Blames where
  own_or_service yields := by
    rcases yields_bind_iff.1 yields with
      ⟨stop, same, start⟩ | ⟨_, _, value, _, rfl, start, remaining⟩
    · cases same
      exact first.own_or_service start
    · refine ((rest value).own_or_service remaining).imp_right ?_
      rintro ⟨call, member⟩
      exact ⟨call, List.mem_append_right _ member⟩

end Step

namespace Handler

variable {nodeType : NodeType} {request : PromptRequest}

end Handler

end Runbook
