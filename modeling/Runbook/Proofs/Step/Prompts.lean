import Runbook.Proofs.Step.Directive

/-!
# The prompts of a node in their order

A node raises the prompts of its type in a fixed order: it may stop asking at
any time, but it asks for nothing else, and for nothing twice.  Only a node
that reads a file of a person's choice has a second prompt, for the password,
so only the answer with a file may be followed by a question.
-/

namespace Runbook

/-- How many more questions may follow the answer to a prompt. -/
def PromptKind.followUps : PromptKind → Nat
  | .driveFile => 1
  | _ => 0

/-- A directive asks for less than a number of follow-up questions. -/
def Directive.AsksBelow (limit : Nat) (directive : Directive) : Prop :=
  ∀ prompt, directive = .suspend prompt → prompt.kind.followUps < limit

namespace Directive

variable {limit : Nat} {directive : Directive}

theorem asksBelow_of_proceed (same : directive = .proceed) :
    directive.AsksBelow limit := by
  rintro prompt rfl
  cases same

theorem AsksBelow.mono {larger : Nat} (asks : directive.AsksBelow limit)
    (grows : limit ≤ larger) : directive.AsksBelow larger :=
  fun prompt same => Nat.lt_of_lt_of_le (asks prompt same) grows

/-- No question has more than one follow-up. -/
theorem asksBelow_two : directive.AsksBelow 2 := by
  intro prompt _
  cases prompt with
  | driveFile => exact Nat.lt_succ_self 1
  | _ => exact Nat.zero_lt_two

end Directive

namespace Step

theorem readSelected_asksBelow (request : PromptRequest)
    (answer : Option String) :
    (readSelected request answer).Ensures
      (Directive.AsksBelow request.prompt.kind.followUps) := by
  have proceeds : ∀ directive : Directive, directive = .proceed →
      directive.AsksBelow request.prompt.kind.followUps :=
    fun _ => Directive.asksBelow_of_proceed
  unfold readSelected
  split
  · rename_i prompt asked
    split
    · exact ensures_fail _
    · refine (ensures_selectedFile _).andThen fun info => ?_
      refine (ensures_readPlain? _).andThen fun content => ?_
      split
      · exact (ensures_saveSelected _ _).mono proceeds
      · refine .pure ?_
        rintro other ⟨⟩
        rw [asked]
        exact Nat.zero_lt_one
  · exact (ensures_readProtected _ _).andThen fun _ =>
      (ensures_saveSelected _ _).mono proceeds
  · exact ensures_fail _

end Step

namespace Handler

/-- What a node is answered leaves it with less to ask. -/
theorem standard_resume_asksBelow (nodeType : NodeType)
    (request : PromptRequest) (answer : Option String) :
    ((standard nodeType).resume request answer).Ensures
      (Directive.AsksBelow request.prompt.kind.followUps) := by
  have proceeds : ∀ directive : Directive, directive = .proceed →
      directive.AsksBelow request.prompt.kind.followUps :=
    fun _ => Directive.asksBelow_of_proceed
  cases nodeType with
  | driveFile =>
      exact (Step.ensures_writeIfConfirmed request answer).mono proceeds
  | driveRead => exact (Step.ensures_readAnswered request answer).mono proceeds
  | dialog => exact (Step.ensures_saveDialog request answer).mono proceeds
  | promptValue => exact (Step.ensures_saveValue request answer).mono proceeds
  | promptFile => exact Step.readSelected_asksBelow request answer
  | promptSelection =>
      exact (Step.ensures_saveSelection request answer).mono proceeds
  | _ => exact ensures_refuse request answer _

end Handler

/-- A directive asks for the first of the prompts that are left, if it asks. -/
def Directive.AsksFirst (left : List PromptKind) (directive : Directive) :
    Prop :=
  ∀ prompt, directive = .suspend prompt → left.head? = some prompt.kind

namespace Handler

/-- After the answer to a prompt, a handler asks for the prompt that is next in
a list, if it asks. -/
def Asks (handler : Handler) : List PromptKind → Prop
  | [] => True
  | kind :: rest =>
    (∀ request answer, request.prompt.kind = kind →
      (handler.resume request answer).Ensures (Directive.AsksFirst rest)) ∧
    handler.Asks rest

variable {nodeType : NodeType}

end Handler

end Runbook
