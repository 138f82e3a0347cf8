/-!
# Programs that ask

A program asks questions and computes from the replies; it does not say who
answers.  The same program can be answered by the world, by a script, or by
another program, and a statement about all its behaviours is a statement about
all replies.
-/

namespace Runbook

/-- A program with a result, whose questions have replies of given types. -/
inductive Program (Question : Type) (Reply : Question → Type) (α : Type)
  | done (value : α)
  /-- A question, and what is done with its reply. -/
  | ask (question : Question)
      (next : Reply question → Program Question Reply α)

namespace Program

variable {Question : Type} {Reply : Question → Type} {α β : Type}

def bind (program : Program Question Reply α)
    (next : α → Program Question Reply β) : Program Question Reply β :=
  match program with
  | .done value => next value
  | .ask question rest => .ask question fun reply => (rest reply).bind next

instance : Monad (Program Question Reply) where
  pure := .done
  bind := bind

def query (question : Question) :
    Program Question Reply (Reply question) :=
  .ask question .done

def answeredBy {Other : Type} {OtherReply : Other → Type}
    (answer : (question : Question) →
      Program Other OtherReply (Reply question)) :
    Program Question Reply α → Program Other OtherReply α
  | .done value => .done value
  | .ask question next =>
    (answer question).bind fun reply => (next reply).answeredBy answer

def runWith {m : Type → Type} [Monad m]
    (answer : (question : Question) → m (Reply question)) :
    Program Question Reply α → m α
  | .done value => pure value
  | .ask question next => do
    let reply ← answer question
    (next reply).runWith answer

@[simp] theorem pure_bind (value : α)
    (next : α → Program Question Reply β) :
    (Program.done value).bind next = next value := rfl

@[simp] theorem ask_bind (question : Question)
    (rest : Reply question → Program Question Reply α)
    (next : α → Program Question Reply β) :
    (Program.ask question rest).bind next =
      .ask question fun reply => (rest reply).bind next := rfl

theorem bind_assoc {γ : Type} (program : Program Question Reply α)
    (next : α → Program Question Reply β)
    (last : β → Program Question Reply γ) :
    (program.bind next).bind last =
      program.bind fun value => (next value).bind last := by
  induction program with
  | done value => rfl
  | ask question rest ih => simp only [ask_bind, ih]

theorem bind_done (program : Program Question Reply α) :
    program.bind .done = program := by
  induction program with
  | done value => rfl
  | ask question rest ih => simp only [ask_bind, ih]

end Program

end Runbook
