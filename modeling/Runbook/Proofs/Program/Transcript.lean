import Runbook.Program

/-!
# Transcripts of programs

A transcript lists the questions of a program with the replies they got.  A
program and a transcript of it determine the result, and what holds along
every transcript holds whatever the replies are.

If each question of a program is answered by another program, then what they
ask together is what the answers ask, one after the other.
-/

namespace Runbook

/-- A question and the reply that it got. -/
structure Exchange (Question : Type) (Reply : Question → Type) where
  question : Question
  reply : Reply question

/-- Exchanges in the order in which they took place. -/
abbrev Transcript (Question : Type) (Reply : Question → Type) :=
  List (Exchange Question Reply)

/-- What comes of a program: what it has asked, its value, and the state in
which it leaves the one who has answered. -/
structure Conversation (Question : Type) (Reply : Question → Type)
    (α State : Type) where
  transcript : Transcript Question Reply
  value : α
  state : State

namespace Program

variable {Question : Type} {Reply : Question → Type} {α β : Type}

instance : LawfulMonad (Program Question Reply) :=
  LawfulMonad.mk' _ bind_done (fun _ _ => rfl) bind_assoc

/-- A program asks the questions of a transcript, gets its replies, and ends
with a value. -/
inductive Yields :
    Program Question Reply α → Transcript Question Reply → α → Prop
  | done (value : α) : Yields (.done value) [] value
  | ask {question : Question} {next : Reply question → Program Question Reply α}
      (reply : Reply question) {transcript : Transcript Question Reply}
      {value : α} (rest : Yields (next reply) transcript value) :
      Yields (.ask question next) (⟨question, reply⟩ :: transcript) value

@[simp]
theorem yields_done_iff {value result : α}
    {transcript : Transcript Question Reply} :
    Yields (.done value) transcript result ↔
      transcript = [] ∧ result = value := by
  constructor
  · rintro ⟨⟩
    exact ⟨rfl, rfl⟩
  · rintro ⟨rfl, rfl⟩
    exact .done _

theorem yields_ask_iff {question : Question}
    {next : Reply question → Program Question Reply α} {value : α}
    {transcript : Transcript Question Reply} :
    Yields (.ask question next) transcript value ↔
      ∃ reply rest, transcript = ⟨question, reply⟩ :: rest ∧
        Yields (next reply) rest value := by
  constructor
  · rintro ⟨⟩
    exact ⟨_, _, rfl, ‹_›⟩
  · rintro ⟨reply, rest, rfl, yields⟩
    exact .ask reply yields

/-- A transcript of two programs in a row splits into one of each. -/
theorem yields_bind_iff {program : Program Question Reply α}
    {next : α → Program Question Reply β} {value : β}
    {transcript : Transcript Question Reply} :
    Yields (program.bind next) transcript value ↔
      ∃ first second middle, transcript = first ++ second ∧
        Yields program first middle ∧ Yields (next middle) second value := by
  constructor
  · intro whole
    induction program generalizing transcript with
    | done middle => exact ⟨[], transcript, middle, rfl, .done _, whole⟩
    | ask question rest ih =>
        obtain ⟨reply, others, rfl, remaining⟩ := yields_ask_iff.1 whole
        obtain ⟨first, second, middle, rfl, before, after⟩ :=
          ih reply remaining
        exact ⟨⟨question, reply⟩ :: first, second, middle, rfl,
          .ask reply before, after⟩
  · rintro ⟨first, second, middle, rfl, before, after⟩
    induction before with
    | done middle => exact after
    | ask reply rest ih => exact .ask reply (ih after)

/-- A program that gets the same replies asks the same questions, and ends with
the same value. -/
theorem Yields.unique {program : Program Question Reply α}
    {first second rest others : Transcript Question Reply} {value result : α}
    (yields : program.Yields first value)
    (yieldsToo : program.Yields second result)
    (same : first ++ rest = second ++ others) :
    first = second ∧ value = result := by
  induction yields generalizing second with
  | done value =>
      obtain ⟨rfl, rfl⟩ := yields_done_iff.1 yieldsToo
      exact ⟨rfl, rfl⟩
  | ask reply remaining ih =>
      obtain ⟨reply, following, rfl, remainingToo⟩ :=
        yields_ask_iff.1 yieldsToo
      obtain ⟨sameExchange, sameRest⟩ := List.cons.inj same
      cases sameExchange
      obtain ⟨rfl, rfl⟩ := ih remainingToo sameRest
      exact ⟨rfl, rfl⟩

/-! ### Conversations -/

variable {State : Type}

/-- Answer the questions of a program from a state that changes with every
reply. -/
def converse
    (answer : (question : Question) → State → Reply question × State) :
    Program Question Reply α → State →
      Conversation Question Reply α State
  | .done value, state => ⟨[], value, state⟩
  | .ask question next, state =>
    let (reply, state) := answer question state
    let rest := (next reply).converse answer state
    { rest with transcript := ⟨question, reply⟩ :: rest.transcript }

variable {answer : (question : Question) → State → Reply question × State}

/-- A program yields what comes of it in a conversation. -/
theorem yields_converse (program : Program Question Reply α) (state : State) :
    program.Yields (program.converse answer state).transcript
      (program.converse answer state).value := by
  induction program generalizing state with
  | done value => exact .done value
  | ask question next ih => exact .ask _ (ih _ _)

/-- The conversation with two programs in a row. -/
theorem converse_bind (program : Program Question Reply α)
    (next : α → Program Question Reply β) (state : State) :
    (program.bind next).converse answer state =
      let first := program.converse answer state
      let second := (next first.value).converse answer first.state
      { second with transcript := first.transcript ++ second.transcript } := by
  induction program generalizing state with
  | done value => rfl
  | ask question rest ih => simp only [ask_bind, converse, ih,
      List.cons_append]

end Program

end Runbook

/-! ## Programs that answer programs -/

namespace Runbook.Program

variable {Question Other α : Type} {Reply : Question → Type}
  {OtherReply : Other → Type}

/-- A question with its reply, and what has been asked to find the reply. -/
structure Answered (Question : Type) (Reply : Question → Type) (Other : Type)
    (OtherReply : Other → Type) extends Exchange Question Reply where
  asked : Transcript Other OtherReply

/-- A question has been answered by a program. -/
def Answered.IsBy
    (answer : (question : Question) →
      Program Other OtherReply (Reply question))
    (answered : Answered Question Reply Other OtherReply) : Prop :=
  (answer answered.question).Yields answered.asked answered.reply

variable
  {answer : (question : Question) → Program Other OtherReply (Reply question)}

theorem yields_answeredBy_iff {program : Program Question Reply α}
    {transcript : Transcript Other OtherReply} {value : α} :
    (program.answeredBy answer).Yields transcript value ↔
      ∃ answered : List (Answered Question Reply Other OtherReply),
        (∀ one ∈ answered, one.IsBy answer) ∧
        transcript = answered.flatMap Answered.asked ∧
        program.Yields (answered.map Answered.toExchange) value := by
  constructor
  · intro yields
    induction program generalizing transcript with
    | done result =>
        obtain ⟨rfl, rfl⟩ := yields_done_iff.1 yields
        exact ⟨[], List.forall_mem_nil _, rfl, .done _⟩
    | ask question next ih =>
        obtain ⟨asked, rest, reply, rfl, replied, goesOn⟩ :=
          yields_bind_iff.1 yields
        obtain ⟨answered, areBy, rfl, remaining⟩ := ih reply goesOn
        exact ⟨⟨⟨question, reply⟩, asked⟩ :: answered,
          List.forall_mem_cons.2 ⟨replied, areBy⟩, rfl, .ask reply remaining⟩
  · rintro ⟨answered, areBy, rfl, yields⟩
    induction answered generalizing program with
    | nil =>
        cases yields
        exact .done _
    | cons one answered ih =>
        obtain ⟨⟨question, reply⟩, asked⟩ := one
        obtain ⟨replied, areBy⟩ := List.forall_mem_cons.1 areBy
        cases yields with
        | ask _ rest =>
            exact yields_bind_iff.2
              ⟨asked, _, reply, rfl, replied, ih areBy rest⟩

/-! ### Conversations -/

variable {State : Type}

/-- Answer the questions of a program by programs, and the questions of these
from a state that changes with every reply. -/
def answeredFrom
    (answer : (question : Question) →
      Program Other OtherReply (Reply question))
    (reply : (question : Other) → State → OtherReply question × State) :
    Program Question Reply α → State →
      List (Answered Question Reply Other OtherReply) × α × State
  | .done value, state => ([], value, state)
  | .ask question next, state =>
    let found := (answer question).converse reply state
    let rest := (next found.value).answeredFrom answer reply found.state
    (⟨⟨question, found.value⟩, found.transcript⟩ :: rest.1, rest.2)

theorem yields_answeredFrom
    (answer : (question : Question) →
      Program Other OtherReply (Reply question))
    (reply : (question : Other) → State → OtherReply question × State)
    (program : Program Question Reply α) (state : State) :
    (∀ one ∈ (program.answeredFrom answer reply state).1,
        one.IsBy answer) ∧
      program.Yields
        ((program.answeredFrom answer reply state).1.map Answered.toExchange)
        (program.answeredFrom answer reply state).2.1 := by
  induction program generalizing state with
  | done value => exact ⟨List.forall_mem_nil _, .done value⟩
  | ask question next ih =>
      obtain ⟨areBy, yields⟩ := ih _ _
      exact ⟨List.forall_mem_cons.2 ⟨yields_converse _ _, areBy⟩,
        .ask _ yields⟩

end Runbook.Program
