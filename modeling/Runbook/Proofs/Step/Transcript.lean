import Runbook.Proofs.Program.Transcript
import Runbook.Step.Basic

/-!
# Transcripts of steps

What a step asks and gets as replies, in order.  A step that is interrupted
has no reply to its last call or wait.

A step ensures a property of its values if it ends with no other ones,
whatever the replies are, and if it is interrupted exactly when a call or a
wait in it is.  Steps in a row ensure what the last one ensures, so the rules
below follow the way in which steps are built.
-/

namespace Runbook

namespace Step

variable {α β : Type}

/-- A question of a step with its reply. -/
abbrev Exchange := Runbook.Exchange Question Reply

/-- The exchanges of a step, in order. -/
abbrev Transcript := List Exchange

/-- The program of a step in a context and a state. -/
abbrev program (step : Step α) (context : Context) (state : State) :
    Program Question Reply (Except Stop α × State) :=
  (step.run context).run.run state

/-- A step goes from one state to another along a transcript, and ends with a
value or stops. -/
def Yields (step : Step α) (context : Context) (before : State)
    (transcript : Transcript) (result : Except Stop α) (after : State) : Prop :=
  (step.program context before).Yields transcript (result, after)

variable {context : Context} {before after : State} {transcript : Transcript}

/-- A step that ends at once asks nothing. -/
theorem yields_iff_of_done {step : Step α} {ended result : Except Stop α}
    {middle : State}
    (done : step.program context before = .done (ended, middle)) :
    Yields step context before transcript result after ↔
      transcript = [] ∧ result = ended ∧ after = middle := by
  rw [Yields, done, Program.yields_done_iff, Prod.mk.injEq]

@[simp]
theorem yields_pure_iff {value : α} {result : Except Stop α} :
    Yields (pure value) context before transcript result after ↔
      transcript = [] ∧ result = .ok value ∧ after = before :=
  yields_iff_of_done rfl

/-- The program of a step after another one. -/
theorem program_bind (step : Step α) (next : α → Step β) (context : Context)
    (state : State) :
    (step >>= next).program context state =
      (step.program context state).bind fun ended =>
        match ended.1 with
        | .ok value => (next value).program context ended.2
        | .error stop => .done (.error stop, ended.2) := by
  simp only [program, bind, ReaderT.bind, ReaderT.run, ExceptT.bind,
    ExceptT.run, ExceptT.mk, StateT.bind, StateT.run, ExceptT.bindCont]
  congr 1
  funext ended
  obtain ⟨ended, state⟩ := ended
  cases ended <;> rfl

/-- A step after another one: the first stops, or the second goes on with its
value. -/
theorem yields_bind_iff {step : Step α} {next : α → Step β}
    {result : Except Stop β} :
    Yields (step >>= next) context before transcript result after ↔
      (∃ stop, result = .error stop ∧
        Yields step context before transcript (.error stop) after) ∨
      ∃ first second value middle, transcript = first ++ second ∧
        Yields step context before first (.ok value) middle ∧
        Yields (next value) context middle second result after := by
  rw [Yields, program_bind, Program.yields_bind_iff]
  constructor
  · rintro ⟨first, second, ⟨ended, middle⟩, rfl, start, rest⟩
    cases ended with
    | ok value => exact .inr ⟨first, second, value, middle, rfl, start, rest⟩
    | error stop =>
        obtain ⟨rfl, ended⟩ := Program.yields_done_iff.1 rest
        obtain ⟨rfl, rfl⟩ := Prod.mk.inj ended
        exact .inl ⟨stop, rfl, by simpa [Yields] using start⟩
  · rintro (⟨stop, rfl, start⟩ | ⟨first, second, value, middle, rfl, start,
      rest⟩)
    · exact ⟨transcript, [], (.error stop, after), by simp, start,
        .done _⟩
    · exact ⟨first, second, (.ok value, middle), rfl, start, rest⟩

@[simp]
theorem yields_throw_iff {stop : Stop} {result : Except Stop α} :
    Yields (throw stop) context before transcript result after ↔
      transcript = [] ∧ result = .error stop ∧ after = before :=
  yields_iff_of_done rfl

@[simp]
theorem yields_failWith_iff {failure : Failure} {result : Except Stop α} :
    Yields (failWith failure) context before transcript result after ↔
      transcript = [] ∧ result = .error (.failed failure) ∧ after = before :=
  yields_throw_iff

theorem yields_query_iff {question : Question}
    {result : Except Stop (Reply question)} :
    Yields (query question) context before transcript result after ↔
      ∃ reply, transcript = [⟨question, reply⟩] ∧ result = .ok reply ∧
        after = before := by
  simp only [Yields, program, query, ReaderT.run, ExceptT.run, ExceptT.mk,
    StateT.run, Program.yields_ask_iff, Program.yields_done_iff,
    Prod.mk.injEq]
  constructor
  · rintro ⟨reply, rest, rfl, rfl, ended, rfl⟩
    exact ⟨reply, rfl, ended, rfl⟩
  · rintro ⟨reply, rfl, ended, rfl⟩
    exact ⟨reply, [], rfl, rfl, ended, rfl⟩

@[simp]
theorem yields_read_iff {result : Except Stop Context} :
    Yields read context before transcript result after ↔
      transcript = [] ∧ result = .ok context ∧ after = before :=
  yields_iff_of_done rfl

@[simp]
theorem yields_get_iff {result : Except Stop State} :
    Yields get context before transcript result after ↔
      transcript = [] ∧ result = .ok before ∧ after = before :=
  yields_iff_of_done rfl

@[simp]
theorem yields_modify_iff {change : State → State}
    {result : Except Stop PUnit} :
    Yields (modify change) context before transcript result after ↔
      transcript = [] ∧ result = .ok () ∧ after = change before :=
  yields_iff_of_done rfl

end Step

end Runbook

/-! ## What steps end with -/

namespace Runbook

namespace Step

/-- A call or a wait got no reply. -/
def Exchange.IsInterrupted : Exchange → Prop
  | ⟨.call _, reply⟩ => reply = none
  | ⟨.sleep _, reply⟩ => reply = none
  | ⟨.note _, _⟩ => False

/-- Something in a transcript is interrupted. -/
def Transcript.IsInterrupted (transcript : Transcript) : Prop :=
  ∃ exchange ∈ transcript, Exchange.IsInterrupted exchange

@[simp]
theorem not_isInterrupted_nil : ¬ Transcript.IsInterrupted [] := by
  simp [Transcript.IsInterrupted]

@[simp]
theorem isInterrupted_append {first second : Transcript} :
    Transcript.IsInterrupted (first ++ second) ↔
      first.IsInterrupted ∨ second.IsInterrupted := by
  simp only [Transcript.IsInterrupted, List.mem_append, or_and_right,
    exists_or]

/-- Every value of a step is allowed, and it is interrupted exactly if
something in it is. -/
structure Ensures {α : Type} (step : Step α) (allowed : α → Prop) : Prop where
  value_allowed : ∀ {context before transcript value after},
    Yields step context before transcript (.ok value) after → allowed value
  interrupted_iff : ∀ {context before transcript result after},
    Yields step context before transcript result after →
      (transcript.IsInterrupted ↔ result = .error .interrupted)

variable {α β : Type} {allowed : α → Prop} {permitted : β → Prop}

theorem Ensures.mono {step : Step α} {weaker : α → Prop}
    (ensures : step.Ensures allowed)
    (implies : ∀ value, allowed value → weaker value) : step.Ensures weaker :=
  ⟨fun yields => implies _ (ensures.value_allowed yields),
    ensures.interrupted_iff⟩

theorem Ensures.and {step : Step α} {other : α → Prop}
    (first : step.Ensures allowed) (second : step.Ensures other) :
    step.Ensures fun value => allowed value ∧ other value :=
  ⟨fun yields => ⟨first.value_allowed yields, second.value_allowed yields⟩,
    first.interrupted_iff⟩

theorem Ensures.pure {value : α} (holds : allowed value) :
    Ensures (Pure.pure value : Step α) allowed where
  value_allowed yields := by
    obtain ⟨-, same, -⟩ := yields_pure_iff.1 yields
    cases same
    exact holds
  interrupted_iff yields := by
    obtain ⟨rfl, rfl, -⟩ := yields_pure_iff.1 yields
    simp

theorem Ensures.bind {step : Step α} {next : α → Step β}
    (first : step.Ensures allowed)
    (rest : ∀ value, allowed value → (next value).Ensures permitted) :
    (step >>= next).Ensures permitted where
  value_allowed yields := by
    rcases yields_bind_iff.1 yields with
      ⟨stop, impossible, -⟩ | ⟨_, _, value, _, -, start, remaining⟩
    · cases impossible
    · exact (rest value (first.value_allowed start)).value_allowed remaining
  interrupted_iff yields := by
    rcases yields_bind_iff.1 yields with
      ⟨stop, rfl, start⟩ | ⟨_, _, value, _, rfl, start, remaining⟩
    · simpa using first.interrupted_iff start
    · have before := first.interrupted_iff start
      have after := (rest value (first.value_allowed start)).interrupted_iff
        remaining
      simpa [before] using after

/-- A step after one whose value does not matter. -/
theorem Ensures.andThen {step : Step α} {next : α → Step β}
    (first : step.Ensures allowed)
    (rest : ∀ value, (next value).Ensures permitted) :
    (step >>= next).Ensures permitted :=
  first.bind fun value _ => rest value

/-- A step that fails ensures anything. -/
theorem ensures_failWith (failure : Failure) :
    Ensures (failWith failure : Step α) allowed where
  value_allowed yields := by
    obtain ⟨-, impossible, -⟩ := yields_failWith_iff.1 yields
    cases impossible
  interrupted_iff yields := by
    obtain ⟨rfl, rfl, -⟩ := yields_failWith_iff.1 yields
    simp

theorem ensures_fail (message : String) :
    Ensures (fail message : Step α) allowed :=
  ensures_failWith _

/-- What comes after a failure does not matter. -/
theorem ensures_fail_bind (message : String) (next : β → Step α) :
    Ensures (fail message >>= next) allowed :=
  Ensures.bind (ensures_fail message : Ensures _ fun _ => False)
    fun _ impossible => impossible.elim

/-- What neither asks nor stops ensures that nothing is said of its value. -/
theorem ensures_of_silent {step : Step α}
    (silent : ∀ {context before transcript result after},
      Yields step context before transcript result after →
        transcript = [] ∧ ∃ value, result = .ok value) :
    step.Ensures fun _ => True where
  value_allowed _ := trivial
  interrupted_iff yields := by
    obtain ⟨rfl, value, rfl⟩ := silent yields
    simp

theorem ensures_read : Ensures (read : Step Context) fun _ => True :=
  ensures_of_silent fun yields => by
    obtain ⟨rfl, rfl, -⟩ := yields_read_iff.1 yields
    exact ⟨rfl, _, rfl⟩

theorem ensures_get : Ensures (get : Step State) fun _ => True :=
  ensures_of_silent fun yields => by
    obtain ⟨rfl, rfl, -⟩ := yields_get_iff.1 yields
    exact ⟨rfl, _, rfl⟩

theorem ensures_modify (change : State → State) :
    Ensures (modify change : Step PUnit) fun _ => True :=
  ensures_of_silent fun yields => by
    obtain ⟨rfl, rfl, -⟩ := yields_modify_iff.1 yields
    exact ⟨rfl, _, rfl⟩

theorem ensures_note (message : String) :
    Ensures (note message) fun _ => True where
  value_allowed _ := trivial
  interrupted_iff yields := by
    obtain ⟨reply, rfl, rfl, -⟩ := yields_query_iff.1 yields
    simp [Transcript.IsInterrupted, Exchange.IsInterrupted]

/-- A question that may get no reply, and what stops the step if it gets
none. -/
private theorem ensures_of_query {question : Question}
    {next : Reply question → Step α}
    (interrupted : ∀ reply, Exchange.IsInterrupted ⟨question, reply⟩ →
      next reply = throw .interrupted)
    (answered : ∀ reply, ¬ Exchange.IsInterrupted ⟨question, reply⟩ →
      ∃ value, next reply = Pure.pure value) :
    Ensures (query question >>= next) fun _ => True where
  value_allowed _ := trivial
  interrupted_iff yields := by
    rcases yields_bind_iff.1 yields with
      ⟨stop, rfl, start⟩ | ⟨_, _, reply, _, rfl, start, remaining⟩
    · obtain ⟨reply, -, impossible, -⟩ := yields_query_iff.1 start
      cases impossible
    · obtain ⟨_, rfl, same, -⟩ := yields_query_iff.1 start
      cases same
      by_cases missing : Exchange.IsInterrupted ⟨question, reply⟩
      · rw [interrupted reply missing, yields_throw_iff] at remaining
        obtain ⟨rfl, rfl, -⟩ := remaining
        simpa [Transcript.IsInterrupted] using missing
      · obtain ⟨value, same⟩ := answered reply missing
        rw [same, yields_pure_iff] at remaining
        obtain ⟨rfl, rfl, -⟩ := remaining
        simpa [Transcript.IsInterrupted] using missing

theorem ensures_call (serviceCall : ServiceCall) :
    Ensures (call serviceCall) fun _ => True := by
  apply ensures_of_query
  · rintro reply rfl
    rfl
  · intro reply present
    obtain ⟨result, rfl⟩ := Option.ne_none_iff_exists'.1 present
    exact ⟨result, rfl⟩

theorem ensures_sleep (nanoseconds : Nat) :
    Ensures (sleep nanoseconds) fun _ => True := by
  apply ensures_of_query
  · rintro reply rfl
    rfl
  · intro reply present
    obtain ⟨result, rfl⟩ := Option.ne_none_iff_exists'.1 present
    exact ⟨result, rfl⟩

end Step

end Runbook
