import Runbook.Proofs.Program.Transcript
import Runbook.Run.Engine

/-!
# Transcripts of runs

What a run asks, publishes and gets as replies, in order.  Each exchange
carries the state of the run in which it takes place.  The lemmas say what the
transcripts of the parts of an engine are.

A computation may take so many steps only.  It concludes if it comes to one and
the same end whenever it may take enough of them, whoever answers its
questions.  Computations in a row conclude if each of them does.

An oracle answers the calls and the prompts of runs from a state of its own,
which changes with every answer.  Nobody aborts a run that an oracle answers,
so that every such run comes to its end.  What services and people see of a
run is its activity.
-/

namespace Runbook

namespace Run

/-- A question of a run with its reply, and the state of the run. -/
abbrev Exchange := Runbook.Exchange Moment Moment.Reply

/-- The exchanges of a run, in order. -/
abbrev Transcript := List Exchange

/-- The exchange of a question in a state of the run. -/
abbrev exchange (run : Run) (question : Question) (reply : Reply question) :
    Exchange :=
  ⟨⟨run, question⟩, reply⟩

end Run

namespace Running

variable {α β : Type}

/-- A computation goes from one state of a run to another along a transcript,
and ends with a value. -/
def Yields (computation : Running α) (before : Run)
    (transcript : Run.Transcript) (value : α) (after : Run) : Prop :=
  Program.Yields (computation before) transcript (value, after)

variable {before after : Run} {transcript : Run.Transcript}

@[simp]
theorem yields_pure_iff {result value : α} :
    Yields (pure result) before transcript value after ↔
      transcript = [] ∧ value = result ∧ after = before := by
  have done : (pure result : Running α) before = .done (result, before) := rfl
  rw [Yields, done, Program.yields_done_iff, Prod.mk.injEq]

theorem yields_bind_iff {computation : Running α} {next : α → Running β}
    {value : β} :
    Yields (computation >>= next) before transcript value after ↔
      ∃ first second result middle, transcript = first ++ second ∧
        Yields computation before first result middle ∧
        Yields (next result) middle second value after := by
  simp only [Yields, bind, StateT.bind, Program.yields_bind_iff]
  constructor
  · rintro ⟨first, second, ⟨result, middle⟩, split, start, rest⟩
    exact ⟨first, second, result, middle, split, start, rest⟩
  · rintro ⟨first, second, result, middle, split, start, rest⟩
    exact ⟨first, second, (result, middle), split, start, rest⟩

@[simp]
theorem yields_ask_iff {question : Run.Question}
    {value : Run.Reply question} :
    Yields (ask question) before transcript value after ↔
      transcript = [before.exchange question value] ∧ after = before := by
  simp only [Yields, ask, Program.yields_ask_iff, Program.yields_done_iff,
    Prod.mk.injEq]
  constructor
  · rintro ⟨reply, rest, rfl, rfl, rfl, rfl⟩
    exact ⟨rfl, rfl⟩
  · rintro ⟨rfl, rfl⟩
    exact ⟨value, [], rfl, rfl, rfl, rfl⟩

/-- A question comes first in the transcript of what it begins. -/
theorem yields_ask_bind_iff {question : Run.Question}
    {next : Run.Reply question → Running β} {value : β} :
    Yields (ask question >>= next) before transcript value after ↔
      ∃ reply rest, transcript = before.exchange question reply :: rest ∧
        Yields (next reply) before rest value after := by
  rw [yields_bind_iff]
  constructor
  · rintro ⟨first, rest, reply, middle, rfl, asked, remaining⟩
    obtain ⟨rfl, rfl⟩ := yields_ask_iff.1 asked
    exact ⟨reply, rest, rfl, remaining⟩
  · rintro ⟨reply, rest, rfl, remaining⟩
    exact ⟨[_], rest, reply, before, rfl, yields_ask_iff.2 ⟨rfl, rfl⟩,
      remaining⟩

@[simp]
theorem yields_publish_iff {event : RunEvent} {value : Unit} :
    Yields (publish event) before transcript value after ↔
      transcript = [before.exchange (.publish event) ()] ∧ after = before :=
  yields_ask_iff

theorem yields_publish_bind_iff {event : RunEvent} {next : Unit → Running β}
    {value : β} :
    Yields (publish event >>= next) before transcript value after ↔
      ∃ rest, transcript = before.exchange (.publish event) () :: rest ∧
        Yields (next ()) before rest value after := by
  constructor
  · intro whole
    obtain ⟨⟨⟩, rest, split, remaining⟩ := yields_ask_bind_iff.1 whole
    exact ⟨rest, split, remaining⟩
  · rintro ⟨rest, split, remaining⟩
    exact yields_ask_bind_iff.2 ⟨(), rest, split, remaining⟩

/-- What depends on the state of the run is carried out in it. -/
theorem get_bind_apply (next : Run → Running β) (run : Run) :
    (get >>= next) run = next run run :=
  rfl

@[simp]
theorem yields_get_bind_iff {next : Run → Running β} {value : β} :
    Yields (get >>= next) before transcript value after ↔
      Yields (next before) before transcript value after :=
  Iff.rfl

@[simp]
theorem yields_set_bind_iff {run : Run} {next : PUnit → Running β}
    {value : β} :
    Yields (set run >>= next) before transcript value after ↔
      Yields (next ()) run transcript value after :=
  Iff.rfl

@[simp]
theorem yields_modify_bind_iff {change : Run → Run} {next : PUnit → Running β}
    {value : β} :
    Yields (modify change >>= next) before transcript value after ↔
      Yields (next ()) (change before) transcript value after :=
  Iff.rfl

end Running

namespace Run

/-- What is published when a run enters a status: nothing if it is in it. -/
def announcement (run : Run) (status : RunStatus) : Transcript :=
  if run.status = status then []
  else [{ run with status }.exchange (.publish (.status status)) ()]

end Run

namespace Running

variable {β : Type} {before after : Run} {transcript : Run.Transcript}

theorem yields_transition_iff {status : RunStatus} {value : Unit} :
    Yields (transition status) before transcript value after ↔
      transcript = before.announcement status ∧
        after = { before with status } := by
  unfold transition
  rw [yields_get_bind_iff]
  by_cases same : before.status = status
  · subst same
    simp [Run.announcement]
  · simp [Run.announcement, same]

theorem yields_transition_bind_iff {status : RunStatus}
    {next : Unit → Running β} {value : β} :
    Yields (transition status >>= next) before transcript value after ↔
      ∃ rest, transcript = before.announcement status ++ rest ∧
        Yields (next ()) { before with status } rest value after := by
  rw [yields_bind_iff]
  constructor
  · rintro ⟨first, rest, ⟨⟩, middle, rfl, entered, remaining⟩
    obtain ⟨rfl, rfl⟩ := yields_transition_iff.1 entered
    exact ⟨rest, rfl, remaining⟩
  · rintro ⟨rest, rfl, remaining⟩
    exact ⟨_, rest, (), _, rfl, yields_transition_iff.2 ⟨rfl, rfl⟩, remaining⟩

end Running

end Runbook

/-! ## Computations that conclude -/

namespace Runbook

namespace Run

/-- Who answers the questions of runs, from a state that changes. -/
abbrev Responder (State : Type) :=
  (moment : Moment) → State → moment.Reply × State

variable {State : Type}

/-- All replies of a transcript are given by a responder. -/
def Transcript.IsFrom (responder : Responder State)
    (transcript : Transcript) : Prop :=
  ∀ exchange ∈ transcript, ∃ state,
    exchange.reply = (responder exchange.question state).1

theorem isFrom_converse {α : Type} (responder : Responder State)
    (program : Program Moment Moment.Reply α) (state : State) :
    Transcript.IsFrom responder
      (program.converse responder state).transcript := by
  induction program generalizing state with
  | done value => simp [Program.converse, Transcript.IsFrom]
  | ask question next ih =>
      intro exchange member
      rcases List.mem_cons.1 member with rfl | later
      · exact ⟨state, rfl⟩
      · exact ih _ _ exchange later

end Run

namespace Running

variable {State α β : Type} {responder : Run.Responder State} {before : Run}
  {state : State} {computation : Nat → Running α}
  {allowed : α → Run → Prop} {permitted : β → Run → Prop}

/-- If it may take enough steps, a computation ends in one way only, and with
an allowed value. -/
def Concludes (responder : Run.Responder State) (before : Run) (state : State)
    (computation : Nat → Running α) (allowed : α → Run → Prop) : Prop :=
  ∃ (enough : Nat)
    (conversation : Conversation Run.Moment Run.Moment.Reply (α × Run) State),
    (∀ fuel, enough ≤ fuel →
      (computation fuel before).converse responder state = conversation) ∧
    allowed conversation.value.1 conversation.value.2

theorem Concludes.mono {weaker : α → Run → Prop}
    (concludes : Concludes responder before state computation allowed)
    (implies : ∀ value after, allowed value after → weaker value after) :
    Concludes responder before state computation weaker := by
  obtain ⟨enough, conversation, same, holds⟩ := concludes
  exact ⟨enough, conversation, same, implies _ _ holds⟩

/-- A value with which a computation concludes is one that it yields, with as
many steps as one likes. -/
theorem Concludes.yields
    (concludes : Concludes responder before state computation allowed) :
    Concludes responder before state computation fun value after =>
      allowed value after ∧ ∀ least, ∃ fuel transcript, least ≤ fuel ∧
        (computation fuel).Yields before transcript value after := by
  obtain ⟨enough, conversation, same, holds⟩ := concludes
  refine ⟨enough, conversation, same, holds, fun least => ?_⟩
  refine ⟨max enough least, conversation.transcript, Nat.le_max_right _ _, ?_⟩
  rw [← same (max enough least) (Nat.le_max_left _ _)]
  exact Program.yields_converse _ _

/-- A computation without a limit concludes with whatever it yields. -/
theorem concludes_of_yields {computation : Running α}
    (yields : ∀ transcript value after,
      computation.Yields before transcript value after →
        transcript.IsFrom responder → allowed value after) :
    Concludes responder before state (fun _ => computation) allowed :=
  ⟨0, (computation before).converse responder state, fun _ _ => rfl,
    yields _ _ _ (Program.yields_converse _ _)
      (Run.isFrom_converse responder _ _)⟩

theorem concludes_pure {value : α} (holds : allowed value before) :
    Concludes responder before state (fun _ => pure value) allowed :=
  ⟨0, ⟨[], (value, before), state⟩, fun _ _ => rfl, holds⟩

theorem Concludes.bind {next : Nat → α → Running β}
    (first : Concludes responder before state computation allowed)
    (rest : ∀ value after state, allowed value after →
      Concludes responder after state (fun fuel => next fuel value)
        permitted) :
    Concludes responder before state
      (fun fuel => computation fuel >>= next fuel) permitted := by
  obtain ⟨enough, start, same, holds⟩ := first
  obtain ⟨enoughToo, others, sameToo, holdsToo⟩ :=
    rest start.value.1 start.value.2 start.state holds
  refine ⟨max enough enoughToo,
    { others with transcript := start.transcript ++ others.transcript },
    fun fuel large => ?_, holdsToo⟩
  have first := same fuel (Nat.le_trans (Nat.le_max_left _ _) large)
  have second := sameToo fuel (Nat.le_trans (Nat.le_max_right _ _) large)
  dsimp only at second
  simp only [Bind.bind, StateT.bind]
  rw [Program.converse_bind, first]
  dsimp only
  rw [second]

theorem concludes_get_bind {next : Nat → Run → Running β}
    (rest : Concludes responder before state (fun fuel => next fuel before)
      permitted) :
    Concludes responder before state (fun fuel => get >>= next fuel)
      permitted :=
  rest

theorem concludes_set_bind {run : Run} {next : Nat → PUnit → Running β}
    (rest : Concludes responder run state (fun fuel => next fuel ⟨⟩)
      permitted) :
    Concludes responder before state (fun fuel => set run >>= next fuel)
      permitted :=
  rest

theorem concludes_modify_bind {change : Run → Run}
    {next : Nat → PUnit → Running β}
    (rest : Concludes responder (change before) state
      (fun fuel => next fuel ⟨⟩) permitted) :
    Concludes responder before state (fun fuel => modify change >>= next fuel)
      permitted :=
  rest

/-- One step more or less makes no difference. -/
theorem Concludes.of_succ
    (concludes : Concludes responder before state
      (fun fuel => computation (fuel + 1)) allowed) :
    Concludes responder before state computation allowed := by
  obtain ⟨enough, conversation, same, holds⟩ := concludes
  refine ⟨enough + 1, conversation, fun fuel large => ?_, holds⟩
  obtain ⟨fuel, rfl⟩ := Nat.exists_eq_add_of_le' large
  exact same (fuel + enough) (Nat.le_add_left enough fuel)

end Running

end Runbook

/-! ## Oracles and activities -/

namespace Runbook

/-- A log line under a path. -/
def LogLine.within (path : String) (line : LogLine) : LogLine :=
  { line with nodeId := path ++ line.nodeId }

/-- What a run does that others take part in or see. -/
inductive Activity
  | called (call : ServiceCall) (result : Except Failure call.Result)
  | slept (nanoseconds : Nat)
  /-- A prompt is announced. -/
  | raised (nodeId : String) (prompt : Prompt)
  | answered (nodeId : String) (prompt : Prompt) (answer : Option String)
  | logged (line : LogLine)

namespace Activity

/-- The activity that an exchange is. -/
def of? : Run.Exchange → Option Activity
  | ⟨⟨_, .call call⟩, some result⟩ => some (.called call result)
  | ⟨⟨_, .sleep nanoseconds⟩, some ()⟩ => some (.slept nanoseconds)
  | ⟨⟨_, .publish (.prompt request)⟩, _⟩ =>
    some (.raised request.nodeId request.prompt)
  | ⟨⟨_, .answer request⟩, some answer⟩ =>
    some (.answered request.nodeId request.prompt answer)
  | ⟨⟨_, .publish (.log line)⟩, _⟩ => some (.logged line)
  | _ => none

/-- An activity of a workflow that logs under a path. -/
def within (path : String) : Activity → Activity
  | .logged line => .logged (line.within path)
  | activity => activity

end Activity

/-- The activities of a run, in order. -/
def Run.Transcript.activities (transcript : Run.Transcript) :
    List Activity :=
  transcript.filterMap Activity.of?

/-- What answers calls, waits and prompts from a state that changes. -/
structure Oracle (Services : Type) where
  call : (call : ServiceCall) → Services →
    Except Failure call.Result × Services
  sleep : Nat → Services → Services
  answer : PromptRequest → Services → Option String × Services

/-- An attempt that leaves a value has that value. -/
theorem eq_ok_of_toOption {ε : Type} {attempt : Except ε α} {value : α}
    (left : attempt.toOption = some value) : attempt = .ok value := by
  cases attempt with
  | error error => cases left
  | ok other => exact congrArg Except.ok (Option.some.inj left)

namespace Oracle

/-- The services, the ids that will be given, and the time at the next
readings of the clock. -/
structure State (Services : Type) where
  services : Services
  ids : Nat → String
  instants : Nat → Instant

variable {Services : Type}

/-- Reply to a question of a run. -/
def reply (oracle : Oracle Services) :
    (moment : Run.Moment) → State Services → moment.Reply × State Services
  | ⟨_, .isAborted⟩, state => (false, state)
  | ⟨_, .now⟩, state =>
    (state.instants 0,
      { state with instants := fun index => state.instants (index + 1) })
  | ⟨_, .newId⟩, state =>
    (state.ids 0, { state with ids := fun index => state.ids (index + 1) })
  | ⟨_, .publish _⟩, state => ((), state)
  | ⟨_, .call call⟩, state =>
    let (result, services) := oracle.call call state.services
    (some result, { state with services })
  | ⟨_, .sleep nanoseconds⟩, state =>
    (some (),
      { state with services := oracle.sleep nanoseconds state.services })
  | ⟨_, .answer request⟩, state =>
    let (answer, services) := oracle.answer request state.services
    (some answer, { state with services })

/-- What comes of a computation in a state of the run. -/
def run {α : Type} (oracle : Oracle Services) (computation : Running α)
    (run : Run) (state : State Services) :
    Conversation Run.Moment Run.Moment.Reply (α × Run) (State Services) :=
  (computation run).converse oracle.reply state

variable {α β : Type}

theorem yields_run (oracle : Oracle Services) (computation : Running α)
    (before : Run) (state : State Services) :
    computation.Yields before (oracle.run computation before state).transcript
      (oracle.run computation before state).value.1
      (oracle.run computation before state).value.2 :=
  Program.yields_converse _ _

theorem run_bind (oracle : Oracle Services) (computation : Running α)
    (next : α → Running β) (before : Run) (state : State Services) :
    oracle.run (computation >>= next) before state =
      let first := oracle.run computation before state
      let second := oracle.run (next first.value.1) first.value.2 first.state
      { second with transcript := first.transcript ++ second.transcript } :=
  Program.converse_bind _ _ _

theorem run_ask_bind (oracle : Oracle Services) (question : Run.Question)
    (next : Run.Reply question → Running β) (before : Run)
    (state : State Services) :
    oracle.run (Running.ask question >>= next) before state =
      let replied := oracle.reply ⟨before, question⟩ state
      let rest := oracle.run (next replied.1) before replied.2
      { rest with transcript :=
          before.exchange question replied.1 :: rest.transcript } :=
  rfl

theorem run_get_bind (oracle : Oracle Services) (next : Run → Running β)
    (before : Run) (state : State Services) :
    oracle.run (get >>= next) before state =
      oracle.run (next before) before state :=
  rfl

theorem run_set_bind (oracle : Oracle Services) (run : Run)
    (next : PUnit → Running β) (before : Run) (state : State Services) :
    oracle.run (set run >>= next) before state =
      oracle.run (next ⟨⟩) run state :=
  rfl

/-- The oracle whose services fail, and which declines every prompt. -/
def refusing : Oracle Unit where
  call _ services := (.error (.of "offline"), services)
  sleep _ services := services
  answer _ services := (none, services)

/-- The state in which time stands still, and there is one id. -/
def State.still : State Unit :=
  ⟨(), fun _ => "id", fun _ => Instant.epoch⟩

end Oracle

/-- The engine that knows all types of nodes, and has nobody to ask. -/
def Engine.unattended : Engine :=
  ⟨Registry.standard, ⟨false, false⟩, false, ⟨20, false⟩⟩

/-- The engine that knows all types of nodes, and has somebody to ask. -/
def Engine.attended : Engine :=
  { unattended with hasPrompts := true }

end Runbook
