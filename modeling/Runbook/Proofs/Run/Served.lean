import Runbook.Proofs.Run.Execution
import Runbook.Proofs.Run.Transcript
import Runbook.Proofs.Step.Directive
import Runbook.Proofs.Step.Parts

/-!
# Steps that an oracle serves

An oracle that answers a run answers the questions of the steps of its nodes.
What comes of a node is then what comes of its step, and of what the step goes
on with once the oracle has answered the prompt for which it is suspended.

A run calls services where a step of a node does, or where a workflow is
loaded.  Whether the run is aborted, and what a person answers, is no call.
-/

namespace Runbook

namespace Oracle

variable {Services α β : Type} {oracle : Oracle Services}
  {context : Step.Context} {held reached : Step.State}
  {services later : Services} {transcript : Step.Transcript}

/-- Reply to a question of a step. -/
def stepReply (oracle : Oracle Services) :
    (question : Step.Question) → Services → Step.Reply question × Services
  | .call call, services =>
    let (result, services) := oracle.call call services
    (some result, services)
  | .sleep nanoseconds, services =>
    (some (), oracle.sleep nanoseconds services)
  | .note _, services => ((), services)

/-- What comes of a step in a context and a state. -/
def serve (oracle : Oracle Services) (step : Step α) (context : Step.Context)
    (state : Step.State) (services : Services) :
    Conversation Step.Question Step.Reply (Except Step.Stop α × Step.State)
      Services :=
  (step.program context state).converse oracle.stepReply services

/-! ### Steps in a row -/

theorem serve_bind_of_ok {step : Step α} {value : α}
    (served : oracle.serve step context held services =
      ⟨transcript, (.ok value, reached), later⟩) (next : α → Step β) :
    oracle.serve (step >>= next) context held services =
      let rest := oracle.serve (next value) context reached later
      { rest with transcript := transcript ++ rest.transcript } := by
  unfold serve at served ⊢
  rw [Step.program_bind, Program.converse_bind, served]

theorem serve_bind_of_error {step : Step α} {stop : Step.Stop}
    (served : oracle.serve step context held services =
      ⟨transcript, (.error stop, reached), later⟩) (next : α → Step β) :
    oracle.serve (step >>= next) context held services =
      ⟨transcript, (.error stop, reached), later⟩ := by
  unfold serve at served ⊢
  rw [Step.program_bind, Program.converse_bind, served]
  simp [Program.converse]

theorem serve_of_done {step : Step α}
    {ended : Except Step.Stop α × Step.State}
    (done : step.program context held = .done ended) :
    oracle.serve step context held services = ⟨[], ended, services⟩ := by
  rw [serve, done]
  rfl

/-- What comes first and asks nobody does not show. -/
theorem serve_bind_of_done {step : Step α} {value : α}
    (done : step.program context held = .done (.ok value, reached))
    (next : α → Step β) :
    oracle.serve (step >>= next) context held services =
      oracle.serve (next value) context reached services :=
  serve_bind_of_ok (serve_of_done done) next

/-- What comes last and asks nobody does not show. -/
theorem serve_bind_of_ok_of_done {step : Step α} {value : α}
    {next : α → Step β} {ended : Except Step.Stop β × Step.State}
    (served : oracle.serve step context held services =
      ⟨transcript, (.ok value, reached), later⟩)
    (done : (next value).program context reached = .done ended) :
    oracle.serve (step >>= next) context held services =
      ⟨transcript, ended, later⟩ := by
  rw [serve_bind_of_ok served, serve_of_done done]
  exact congrArg (Conversation.mk · _ _) (List.append_nil transcript)

section Calls

variable {call : ServiceCall} {explain : Failure → Failure}
  {step : Step call.Result}

theorem serve_of_isCall (isCall : Step.IsCall call explain step)
    {reply : Except Failure call.Result}
    (replied : oracle.call call services = (reply, later)) :
    oracle.serve step context held services =
      ⟨[⟨.call call, some reply⟩],
        (Step.outcome explain (some reply), held), later⟩ := by
  have asked : oracle.stepReply (.call call) services =
      (some reply, later) := by
    rw [stepReply, replied]
  rw [serve, isCall, Program.converse, asked]
  rfl

theorem serve_call_bind_of_ok (isCall : Step.IsCall call explain step)
    {value : call.Result} {next : call.Result → Step α}
    {ended : Except Step.Stop α × Step.State} {left : Services}
    (replied : oracle.call call services = (.ok value, later))
    (rest : oracle.serve (next value) context held later =
      ⟨transcript, ended, left⟩) :
    oracle.serve (step >>= next) context held services =
      ⟨⟨.call call, some (.ok value)⟩ :: transcript, ended, left⟩ := by
  rw [serve_bind_of_ok (serve_of_isCall isCall replied), rest]
  rfl

theorem serve_call_bind_of_error (isCall : Step.IsCall call explain step)
    {failure : Failure} {next : call.Result → Step α}
    (replied : oracle.call call services = (.error failure, later)) :
    oracle.serve (step >>= next) context held services =
      ⟨[⟨.call call, some (.error failure)⟩],
        (.error (.failed (explain failure)), held), later⟩ :=
  serve_bind_of_error (serve_of_isCall isCall replied) next

end Calls

/-! ### Runs of steps -/

variable {scope : Engine.Scope} {node : Node} {run : Run}
  {state : State Services}

open Engine

theorem run_pure (value : α) :
    oracle.run (pure value) run state = ⟨[], (value, run), state⟩ :=
  rfl

theorem run_answerStep (question : Step.Question) :
    oracle.run (answerStep scope node question) run state =
      let replied := oracle.stepReply question state.services
      ⟨[relay scope node run ⟨question, replied.1⟩], (replied.1, run),
        { state with services := replied.2 }⟩ := by
  cases question <;> rfl

theorem run_runWith (program : Program Step.Question Step.Reply α) :
    oracle.run (program.runWith (answerStep scope node)) run state =
      let served := program.converse oracle.stepReply state.services
      ⟨served.transcript.map (relay scope node run), (served.value, run),
        { state with services := served.state }⟩ := by
  induction program generalizing state with
  | done value => rfl
  | ask question next ih =>
      rw [Program.runWith, run_bind, run_answerStep]
      dsimp only
      rw [ih]
      rfl

theorem run_runStep (step : Step α) :
    oracle.run (runStep scope context step held) run state =
      let served := oracle.serve step context held state.services
      ⟨run.exchange .isAborted false ::
          served.transcript.map (relay scope context.node run),
        ((stepResult context.node served.value.1, served.value.2), run),
        { state with services := served.state }⟩ := by
  rw [runStep, run_ask_bind]
  simp only [reply, Bool.false_eq_true, if_false]
  rw [run_bind, run_runWith]
  dsimp only [serve]
  generalize Program.converse _ _ _ = served
  obtain ⟨exchanges, ⟨ended, reached⟩, later⟩ := served
  rcases ended with (failure | _) | value
  all_goals
    dsimp only
    rw [run_pure, List.append_nil]
    rfl

theorem run_transition (status : RunStatus) :
    oracle.run (Running.transition status) run state =
      ⟨run.announcement status, ((), { run with status }), state⟩ := by
  unfold Running.transition
  rw [run_get_bind, Run.announcement]
  by_cases same : run.status = status
  · subst same
    simp only [ne_eq, not_true_eq_false, if_false, if_true]
    rfl
  · simp only [ne_eq, same, not_false_eq_true, if_true, if_false]
    rfl

/-! ### Prompts -/

variable {engine : Engine} {prompt : Prompt}

/-- The request for the answer to a prompt. -/
def request (run : Run) (state : State Services) (node : Node)
    (prompt : Prompt) : PromptRequest :=
  ⟨state.ids 0, run.id, node.id, prompt⟩

/-- The oracle once it has answered a request. -/
def answered (oracle : Oracle Services) (request : PromptRequest)
    (state : State Services) : State Services where
  services := (oracle.answer request state.services).2
  ids index := state.ids (index + 1)
  instants := state.instants

/-- What is asked and published until there is an answer. -/
def awaiting (run : Run) (request : PromptRequest) (answer : Option String) :
    Run.Transcript :=
  asking run request ++
    [{ run with status := .waitingPrompt }.exchange .isAborted false,
      { run with status := .waitingPrompt }.exchange (.answer request)
        (some answer),
      { run with status := .running }.exchange
        (.publish (.status .running)) ()]

theorem run_awaitAnswer (available : engine.hasPrompts = true) :
    oracle.run (engine.awaitAnswer node prompt) run state =
      let request := request run state node prompt
      let answer := (oracle.answer request state.services).1
      ⟨awaiting run request answer,
        (.ok (request, answer), { run with status := .running }),
        oracle.answered request state⟩ := by
  unfold awaitAnswer
  simp only [available, Bool.not_true, Bool.false_eq_true, if_false]
  rw [run_ask_bind]
  dsimp only
  rw [run_get_bind, run_bind, run_transition, awaiting, asking,
    List.cons_append, List.append_assoc]
  rfl

/-! ### Nodes -/

variable {handler : Handler} {step : Step Directive}

/-- A step that asks for no answer and calls no workflow goes on to the next
node, if it does not stop. -/
def Settles (served : Conversation Step.Question Step.Reply
    (Except Step.Stop Directive × Step.State) Services) : Prop :=
  ∀ directive, served.value.1 = .ok directive → directive = .proceed

theorem settles_of_ensures {step : Step Directive}
    (ensures : step.Ensures fun directive => directive = .proceed)
    (context : Step.Context) (held : Step.State) (services : Services) :
    Settles (oracle.serve step context held services) := by
  intro directive ended
  have yields : step.Yields context held
      (oracle.serve step context held services).transcript
      (oracle.serve step context held services).value.1
      (oracle.serve step context held services).value.2 :=
    Program.yields_converse _ _
  rw [ended] at yields
  exact ensures.value_allowed yields

/-- Where a node leads with such a step. -/
def settled (node : Node) (ended : Except Step.Stop Directive) :
    Except Interrupt Target :=
  (stepResult node ended).map fun _ => node.jumps.next

theorem run_interact_of_settles (fuel : Nat)
    (settles : Settles (oracle.serve step context held state.services)) :
    oracle.run (engine.interact scope context handler (fuel + 1) step held)
        run state =
      let served := oracle.serve step context held state.services
      ⟨run.exchange .isAborted false ::
          served.transcript.map (relay scope context.node run),
        (((settled context.node served.value.1).map .jump, served.value.2),
          run), { state with services := served.state }⟩ := by
  rw [interact, run_bind, run_runStep]
  revert settles
  generalize oracle.serve step context held state.services = served
  intro settles
  obtain ⟨exchanges, ⟨ended, reached⟩, later⟩ := served
  rcases ended with (failure | _) | directive
  case ok =>
    cases settles directive rfl
    dsimp only [stepResult]
    rw [run_pure, List.append_nil]
    rfl
  all_goals
    dsimp only [stepResult]
    rw [run_pure, List.append_nil]
    rfl

theorem run_interact_of_suspend {ended : Step.State} {fuel : Nat}
    {exchanges : Run.Transcript} {left : State Services}
    {result : (Except Interrupt Flow × Step.State) × Run}
    {asked : PromptRequest} {answer : Option String}
    (available : engine.hasPrompts = true)
    (suspended : oracle.serve step context held state.services =
      ⟨transcript, (.ok (.suspend prompt), ended), later⟩)
    (asks : request run state context.node prompt = asked)
    (answers : (oracle.answer asked later).1 = answer)
    (resumed : oracle.run (engine.interact scope context handler fuel
        (handler.resume asked answer) ended) { run with status := .running }
        (oracle.answered asked { state with services := later }) =
      ⟨exchanges, result, left⟩) :
    oracle.run (engine.interact scope context handler (fuel + 1) step held)
        run state =
      ⟨run.exchange .isAborted false ::
          (transcript.map (relay scope context.node run) ++
            (awaiting run asked answer ++ exchanges)), result, left⟩ := by
  subst asks answers
  rw [interact, run_bind, run_runStep, suspended]
  dsimp only [stepResult]
  rw [run_bind, run_awaitAnswer available]
  exact congrArg (fun rest => Conversation.mk
    (_ :: (_ ++ (_ ++ rest.transcript))) rest.value rest.state) resumed

/-- What comes of a node where its handler leads to a target, or stops. -/
theorem run_driveNode_of_jump {runChild : FrameRunner} {fuel : Nat}
    {properties : OrderedMap String} {bindings : Variables}
    {exchanges : Run.Transcript} {result : Except Interrupt Target}
    {ended : Step.State} {after : Run} {left : State Services}
    (handled : engine.registry.handler? node.nodeType = some handler)
    (interacted : oracle.run (engine.interact scope
        ⟨node, properties, engine.settings⟩ handler fuel handler.execute
          ⟨bindings, none⟩) run state =
      ⟨exchanges, ((result.map .jump, ended), after), left⟩) :
    oracle.run (engine.driveNode runChild fuel scope node properties bindings)
        run state =
      ⟨exchanges, ((result, ended.output, ended.bindings), after), left⟩ := by
  unfold driveNode
  rw [handled]
  dsimp only
  rw [run_bind, interacted]
  cases result with
  | error interrupt => exact congrArg (Conversation.mk · _ _) (by simp; rfl)
  | ok target => exact congrArg (Conversation.mk · _ _) (by simp; rfl)

/-- A handler leads somewhere from a step, in a state of the services, however
the run has got there. -/
def Leads (oracle : Oracle Services) (engine : Engine) (scope : Scope)
    (context : Step.Context) (handler : Handler) (fuel : Nat)
    (step : Step Directive) (held : Step.State) (services : Services)
    (result : Except Interrupt Flow) (ended : Step.State) : Prop :=
  ∀ run (state : State Services), state.services = services →
    ∃ exchanges after left,
      oracle.run (engine.interact scope context handler fuel step held) run
        state = ⟨exchanges, ((result, ended), after), left⟩

theorem leads_of_proceed {fuel : Nat}
    (served : oracle.serve step context held services =
      ⟨transcript, (.ok .proceed, reached), later⟩) :
    Leads oracle engine scope context handler (fuel + 1) step held services
      (.ok (.jump context.node.jumps.next)) reached := by
  rintro run state rfl
  have settles : Settles (oracle.serve step context held state.services) := by
    rw [served]
    rintro directive ⟨⟩
    rfl
  have ran : oracle.run (engine.interact scope context handler (fuel + 1) step
      held) run state = _ := run_interact_of_settles fuel settles
  rw [served] at ran
  exact ⟨_, _, _, ran⟩

theorem leads_of_suspend {fuel : Nat} {suspended : Step.State}
    {answer : Option String} {answered : Services}
    {result : Except Interrupt Flow} (available : engine.hasPrompts = true)
    (served : oracle.serve step context held services =
      ⟨transcript, (.ok (.suspend prompt), suspended), later⟩)
    (answers : ∀ request, request.prompt = prompt →
      oracle.answer request later = (answer, answered))
    (resumes : ∀ request, request.prompt = prompt →
      Leads oracle engine scope context handler fuel
        (handler.resume request answer) suspended answered result reached) :
    Leads oracle engine scope context handler (fuel + 1) step held services
      result reached := by
  rintro run state rfl
  have replied := answers (request run state context.node prompt) rfl
  obtain ⟨exchanges, after, left, resumed⟩ := resumes
    (request run state context.node prompt) rfl
    { run with status := .running }
    (oracle.answered (request run state context.node prompt)
      { state with services := later }) (congrArg Prod.snd replied)
  exact ⟨_, after, left, run_interact_of_suspend available served rfl
    (congrArg Prod.fst replied) resumed⟩

/-! ### What is seen of a step -/

theorem raised_not_mem_activities {nodeId : String}
    (exchanges : Step.Transcript) :
    Activity.raised nodeId prompt ∉
      Run.Transcript.activities (exchanges.map (relay scope node run)) := by
  intro member
  obtain ⟨exchange, isRelayed, same⟩ := List.mem_filterMap.1 member
  obtain ⟨⟨question, reply⟩, -, rfl⟩ := List.mem_map.1 isRelayed
  cases question <;> cases reply <;> cases same

theorem called_mem_activities_iff {call : ServiceCall}
    {result : Except Failure call.Result} {exchanges : Step.Transcript} :
    Activity.called call result ∈
        Run.Transcript.activities (exchanges.map (relay scope node run)) ↔
      ⟨.call call, some result⟩ ∈ exchanges := by
  rw [Run.Transcript.activities, List.mem_filterMap]
  constructor
  · rintro ⟨exchange, isRelayed, same⟩
    obtain ⟨⟨question, reply⟩, member, rfl⟩ := List.mem_map.1 isRelayed
    cases question <;> cases reply <;> cases same
    exact member
  · intro member
    exact ⟨_, List.mem_map_of_mem member, rfl⟩

theorem activities_append (first second : Run.Transcript) :
    Run.Transcript.activities (first ++ second) =
      first.activities ++ second.activities :=
  List.filterMap_append

theorem activities_isAborted {aborted : Bool} {rest : Run.Transcript} :
    Run.Transcript.activities (run.exchange .isAborted aborted :: rest) =
      rest.activities :=
  rfl

theorem activities_awaiting {request : PromptRequest}
    {answer : Option String} :
    (awaiting run request answer).activities =
      [.raised request.nodeId request.prompt,
        .answered request.nodeId request.prompt answer] := by
  unfold awaiting asking Run.announcement
  split <;> rfl

end Oracle

/-! ### Calls -/

namespace Run

/-- The call that an exchange is, with the reply to it. -/
def Exchange.call? : Exchange → Option Step.Exchange
  | ⟨⟨_, .call call⟩, reply⟩ => some ⟨.call call, reply⟩
  | _ => none

namespace Transcript

/-- The calls of services, with the replies to them, in order. -/
def calls (transcript : Transcript) : Step.Transcript :=
  transcript.filterMap Exchange.call?

theorem calls_append (first second : Transcript) :
    calls (first ++ second) = first.calls ++ second.calls :=
  List.filterMap_append

end Transcript

end Run

namespace Engine

variable {engine : Engine} {scope : Scope} {node : Node} {before after : Run}
  {transcript : Run.Transcript} {prompt : Prompt}

theorem call?_relay (run : Run) :
    Run.Exchange.call? ∘ relay scope node run =
      Option.guard Step.Exchange.isCall := by
  funext ⟨question, reply⟩
  cases question <;> rfl

/-- The calls of a step are the calls of the run while it is carried out. -/
theorem calls_carried (run : Run) (exchanges : Step.Transcript) :
    Run.Transcript.calls (run.exchange .isAborted false ::
      exchanges.map (relay scope node run)) = exchanges.calls := by
  have calls_map : Run.Transcript.calls
      (exchanges.map (relay scope node run)) = exchanges.calls := by
    rw [Run.Transcript.calls, List.filterMap_map, call?_relay,
      List.filterMap_eq_filter, Step.Transcript.calls]
  exact calls_map

theorem calls_asking (run : Run) (request : PromptRequest) :
    (asking run request).calls = [] := by
  unfold asking Run.announcement
  split <;> rfl

/-- Nothing is called while an answer is waited for. -/
theorem AwaitsAnswer.calls_eq
    {result : Except Interrupt (PromptRequest × Option String)}
    (awaits : AwaitsAnswer engine node prompt before transcript result
      after) : transcript.calls = [] := by
  cases awaits with
  | unavailable nobody => rfl
  | aborted somebody id | interrupted somebody id
  | answered somebody id answer =>
      rw [Run.Transcript.calls_append, calls_asking]
      rfl

/-! ### Nodes that call no workflow -/

section Plain

variable {handler : Handler} {nodeType : NodeType} {fuel : Nat}

/-- Only the nodes that are for it call a workflow. -/
theorem Interacts.ne_call {context : Step.Context} {step : Step Directive}
    {state ended : Step.State} {result : Except Interrupt Flow}
    (fits : Handler.Fits nodeType handler) (plain : nodeType ≠ .workflow)
    (ensures : step.Ensures (Directive.Fits nodeType))
    (interacts : Interacts engine scope context handler fuel step state before
      transcript result ended after) (call : SubWorkflowCall) :
    result ≠ .ok (.call call) := by
  induction interacts with
  | exhausted | aborted | unanswered => nofun
  | @stopped _ _ _ _ _ _ stop =>
      cases stop <;> nofun
  | @directed _ _ _ _ _ _ directive _ carried leads =>
      have fitting := ensures.value_allowed carried
      rintro ⟨⟩
      cases directive <;> cases leads
      exact plain fitting
  | resumed carried awaits resumes ih => exact ih (fits.resume _ _)

/-- What comes of such a node is what comes of its handler. -/
theorem Drives.exists_interacts {runChild : FrameRunner}
    {properties : OrderedMap String} {bindings reached : Variables}
    {result : Except Interrupt Target} {output : Option String}
    (fits : Handler.Fits nodeType handler) (plain : nodeType ≠ .workflow)
    (handled : engine.registry.handler? node.nodeType = some handler)
    (drives : Drives engine runChild fuel scope node properties bindings before
      transcript result output reached after) :
    ∃ state : Step.State,
      Interacts engine scope ⟨node, properties, engine.settings⟩ handler fuel
        handler.execute ⟨bindings, none⟩ before transcript
        (result.map .jump) state after ∧
      output = state.output ∧ reached = state.bindings := by
  cases drives with
  | unknown missing =>
      rw [handled] at missing
      cases missing
  | interrupted known interacts =>
      cases handled.symm.trans known
      exact ⟨_, interacts, rfl, rfl⟩
  | jumped known interacts =>
      cases handled.symm.trans known
      exact ⟨_, interacts, rfl, rfl⟩
  | callFailed known interacts calls | called known interacts calls =>
      cases handled.symm.trans known
      exact absurd rfl (interacts.ne_call fits plain fits.execute _)

end Plain

end Engine

end Runbook
