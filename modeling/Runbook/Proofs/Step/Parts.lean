import Runbook.Proofs.OrderedMap
import Runbook.Proofs.Step.Transcript
import Runbook.Step.Drive

/-!
# Parts of steps

A step that does not read a property of its node does the same whatever the
property is.  Steps in a row ignore what each of them ignores.

A step reads properties, makes calls and saves values.  What comes of each of
these parts is known as soon as its properties and the reply are, and so a step
that begins with one is taken apart.
-/

/-! ## Steps that ignore a property -/

namespace Runbook

namespace Step

/-- Contexts that differ in the value of a property at most, and perhaps in the
node. -/
structure Context.AlikeBut (name : String) (first second : Context) : Prop where
  settings_eq : first.settings = second.settings
  get?_eq : ∀ other, other ≠ name →
    first.properties.get? other = second.properties.get? other

variable {α β : Type} {context : Context} {state : State}
  {name other : String}

/-- A step does the same whatever a property is. -/
structure Ignores (step : Step α) (name : String) : Prop where
  program_eq : ∀ {first second : Context}, first.AlikeBut name second →
    ∀ state, step.program first state = step.program second state

/-- What does not look at its context ignores every property. -/
theorem ignores_of_constant {step : Step α}
    (constant : ∀ first second state,
      step.program first state = step.program second state) :
    step.Ignores name :=
  ⟨fun _ => constant _ _⟩

theorem Ignores.pure (value : α) :
    Ignores (Pure.pure value : Step α) name :=
  ignores_of_constant fun _ _ _ => rfl

theorem Ignores.bind {step : Step α} {next : α → Step β}
    (ignores : step.Ignores name) (rest : ∀ value, (next value).Ignores name) :
    (step >>= next).Ignores name where
  program_eq alike state := by
    rw [program_bind, program_bind, ignores.program_eq alike]
    congr 1
    funext ended
    cases ended.1 with
    | ok value => exact (rest value).program_eq alike ended.2
    | error stop => rfl

/-- A step may go on with what it reads of its context where no property
matters. -/
theorem ignores_read_bind {next : Context → Step β}
    (same : ∀ {first second : Context}, first.AlikeBut name second →
      next first = next second)
    (rest : ∀ context, (next context).Ignores name) :
    (read >>= next).Ignores name where
  program_eq {first second} alike state := by
    have goesOn : (next first).program first state =
        (next second).program second state := by
      rw [same alike]
      exact (rest second).program_eq alike state
    exact goesOn

theorem ignores_failWith (failure : Failure) :
    Ignores (failWith failure : Step α) name :=
  ignores_of_constant fun _ _ _ => rfl

theorem ignores_fail (message : String) :
    Ignores (fail message : Step α) name :=
  ignores_failWith _

theorem ignores_within (message : String) (attempt : Except Failure α) :
    (within message attempt).Ignores name := by
  cases attempt with
  | ok value => exact .pure value
  | error failure => exact ignores_failWith _

/-! ### Calls -/

theorem ignores_call (serviceCall : ServiceCall) :
    (call serviceCall).Ignores name := by
  refine .bind (ignores_of_constant fun _ _ _ => rfl) fun reply => ?_
  cases reply with
  | none => exact ignores_of_constant fun _ _ _ => rfl
  | some result => exact .pure result

theorem ignores_callOrFail (serviceCall : ServiceCall) :
    (callOrFail serviceCall).Ignores name := by
  refine (ignores_call serviceCall).bind fun result => ?_
  cases result with
  | ok value => exact .pure value
  | error failure => exact ignores_failWith failure

theorem ignores_callWithin (message : String) (serviceCall : ServiceCall) :
    (callWithin message serviceCall).Ignores name :=
  (ignores_call _).bind fun _ => ignores_within message _

/-! ### Other properties -/

theorem program_property? :
    (property? name).program context state =
      .done (.ok ((context.properties.get? name).filter fun value =>
        !Text.isBlankText value), state) :=
  rfl

theorem program_trimmedProperty? :
    (trimmedProperty? name).program context state =
      .done (.ok ((context.properties.get? name).bind Text.nonBlank?),
        state) := by
  rw [trimmedProperty?, program_bind, program_property?]
  cases context.properties.get? name with
  | none => rfl
  | some value =>
      cases blank : Text.isBlankText value <;>
        simp [Option.filter, Text.nonBlank?, blank, program] <;> rfl

theorem ignores_property? (different : other ≠ name) :
    (property? other).Ignores name where
  program_eq alike state := by
    rw [program_property?, program_property?, alike.get?_eq other different]

theorem ignores_trimmedProperty? (different : other ≠ name) :
    (trimmedProperty? other).Ignores name :=
  (ignores_property? different).bind fun _ => .pure _

theorem ignores_requiredTrimmed (different : other ≠ name) :
    (requiredTrimmed other).Ignores name := by
  refine .bind ((ignores_property? different).bind fun value => ?_)
    fun _ => .pure _
  cases value with
  | none => exact ignores_fail _
  | some value => exact .pure value

theorem program_propertyOrEmpty :
    (propertyOrEmpty name).program context state =
      .done (.ok ((context.properties.get? name).getD ""), state) :=
  rfl

theorem ignores_propertyOrEmpty (different : other ≠ name) :
    (propertyOrEmpty other).Ignores name where
  program_eq alike state := by
    rw [program_propertyOrEmpty, program_propertyOrEmpty,
      alike.get?_eq other different]

theorem ignores_save {value : String} (different : other ≠ name) :
    (save other value).Ignores name := by
  refine .bind ((ignores_trimmedProperty? different).bind fun named => ?_)
    fun _ => ignores_of_constant fun _ _ _ => rfl
  cases named with
  | none => exact .pure ()
  | some named => exact ignores_of_constant fun _ _ _ => rfl

/-! ### Files -/

theorem ignores_readPlain? (info : FileInfo) :
    (readPlain? info).Ignores name :=
  (ignores_callWithin _ _).bind fun _ => .pure _

theorem ignores_currentContent (mode : WriteMode) (path : String)
    (existing : Option FileInfo) :
    (currentContent mode path existing).Ignores name := by
  cases existing with
  | none => exact .pure ""
  | some info =>
      unfold currentContent
      dsimp only
      split
      case' isTrue => refine (ignores_fail _).bind fun _ => ?_
      all_goals
        refine (ignores_readPlain? info).bind fun content => ?_
        cases content with
        | none => exact ignores_fail _
        | some content => exact .pure content

theorem ignores_writeFile (message path content : String)
    (mimeType : Option String) :
    (writeFile message path content mimeType).Ignores name := by
  refine ignores_read_bind (fun alike => ?_) fun context =>
    (ignores_callOrFail _).bind fun existing => ?_
  · rw [alike.settings_eq]
  · cases existing with
    | none => exact ignores_callWithin _ _
    | some info => exact ignores_callWithin _ _

theorem ignores_saveWritten (path content : String)
    (different : "saveTo" ≠ name) :
    (saveWritten path content).Ignores name :=
  (ignores_writeFile _ _ _ _).bind fun _ =>
    (ignores_save different).bind fun _ => .pure _

end Step

end Runbook

/-! ## Taking steps apart -/

namespace Runbook

namespace Step

variable {α β : Type} {context : Context} {before middle after : State}
  {transcript : Transcript} {result : Except Stop β}

/-- What comes first and asks nobody does not show. -/
theorem yields_bind_iff_of_done {step : Step α} {value : α}
    (done : step.program context before = .done (.ok value, middle))
    {next : α → Step β} :
    Yields (step >>= next) context before transcript result after ↔
      Yields (next value) context middle transcript result after := by
  unfold Yields
  rw [program_bind, done]
  rfl

/-- What fails without asking anybody is all that comes of a step. -/
theorem yields_bind_iff_of_stopped {step : Step α} {stop : Stop}
    (done : step.program context before = .done (.error stop, middle))
    {next : α → Step β} :
    Yields (step >>= next) context before transcript result after ↔
      transcript = [] ∧ result = .error stop ∧ after = middle := by
  refine yields_iff_of_done ?_
  rw [program_bind, done]
  rfl

/-! ### Properties -/

/-- A property that is required is given, or the step fails. -/
theorem program_requiredTrimmed (name : String) :
    (requiredTrimmed name).program context before =
      .done (match (context.properties.get? name).bind Text.nonBlank? with
        | some text => .ok text
        | none => .error (.failed
            (.of s!"missing required property '{name}'")), before) := by
  rw [requiredTrimmed, required, program_bind, program_bind,
    program_property?]
  cases context.properties.get? name with
  | none => rfl
  | some value =>
      cases blank : Text.isBlankText value <;>
        simp [Option.filter, Text.nonBlank?, blank, program] <;> rfl

theorem program_requiredTrimmed_of_some {name text : String}
    (given : (context.properties.get? name).bind Text.nonBlank? = some text) :
    (requiredTrimmed name).program context before =
      .done (.ok text, before) := by
  rw [program_requiredTrimmed, given]

theorem program_flag {name : String} :
    (flag name).program context before =
      .done (.ok (isTruthy ((context.properties.get? name).filter
        fun value => !Text.isBlankText value)), before) :=
  rfl

/-! ### Saving -/

/-- The state after a value has been stored under the name that a property
gives, if it gives one. -/
def named (context : Context) (property value : String) (state : State) :
    State :=
  match (context.properties.get? property).bind Text.nonBlank? with
  | some name => { state with bindings := state.bindings.insert name value }
  | none => state

/-- The state after a value has been saved. -/
def saved (context : Context) (property value : String) (state : State) :
    State :=
  { named context property value state with output := some value }

theorem get?_named (context : Context) (property value name : String)
    (state : State) :
    (named context property value state).bindings.get? name =
      if (context.properties.get? property).bind Text.nonBlank? = some name then
        some value
      else state.bindings.get? name := by
  unfold named
  cases (context.properties.get? property).bind Text.nonBlank? with
  | none => rfl
  | some target => simp [OrderedMap.get?_insert]

theorem get?_saved (context : Context) (property value name : String)
    (state : State) :
    (saved context property value state).bindings.get? name =
      if (context.properties.get? property).bind Text.nonBlank? = some name then
        some value
      else state.bindings.get? name :=
  get?_named context property value name state

theorem program_setNamed {property value : String} :
    (setNamed property value).program context before =
      .done (.ok (), named context property value before) := by
  rw [setNamed, program_bind, program_trimmedProperty?, named]
  dsimp only [Program.pure_bind]
  cases (context.properties.get? property).bind Text.nonBlank? with
  | none => rfl
  | some name => rfl

theorem program_save {property value : String} :
    (save property value).program context before =
      .done (.ok (), saved context property value before) := by
  rw [save, program_bind, program_setNamed]
  rfl

theorem program_save_proceed {property value : String} :
    (do save property value; return Directive.proceed).program context before =
      .done (.ok .proceed, saved context property value before) := by
  rw [program_bind, program_save]
  rfl

/-! ### Calls -/

/-- A service is called. -/
def Exchange.isCall : Exchange → Bool
  | ⟨.call _, _⟩ => true
  | _ => false

/-- The calls in a transcript, with the replies to them. -/
def Transcript.calls (transcript : Transcript) : Transcript :=
  transcript.filter Exchange.isCall

/-- What a step makes of the reply to a call; its failure may be explained. -/
def outcome (explain : Failure → Failure) :
    Option (Except Failure α) → Except Stop α
  | some (.ok value) => .ok value
  | some (.error failure) => .error (.failed (explain failure))
  | none => .error .interrupted

/-- A step is a call and nothing else. -/
def IsCall (call : ServiceCall) (explain : Failure → Failure)
    (step : Step call.Result) : Prop :=
  ∀ context state, step.program context state =
    .ask (.call call) fun reply => .done (outcome explain reply, state)

theorem isCall_callOrFail (call : ServiceCall) :
    IsCall call id (callOrFail call) := by
  intro context state
  refine congrArg (Program.ask _) (funext fun reply => ?_)
  rcases reply with _ | failure | value <;> rfl

theorem isCall_callWithin (message : String) (call : ServiceCall) :
    IsCall call (Failure.within message) (callWithin message call) := by
  intro context state
  refine congrArg (Program.ask _) (funext fun reply => ?_)
  rcases reply with _ | failure | value <;> rfl

theorem IsCall.yields_iff {call : ServiceCall} {explain : Failure → Failure}
    {step : Step call.Result} (isCall : IsCall call explain step)
    {result : Except Stop call.Result} :
    Yields step context before transcript result after ↔
      ∃ reply, transcript = [⟨.call call, reply⟩] ∧
        result = outcome explain reply ∧ after = before := by
  rw [Yields, isCall, Program.yields_ask_iff]
  simp only [Program.yields_done_iff, Prod.mk.injEq]
  constructor
  · rintro ⟨reply, _, rfl, rfl, rfl, rfl⟩
    exact ⟨reply, rfl, rfl, rfl⟩
  · rintro ⟨reply, rfl, rfl, rfl⟩
    exact ⟨reply, [], rfl, rfl, rfl, rfl⟩

/-- A step that begins with a call stops there, or it goes on with the value
that is replied. -/
theorem IsCall.yields_bind {call : ServiceCall} {explain : Failure → Failure}
    {step : Step call.Result} (isCall : IsCall call explain step)
    {next : call.Result → Step β}
    (yields : Yields (step >>= next) context before transcript result after) :
    ∃ reply rest, transcript = ⟨.call call, reply⟩ :: rest ∧
      ((∃ stop, outcome explain reply = .error stop ∧ rest = [] ∧
          result = .error stop) ∨
        ∃ value, reply = some (.ok value) ∧
          Yields (next value) context before rest result after) := by
  rcases yields_bind_iff.1 yields with
    ⟨stop, rfl, start⟩ | ⟨_, rest, value, _, rfl, start, remaining⟩
  · obtain ⟨reply, rfl, stopped, -⟩ := isCall.yields_iff.1 start
    exact ⟨reply, [], rfl, .inl ⟨stop, stopped.symm, rfl, rfl⟩⟩
  · obtain ⟨reply, rfl, replied, rfl⟩ := isCall.yields_iff.1 start
    refine ⟨reply, rest, rfl, .inr ⟨value, ?_, remaining⟩⟩
    rcases reply with _ | failure | other <;> cases replied
    rfl

end Step

end Runbook
