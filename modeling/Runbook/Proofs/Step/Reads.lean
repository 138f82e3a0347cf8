import Runbook.Proofs.Step.Transcript
import Runbook.Step.Call

/-!
# Steps that only read

A step that asks nothing and changes nothing ends with a value or a failure
that depends on its context and its state alone.  The description of a call of
another workflow is found by such a step.
-/

namespace Runbook

namespace Step

variable {α β : Type}

/-- A step asks nothing, and leaves its state as it is. -/
def Reads (step : Step α) : Prop :=
  ∀ context state, ∃ result, step.program context state =
    .done (result, state)

theorem Reads.pure (value : α) : Reads (Pure.pure value : Step α) :=
  fun _ _ => ⟨.ok value, rfl⟩

theorem Reads.bind {step : Step α} {next : α → Step β} (first : step.Reads)
    (rest : ∀ value, (next value).Reads) : (step >>= next).Reads := by
  intro context state
  obtain ⟨result, same⟩ := first context state
  rw [program_bind, same]
  cases result with
  | error stop => exact ⟨.error stop, rfl⟩
  | ok value => exact rest value context state

theorem Reads.mapM {step : α → Step β} (each : ∀ value, (step value).Reads)
    (values : List α) : (values.mapM step).Reads := by
  induction values with
  | nil => exact .pure []
  | cons value rest ih =>
      rw [List.mapM_cons]
      exact (each value).bind fun _ => ih.bind fun _ => .pure _

/-- A step that begins with one that only reads stops there, or it goes on from
the same state. -/
theorem Reads.yields_bind {step : Step α} {next : α → Step β}
    {context : Context} {before after : State} {transcript : Transcript}
    {result : Except Stop β} (reads : step.Reads)
    (yields : Yields (step >>= next) context before transcript result after) :
    (transcript = [] ∧ ∃ stop, result = .error stop) ∨
      ∃ value, step.program context before = .done (.ok value, before) ∧
        Yields (next value) context before transcript result after := by
  obtain ⟨ended, done⟩ := reads context before
  rw [Yields, program_bind, done] at yields
  cases ended with
  | error stop =>
      obtain ⟨rfl, same⟩ := Program.yields_done_iff.1 yields
      exact .inl ⟨rfl, stop, (Prod.mk.inj same).1⟩
  | ok value => exact .inr ⟨value, done, yields⟩

theorem Reads.yields {step : Step α} {context : Context}
    {before after : State} {transcript : Transcript} {result : Except Stop α}
    (reads : step.Reads)
    (yields : Yields step context before transcript result after) :
    transcript = [] ∧ after = before := by
  obtain ⟨ended, done⟩ := reads context before
  obtain ⟨nothing, -, same⟩ := (yields_iff_of_done done).1 yields
  exact ⟨nothing, same⟩

theorem reads_read : Reads (read : Step Context) :=
  fun context _ => ⟨.ok context, rfl⟩

theorem reads_get : Reads (get : Step State) :=
  fun _ state => ⟨.ok state, rfl⟩

theorem reads_fail (message : String) : Reads (fail message : Step α) :=
  fun _ _ => ⟨.error (.failed (.of message)), rfl⟩

theorem reads_property? (name : String) : (property? name).Reads :=
  reads_read.bind fun _ => .pure _

theorem reads_trimmedProperty? (name : String) :
    (trimmedProperty? name).Reads :=
  (reads_property? name).bind fun _ => .pure _

theorem reads_required (name : String) : (required name).Reads := by
  refine (reads_property? name).bind fun value => ?_
  cases value with
  | none => exact reads_fail _
  | some value => exact .pure value

theorem reads_requiredTrimmed (name : String) :
    (requiredTrimmed name).Reads :=
  (reads_required name).bind fun _ => .pure _

theorem reads_items (name : String) : (items name).Reads :=
  (reads_property? name).bind fun _ => .pure _

theorem reads_flag (name : String) : (flag name).Reads :=
  (reads_property? name).bind fun _ => .pure _

theorem reads_propertyOrEmpty (name : String) :
    (propertyOrEmpty name).Reads :=
  reads_read.bind fun _ => .pure _

theorem reads_json? (name : String) : (json? name).Reads := by
  refine (reads_property? name).bind fun value => ?_
  cases value with
  | none => exact .pure none
  | some value =>
      dsimp only
      cases Json.read? value with
      | none => exact reads_fail _
      | some json => exact .pure (some json)

theorem reads_textMap (name : String) (value : Option Json) :
    (textMap name value).Reads := by
  cases value with
  | none => exact .pure _
  | some value =>
      cases value with
      | null => exact .pure _
      | object members => exact .pure _
      | _ => exact reads_fail _

theorem reads_callInputs : callInputs.Reads := by
  have resolved (value : Option Json) : Reads (do
      let templates ← textMap "input" value
      return Template.resolveAll (← get).bindings templates) :=
    (reads_textMap _ _).bind fun _ => reads_get.bind fun _ => .pure _
  unfold callInputs
  refine reads_read.bind fun context => ?_
  dsimp only
  cases (context.node.properties.get? "input").filter fun text =>
      !Text.isBlankText text with
  | none => exact (Reads.pure _).bind resolved
  | some text =>
      dsimp only
      cases Json.read? text with
      | none => exact (reads_fail _).bind resolved
      | some value => exact (Reads.pure _).bind resolved

/-- A call is described without asking anybody, and without changes. -/
theorem reads_callWorkflow : callWorkflow.Reads := by
  unfold callWorkflow
  refine (reads_requiredTrimmed _).bind fun reference => ?_
  refine (reads_trimmedProperty? _).bind fun name => ?_
  refine reads_callInputs.bind fun inputs => ?_
  refine (reads_json? _).bind fun written => ?_
  exact (reads_textMap _ _).bind fun outputs => .pure _

/-- The call that a node describes, if it describes one. -/
def describedCall? (context : Context) (bindings : Variables) :
    Option SubWorkflowCall :=
  match callWorkflow.program context ⟨bindings, none⟩ with
  | .done (.ok (.call call), _) => some call
  | _ => none

theorem program_callWorkflow {context : Context} {bindings : Variables}
    {call : SubWorkflowCall}
    (described : describedCall? context bindings = some call) :
    callWorkflow.program context ⟨bindings, none⟩ =
      .done (.ok (.call call), ⟨bindings, none⟩) := by
  obtain ⟨result, same⟩ := reads_callWorkflow context ⟨bindings, none⟩
  rw [describedCall?, same] at described
  rw [same]
  rcases result with stop | directive
  · cases described
  · cases directive with
    | call other =>
        cases described
        rfl
    | _ => cases described

/-- A node describes the call that it ends with. -/
theorem describedCall?_of_yields {context : Context} {bindings : Variables}
    {transcript : Transcript} {call : SubWorkflowCall} {after : State}
    (yields : callWorkflow.Yields context ⟨bindings, none⟩ transcript
      (.ok (.call call)) after) :
    describedCall? context bindings = some call := by
  obtain ⟨result, same⟩ := reads_callWorkflow context ⟨bindings, none⟩
  obtain ⟨-, rfl, -⟩ := (yields_iff_of_done same).1 yields
  rw [describedCall?, same]

end Step

end Runbook
