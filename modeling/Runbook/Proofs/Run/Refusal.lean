import Runbook.Proofs.Run.Attempt

/-!
# Calls that are refused

While a run is going on, the outermost workflow is open, and so are those that
have been called on the way to the node that is executed.  A call is refused
exactly if its key is that of an open workflow, or there is no room.  The run
then fails with the refusal, which names the open workflows and the called one,
and whatever fails with a refusal does so because of such a call.
-/

namespace Runbook

open Engine

namespace CallStack

variable {stack : CallStack} {key other : String} {maxDepth : Nat}

theorem push_empty (room : 0 < maxDepth) (key : String) :
    CallStack.empty.push key maxDepth = .ok ⟨[key]⟩ :=
  push_eq_ok_iff.2 ⟨List.not_mem_nil, room, rfl⟩

/-- A cycle names the entries of the stack and the key that is entered. -/
theorem of_push_eq_cycle {entries : List String}
    (refused : stack.push other maxDepth = .error (.cycle key entries)) :
    other = key ∧ entries = stack.entries ++ [other] := by
  unfold push at refused
  split at refused
  · cases refused
    exact ⟨rfl, rfl⟩
  · split at refused <;> cases refused

end CallStack

namespace Engine

variable {engine : Engine} {fuel : Nat} {scope : Scope} {node : Node}
  {before after current : Run} {transcript later : Run.Transcript}
  {error : RunError} {outer inner : FrameRun} {attempt : Attempt}
  {callees : List Callee}

/-! ### Where refusals come from -/

/-- No handler refuses anything as the call stack does. -/
theorem Interacts.not_isGuard {context : Step.Context} {handler : Handler}
    {step : Step Directive} {state ended : Step.State}
    {result : Except Interrupt Flow}
    (interacts : Interacts engine scope context handler fuel step state before
      transcript result ended after)
    (fails : result = .error (.failed error)) : ¬ error.isGuard := by
  induction interacts with
  | exhausted | aborted | directed => cases fails
  | @stopped _ _ _ _ _ _ stop carried =>
      cases stop <;> cases fails
      exact Bool.false_ne_true
  | unanswered carried awaits =>
      cases awaits <;> cases fails
      exact Bool.false_ne_true
  | resumed carried awaits resumes ih => exact ih fails

/-- A call that ends with a refusal is refused itself, or the workflow that it
calls is run and fails. -/
theorem CallsWorkflow.refused_or_fails {call : SubWorkflowCall}
    (calls : CallsWorkflow engine (engine.nested fuel) scope node call before
      transcript (.error (.failed error)) after) (guarded : error.isGuard)
    (standing : Frame) :
    ∃ source child, Workflow.read source call.name = .ok child ∧
      let attempt : Attempt :=
        ⟨node, standing, call, source, child, fuel, before⟩
      let pushed := before.stack.push attempt.callee.key
        engine.options.maxCallDepth
      (pushed = .error error ∧ transcript = attempt.loading) ∨
        ∃ (stack : CallStack) (inner : FrameRun) (cause : RunError),
          pushed = .ok stack ∧
          inner.toFrameStart = attempt.start scope stack ∧
          inner.IsBy engine ∧ inner.ended = .error (.failed cause) ∧
          transcript = attempt.loading ++ inner.transcript := by
  generalize result_eq : Except.error (Interrupt.failed error) = result at calls
  cases calls with
  | notLoaded loads =>
      cases result_eq
      cases loads
      cases guarded
  | notRead loads faulty =>
      cases result_eq
      cases guarded
  | @refused loading source child _ loads read refused =>
      cases result_eq
      cases loads
      exact ⟨source, child, read, .inl ⟨refused, rfl⟩⟩
  | @ran loading nested source child stack ended frame final loads read entered
      runs =>
      cases loads
      let attempt : Attempt :=
        ⟨node, standing, call, source, child, fuel, before⟩
      refine ⟨source, child, read, .inr ⟨stack,
        ⟨attempt.start scope stack, nested, ended, frame, final⟩, ?_⟩⟩
      rcases ended with (_ | cause | _) | _
      · cases result_eq
      · exact ⟨cause, entered, rfl, runs, rfl, rfl⟩
      · cases result_eq
      · cases result_eq

/-- If a frame ends with a refusal, then a call of its last node is refused, or
a workflow that the node has called fails. -/
theorem FailsAt.exists_refused_or_invokes
    (fails : FailsAt engine outer node error) (guarded : error.isGuard) :
    ∃ attempt later, Attempts engine outer attempt later ∧
      (attempt.run.stack.push attempt.callee.key
          engine.options.maxCallDepth = .error error ∨
        ∃ inner cause, Invokes engine outer attempt inner ∧
          inner.ended = .error (.failed cause)) := by
  cases fails with
  | @intro lead visiting left standing current stands steps split =>
      obtain ⟨beginning, driving, ending, output, final, middle, rfl, begins,
        drives, -⟩ := exists_closes_of_step steps
      rw [driveNode] at drives
      cases known : engine.registry.handler? node.nodeType with
      | none =>
          rw [known] at drives
          cases (Running.yields_pure_iff.1 drives).2.1
          cases guarded
      | some handler =>
          rw [known] at drives
          dsimp only at drives
          obtain ⟨asked, rest, ⟨flow, state⟩, current, rfl, leads, drives⟩ :=
            Running.yields_bind_iff.1 drives
          rcases flow with interrupt | target | call
          · cases (Running.yields_pure_iff.1 drives).2.1
            exact ((interacts_of_yields leads).not_isGuard rfl guarded).elim
          · cases (Running.yields_pure_iff.1 drives).2.1
          dsimp only at drives
          obtain ⟨calling, rest, called, final, rfl, calls, drives⟩ :=
            Running.yields_bind_iff.1 drives
          cases called with
          | ok pairs => cases (Running.yields_pure_iff.1 drives).2.1
          | error interrupt =>
              obtain ⟨rfl, value, -⟩ := Running.yields_pure_iff.1 drives
              cases value
              have calls := callsWorkflow_of_yields calls
              obtain ⟨source, child, read, made⟩ :=
                calls.refused_or_fails guarded standing
              let attempt : Attempt :=
                ⟨node, standing, call, source, child, left, current⟩
              have makes {later : Run.Transcript}
                  (same : calling ++ ending = attempt.loading ++ later) :
                  Attempts engine outer attempt later := by
                refine .intro stands begins known leads read ?_
                rw [split, List.append_nil, List.append_assoc asked, same]
              rcases made with ⟨refused, rfl⟩ | ⟨stack, inner, cause, entered,
                start_eq, runs, innerFails, rfl⟩
              · exact ⟨attempt, ending, makes rfl, .inl refused⟩
              · have attempts : Attempts engine outer attempt
                    (inner.transcript ++ ending) :=
                  makes (List.append_assoc _ _ _)
                exact ⟨attempt, _, attempts, .inr ⟨inner, cause,
                  .intro attempts entered start_eq runs, innerFails⟩⟩

/-! ### Whole runs -/

variable {workflow : Workflow} {bindings : Variables}
  {outcome? : Option RunOutcome}

/-- Nothing but reports follows an outermost frame that fails. -/
theorem IsOutermost.exists_rest
    (outermost : IsOutermost engine fuel workflow bindings before transcript
      outer)
    (yields : (engine.execute fuel workflow bindings).Yields before transcript
      outcome? after)
    (fails : outer.ended = .error (.failed error)) :
    ∃ front rest, transcript = front ++ (outer.transcript ++ rest) ∧
      rest.OnlyReports := by
  cases proceeds_of_yields yields with
  | exhausted runs endless =>
      have same := outermost.eq_of_runs runs
        (congrArg _ (List.append_nil _).symm)
      rw [same.2.1, fails] at endless
      cases endless
  | @ended started finished running ended frame reached status _ runs ends =>
      obtain ⟨rfl, rfl, rfl⟩ :=
        outermost.eq_of_runs runs (List.append_assoc _ _ _)
      rw [fails] at ends
      cases ends
      exact ⟨_, _, List.append_assoc _ _ _, onlyReports_closing _ _⟩

/-- A call is refused because its workflow is open: nothing is executed after
the document has been loaded, and the run fails with the workflows that are
open and the one that is called again. -/
structure EndsInCycle (transcript : Run.Transcript)
    (outcome? : Option RunOutcome) (attempt : Attempt) (opened : List Callee) :
    Prop where
  exists_split : ∃ front rest,
    transcript = front ++ (attempt.loading ++ rest) ∧ rest.OnlyReports
  exists_outcome : ∃ outcome, outcome? = some outcome ∧
    outcome.status = .error ∧
    outcome.error = some (.cycle attempt.callee.key
      (opened.map Callee.key ++ [attempt.callee.key]))

theorem IsOutermost.isInfix
    (outermost : IsOutermost engine fuel workflow bindings before transcript
      outer) : outer.transcript <:+: transcript := by
  cases outermost with
  | @intro started stack later entered start_eq runs split =>
      rw [split, ← List.append_assoc]
      exact List.infix_append _ _ later

theorem IsOutermost.lists {id reference : String}
    (outermost : IsOutermost engine fuel workflow bindings
      (.fresh id reference) transcript outer) :
    outer.before.stack.Lists [⟨reference, workflow.name⟩] := by
  cases outermost with
  | intro entered start_eq runs split =>
      rw [start_eq]
      exact .entered .empty entered

/-- If a run ends with a refusal, then the outermost workflow or a call of a
frame that is reached from the outermost one has been refused. -/
theorem exists_refused_of_error {outcome : RunOutcome}
    (yields : (engine.execute fuel workflow bindings).Yields before transcript
      (some outcome) after)
    (failed : outcome.status = .error) (error_eq : outcome.error = some error)
    (guarded : error.isGuard) :
    (∃ refusal, before.stack.push
        (CallStack.key before.reference workflow.name)
        engine.options.maxCallDepth = .error refusal) ∨
      ∃ outer callees inner attempt later,
        IsOutermost engine fuel workflow bindings before transcript outer ∧
        Opens engine outer callees inner ∧
        Attempts engine inner attempt later ∧
        attempt.run.stack.push attempt.callee.key
          engine.options.maxCallDepth = .error error := by
  rcases exists_path_of_error yields failed with
    refused | ⟨outer, path, inner, cause, outermost, nests, fails, origin⟩
  · exact .inl refused
  right
  have outerFails := (nests.ends outermost.isBy fails).1
  obtain ⟨_, ended, -, error_eq_too, -⟩ := outermost.fails yields outerFails
  cases ended
  rw [error_eq] at error_eq_too
  cases error_eq_too
  rw [RunError.isGuard_through] at guarded
  rw [RunError.through_of_isGuard guarded]
  obtain ⟨callees, -, opens⟩ := nests.exists_opens
  obtain ⟨node, failsAt⟩ := exists_failsAt (nests.isBy outermost.isBy) fails
  obtain ⟨attempt, later, attempts, refused | ⟨called, cause, invokes,
    calledFails⟩⟩ := failsAt.exists_refused_or_invokes guarded
  · exact ⟨outer, callees, inner, attempt, later, outermost, opens, attempts,
      refused⟩
  · exact (origin ⟨_, called, cause, invokes.calls, calledFails⟩).elim

/-- A run that ends in a cycle names the workflows that are open where the call
has been refused, and the one that has been called. -/
theorem exists_refused_of_cycle {outcome : RunOutcome} {id reference : String}
    {key : String} {entries : List String}
    (yields : (engine.execute fuel workflow bindings).Yields
      (.fresh id reference) transcript (some outcome) after)
    (room : 0 < engine.options.maxCallDepth)
    (failed : outcome.status = .error)
    (error_eq : outcome.error = some (.cycle key entries)) :
    ∃ outer callees inner attempt later,
      IsOutermost engine fuel workflow bindings (.fresh id reference)
        transcript outer ∧
      Opens engine outer callees inner ∧
      Attempts engine inner attempt later ∧ attempt.callee.key = key ∧
      entries = Callee.key ⟨reference, workflow.name⟩ ::
        (callees.map Callee.key ++ [key]) := by
  rcases exists_refused_of_error yields failed error_eq rfl with
    ⟨refusal, refused⟩ | ⟨outer, callees, inner, attempt, later, outermost,
      opens, attempts, refused⟩
  · have refused : CallStack.empty.push _ _ = _ := refused
    rw [CallStack.push_empty room] at refused
    cases refused
  · obtain ⟨key_eq, rfl⟩ := CallStack.of_push_eq_cycle refused
    have listed := (opens.lists outermost.lists).entries_eq
    refine ⟨outer, callees, inner, attempt, later, outermost, opens, attempts,
      key_eq, ?_⟩
    rw [attempts.stack_eq, listed, key_eq]
    simp

/-- The call stack decides on a call by the keys of the workflows that are
open: if the key of the called one is among them, then the call is refused, and
the run ends; otherwise the workflow is entered if there is room. -/
theorem Attempts.endsInCycle_or_invokes {id reference : String}
    (yields : (engine.execute fuel workflow bindings).Yields
      (.fresh id reference) transcript outcome? after)
    (outermost : IsOutermost engine fuel workflow bindings
      (.fresh id reference) transcript outer)
    (opens : Opens engine outer callees inner)
    (attempts : Attempts engine inner attempt later) :
    let opened := ⟨reference, workflow.name⟩ :: callees
    (attempt.callee.key ∈ opened.map Callee.key →
      EndsInCycle transcript outcome? attempt opened) ∧
    (attempt.callee.key ∉ opened.map Callee.key →
      opened.length < engine.options.maxCallDepth →
        ∃ called, Invokes engine inner attempt called) := by
  intro opened
  have entries_eq : attempt.run.stack.entries = opened.map Callee.key := by
    rw [attempts.stack_eq]
    exact (opens.lists outermost.lists).entries_eq
  have isBy := opens.isBy outermost.isBy
  rw [← entries_eq]
  constructor
  · intro isOpen
    obtain ⟨innerFails, reports⟩ :=
      attempts.refused isBy (CallStack.push_eq_cycle_iff.2 isOpen)
    obtain ⟨outerFails, first, rest, splitOuter, reportsOuter⟩ :=
      opens.refused outermost.isBy innerFails rfl
    obtain ⟨front, last, split, reportsLast⟩ :=
      outermost.exists_rest yields outerFails
    obtain ⟨lead, splitInner⟩ := attempts.exists_front
    obtain ⟨outcome, ended, status_eq, error_eq, -⟩ :=
      outermost.fails yields outerFails
    refine ⟨⟨front ++ first ++ lead, later ++ rest ++ last, ?_, ?_⟩,
      outcome, ended, status_eq, ?_⟩
    · rw [split, splitOuter, splitInner]
      simp only [List.append_assoc]
    · simp only [Run.Transcript.onlyReports_append_iff]
      exact ⟨⟨reports, reportsOuter⟩, reportsLast⟩
    · rw [error_eq, entries_eq]
  · intro closed room
    apply attempts.exists_invokes isBy
    apply CallStack.push_eq_ok_iff.2
    refine ⟨closed, ?_, rfl⟩
    rwa [entries_eq, List.length_map]

end Engine

end Runbook
