import Runbook.Proofs.Run.CallSite
import Runbook.Proofs.Run.Course

/-!
# Open frames

The call stack of a run lists the workflows that are open, and nothing else:
each of them once, the outermost one first, and never more than may be nested.
Whatever comes of a node, it leaves the stack and the pointer as it found
them.

The guard against cycles compares keys, in which a reference and a name are
joined by a colon.  Two workflows share a key exactly if they are the same, or
if the colon that joins one of them is a colon of the name or the reference of
the other.  Where no name has a colon, or no reference has one, the guard finds
exactly the workflows that are entered again.
-/

namespace Runbook

namespace CallStack

variable {stack pushed : CallStack} {key : String} {maxDepth : Nat}

theorem push_eq_ok_iff :
    stack.push key maxDepth = .ok pushed ↔
      key ∉ stack.entries ∧ stack.entries.length < maxDepth ∧
        pushed = ⟨stack.entries ++ [key]⟩ := by
  unfold push contains depth
  by_cases isOpen : key ∈ stack.entries
  · simp [isOpen]
  · by_cases full : maxDepth ≤ stack.entries.length
    · simp [isOpen, full, Nat.not_lt.2 full]
    · simp [isOpen, full, Nat.lt_of_not_le full, eq_comm]

/-- Leaving a workflow undoes entering it. -/
theorem pop_of_push (entered : stack.push key maxDepth = .ok pushed) :
    pushed.pop = stack := by
  obtain ⟨-, -, rfl⟩ := push_eq_ok_iff.1 entered
  simp [pop]

end CallStack

namespace Run

/-- A run is where it was: in the same workflows, at the same node. -/
structure KeepsPlace (before after : Run) : Prop where
  stack_eq : after.stack = before.stack
  pointer_eq : after.pointer = before.pointer

theorem KeepsPlace.refl (run : Run) : run.KeepsPlace run :=
  ⟨rfl, rfl⟩

theorem KeepsPlace.trans {before middle after : Run}
    (first : before.KeepsPlace middle) (second : middle.KeepsPlace after) :
    before.KeepsPlace after :=
  ⟨second.stack_eq.trans first.stack_eq,
    second.pointer_eq.trans first.pointer_eq⟩

/-- The call stack at an exchange lists the open workflows, each of them once
and at most so many. -/
structure Framed.IsStacked (framed : Framed) (maxDepth : Nat) : Prop where
  entries_eq : framed.run.stack.entries = framed.frames
  nodup : framed.frames.Nodup
  length_le : framed.frames.length ≤ maxDepth

end Run

namespace Engine

variable {engine : Engine} {fuel : Nat} {scope : Scope} {node : Node}
  {before after : Run} {transcript : Run.Transcript}

/-! ### What a node leaves behind -/

theorem AwaitsAnswer.keepsPlace {prompt : Prompt}
    {result : Except Interrupt (PromptRequest × Option String)}
    (awaits : AwaitsAnswer engine node prompt before transcript result
      after) : before.KeepsPlace after := by
  cases awaits <;> exact ⟨rfl, rfl⟩

theorem Interacts.keepsPlace {context : Step.Context} {handler : Handler}
    {step : Step Directive} {state ended : Step.State}
    {result : Except Interrupt Flow}
    (interacts : Interacts engine scope context handler fuel step state before
      transcript result ended after) : before.KeepsPlace after := by
  induction interacts with
  | exhausted => exact .refl _
  | aborted => exact .refl _
  | stopped carried => exact .refl _
  | directed carried leads => exact .refl _
  | unanswered carried awaits => exact awaits.keepsPlace
  | resumed carried awaits resumes ih => exact awaits.keepsPlace.trans ih

section Nested

variable
  (child : ∀ {scope : Scope} {workflow : Workflow} {frame reached : Frame}
    {before after : Run} {transcript : Run.Transcript}
    {ended : Except Interrupt Unit},
    (engine.nested fuel scope workflow frame).Yields before transcript
      (ended, reached) after → after.stack = before.stack)

include child

theorem CallsWorkflow.keepsPlace {call : SubWorkflowCall}
    {result : Except Interrupt (List (String × String))}
    (calls : CallsWorkflow engine (engine.nested fuel) scope node call before
      transcript result after) : before.KeepsPlace after := by
  cases calls with
  | notLoaded loads => exact .refl before
  | notRead loads faulty => exact .refl before
  | refused loads read guarded => exact .refl before
  | ran loads read entered runs =>
      refine ⟨?_, rfl⟩
      rw [child runs]
      exact CallStack.pop_of_push entered

theorem Drives.keepsPlace {properties : OrderedMap String}
    {bindings reached : Variables} {result : Except Interrupt Target}
    {output : Option String}
    (drives : Drives engine (engine.nested fuel) fuel scope node properties
      bindings before transcript result output reached after) :
    before.KeepsPlace after := by
  cases drives with
  | unknown missing => exact .refl before
  | interrupted known interacts => exact interacts.keepsPlace
  | jumped known interacts => exact interacts.keepsPlace
  | callFailed known interacts calls =>
      exact interacts.keepsPlace.trans (calls.keepsPlace child)
  | called known interacts calls =>
      exact interacts.keepsPlace.trans (calls.keepsPlace child)

theorem Performs.keepsPlace {visit : Visit} {frame reached : Frame}
    (performs : Performs engine (engine.nested fuel) fuel scope visit before
      frame transcript reached after) : before.KeepsPlace after := by
  obtain ⟨driving, -, drives⟩ := performs.exists_drives
  exact drives.keepsPlace child

end Nested

/-- A frame leaves the call stack as it found it, whatever its end is. -/
theorem stack_eq_of_yields {workflow : Workflow} {target : Target}
    {frame reached : Frame} {ended : Except Interrupt Unit}
    (yields : (engine.runFrom fuel scope workflow target frame).Yields before
      transcript (ended, reached) after) :
    after.stack = before.stack := by
  -- The fuel bounds the frame and every frame that is nested in it.
  induction fuel generalizing scope workflow target frame reached before after
    transcript ended with
  | zero =>
      rw [runFrom] at yields
      obtain ⟨-, -, rfl⟩ := Running.yields_pure_iff.1 yields
      rfl
  | succ fuel ih =>
      cases goesOn_of_yields yields with
      | aborted => rfl
      | finished nowhere => rfl
      | stopped position found steps =>
          obtain ⟨visit, -, -, -, performs⟩ :=
            performs_of_yields steps position
          exact (performs.keepsPlace ih).stack_eq
      | moved position found steps goesOn =>
          obtain ⟨visit, -, -, -, performs⟩ :=
            performs_of_yields steps position
          exact (ih goesOn).trans (performs.keepsPlace ih).stack_eq

theorem keepsPlace_of_step {frame reached : Frame}
    {result : Except Interrupt Target}
    (yields : (engine.step (engine.nested fuel) fuel scope node frame).Yields
      before transcript (result, reached) after) :
    before.KeepsPlace after := by
  obtain ⟨visit, -, -, -, performs⟩ := performs_of_yields yields 0
  exact performs.keepsPlace stack_eq_of_yields

/-! ### The stack at every moment -/

/-- If the stack lists the open workflows at first, then it does so all along
and at last. -/
theorem Course.isStacked {frames : List String} {framed : List Run.Framed}
    (course : Course engine frames scope before framed after)
    (entries_eq : before.stack.entries = frames) (nodup : frames.Nodup)
    (bounded : frames.length ≤ engine.options.maxCallDepth) :
    (∀ place ∈ framed, place.IsStacked engine.options.maxCallDepth ∧
        frames <+: place.frames) ∧
      after.stack.entries = frames := by
  induction course with
  | andThen start rest startIh restIh =>
      obtain ⟨earlier, middle_eq⟩ := startIh entries_eq nodup bounded
      obtain ⟨later, after_eq⟩ := restIh middle_eq nodup bounded
      exact ⟨List.forall_mem_append.2 ⟨earlier, later⟩, after_eq⟩
  | asked frames plain =>
      refine ⟨?_, entries_eq⟩
      intro place member
      obtain ⟨exchange, asked, rfl⟩ := List.mem_map.1 member
      obtain ⟨rfl, -⟩ := plain exchange asked
      exact ⟨⟨entries_eq, nodup, bounded⟩, List.prefix_rfl⟩
  | pointed frames scope run pointer => exact ⟨by simp, entries_eq⟩
  | suspended frames scope request running =>
      refine ⟨?_, entries_eq⟩
      intro place member
      simp only [List.mem_cons, List.not_mem_nil, or_false] at member
      rcases member with rfl | rfl <;>
        exact ⟨⟨entries_eq, nodup, bounded⟩, List.prefix_rfl⟩
  | resumed frames scope waiting =>
      refine ⟨?_, entries_eq⟩
      intro place member
      obtain rfl := List.mem_singleton.1 member
      exact ⟨⟨entries_eq, nodup, bounded⟩, List.prefix_rfl⟩
  | called key_eq entered runs course ih =>
      obtain ⟨closed, room, rfl⟩ := CallStack.push_eq_ok_iff.1 entered
      rw [entries_eq] at closed room
      obtain ⟨inside, reached_eq⟩ := ih (by rw [entries_eq])
        (List.nodup_append.2 ⟨nodup, by simp, by grind⟩)
        (by simpa using Nat.succ_le_of_lt room)
      refine ⟨fun place member => ?_, by simp [CallStack.pop, reached_eq]⟩
      obtain ⟨stacked, above⟩ := inside place member
      exact ⟨stacked, (List.prefix_append _ _).trans above⟩

/-- The ways in which the outermost workflow is run, with the workflows that
are open at each exchange: if it is entered, then it takes its course as the
only one that is open. -/
inductive RunsFramed (engine : Engine) (fuel : Nat) (workflow : Workflow)
    (frame : Frame) (before : Run) : List Run.Framed → Prop
  | refused {error : RunError}
      (guarded : before.stack.push
        (CallStack.key before.reference workflow.name)
        engine.options.maxCallDepth = .error error) :
      RunsFramed engine fuel workflow frame before []
  | entered {stack : CallStack} {framed : List Run.Framed}
      {ended : Except Interrupt Unit} {reached : Frame} {inner : Run}
      (entered : before.stack.push
        (CallStack.key before.reference workflow.name)
        engine.options.maxCallDepth = .ok stack)
      (runs : (engine.runFrom fuel ⟨""⟩ workflow (.node workflow.start)
        frame).Yields { before with stack } (framed.map Run.Framed.exchange)
          (ended, reached) inner)
      (course : Course engine [CallStack.key before.reference workflow.name]
        ⟨""⟩ { before with stack } framed inner) :
      RunsFramed engine fuel workflow frame before framed

/-- A run whose stack is empty has entries only while its outermost workflow
is run. -/
theorem RunsOutermost.isStacked {workflow : Workflow} {frame reached : Frame}
    {ended : Except Interrupt Unit}
    (runs : RunsOutermost engine fuel workflow frame before transcript ended
      reached after)
    (running : before.status = .running)
    (nothingOpen : before.stack = .empty) :
    after.stack = .empty ∧ ∃ framed : List Run.Framed,
      framed.map Run.Framed.exchange = transcript ∧
      RunsFramed engine fuel workflow frame before framed ∧
      ∀ place ∈ framed, place.IsStacked engine.options.maxCallDepth ∧
        place.frames.head? =
          some (CallStack.key before.reference workflow.name) := by
  cases runs with
  | refused guarded =>
      exact ⟨nothingOpen, [], rfl, .refused guarded, by simp⟩
  | entered entered runs =>
      let key := CallStack.key before.reference workflow.name
      obtain ⟨framed, rfl, course⟩ :=
        (takes_of_yields runs running).course [key]
      obtain ⟨-, room, pushed⟩ := CallStack.push_eq_ok_iff.1 entered
      have room : 0 < engine.options.maxCallDepth := Nat.zero_lt_of_lt room
      obtain ⟨stacked, inner_eq⟩ := course.isStacked
        (by simp [pushed, nothingOpen, CallStack.empty, key]) (by simp)
        room
      refine ⟨by simp [CallStack.pop, inner_eq, CallStack.empty], framed, rfl,
        .entered entered runs course, fun place member => ?_⟩
      obtain ⟨isStacked, others, above⟩ := stacked place member
      exact ⟨isStacked, by simp [← above, key]⟩

end Engine

end Runbook

/-! ## Workflows that are entered again -/

namespace Runbook

/-- What a key is made of: where a workflow is loaded from, and its name. -/
@[ext]
structure Callee where
  reference : String
  name : String
deriving DecidableEq

namespace Callee

def key (callee : Callee) : String :=
  CallStack.key callee.reference callee.name

theorem toList_key (callee : Callee) :
    callee.key.toList =
      callee.reference.toList ++ ':' :: callee.name.toList := by
  simp [key, CallStack.key]

/-- The reference of a workflow goes on after that of another one with a colon
and a part with which the name of the other one begins. -/
def Extends (longer shorter : Callee) : Prop :=
  ∃ part, longer.reference = shorter.reference ++ ":" ++ part ∧
    shorter.name = part ++ ":" ++ longer.name

theorem Extends.key_eq {longer shorter : Callee}
    (goesOn : longer.Extends shorter) : longer.key = shorter.key := by
  obtain ⟨part, reference, name⟩ := goesOn
  simp only [key, CallStack.key, reference, name, String.append_assoc]

/-- A key in which a reference goes on after another one is split at the same
colon, or at a later one. -/
theorem eq_or_extends_of_append {first second : Callee} {part : List Char}
    (reference : second.reference.toList = first.reference.toList ++ part)
    (name : ':' :: first.name.toList = part ++ ':' :: second.name.toList) :
    first = second ∨ second.Extends first := by
  cases part with
  | nil =>
      left
      apply Callee.ext
      · exact String.toList_injective (by simpa using reference.symm)
      · exact String.toList_injective (by simpa using name)
  | cons colon part =>
      rw [List.cons_append, List.cons.injEq] at name
      obtain ⟨rfl, name⟩ := name
      right
      refine ⟨String.ofList part, ?_, ?_⟩
      · apply String.toList_injective
        simp [reference]
      · apply String.toList_injective
        simp [name]

theorem key_eq_key_iff {first second : Callee} :
    first.key = second.key ↔
      first = second ∨ first.Extends second ∨ second.Extends first := by
  constructor
  · intro same
    have split := congrArg String.toList same
    rw [toList_key, toList_key] at split
    rcases List.append_eq_append_iff.1 split with
      ⟨part, reference, name⟩ | ⟨part, reference, name⟩
    · exact (eq_or_extends_of_append reference name).imp_right .inr
    · exact (eq_or_extends_of_append reference name).imp Eq.symm .inl
  · rintro (rfl | longer | longer)
    · rfl
    · exact longer.key_eq
    · exact longer.key_eq.symm

theorem Extends.has_colon {longer shorter : Callee}
    (goesOn : longer.Extends shorter) :
    ':' ∈ longer.reference.toList ∧ ':' ∈ shorter.name.toList := by
  obtain ⟨part, reference, name⟩ := goesOn
  simp [reference, name]

end Callee

namespace CallStack

/-- The stack lists workflows that have been entered one after the other. -/
inductive Lists : CallStack → List Callee → Prop
  | empty : Lists .empty []
  | entered {stack pushed : CallStack} {callees : List Callee}
      {callee : Callee} {maxDepth : Nat} (lists : Lists stack callees)
      (pushes : stack.push callee.key maxDepth = .ok pushed) :
      Lists pushed (callees ++ [callee])

variable {stack : CallStack} {callees : List Callee} {callee : Callee}
  {key : String} {maxDepth : Nat}

theorem Lists.entries_eq (lists : stack.Lists callees) :
    stack.entries = callees.map Callee.key := by
  induction lists with
  | empty => rfl
  | entered lists pushes ih =>
      obtain ⟨-, -, rfl⟩ := push_eq_ok_iff.1 pushes
      simp [ih]

/-- Entering a workflow fails as a cycle exactly if its key is on the stack. -/
theorem push_eq_cycle_iff :
    stack.push key maxDepth = .error (.cycle key (stack.entries ++ [key])) ↔
      key ∈ stack.entries := by
  unfold push contains depth
  by_cases isOpen : key ∈ stack.entries
  · simp [isOpen]
  · by_cases full : maxDepth ≤ stack.entries.length <;> simp [isOpen, full]

/-- The guard refuses a workflow as a cycle exactly if one on the stack is the
same, or is told apart from it by another colon of the key only.  If no
reference has a colon, or no name has one, then it is the same. -/
theorem push_refuses_shared_keys (lists : stack.Lists callees)
    (callee : Callee) (maxDepth : Nat) :
    (stack.push callee.key maxDepth =
        .error (.cycle callee.key (stack.entries ++ [callee.key])) ↔
      ∃ listed ∈ callees, listed = callee ∨ listed.Extends callee ∨
        callee.Extends listed) ∧
    ((∀ other ∈ callee :: callees, ':' ∉ other.reference.toList) ∨
        (∀ other ∈ callee :: callees, ':' ∉ other.name.toList) →
      (stack.push callee.key maxDepth =
          .error (.cycle callee.key (stack.entries ++ [callee.key])) ↔
        callee ∈ callees)) := by
  have refused : stack.push callee.key maxDepth =
      .error (.cycle callee.key (stack.entries ++ [callee.key])) ↔
        ∃ listed ∈ callees, listed = callee ∨ listed.Extends callee ∨
          callee.Extends listed := by
    rw [push_eq_cycle_iff, lists.entries_eq, List.mem_map]
    simp only [Callee.key_eq_key_iff]
  refine ⟨refused, fun plain => refused.trans ?_⟩
  constructor
  · rintro ⟨listed, member, same | longer | longer⟩
    · exact same ▸ member
    · have colons := longer.has_colon
      rcases plain with plain | plain
      · exact (plain listed (List.mem_cons_of_mem _ member) colons.1).elim
      · exact (plain callee List.mem_cons_self colons.2).elim
    · have colons := longer.has_colon
      rcases plain with plain | plain
      · exact (plain callee List.mem_cons_self colons.1).elim
      · exact (plain listed (List.mem_cons_of_mem _ member) colons.2).elim
  · intro member
    exact ⟨callee, member, .inl rfl⟩

/-- What is loaded from `b.yaml` may call what is loaded from `a.yaml` only if
that is not being run. -/
theorem push_refuses_shared_keys_files :
    (⟨["a.yaml:main", "b.yaml:main"]⟩ : CallStack).Lists
        [⟨"a.yaml", "main"⟩, ⟨"b.yaml", "main"⟩] ∧
      (⟨["a.yaml:main", "b.yaml:main"]⟩ : CallStack).push "a.yaml:main" 2 =
        .error (.cycle "a.yaml:main"
          ["a.yaml:main", "b.yaml:main", "a.yaml:main"]) := by
  have first : CallStack.empty.push (Callee.key ⟨"a.yaml", "main"⟩) 2 =
      .ok ⟨["a.yaml:main"]⟩ := by decide
  have second : CallStack.push ⟨["a.yaml:main"]⟩
      (Callee.key ⟨"b.yaml", "main"⟩) 2 =
        .ok ⟨["a.yaml:main", "b.yaml:main"]⟩ := by decide
  have lists : (⟨["a.yaml:main", "b.yaml:main"]⟩ : CallStack).Lists
      [⟨"a.yaml", "main"⟩, ⟨"b.yaml", "main"⟩] :=
    .entered (.entered .empty first) second
  have refused := (push_refuses_shared_keys lists ⟨"a.yaml", "main"⟩ 2).2
    (.inr (by decide))
  exact ⟨lists, refused.2 (by decide)⟩

/-- The workflow `b:c` of `a` is refused as a cycle while the workflow `c` of
`a:b` is run, although it is not being run itself. -/
theorem push_refuses_another :
    ¬ ∀ (stack : CallStack) (callees : List Callee), stack.Lists callees →
      ∀ (callee : Callee) (maxDepth : Nat),
        stack.push callee.key maxDepth =
            .error (.cycle callee.key (stack.entries ++ [callee.key])) ↔
          callee ∈ callees := by
  intro guards
  have lists : (⟨["a:b:c"]⟩ : CallStack).Lists [⟨"a:b", "c"⟩] :=
    @Lists.entered _ _ _ _ 20 .empty (by decide)
  have listed := (guards _ _ lists ⟨"a", "b:c"⟩ 20).1 (by decide)
  exact absurd listed (by decide)

end CallStack

end Runbook
