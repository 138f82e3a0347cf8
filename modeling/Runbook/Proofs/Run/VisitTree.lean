import Runbook.Proofs.Run.Transcript
import Runbook.Proofs.Run.Walk
import Runbook.Proofs.Step.Reads

/-!
# Trees of visits

The visits of a frame stand side by side, and those of a called workflow stand
below the visit of the node that has called it.  What such a tree says in the
log begins and ends with its visit, and a visit that does not succeed is the
last one of its frame.
-/

namespace Runbook

open Engine

namespace Visit

/-- The log line with which a visit starts. -/
def opening (visit : Visit) : LogLine :=
  ⟨visit.node.id, visit.node.nodeType.tag, "started", .info⟩

/-- The log line of a note of the handler. -/
def noted (visit : Visit) (message : String) : LogLine :=
  ⟨visit.node.id, visit.node.nodeType.tag, message, .info⟩

/-- The log line with which a visit ends. -/
def closing (logValues : Bool) (visit : Visit) : LogLine :=
  let line := LogLine.mk visit.node.id visit.node.nodeType.tag
  match visit.result with
  | .ok _ =>
    match visit.output, logValues with
    | some value, true => line ("completed: " ++ value) .success
    | _, _ => line "completed" .success
  | .error (.failed error) => line error.stepMessage .error
  | .error _ => line "cancelled" .info

/-- The log lines of a visit: how it starts, what its handler notes, what is
logged in the workflow that it calls, and how it ends. -/
def lines (logValues : Bool) (visit : Visit) (notes : List String)
    (called : List LogLine) : List LogLine :=
  visit.opening ::
    (notes.map visit.noted ++ called ++ [visit.closing logValues])

/-- The log line with which a visit ends, unless it succeeds. -/
def stopLine (logValues : Bool) (visit : Visit) : List LogLine :=
  if visit.status = .success then [] else [visit.closing logValues]

/-- All visits but the last succeed, and the last one has a given status, or
succeeds before its frame is cancelled. -/
structure ClosesWith (visits : List Visit) (status : StepStatus) : Prop where
  success_of_dropLast : ∀ visit ∈ visits.dropLast, visit.status = .success
  last : ∀ visit, visits.getLast? = some visit →
    visit.status = status ∨ visit.status = .success ∧ status = .cancelled

end Visit

namespace LogLine

/-- A log line says that a step has ended with a status other than success. -/
def Stops (line : LogLine) : StepStatus → Prop
  | .error => line.status = .error
  | .cancelled => line.message = "cancelled" ∧ line.status = .info
  | _ => False

theorem stops_within {path : String} {line : LogLine} {status : StepStatus} :
    (line.within path).Stops status ↔ line.Stops status :=
  Iff.rfl

/-- No line says that a step has ended without success although it has
succeeded. -/
theorem eq_nil_of_stops_success {lines : List LogLine}
    (stops : ∀ line ∈ lines, line.Stops .success) : lines = [] :=
  List.eq_nil_iff_forall_not_mem.2 stops

theorem map_within_empty (lines : List LogLine) :
    lines.map (LogLine.within "") = lines := by
  have same (line : LogLine) : line.within "" = line := by
    simp only [within, String.empty_append]
  exact (List.map_congr_left fun line _ => same line).trans (List.map_id' _)

theorem within_within (outer inner : String) (line : LogLine) :
    (line.within inner).within outer = line.within (outer ++ inner) := by
  simp only [within, String.append_assoc]

end LogLine

namespace Visit

variable {logValues : Bool} {visit : Visit}

/-- If a visit does not succeed, it ends right after what stops in it. -/
theorem append_stopLine_suffix {stops called : List LogLine}
    (last : stops <:+ called)
    (successful : visit.status = .success → stops = [])
    (notes : List String) :
    stops ++ visit.stopLine logValues <:+
      visit.lines logValues notes called := by
  unfold stopLine lines
  split
  · rename_i success
    rw [successful success]
    exact List.nil_suffix
  · obtain ⟨earlier, rfl⟩ := last
    exact ⟨visit.opening :: (notes.map visit.noted ++ earlier), by simp⟩

/-- Without success, the last line of a visit says so. -/
theorem stops_closing (unsuccessful : visit.status ≠ .success) :
    (visit.closing logValues).Stops visit.status := by
  obtain ⟨position, node, bindings, result, output, after⟩ := visit
  rcases result with (_ | error | _) | target
  · exact ⟨rfl, rfl⟩
  · rfl
  · exact ⟨rfl, rfl⟩
  · exact (unsuccessful rfl).elim

theorem stops_of_mem_stopLine {line : LogLine}
    (member : line ∈ visit.stopLine logValues) : line.Stops visit.status := by
  unfold stopLine at member
  split at member
  · cases member
  · rename_i unsuccessful
    rw [List.mem_singleton.1 member]
    exact stops_closing unsuccessful

theorem ClosesWith.nil (status : StepStatus) : ClosesWith [] status :=
  ⟨by simp, by simp⟩

/-- A visit before others succeeds. -/
theorem ClosesWith.tail {second : Visit} {rest : List Visit}
    {status : StepStatus}
    (closes : ClosesWith (visit :: second :: rest) status) :
    visit.status = .success ∧ ClosesWith (second :: rest) status :=
  ⟨closes.success_of_dropLast visit (by simp),
    fun other member => closes.success_of_dropLast other
      (by simpa using .inr member),
    fun other isLast => closes.last other (by simpa using isLast)⟩

end Visit

/-- The message of a note in a step. -/
def Step.Exchange.note? : Step.Exchange → Option String
  | ⟨.note message, _⟩ => some message
  | _ => none

/-- The notes that are left in a step, in order. -/
def Step.Transcript.notes (transcript : Step.Transcript) : List String :=
  transcript.filterMap Step.Exchange.note?

/-- What a handler notes in a node: what the step notes, and what is noted when
it is resumed with an answer to a prompt that it has raised. -/
inductive Handler.Notes (handler : Handler) (context : Step.Context) :
    Step Directive → Step.State → List String → Prop
  | nothing (step : Step Directive) (state : Step.State) :
      Notes handler context step state []
  | carried {step : Step Directive} {state ended : Step.State}
      {exchanges : Step.Transcript} {result : Except Step.Stop Directive}
      (carried : step.Yields context state exchanges result ended) :
      Notes handler context step state exchanges.notes
  | resumed {step : Step Directive} {state suspended : Step.State}
      {exchanges : Step.Transcript} {request : PromptRequest}
      {answer : Option String} {rest : List String}
      (carried : step.Yields context state exchanges
        (.ok (.suspend request.prompt)) suspended)
      (notes : Notes handler context (handler.resume request answer) suspended
        rest) :
      Notes handler context step state (exchanges.notes ++ rest)

/-- What the handler of a visited node notes. -/
def Visit.Notes (settings : ServiceSettings) (visit : Visit) :
    List String → Prop :=
  (Handler.standard visit.node.nodeType).Notes
    ⟨visit.node, visit.properties, settings⟩
    (Handler.standard visit.node.nodeType).execute ⟨visit.bindings, none⟩

/-- A visit with the notes of its handler and, if a workflow is called, the
visits of that workflow below it. -/
inductive VisitTree
  | leaf (visit : Visit) (notes : List String)
  | call (visit : Visit) (notes : List String) (key : String)
      (inner : List VisitTree)

namespace VisitTree

/-- The visit at the root. -/
def visit : VisitTree → Visit
  | .leaf visit _ => visit
  | .call visit _ _ _ => visit

mutual

/-- The log lines of a tree; those of a called workflow are under its key. -/
def lines (logValues : Bool) : VisitTree → List LogLine
  | .leaf visit notes => visit.lines logValues notes []
  | .call visit notes key inner =>
    visit.lines logValues notes
      ((forestLines logValues inner).map (LogLine.within (key ++ "/")))

/-- The log lines of trees side by side. -/
def forestLines (logValues : Bool) : List VisitTree → List LogLine
  | [] => []
  | tree :: rest => tree.lines logValues ++ forestLines logValues rest

end

mutual

/-- The log lines of a tree with which visits end that do not succeed. -/
def stopLines (logValues : Bool) : VisitTree → List LogLine
  | .leaf visit _ => visit.stopLine logValues
  | .call visit _ key inner =>
    (forestStopLines logValues inner).map (LogLine.within (key ++ "/")) ++
      visit.stopLine logValues

/-- The log lines of trees side by side with which visits end that do not
succeed. -/
def forestStopLines (logValues : Bool) : List VisitTree → List LogLine
  | [] => []
  | tree :: rest => tree.stopLines logValues ++ forestStopLines logValues rest

end

/-- A tree shows a visit as a run has made it: with the notes of the handler
and, if the node calls a workflow that is entered, with the visits of the walk
through that workflow.  They close with the visit itself. -/
inductive Shows (engine : Engine) (whole : Run.Transcript) :
    Scope → VisitTree → Prop
  | leaf {scope : Scope} {visit : Visit} {notes : List String}
      (noted : visit.Notes engine.settings notes)
      (uncalled : visit.node.nodeType = .workflow →
        visit.status ≠ .success) :
      Shows engine whole scope (.leaf visit notes)
  | call {scope : Scope} {visit : Visit} {notes : List String}
      {inner : List VisitTree} {call : SubWorkflowCall} {source : String}
      {child : Workflow} {fuel : Nat} {calling entered left : Run}
      {nested : Run.Transcript} {ended : Except Interrupt Unit}
      {reached : Frame}
      (isCall : visit.node.nodeType = .workflow)
      (noted : visit.Notes engine.settings notes)
      (described : Step.describedCall?
        ⟨visit.node, visit.properties, engine.settings⟩ visit.bindings =
          some call)
      (loaded : calling.exchange (.call (.loadWorkflow call.reference))
        (some (.ok source)) ∈ whole)
      (read : Workflow.read source call.name = .ok child)
      (walk : Walk engine
        (scope.within (CallStack.key call.reference child.name)) child fuel
        (.node child.start) ⟨call.inputs, none⟩ entered nested
        (inner.map VisitTree.visit) ended reached left)
      (part : nested <:+: whole)
      (closes : Visit.ClosesWith (inner.map VisitTree.visit) visit.status)
      (fails : visit.status = .error → inner ≠ [])
      (shown : ∀ tree ∈ inner, Shows engine whole
        (scope.within (CallStack.key call.reference child.name)) tree) :
      Shows engine whole scope (.call visit notes
        (CallStack.key call.reference child.name) inner)

variable {engine : Engine} {whole : Run.Transcript} {scope : Scope}
  {tree : VisitTree} {trees : List VisitTree} {logValues : Bool}
  {status : StepStatus}

/-- Side by side, only the last tree may have visits that do not succeed. -/
theorem forestStopLines_suffix
    (suffix : ∀ tree ∈ trees,
      tree.stopLines logValues <:+ tree.lines logValues ∧
        ∀ line ∈ tree.stopLines logValues, line.Stops tree.visit.status)
    (closes : Visit.ClosesWith (trees.map VisitTree.visit) status) :
    forestStopLines logValues trees <:+ forestLines logValues trees ∧
      ∀ line ∈ forestStopLines logValues trees, line.Stops status := by
  induction trees with
  | nil => exact ⟨List.nil_suffix, nofun⟩
  | cons tree rest ih =>
      obtain ⟨first, stops⟩ := suffix tree (by simp)
      cases rest with
      | nil =>
          refine ⟨by simpa [forestStopLines, forestLines] using first, ?_⟩
          intro line member
          have stopped := stops line (by simpa [forestStopLines] using member)
          rcases closes.last tree.visit rfl with same | ⟨success, -⟩
          · rwa [same] at stopped
          · rw [success] at stopped
            exact stopped.elim
      | cons next rest =>
          obtain ⟨success, closesRest⟩ := closes.tail
          rw [success] at stops
          have none := LogLine.eq_nil_of_stops_success stops
          obtain ⟨others, stopOthers⟩ := ih
            (fun tree member => suffix tree (List.mem_cons_of_mem _ member))
            closesRest
          rw [forestStopLines, none, List.nil_append, forestLines]
          exact ⟨others.trans (List.suffix_append _ _), stopOthers⟩

/-- The visits of a tree that do not succeed end with the last lines of the
tree. -/
theorem Shows.stopLines_suffix (shows : tree.Shows engine whole scope) :
    tree.stopLines logValues <:+ tree.lines logValues ∧
      ∀ line ∈ tree.stopLines logValues, line.Stops tree.visit.status := by
  induction shows with
  | leaf noted uncalled =>
      exact ⟨Visit.append_stopLine_suffix List.nil_suffix (fun _ => rfl) _,
        fun _ => Visit.stops_of_mem_stopLine⟩
  | call isCall noted described loaded read walk part closes fails shown ih =>
      obtain ⟨last, stops⟩ := forestStopLines_suffix ih closes
      constructor
      · refine Visit.append_stopLine_suffix (last.map _) (fun success => ?_) _
        rw [success] at stops
        rw [LogLine.eq_nil_of_stops_success stops, List.map_nil]
      · intro line member
        rcases List.mem_append.1 member with nested | own
        · obtain ⟨other, otherMember, rfl⟩ := List.mem_map.1 nested
          exact LogLine.stops_within.2 (stops other otherMember)
        · exact Visit.stops_of_mem_stopLine own

end VisitTree

end Runbook
