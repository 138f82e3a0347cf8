import Mathlib.Data.List.Chain
import Runbook.Proofs.Expression.Chain
import Runbook.Proofs.Run.Quiet
import Runbook.Proofs.Template.Laws
import Runbook.Proofs.Template.Path

/-!
# Results that are copied

A node that computes stores a result: a number, or a text that is no
arithmetic.  Another such node whose value is nothing but the token of that
variable resolves it to the result, and the result of that is the same text.
It does not matter what is done in between, as long as the variable is left
alone.
-/

namespace Runbook

open Arithmetic (assigned assigned_assigned)

/-- The token of a variable stands for the text of the variable. -/
theorem Template.resolve_token_variable {bindings : Variables}
    {body name text : String}
    (reads : Reference.read? body = some ⟨name, [], false⟩)
    (bound : bindings.get? name = some text) :
    resolve bindings (tokenText body) = text := by
  rw [resolve_token (unended_of_noBrace (noBrace_of_read? reads)), tokenValue,
    reads]
  simp [Reference.lookup?, bound]

/-- The value of a node is the token of a variable and nothing else. -/
def Node.Copies (node : Node) (name : String) : Prop :=
  ∃ body, Template.Reference.read? body = some ⟨name, [], false⟩ ∧
    node.properties.get? "value" = some (Template.tokenText body)

namespace Visit

variable {visit made copy : Visit} {name text : String}

/-- A node is visited that computes the value of a variable. -/
structure Computes (visit : Visit) (name : String) : Prop where
  isCompute : visit.node.nodeType = .compute
  named : ∃ text, visit.properties.get? "name" = some text ∧
    Text.isBlankText text = false ∧ Text.trim text = name

/-- A variable has the same text at the end of a visit as at its start. -/
def LeavesAlone (visit : Visit) (name : String) : Prop :=
  visit.after.get? name = visit.bindings.get? name

/-- A visit sets a variable to its output, and no other one. -/
structure Stores (visit : Visit) (name text : String) : Prop where
  output_eq : visit.output = some text
  after_eq : visit.after = visit.bindings.insert name text

theorem Computes.of_names (isCompute : visit.node.nodeType = .compute)
    (names : Template.Names visit.node.properties name) :
    visit.Computes name := by
  obtain ⟨text, given, tokenFree, notBlank, trimmed⟩ := names
  refine ⟨isCompute, text, ?_, notBlank, trimmed⟩
  rw [properties, Template.resolveAll, OrderedMap.get?_mapValues, given,
    Option.map_some, Template.resolve_of_isTokenFree tokenFree]

theorem Stores.get?_eq (stores : visit.Stores name text) :
    visit.after.get? name = some text := by
  rw [stores.after_eq, OrderedMap.get?_insert, if_pos rfl]

theorem Stores.leavesAlone {other : String} (stores : visit.Stores name text)
    (different : name ≠ other) : visit.LeavesAlone other := by
  rw [LeavesAlone, stores.after_eq, OrderedMap.get?_insert, if_neg different]

/-- A variable that is left alone is found as it was left. -/
theorem get?_of_leavesAlone {between later : List Visit}
    (continues : (made :: (between ++ copy :: later)).IsChain Continues)
    (alone : ∀ visit ∈ between, visit.LeavesAlone name) :
    made.Leads ∧ copy.bindings.get? name = made.after.get? name := by
  induction between generalizing made with
  | nil =>
      obtain ⟨leads, handed⟩ := (List.isChain_cons_cons.1 continues).1
      exact ⟨⟨_, leads⟩, by rw [handed]⟩
  | cons visit between ih =>
      obtain ⟨⟨leads, handed⟩, rest⟩ := List.isChain_cons_cons.1 continues
      obtain ⟨here, others⟩ := List.forall_mem_cons.1 alone
      refine ⟨⟨_, leads⟩, ?_⟩
      calc copy.bindings.get? name
          = visit.after.get? name := (ih rest others).2
        _ = visit.bindings.get? name := here
        _ = made.after.get? name := by rw [handed]

end Visit

namespace Engine

variable {engine : Engine} {fuel : Nat} {scope : Scope} {before after : Run}
  {transcript : Run.Transcript} {visit : Visit} {name : String}

/-- A visit of a node that computes stores the result of its value, unless it
is cut off before. -/
def StoresResult (visit : Visit) (name : String) : Prop :=
  (visit.result = .ok visit.node.jumps.next ∧
      visit.Stores name (assigned (assignedText visit.node visit.bindings))) ∨
    visit.result = .error .cancelled ∨ visit.result = .error .exhausted

theorem StoresResult.of_leads (stored : StoresResult visit name)
    (leads : visit.Leads) :
    visit.result = .ok visit.node.jumps.next ∧
      visit.Stores name
        (assigned (assignedText visit.node visit.bindings)) := by
  obtain ⟨target, leads⟩ := leads
  rcases stored with stores | stops | stops
  · exact stores
  · rw [leads] at stops
    cases stops
  · rw [leads] at stops
    cases stops

theorem Performs.storesResult {runChild : FrameRunner} {frame reached : Frame}
    (handled : engine.registry.handler? .compute = some Handler.compute)
    (performs : Performs engine runChild fuel scope visit before frame
      transcript reached after)
    (computes : visit.Computes name) : StoresResult visit name := by
  obtain ⟨isCompute, text, named, notBlank, rfl⟩ := computes
  rw [← isCompute] at handled
  have does := @does_assignWith_of_named engine _ _ _ _ handled named notBlank
  rcases performs.cases_of_does does with
    ⟨leads, shown, left⟩ | (⟨-, exhausted⟩ | ⟨-, cancelled⟩)
  · exact .inl ⟨leads, shown, left⟩
  · exact .inr (.inr exhausted)
  · exact .inr (.inl cancelled)

theorem Walk.forall_storesResult {workflow : Workflow} {target : Target}
    {frame reached : Frame} {visits : List Visit}
    {ended : Except Interrupt Unit}
    (handled : engine.registry.handler? .compute = some Handler.compute)
    (walk : Walk engine scope workflow fuel target frame before transcript
      visits ended reached after) :
    ∀ visit ∈ visits, ∀ name, visit.Computes name →
      StoresResult visit name := by
  induction walk with
  | exhausted => simp
  | aborted => simp
  | finished nowhere => simp
  | stopped found performs stops =>
      rw [List.forall_mem_singleton]
      exact fun name => performs.storesResult handled
  | moved found performs leads goesOn ih =>
      rw [List.forall_mem_cons]
      exact ⟨fun name => performs.storesResult handled, ih⟩

/-- A node that copies a result computes the same text. -/
theorem assigned_of_copies {node : Node} {bindings : Variables} {text : String}
    (copies : node.Copies name)
    (bound : bindings.get? name = some (assigned text)) :
    assigned (assignedText node bindings) = assigned text := by
  obtain ⟨body, reads, value⟩ := copies
  rw [assignedText, value, Option.map_some, Option.getD_some,
    Template.resolve_token_variable reads bound, assigned_assigned]

/-- What is assigned stays as it is when it is assigned again.  So in every run
of a frame, if a node computes the value of a variable, then a later node that
computes a variable from the token of the first one finds the result and stores
the same text, unless the run is cancelled there or has taken all its steps.
The visits in between may do what they like as long as they leave the variable
alone. -/
theorem results_stay :
    (∀ text, assigned (assigned text) = assigned text) ∧
      ∀ {engine : Engine} {fuel : Nat} {scope : Scope} {workflow : Workflow}
        {target : Target} {frame reached : Frame} {before after : Run}
        {transcript : Run.Transcript} {ended : Except Interrupt Unit},
        engine.registry.handler? .compute = some Handler.compute →
        (engine.runFrom fuel scope workflow target frame).Yields before
          transcript (ended, reached) after →
        ∃ visits, Walk engine scope workflow fuel target frame before
            transcript visits ended reached after ∧
          ∀ {earlier between later made copy} {name other : String},
            visits = earlier ++ made :: (between ++ copy :: later) →
            made.Computes name →
            (∀ visit ∈ between, visit.LeavesAlone name) →
            copy.Computes other → copy.node.Copies name →
            ∃ text, made.Stores name text ∧
              copy.bindings.get? name = some text ∧
              ((copy.result = .ok copy.node.jumps.next ∧
                  copy.Stores other text) ∨
                copy.result = .error .cancelled ∨
                copy.result = .error .exhausted) := by
  refine ⟨assigned_assigned, ?_⟩
  intro engine fuel scope workflow target frame reached before after transcript
    ended handled yields
  obtain ⟨visits, walk⟩ := walk_of_yields yields
  refine ⟨visits, walk, ?_⟩
  rintro earlier between later made copy name other rfl computes alone
    computesToo copies
  obtain ⟨leads, same⟩ := Visit.get?_of_leavesAlone
    walk.isChain_continues.right_of_append alone
  have results := walk.forall_storesResult handled
  obtain ⟨-, stores⟩ := (results made (by simp) name computes).of_leads leads
  have bound := same.trans stores.get?_eq
  refine ⟨_, stores, bound, ?_⟩
  have stored := results copy (by simp) other computesToo
  rwa [StoresResult, assigned_of_copies copies bound] at stored

/-- A node that sets a variable to a value and goes on. -/
def computing (id name value : String) (next : Target) : Node :=
  ⟨id, .compute, .ofList [("name", name), ("value", value)],
    ⟨next, none, none⟩⟩

theorem computes_of_computing {id value : String} {next : Target}
    (same : computing id name value next = visit.node)
    (tokenFree : Template.IsTokenFree name.toList)
    (notBlank : Text.isBlankText name = false)
    (trimmed : Text.trim name = name) : visit.Computes name := by
  refine .of_names (by rw [← same]; rfl) ?_
  rw [← same]
  refine ⟨name, ?_, tokenFree, notBlank, trimmed⟩
  rw [computing]
  simp [OrderedMap.ofList, OrderedMap.insertAll, OrderedMap.get?_insert]

/-- A negative fraction, its double, and a copy of it. -/
def fractions : Workflow :=
  ⟨"fractions", none,
    [computing "made" "v" "1 / 4 - 2" (.node 1),
      computing "between" "d" "\x7b\x7bv\x7d\x7d * 2" (.node 2),
      computing "copy" "w" "\x7b\x7b v \x7d\x7d" .pastEnd], 0⟩

/-- A run of these nodes, with a record of its steps. -/
def fractionsRun : Conversation Run.Moment Run.Moment.Reply
    ((Except Interrupt Unit × Frame) × Run) (Oracle.State Unit) :=
  Oracle.refusing.run (unattended.runFrom 4 ⟨""⟩ fractions (.node 0)
      ⟨.empty, some (.start "id" "file" "fractions" Instant.epoch)⟩)
    (Run.fresh "id" "file") .still

/-- The nodes are visited one after the other. -/
theorem exists_fractions_visits {transcript : Run.Transcript}
    {visits : List Visit} {reached : Frame} {after : Run}
    (walk : Walk unattended ⟨""⟩ fractions 4 (.node 0)
      ⟨.empty, some (.start "id" "file" "fractions" Instant.epoch)⟩
      (Run.fresh "id" "file") transcript visits (.ok ()) reached after)
    (length : visits.length = 3) :
    ∃ made between copy, visits = [made, between, copy] ∧
      (∀ visit ∈ visits, visit.Leads) ∧ made.bindings = .empty ∧
      fractions.nodes[0]? = some made.node ∧ made.Computes "v" ∧
      between.Computes "d" ∧ copy.Computes "w" ∧ copy.node.Copies "v" := by
  obtain ⟨made, between, copy, rfl⟩ := List.length_eq_three.1 length
  have leads : ∀ visit ∈ [made, between, copy], visit.Leads := by
    rcases walk.leads_or_stops with ⟨allLead, -⟩ | ⟨_, _, _, -, -, -, stops⟩
    · exact allLead
    · cases stops
  have next (visit : Visit) (member : visit ∈ [made, between, copy])
      (name : String) (computes : visit.Computes name) :=
    ((walk.forall_storesResult rfl visit member name computes).of_leads
      (leads visit member)).1
  have node (visit : Visit) (member : visit ∈ [made, between, copy])
      {position : Nat} (isAt : Target.node position = .node visit.position) :
      fractions.nodes[position]? = some visit.node := by
    rw [Target.node.inj isAt]
    exact walk.forall_nodes visit member
  obtain ⟨first, second, -⟩ := (List.isChain_cons_cons.1
    walk.isChain_continues).imp_right List.isChain_cons_cons.1
  -- Each node tells the position of the next one.
  have atMade := node made (by simp) (walk.first_visit rfl).1
  have isMade := Option.some.inj atMade
  have computes : made.Computes "v" := computes_of_computing isMade
    (Template.isTokenFree_of_noBrace (by decide)) (by decide) (by decide)
  have leadsMade := next made (by simp) "v" computes
  rw [first.1, ← isMade] at leadsMade
  have isBetween := Option.some.inj (node between (by simp)
    (Except.ok.inj leadsMade).symm)
  have computesToo : between.Computes "d" := computes_of_computing isBetween
    (Template.isTokenFree_of_noBrace (by decide)) (by decide) (by decide)
  have leadsBetween := next between (by simp) "d" computesToo
  rw [second.1, ← isBetween] at leadsBetween
  have isCopy := Option.some.inj (node copy (by simp)
    (Except.ok.inj leadsBetween).symm)
  have copies : copy.node.Copies "v" := by
    rw [← isCopy]
    exact ⟨" v ", by decide +kernel, by decide +kernel⟩
  have computesLast : copy.Computes "w" := computes_of_computing isCopy
    (Template.isTokenFree_of_noBrace (by decide)) (by decide) (by decide)
  exact ⟨made, between, copy, rfl, leads, (walk.first_visit rfl).2, atMade,
    computes, computesToo, computesLast, copies⟩

theorem results_stay_fraction :
    ∃ visits made between copy,
      Walk unattended ⟨""⟩ fractions 4 (.node 0)
        ⟨.empty, some (.start "id" "file" "fractions" Instant.epoch)⟩
        (Run.fresh "id" "file") fractionsRun.transcript visits
        fractionsRun.value.1.1 fractionsRun.value.1.2 fractionsRun.value.2 ∧
      visits = [made, between, copy] ∧ made.Stores "v" "-1.75" ∧
      copy.Stores "w" "-1.75" := by
  obtain ⟨completed, recorded⟩ :
      fractionsRun.value.1.1 = .ok () ∧
        (fractionsRun.value.1.2.record.map fun record =>
          record.steps.length) = some 3 := by
    decide +kernel
  have yields : (unattended.runFrom 4 ⟨""⟩ fractions (.node 0)
      ⟨.empty, some (.start "id" "file" "fractions" Instant.epoch)⟩).Yields
      (Run.fresh "id" "file") fractionsRun.transcript
      (fractionsRun.value.1.1, fractionsRun.value.1.2) fractionsRun.value.2 :=
    Oracle.refusing.yields_run _ _ .still
  generalize fractionsRun = run at *
  obtain ⟨visits, walk, stays⟩ := results_stay.2 rfl yields
  obtain ⟨steps, record, areSteps⟩ := walk.exists_steps rfl
  have length : visits.length = 3 := by
    rw [record] at recorded
    exact areSteps.length_eq.trans (Option.some.inj recorded)
  rw [completed] at walk ⊢
  obtain ⟨made, between, copy, rfl, leads, empty, isMade, computes,
    computesToo, computesLast, copies⟩ := exists_fractions_visits walk length
  obtain ⟨-, storesToo⟩ := (walk.forall_storesResult rfl between (by simp) "d"
    computesToo).of_leads (leads between (by simp))
  have split : [made, between, copy] = [] ++ made :: ([between] ++ [copy]) :=
    rfl
  have alone : ∀ visit ∈ [between], visit.LeavesAlone "v" := by
    simpa using storesToo.leavesAlone (by decide)
  obtain ⟨text, storesMade, -, storesCopy⟩ :=
    stays split computes alone computesLast copies
  obtain ⟨-, stores⟩ := (walk.forall_storesResult rfl made (by simp) "v"
    computes).of_leads (leads made (by simp))
  have sameText : text = "-1.75" := by
    rw [← Option.some.inj (stores.output_eq.symm.trans storesMade.output_eq),
      ← Option.some.inj isMade, empty]
    decide +kernel
  subst sameText
  obtain ⟨target, leadsCopy⟩ := leads copy (by simp)
  simp only [leadsCopy, reduceCtorEq, or_false] at storesCopy
  exact ⟨_, made, between, copy, walk, rfl, storesMade, storesCopy.2⟩

end Engine

end Runbook
