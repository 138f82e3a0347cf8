import Runbook.Proofs.Json.RoundTrip
import Runbook.Proofs.OrderedMap
import Runbook.Proofs.Run.CallSite
import Runbook.Proofs.Workflow.Compile
import Runbook.Workflow.Compile

/-!
# Properties and inputs

A property of a node is a text: that of the value which is authored under its
name.  A mapping of texts is written as a JSON object, from which the same
texts are read again.

A node that calls a workflow may give it first variables, as a mapping from
names to templates.  Each template is resolved on its own, after the mapping is
read from the JSON text that it is held as, so what the variables of the caller
hold has nothing to do with JSON: it arrives as it is.
-/

namespace Runbook

/-- A property has the text of the value that is authored under its name. -/
theorem Compile.get?_propertyTexts (properties : OrderedMap Yaml)
    (name : String) :
    (propertyTexts properties).get? name =
      (properties.get? name).bind Yaml.propertyText := by
  have keys : (properties.entries.filterMap fun entry =>
      entry.2.propertyText.map fun text => (entry.1, text)).map Prod.fst =
        (properties.entries.filter fun entry =>
          entry.2.propertyText.isSome).map Prod.fst := by
    induction properties.entries with
    | nil => rfl
    | cons entry rest ih =>
        cases text : entry.2.propertyText <;> simp [text, ih]
  have distinct : ((properties.entries.filterMap fun entry =>
      entry.2.propertyText.map fun text => (entry.1, text)).map
        Prod.fst).Nodup := by
    rw [keys]
    exact properties.distinct.sublist (List.filter_sublist.map Prod.fst)
  rw [propertyTexts, OrderedMap.get?_ofList distinct,
    OrderedMap.find?_filterMap Yaml.propertyText properties.distinct]
  rfl

/-! ### Mappings of texts -/

/-- A mapping from texts to texts, as it is authored. -/
def Yaml.textMapping (entries : List (String × String)) : Yaml :=
  .mapping (entries.map fun entry => (.string entry.1, .string entry.2))

/-- The members of the object that stands for a mapping of texts. -/
def Json.textMembers (entries : List (String × String)) :
    List (String × Json) :=
  entries.map fun entry => (entry.1, .string entry.2)

namespace Yaml

theorem entriesToJson?_texts (entries : List (String × String)) :
    entriesToJson? (entries.map fun entry =>
        (.string entry.1, .string entry.2)) =
      some (Json.textMembers entries) := by
  induction entries with
  | nil => rfl
  | cons entry rest ih =>
      rw [List.map_cons, entriesToJson?, ih]
      rfl

theorem propertyText_textMapping (entries : List (String × String)) :
    (textMapping entries).propertyText =
      some (Json.object (Json.textMembers entries)).render := by
  rw [textMapping, propertyText, toJson?, entriesToJson?_texts]
  rfl

end Yaml

/-- The text of a mapping of texts is read as the same texts, sorted by their
names. -/
theorem Json.read?_render_textMembers (entries : List (String × String)) :
    Json.read? (Json.object (Json.textMembers entries)).render =
      some (.object (sortMembers (textMembers entries))) := by
  have readable : Readable maxDepth (.object (textMembers entries)) := by
    intro member present
    obtain ⟨entry, -, rfl⟩ := List.mem_map.1 present
    trivial
  have same : restoredMembers (textMembers entries) = textMembers entries := by
    rw [restoredMembers_eq_map, textMembers, List.map_map]
    refine List.map_congr_left fun entry _ => ?_
    rw [Function.comp_apply, restored]
  rw [read?_render readable, restored, same, sortedObject]

end Runbook

/-! ## The inputs of called workflows -/

namespace Runbook

/-- For each name of a mapping, what its template resolves to, and nothing
else. -/
structure Variables.Resolves (bindings : Variables)
    (templates : List (String × String)) (inputs : OrderedMap String) :
    Prop where
  get?_eq : ∀ name, inputs.get? name =
    (OrderedMap.find? name templates).map (Template.resolve bindings)
  keys_perm : inputs.keys.Perm (templates.map Prod.fst)

namespace Step

variable {context : Context} {state : State} {bindings : Variables}
  {templates : List (String × String)}

/-- Maps with the same values have the same keys. -/
theorem keys_perm_of_get?_eq {inputs : OrderedMap String}
    {function : String → String}
    (distinct : (templates.map Prod.fst).Nodup)
    (same : ∀ name, inputs.get? name =
      (OrderedMap.find? name templates).map function) :
    inputs.keys.Perm (templates.map Prod.fst) := by
  refine (List.perm_ext_iff_of_nodup inputs.distinct distinct).2 fun name => ?_
  have absent := @OrderedMap.find?_eq_none_iff _ name templates
  have missing : inputs.get? name = none ↔ name ∉ inputs.keys :=
    OrderedMap.find?_eq_none_iff
  rw [same, Option.map_eq_none_iff, absent] at missing
  exact (not_iff_not.1 missing).symm

/-- Templates in the order in which they are read. -/
def sortedTemplates (templates : List (String × String)) :
    List (String × String) :=
  (Json.sortMembers (Json.textMembers templates)).map fun member =>
    (member.1, member.2.storedText)

theorem nodup_sortedTemplates (templates : List (String × String)) :
    ((sortedTemplates templates).map Prod.fst).Nodup := by
  have names : (sortedTemplates templates).map Prod.fst =
      (Json.sortMembers (Json.textMembers templates)).map Prod.fst := by
    rw [sortedTemplates, List.map_map]
    rfl
  rw [names]
  exact (Json.isSorted_sortMembers _).nodup

theorem find?_sortedTemplates (distinct : (templates.map Prod.fst).Nodup)
    (name : String) :
    OrderedMap.find? name (sortedTemplates templates) =
      OrderedMap.find? name templates := by
  have names : ((Json.textMembers templates).map Prod.fst).Nodup := by
    rw [Json.textMembers, List.map_map]
    exact distinct
  refine Option.ext fun template => ?_
  rw [OrderedMap.find?_eq_some_iff (nodup_sortedTemplates templates),
    OrderedMap.find?_eq_some_iff distinct, sortedTemplates, List.mem_map]
  constructor
  · rintro ⟨member, present, same⟩
    rw [Json.mem_sortMembers_iff names, Json.textMembers,
      List.mem_map] at present
    obtain ⟨entry, present, rfl⟩ := present
    cases same
    exact present
  · intro present
    refine ⟨(name, .string template), ?_, rfl⟩
    rw [Json.mem_sortMembers_iff names]
    exact List.mem_map.2 ⟨_, present, rfl⟩

theorem program_callInputs {text : String} {members : List (String × Json)}
    (written : context.node.properties.get? "input" = some text)
    (nonblank : Text.isBlankText text = false)
    (reads : Json.read? text = some (.object members)) :
    callInputs.program context state =
      .done (.ok (Template.resolveAll state.bindings (.ofList
        (members.map fun member => (member.1, member.2.storedText)))),
        state) := by
  have found : ((context.node.properties.get? "input").filter fun text =>
      !Text.isBlankText text) = some text := by
    rw [written, Option.filter_some, nonblank]
    rfl
  unfold callInputs
  rw [program_bind]
  have here : (read : Step Context).program context state =
      .done (.ok context, state) := rfl
  rw [here]
  simp only [Program.bind, found, reads]
  rfl

theorem resolves_sortedTemplates (bindings : Variables)
    (distinct : (templates.map Prod.fst).Nodup) :
    bindings.Resolves templates
      (Template.resolveAll bindings (.ofList (sortedTemplates templates))) := by
  have same (name : String) : (Template.resolveAll bindings
      (.ofList (sortedTemplates templates))).get? name =
      (OrderedMap.find? name templates).map (Template.resolve bindings) := by
    rw [Template.resolveAll, OrderedMap.get?_mapValues,
      OrderedMap.get?_ofList (nodup_sortedTemplates templates),
      find?_sortedTemplates distinct]
  exact ⟨same, keys_perm_of_get?_eq distinct same⟩

/-- Inputs that are written as a mapping are always found, without asking
anybody and without changes. -/
theorem program_callInputs_textMapping
    (written : context.node.properties.get? "input" =
      (Yaml.textMapping templates).propertyText) :
    callInputs.program context state =
      .done (.ok (Template.resolveAll state.bindings
        (.ofList (sortedTemplates templates))), state) := by
  have nonblank : Text.isBlankText
      (Json.object (Json.textMembers templates)).render = false := by
    rw [Text.isBlankText, Json.render, String.toList_ofList, Json.renderChars]
    rfl
  rw [Yaml.propertyText_textMapping] at written
  exact program_callInputs written nonblank (Json.read?_render_textMembers _)

section Described

variable {α β : Type} {step : Step α} {next : α → Step β} {value : α}
  {before after : State}

theorem program_bind_of_ok
    (done : step.program context before = .done (.ok value, after)) :
    (step >>= next).program context before =
      (next value).program context after := by
  rw [program_bind, done]
  rfl

/-- A step that reads has gone well if what follows it has. -/
theorem Reads.exists_ok {result : β} (reads : step.Reads)
    (done : (step >>= next).program context before =
      .done (.ok result, after)) :
    ∃ value, step.program context before = .done (.ok value, before) ∧
      (next value).program context before = .done (.ok result, after) := by
  obtain ⟨ended, same⟩ := reads context before
  rw [program_bind, same] at done
  cases ended with
  | error stop => cases done
  | ok value => exact ⟨value, same, done⟩

end Described

/-- The outputs that a call asks for. -/
def callOutputs : Step (OrderedMap String) := do
  textMap "output" (← json? "output")

variable {inputs : OrderedMap String}

/-- A call is described as soon as its workflow is named and its outputs are in
order. -/
theorem exists_describedCall? {reference : String} {outputs : OrderedMap String}
    (path : (requiredTrimmed "path").program context ⟨bindings, none⟩ =
      .done (.ok reference, ⟨bindings, none⟩))
    (prepared : callInputs.program context ⟨bindings, none⟩ =
      .done (.ok inputs, ⟨bindings, none⟩))
    (mapped : callOutputs.program context ⟨bindings, none⟩ =
      .done (.ok outputs, ⟨bindings, none⟩)) :
    ∃ name, describedCall? context bindings =
      some ⟨reference, name, inputs, outputs⟩ := by
  obtain ⟨written, reads, maps⟩ := (reads_json? "output").exists_ok mapped
  obtain ⟨name, chosen⟩ : ∃ name,
      (trimmedProperty? "name").program context ⟨bindings, none⟩ =
        .done (.ok name, ⟨bindings, none⟩) := ⟨_, rfl⟩
  refine ⟨name, ?_⟩
  rw [describedCall?, callWorkflow, program_bind_of_ok path,
    program_bind_of_ok chosen, program_bind_of_ok prepared,
    program_bind_of_ok reads, program_bind_of_ok maps]
  rfl

theorem inputs_of_describedCall? {call : SubWorkflowCall}
    (prepared : callInputs.program context ⟨bindings, none⟩ =
      .done (.ok inputs, ⟨bindings, none⟩))
    (described : describedCall? context bindings = some call) :
    call.inputs = inputs := by
  have called := program_callWorkflow described
  unfold callWorkflow at called
  obtain ⟨reference, -, called⟩ :=
    (reads_requiredTrimmed "path").exists_ok called
  obtain ⟨name, -, called⟩ := (reads_trimmedProperty? "name").exists_ok called
  rw [program_bind_of_ok prepared] at called
  obtain ⟨written, -, called⟩ := (reads_json? "output").exists_ok called
  obtain ⟨outputs, -, called⟩ := (reads_textMap _ _).exists_ok called
  cases called
  rfl

end Step

/-! ### Calls in a run -/

namespace CallSite

open Engine

variable {document : Document} {name : String} {workflow : Workflow}
  {position : Nat} {definition : NodeDefinition} {node : Node}
  {templates : List (String × String)}

/-- The property of a compiled node is the text of what is authored. -/
theorem input_eq (compiled : document.compile name = .ok workflow)
    (authored : document.nodes[position]? = some definition)
    (found : workflow.nodes[position]? = some node)
    (written : definition.properties.get? "input" =
      some (Yaml.textMapping templates)) :
    node.properties.get? "input" =
      (Yaml.textMapping templates).propertyText := by
  have spec := document.compile_spec name
  rw [compiled] at spec
  have hasNode := spec.1.node position definition node authored found
  rw [hasNode.properties_eq, Compile.get?_propertyTexts, written,
    Option.bind_some]

/-- The inputs of a called workflow arrive as they are.  Where a node gives
first variables as a mapping from distinct names to templates, they are found
in every state of its frame, whatever the variables there hold: for each name
what its template resolves to, and nothing else.  They are the inputs of every
call that the node describes, and it describes one as soon as the workflow is
named and the outputs are in order.  Where the call is made, the called workflow
starts with just these variables. -/
theorem inputs_arrive (compiled : document.compile name = .ok workflow)
    (authored : document.nodes[position]? = some definition)
    (found : workflow.nodes[position]? = some node)
    (written : definition.properties.get? "input" =
      some (Yaml.textMapping templates))
    (distinct : (templates.map Prod.fst).Nodup) (bindings : Variables) :
    ∃ inputs, bindings.Resolves templates inputs ∧
      (∀ context : Step.Context, context.node = node →
        Step.callInputs.program context ⟨bindings, none⟩ =
            .done (.ok inputs, ⟨bindings, none⟩) ∧
          (∀ call, Step.describedCall? context bindings = some call →
            call.inputs = inputs) ∧
          ∀ reference outputs,
            (Step.requiredTrimmed "path").program context ⟨bindings, none⟩ =
                .done (.ok reference, ⟨bindings, none⟩) →
              Step.callOutputs.program context ⟨bindings, none⟩ =
                .done (.ok outputs, ⟨bindings, none⟩) →
              ∃ name, Step.describedCall? context bindings =
                some ⟨reference, name, inputs, outputs⟩) ∧
      ∀ {Services : Type} (site : CallSite Services) (engine : Engine)
        (oracle : Oracle Services) (call : SubWorkflowCall) (child : Workflow),
        site.node = node → site.bindings = bindings →
          site.Calls engine oracle call child →
          ∃ stack,
            Run.Transcript.activities
                (site.executed engine oracle).transcript =
              .called (.loadWorkflow call.reference)
                  (oracle.call (.loadWorkflow call.reference)
                    site.state.services).1 ::
                Run.Transcript.activities (oracle.run
                  (engine.nested site.fuel
                    (site.scope.within
                      (CallStack.key call.reference child.name))
                    child ⟨inputs, none⟩)
                  { site.run with stack }
                  (site.loaded oracle call.reference)).transcript := by
  have input := input_eq compiled authored found written
  have prepared {context : Step.Context} (isNode : context.node = node) :=
    @Step.program_callInputs_textMapping context ⟨bindings, none⟩ templates
      (isNode ▸ input)
  refine ⟨_, Step.resolves_sortedTemplates bindings distinct, ?_, ?_⟩
  · intro context isNode
    exact ⟨prepared isNode,
      fun call => Step.inputs_of_describedCall? (prepared isNode),
      fun reference outputs path =>
        Step.exists_describedCall? path (prepared isNode)⟩
  · rintro Services site engine oracle call child isNode rfl calls
    have inputs_eq :=
      Step.inputs_of_describedCall? (prepared isNode) calls.describes
    refine ⟨⟨site.run.stack.entries ++
      [CallStack.key call.reference child.name]⟩, ?_⟩
    rw [← inputs_eq]
    exact calls.returns.activities

/-- Templates with characters that mean something in JSON. -/
def quoting : List (String × String) :=
  [("quoted", "say \"\x7b\x7bx\x7d\x7d\"\\"), ("plain", "\x7b\x7bx\x7d\x7d")]

/-- A document whose only node gives them to another workflow. -/
def handing : Document :=
  ⟨none, none, none, [⟨some "call", "workflow", none, none, none, none,
    .ofList [("path", .string "inner.yaml"),
      ("input", Yaml.textMapping quoting)]⟩]⟩

/-- A variable that holds a quote, a brace and the end of a line. -/
def unescaped : Variables := .ofList [("x", "\"\x7d\n")]

/-- The node of this document with this variable. -/
def handingAt (node : Node) : CallSite Unit :=
  ⟨⟨""⟩, node, node.properties, unescaped, Run.fresh "id" "outer.yaml", .still,
    3⟩

theorem inputs_arrive_quoting :
    ∃ workflow node inputs call child,
      handing.compile "outer" = .ok workflow ∧
      workflow.nodes[0]? = some node ∧
      unescaped.Resolves quoting inputs ∧
      inputs.get? "quoted" = some "say \"\"\x7d\n\"\\" ∧
      (handingAt node).Calls unattended library call child ∧
      call.inputs = inputs ∧
      ∃ stack,
        Run.Transcript.activities
            ((handingAt node).executed unattended library).transcript =
          .called (.loadWorkflow call.reference) (.ok adding) ::
            Run.Transcript.activities (library.run
              (unattended.nested 3 ((handingAt node).scope.within
                  (CallStack.key call.reference child.name))
                child ⟨inputs, none⟩)
              { (handingAt node).run with stack }
              ((handingAt node).loaded library call.reference)).transcript := by
  have evaluated : ((handing.compile "outer").toOption.bind fun workflow =>
      workflow.nodes[0]?.bind fun node =>
        (Step.describedCall? ⟨node, node.properties, unattended.settings⟩
            unescaped).bind fun call =>
          (Workflow.read adding none).toOption.bind fun child =>
            if node.nodeType = .workflow ∧ call.reference = "inner.yaml" ∧
                call.name = none ∧ child.name = "inner" then
              ((handingAt node).nested unattended library call
                child).value.1.1.toOption
            else none) = some () := by
    decide +kernel
  obtain ⟨workflow, compiled, evaluated⟩ := Option.bind_eq_some_iff.1 evaluated
  obtain ⟨node, found, evaluated⟩ := Option.bind_eq_some_iff.1 evaluated
  obtain ⟨call, described, evaluated⟩ := Option.bind_eq_some_iff.1 evaluated
  obtain ⟨child, isRead, evaluated⟩ := Option.bind_eq_some_iff.1 evaluated
  obtain ⟨⟨typed, referred, unnamed, named⟩, ended⟩ :=
    Option.ite_none_right_eq_some.1 evaluated
  have completed := eq_ok_of_toOption ended
  have calls : (handingAt node).Calls unattended library call child :=
    { handled := congrArg Registry.standard.handler? typed
      describes := described
      selects := ⟨adding, rfl, by
        rw [unnamed]
        exact eq_ok_of_toOption isRead⟩
      enters := by
        rw [referred, named]
        exact ⟨_, rfl⟩
      unguarded := by
        rw [completed]
        rintro error ⟨⟩
      fuel_ne_zero := Nat.succ_ne_zero 2 }
  obtain ⟨inputs, resolves, inNode, inRun⟩ :=
    inputs_arrive (eq_ok_of_toOption compiled) rfl found rfl (by decide)
      unescaped
  refine ⟨workflow, node, inputs, call, child, eq_ok_of_toOption compiled,
    found, resolves, ?_, calls, (inNode _ rfl).2.1 call described, ?_⟩
  · rw [resolves.get?_eq]
    decide +kernel
  · exact inRun _ _ _ _ _ rfl rfl calls

end CallSite

end Runbook
