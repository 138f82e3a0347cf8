import Mathlib.Data.List.Forall2
import Mathlib.Tactic.ByContra
import Runbook.Proofs.Wire.Fields
import Runbook.Proofs.Step.Parts
import Runbook.Proofs.Step.Reads
import Runbook.Step.Data
import Runbook.Step.Interactive

/-!
# Texts that stand for themselves

An attachment and the answer to a dialog are texts that may describe a record,
and stand for themselves otherwise.  A text is taken for a description if it is
an object with the fields of the record, and also if it is an array that lists
them.
-/

namespace Runbook

open Json (Source Piece)

namespace Wire

variable {depth : Nat} {text : String} {members : List (String × Source)}

/-- The members of a text that is a JSON object. -/
def objectMembers? (text : String) : Option (List (String × Source)) :=
  (Source.read? text).bind members?

/-- An object has a text under a name. -/
def HasText (members : List (String × Source)) (name text : String) : Prop :=
  ∃ content, (name, .string content) ∈ members ∧
    Piece.text? content = some text

theorem required_of_hasText {names : List String} {name : String}
    (once : Once names members) (isField : name ∈ names)
    (hasText : HasText members name text) :
    (Fields.mk depth (known names members)).required name Wire.text =
      some text := by
  obtain ⟨content, member, isText⟩ := hasText
  exact required_eq_some_iff.2
    ⟨_, (source?_eq_some_iff once isField).2 member, isText⟩

/-- The fields of a record in a text come from an object or an array. -/
theorem read?_fields_iff {names : List String} {fields : Fields} :
    read? (fields? names) text = some fields ↔
      ∃ source, Source.read? text = some source ∧
        FieldsOf names 126 source fields := by
  simp only [read?, Option.bind_eq_some_iff]
  exact exists_congr fun source => and_congr_right fun _ =>
    fields?_eq_some_iff

end Wire

namespace Attachment

variable {name text : String} {attachment : Attachment}

/-- The attachment that a variable with a text stands for: the one that an
object describes, or the text itself if it is no object. -/
inductive Of (name text : String) : Attachment → Prop
  | described {members : List (String × Source)} {attachment : Attachment}
      (isObject : Wire.objectMembers? text = some members)
      (hasName : Wire.HasText members "name" attachment.name)
      (hasType : Wire.HasText members "mimeType" attachment.mimeType)
      (hasData : Wire.HasText members "data" attachment.data) :
      Of name text attachment
  | plain (noObject : Wire.objectMembers? text = none) :
      Of name text ⟨name, "text/plain", text⟩

/-- The texts that are not taken for what they are: an array that lists the
fields of an attachment, and an object with a field that occurs twice. -/
inductive IsMisread (text : String) : Prop
  | listed (name mimeType data : String)
      (isArray : Json.read? text =
        some (.array [.string name, .string mimeType, .string data]))
  | repeated {members : List (String × Source)}
      (isObject : Wire.objectMembers? text = some members)
      (repeats : ¬ Wire.Once fieldNames members)

theorem read?_eq_some_iff :
    Wire.read? decode text = some attachment ↔
      ∃ fields, Wire.read? (Wire.fields? fieldNames) text = some fields ∧
        fields.required "name" Wire.text = some attachment.name ∧
        fields.required "mimeType" Wire.text = some attachment.mimeType ∧
        fields.required "data" Wire.text = some attachment.data := by
  simp only [Wire.read?, decode, Option.bind_eq_bind, Option.bind_eq_some_iff,
    Option.pure_def, Option.some.injEq]
  constructor
  · rintro ⟨source, isRead, fields, areFields, name, hasName, mimeType, hasType,
      data, hasData, rfl⟩
    exact ⟨fields, ⟨source, isRead, areFields⟩, hasName, hasType, hasData⟩
  · rintro ⟨fields, ⟨source, isRead, areFields⟩, hasName, hasType, hasData⟩
    exact ⟨source, isRead, fields, areFields, _, hasName, _, hasType, _,
      hasData, rfl⟩

/-- A text that is no object, and does not list the fields either, describes no
attachment. -/
theorem read?_eq_none (noObject : Wire.objectMembers? text = none)
    (isRead : ¬ IsMisread text) : Wire.read? decode text = none := by
  by_contra describes
  obtain ⟨attachment, describes⟩ := Option.ne_none_iff_exists'.1 describes
  obtain ⟨fields, areFields, hasName, hasType, hasData⟩ :=
    read?_eq_some_iff.1 describes
  obtain ⟨source, isSource, fieldsOf⟩ := Wire.read?_fields_iff.1 areFields
  cases fieldsOf with
  | object isObject once =>
      rw [Wire.objectMembers?, isSource, Option.bind_some, isObject] at noObject
      cases noObject
  | @array items short =>
      rcases items with _ | ⟨first, _ | ⟨second, _ | ⟨third, _ | ⟨_, rest⟩⟩⟩⟩
      · cases hasData
      · cases hasData
      · cases hasData
      · have isFirst : Wire.text 126 first = some attachment.name := hasName
        have isSecond : Wire.text 126 second = some attachment.mimeType :=
          hasType
        have isThird : Wire.text 126 third = some attachment.data := hasData
        refine isRead (.listed attachment.name attachment.mimeType
          attachment.data ?_)
        rw [Json.read?, isSource, Option.bind_some]
        simp [Json.maxDepth, Json.ofSource?, Json.ofItems?,
          Wire.ofSource?_of_text isFirst, Wire.ofSource?_of_text isSecond,
          Wire.ofSource?_of_text isThird]
      · simp only [fieldNames, List.length_cons, List.length_nil] at short
        omega

/-- A variable stands for the attachment that it is to stand for, unless its
text is misread. -/
theorem Of.attachmentOf_eq (stands : Of name text attachment)
    (isRead : ¬ IsMisread text) :
    Step.attachmentOf name text = attachment := by
  unfold Step.attachmentOf
  cases stands with
  | @described members attachment isObject hasName hasType hasData =>
      have once : Wire.Once fieldNames members := by
        by_contra repeats
        exact isRead (.repeated isObject repeats)
      obtain ⟨source, isSource, members_eq⟩ :=
        Option.bind_eq_some_iff.1 isObject
      have describes : Wire.read? decode text = some attachment :=
        read?_eq_some_iff.2 ⟨_, Wire.read?_fields_iff.2
            ⟨source, isSource, .object members_eq once⟩,
          Wire.required_of_hasText once (by decide) hasName,
          Wire.required_of_hasText once (by decide) hasType,
          Wire.required_of_hasText once (by decide) hasData⟩
      rw [describes, Option.getD_some]
  | plain noObject => rw [read?_eq_none noObject isRead, Option.getD_none]

end Attachment

namespace DialogResult

variable {text : String} {result : DialogResult}

/-- An array lists the first fields of a result: a button, the selected
options, and an input. -/
def IsListed (text : String) : Prop :=
  ∃ (button : String) (selected : List String) (input : String)
    (items : List Json), Json.read? text = some (.array items) ∧
      items <+: [.string button, .array (selected.map .string), .string input]

theorem read?_eq_some_iff :
    Wire.read? decode text = some result ↔
      ∃ fields, Wire.read? (Wire.fields? fieldNames) text = some fields ∧
        fields.defaulted "button" "" Wire.text = some result.button ∧
        fields.defaulted "selected" [] (Wire.list Wire.text) =
          some result.selected ∧
        fields.defaulted "input" "" Wire.text = some result.input := by
  simp only [Wire.read?, decode, Option.bind_eq_bind, Option.bind_eq_some_iff,
    Option.pure_def, Option.some.injEq]
  constructor
  · rintro ⟨source, isRead, fields, areFields, button, hasButton, selected,
      hasSelected, input, hasInput, rfl⟩
    exact ⟨fields, ⟨source, isRead, areFields⟩, hasButton, hasSelected,
      hasInput⟩
  · rintro ⟨fields, ⟨source, isRead, areFields⟩, hasButton, hasSelected,
      hasInput⟩
    exact ⟨source, isRead, fields, areFields, _, hasButton, _, hasSelected, _,
      hasInput, rfl⟩

/-- A text that is no object, and does not list fields either, is no result of
a dialog. -/
theorem read?_eq_none (noObject : Wire.objectMembers? text = none)
    (isRead : ¬ IsListed text) : Wire.read? decode text = none := by
  by_contra describes
  obtain ⟨result, describes⟩ := Option.ne_none_iff_exists'.1 describes
  obtain ⟨fields, areFields, hasButton, hasSelected, hasInput⟩ :=
    read?_eq_some_iff.1 describes
  obtain ⟨source, isSource, fieldsOf⟩ := Wire.read?_fields_iff.1 areFields
  cases fieldsOf with
  | object isObject once =>
      rw [Wire.objectMembers?, isSource, Option.bind_some, isObject] at noObject
      cases noObject
  | @array items short =>
      refine isRead ⟨result.button, result.selected, result.input, ?_⟩
      rw [Json.read?, isSource, Option.bind_some, Json.maxDepth,
        Json.ofSource?]
      rcases items with _ | ⟨first, _ | ⟨second, _ | ⟨third, _ | ⟨_, rest⟩⟩⟩⟩
      · exact ⟨[], rfl, List.nil_prefix⟩
      · have isFirst : Wire.text 126 first = some result.button := hasButton
        refine ⟨[.string result.button], ?_, by simp⟩
        simp [Json.ofItems?, Wire.ofSource?_of_text isFirst]
      · have isFirst : Wire.text 126 first = some result.button := hasButton
        have areSecond : Wire.list Wire.text 126 second =
            some result.selected := hasSelected
        refine ⟨[.string result.button,
          .array (result.selected.map .string)], ?_, by simp⟩
        simp [Json.ofItems?, Wire.ofSource?_of_text isFirst,
          Wire.ofSource?_of_texts areSecond]
      · have isFirst : Wire.text 126 first = some result.button := hasButton
        have areSecond : Wire.list Wire.text 126 second =
            some result.selected := hasSelected
        have isThird : Wire.text 126 third = some result.input := hasInput
        refine ⟨_, ?_, List.prefix_rfl⟩
        simp [Json.ofItems?, Wire.ofSource?_of_text isFirst,
          Wire.ofSource?_of_texts areSecond, Wire.ofSource?_of_text isThird]
      · simp only [fieldNames, List.length_cons, List.length_nil] at short
        omega

/-- An answer is the text of a button, unless it is an object or lists the
fields of a result. -/
theorem dialogResult_eq (noObject : Wire.objectMembers? text = none)
    (isRead : ¬ IsListed text) :
    Step.dialogResult (some text) = ⟨text, [], ""⟩ := by
  rw [Step.dialogResult, read?_eq_none noObject isRead, Option.getD_none]

end DialogResult

namespace Step

variable {context : Context} {before after state reached : State}
  {transcript : Transcript} {name : String}

/-! ### Attachments of a question to a model -/

theorem program_attachment :
    (attachment name).program context state =
      .done (match state.bindings.get? name with
        | some text => .ok (attachmentOf name text)
        | none => .error (.failed
            (.of s!"attachment variable '{name}' is not defined")), state) := by
  have valued : (valueOf? name).program context state =
      .done (.ok (state.bindings.get? name), state) := rfl
  rw [attachment, program_bind, valued]
  cases state.bindings.get? name <;> rfl

theorem reads_attachment (name : String) : (attachment name).Reads :=
  fun _ _ => ⟨_, program_attachment⟩

theorem reads_tools : tools.Reads := by
  refine (reads_json? _).bind fun value => ?_
  rcases value with _ | value
  · exact .pure []
  · cases value with
    | null => exact .pure []
    | array items => exact .pure items
    | _ => exact reads_fail _

/-- The variables that a node attaches. -/
def attachmentNames (context : Context) : List String :=
  (((context.properties.get? "attachments").filter fun value =>
    !Text.isBlankText value).map Text.commaList).getD []

/-- Attachments are made of the variables with these names, one by one. -/
def Attached (bindings : Variables) (names : List String)
    (attachments : List Attachment) : Prop :=
  List.Forall₂ (fun name attachment => ∃ text,
    bindings.get? name = some text ∧ attachment = attachmentOf name text)
    names attachments

theorem attached_of_program {names : List String}
    {attachments : List Attachment}
    (done : (names.mapM attachment).program context state =
      .done (.ok attachments, state)) :
    Attached state.bindings names attachments := by
  induction names generalizing attachments with
  | nil =>
      cases done
      exact .nil
  | cons name rest ih =>
      rw [List.mapM_cons, program_bind, program_attachment] at done
      cases held : state.bindings.get? name with
      | none =>
          rw [held] at done
          cases done
      | some text =>
          obtain ⟨ended, others⟩ :=
            Reads.mapM reads_attachment rest context state
          rw [held] at done
          dsimp only [Program.pure_bind] at done
          rw [program_bind, others] at done
          cases ended with
          | error stop => cases done
          | ok values =>
              cases done
              exact .cons ⟨text, held, rfl⟩ (ih others)

theorem attached_of_yields {result : Except Stop Directive}
    (yields : Yields askModel context before transcript result after)
    {request : ModelRequest}
    {reply : Reply (.call (.generate request))}
    (member : ⟨.call (.generate request), reply⟩ ∈ transcript) :
    Attached before.bindings (attachmentNames context)
      request.attachments := by
  rw [askModel] at yields
  obtain ⟨rfl, -⟩ | ⟨tools, -, yields⟩ := reads_tools.yields_bind yields
  · cases member
  have listed : (items "attachments").program context before =
      .done (.ok (attachmentNames context), before) := rfl
  rw [yields_bind_iff_of_done listed] at yields
  obtain ⟨rfl, -⟩ | ⟨attachments, attached, yields⟩ :=
    (Reads.mapM reads_attachment _).yields_bind yields
  · cases member
  obtain ⟨rfl, -⟩ | ⟨prompt, -, yields⟩ :=
    (reads_required _).yields_bind yields
  · cases member
  obtain ⟨rfl, -⟩ | ⟨model, -, yields⟩ :=
    (reads_property? _).yields_bind yields
  · cases member
  obtain ⟨rfl, -⟩ | ⟨systemPrompt, -, yields⟩ :=
    (reads_property? _).yields_bind yields
  · cases member
  obtain ⟨answered, rest, rfl, settled⟩ :=
    (isCall_callWithin _ _).yields_bind yields
  rcases settled with ⟨stop, -, rfl, -⟩ | ⟨response, rfl, saving⟩
  · cases List.mem_singleton.1 member
    exact attached_of_program attached
  · rw [yields_iff_of_done program_save_proceed] at saving
    obtain ⟨rfl, -⟩ := saving
    cases List.mem_singleton.1 member
    exact attached_of_program attached

/-! ### Dialogs -/

theorem reads_dialogDefaults : dialogDefaults.Reads := by
  refine (reads_json? _).bind fun value => ?_
  cases value with
  | none => exact .pure _
  | some value =>
      dsimp only
      cases Wire.read? DialogDefaults.decode value.render with
      | none => exact reads_fail _
      | some defaults => exact .pure defaults

theorem reads_askDialog : askDialog.Reads :=
  reads_dialogDefaults.bind fun _ =>
    (reads_propertyOrEmpty _).bind fun _ =>
    (reads_propertyOrEmpty _).bind fun _ =>
    (reads_items _).bind fun _ =>
    (reads_flag _).bind fun _ =>
    (reads_property? _).bind fun _ =>
    (reads_property? _).bind fun _ =>
    (reads_property? _).bind fun _ =>
    (reads_flag _).bind fun _ =>
    (reads_flag _).bind fun _ =>
      .pure _

end Step

end Runbook
