import Runbook.Proofs.Prompt.Typed
import Runbook.Proofs.Wire.Fields
import Runbook.Run.Engine
import Runbook.Step.Interactive
import Runbook.Wire.Prompt
import Runbook.Wire.Record

/-!
# Records go over the wire unchanged

Every record is read back from its own text, whatever its texts hold.  What has
been left out of a record is found to be missing.

A prompt is written with its kind before its other fields.  The kind is taken
out, the other fields are those of a prompt of that kind, and so every request
is read back from its own text, whatever its texts hold.

What is written of a record, in one line or in several ones, is read back as
the record.  So the answers that the terminal writes reach the nodes that asked
for them as what has been typed.
-/

namespace Runbook

open Wire

/-- An instant that is read back from its text. -/
def Instant.ReadsBack (instant : Instant) : Prop :=
  Instant.read? instant.render = some instant

/-! ### Attachments, selections and results of dialogs -/

theorem Attachment.restores (attachment : Attachment) (depth : Nat) :
    Restores decode toJson (depth + 1) attachment := by
  have fields : fields? fieldNames (depth + 1) attachment.toJson.source = _ :=
    fields?_source (by exact .refl _) (by decide) depth
  simp [Restores, decode, fields, required_encoded, Json.member?]

theorem DriveFileSelection.restores (selection : DriveFileSelection)
    (depth : Nat) : Restores decode toJson (depth + 1) selection := by
  have fields : fields? fieldNames (depth + 1) selection.toJson.source = _ :=
    fields?_source (by exact .refl _) (by decide) depth
  simp [Restores, decode, fields, required_encoded, defaulted_encoded,
    Json.member?]

theorem DialogResult.restores (result : DialogResult) (depth : Nat) :
    Restores decode toJson (depth + 2) result := by
  have fields : fields? fieldNames (depth + 2) result.toJson.source = _ :=
    fields?_source (by exact .refl _) (by decide) (depth + 1)
  simp [Restores, decode, fields, defaulted_encoded, Json.member?]

/-! ### Files -/

namespace FileInfo

variable {info : FileInfo}

/-- What is written under a name. -/
theorem member?_members (name : String) (info : FileInfo) :
    Json.member? name info.members =
      (((Json.member? name [("id", .string info.id), ("name",
            .string info.name), ("path", .string info.path)]).or
          (if "mimeType" = name then info.mimeType.map .string else none)).or
        (if "modifiedAt" = name then
          info.modifiedAt.map fun instant => .string instant.render
        else none)).or
      (if "size" = name then info.size.map fun size : Nat => Json.ofInt size
      else none) := by
  have size_eq : (info.size : Option Int).map (fun size => Json.ofInt size) =
      info.size.map fun size : Nat => Json.ofInt size := by
    cases info.size <;> rfl
  rw [members, Json.member?_append, Json.member?_append, Json.member?_append,
    member?_present, member?_present, member?_present, size_eq]

theorem fields?_members (info : FileInfo) (depth : Nat) :
    fields? fieldNames (depth + 1) info.toJson.source =
      some (encoded depth info.members) := by
  refine fields?_source ?_ (by decide) depth
  simp only [members, List.map_append]
  exact (((List.Sublist.refl _).append (sublist_present ..)).append
    (sublist_present ..)).append (sublist_present ..)

theorem restores (modified : ∀ instant ∈ info.modifiedAt, instant.ReadsBack)
    (small : ∀ size ∈ info.size, size < 2 ^ 64) (depth : Nat) :
    Restores decode toJson (depth + 1) info := by
  have mimeType : (encoded depth info.members).optional "mimeType" Wire.text =
      some info.mimeType :=
    optional_present (by simp [member?_members, Json.member?])
      (fun _ _ => source_string_ne_null _) fun _ _ => text_source _ _
  have modifiedAt : (encoded depth info.members).optional "modifiedAt"
      Wire.instant = some info.modifiedAt :=
    optional_present (by simp [member?_members, Json.member?])
      (fun _ _ => source_string_ne_null _) fun instant held =>
        restores_instant (modified instant held) depth
  have size : (encoded depth info.members).optional "size" Wire.natural =
      some info.size :=
    optional_present (by simp [member?_members, Json.member?])
      (fun size held => source_natural_ne_null (small size held))
      fun size held => restores_natural (small size held) depth
  simp [Restores, decode, fields?_members, mimeType, modifiedAt, size,
    required_encoded, member?_members, Json.member?]

end FileInfo

/-! ### History -/

/-- An object of texts is a value that the reader gives back. -/
theorem Engine.fits_textObject (pairs : List (String × String))
    (depth : Nat) : Json.Fits (depth + 1) (textObject pairs) := by
  refine ⟨Json.isSorted_sortMembers _, fun member present => ?_⟩
  obtain ⟨pair, -, rfl⟩ :=
    List.mem_map.1 (Json.mem_of_mem_sortMembers present)
  cases depth <;> trivial

theorem Engine.source_textObject_ne_null (pairs : List (String × String)) :
    (textObject pairs).source ≠ .null := by
  rw [textObject, Json.sortedObject, Json.source]
  intro same
  cases same

namespace HistoryStep

variable {step : HistoryStep}

/-- The input of a step is missing or an object of texts. -/
def HasTexts (step : HistoryStep) : Prop :=
  ∀ input ∈ step.input, ∃ pairs, input = Engine.textObject pairs

theorem HasTexts.finish (hasTexts : step.HasTexts) (status : StepStatus)
    (output error : Option String) (now : Instant) :
    (step.finish status output error now).HasTexts := by
  unfold HistoryStep.finish
  split <;> exact hasTexts

theorem HasTexts.cancelOpen (hasTexts : step.HasTexts) (now : Instant) :
    (step.cancelOpen now).HasTexts := by
  unfold HistoryStep.cancelOpen
  split <;> exact hasTexts

/-- The instants that are written in a step. -/
def instants (step : HistoryStep) : List Instant :=
  step.startedAt :: step.finishedAt.toList

def members (step : HistoryStep) : List (String × Json) :=
  [("nodeId", .string step.nodeId), ("nodeType", .string step.nodeType),
    ("status", step.status.toJson)] ++
    present "input" id step.input ++ present "output" .string step.output ++
    present "error" .string step.error ++
    [("startedAt", .string step.startedAt.render)] ++
    present "finishedAt" (fun instant => .string instant.render)
      step.finishedAt

/-- What is written under a name. -/
theorem member?_members (name : String) (step : HistoryStep) :
    Json.member? name step.members =
      (((((Json.member? name [("nodeId", .string step.nodeId), ("nodeType",
            .string step.nodeType), ("status", step.status.toJson)]).or
          (if "input" = name then step.input.map id else none)).or
        (if "output" = name then step.output.map .string else none)).or
        (if "error" = name then step.error.map .string else none)).or
        (Json.member? name [("startedAt",
          .string step.startedAt.render)])).or
      (if "finishedAt" = name then
        step.finishedAt.map fun instant => .string instant.render
      else none) := by
  simp only [members, Json.member?_append, member?_present]

theorem fields?_members (step : HistoryStep) (depth : Nat) :
    fields? fieldNames (depth + 1) step.toJson.source =
      some (encoded depth step.members) := by
  have sublist : (step.members.map Prod.fst).Sublist fieldNames := by
    simp only [members, List.map_append]
    exact (((((List.Sublist.refl _).append (sublist_present ..)).append
      (sublist_present ..)).append (sublist_present ..)).append
        (.refl _)).append (sublist_present ..)
  exact fields?_source sublist (by decide) depth

theorem restores (hasTexts : step.HasTexts)
    (reads : ∀ instant ∈ step.instants, instant.ReadsBack) (depth : Nat) :
    Restores decode toJson (depth + 2) step := by
  obtain ⟨started, finished⟩ := List.forall_mem_cons.1 reads
  have status : StepStatus.decode (depth + 1) step.status.toJson.source =
      some step.status :=
    restores_choice (depth + 1) (by cases step.status <;> rfl)
  have startedAt : Wire.instant (depth + 1)
      (Json.string step.startedAt.render).source = some step.startedAt :=
    restores_instant started (depth + 1)
  have input : (encoded (depth + 1) step.members).optional "input" Wire.json =
      some step.input := by
    have there : Json.member? "input" step.members = step.input.map id := by
      simp [member?_members, Json.member?]
    refine optional_present there (fun input held => ?_) fun input held => ?_
      <;> obtain ⟨pairs, rfl⟩ := hasTexts input held
    · exact Engine.source_textObject_ne_null pairs
    · exact restores_json (Engine.fits_textObject pairs depth)
  have output : (encoded (depth + 1) step.members).optional "output"
      Wire.text = some step.output :=
    optional_present (by simp [member?_members, Json.member?])
      (fun _ _ => source_string_ne_null _) fun _ _ => text_source _ _
  have error : (encoded (depth + 1) step.members).optional "error" Wire.text =
      some step.error :=
    optional_present (by simp [member?_members, Json.member?])
      (fun _ _ => source_string_ne_null _) fun _ _ => text_source _ _
  have finishedAt : (encoded (depth + 1) step.members).optional "finishedAt"
      Wire.instant = some step.finishedAt :=
    optional_present (by simp [member?_members, Json.member?])
      (fun _ _ => source_string_ne_null _) fun instant held =>
        restores_instant (finished instant (Option.mem_toList.2 held)) _
  simp [Restores, decode, fields?_members, required_encoded, member?_members,
    Json.member?, status, startedAt, input, output, error, finishedAt]

end HistoryStep

namespace HistoryRecord

variable {record : HistoryRecord}

/-- A record that a recorder can have: it has been started, and steps have been
started and finished in any order since, the input of each one missing or an
object of texts. -/
inductive IsRecorded : HistoryRecord → Prop
  | start (id workflowRef workflowName : String) (now : Instant) :
      IsRecorded (.start id workflowRef workflowName now)
  | startStep {record : HistoryRecord} (isRecorded : IsRecorded record)
      (nodeId nodeType : String) (input : Option (List (String × String)))
      (now : Instant) :
      IsRecorded (record.startStep nodeId nodeType
        (input.map Engine.textObject) now)
  | finishStep {record : HistoryRecord} (isRecorded : IsRecorded record)
      (position : Nat) (status : StepStatus) (output error : Option String)
      (now : Instant) :
      IsRecorded (record.finishStep position status output error now)
  | finalize {record : HistoryRecord} (isRecorded : IsRecorded record)
      (status : RunStatus) (now : Instant) :
      IsRecorded (record.finalize status now)

/-- The instants that are written in a record. -/
def instants (record : HistoryRecord) : List Instant :=
  record.startedAt :: record.finishedAt.toList ++
    record.steps.flatMap HistoryStep.instants

/-- The inputs of recorded steps do not change. -/
theorem IsRecorded.hasTexts (isRecorded : IsRecorded record) :
    ∀ step ∈ record.steps, step.HasTexts := by
  induction isRecorded with
  | start => exact nofun
  | startStep _ _ _ input _ ih =>
      intro step member
      rcases List.mem_append.1 member with before | last
      · exact ih step before
      · rw [List.mem_singleton.1 last]
        intro value held
        obtain ⟨pairs, -, rfl⟩ := Option.map_eq_some_iff.1 held
        exact ⟨pairs, rfl⟩
  | finishStep _ position status output error now ih =>
      intro step member
      obtain ⟨place, found⟩ := List.mem_iff_getElem?.1 member
      rw [HistoryRecord.finishStep, List.getElem?_modify] at found
      obtain ⟨old, there, rfl⟩ := Option.map_eq_some_iff.1 found
      have hasTexts := ih old (List.mem_of_getElem? there)
      split
      · exact hasTexts.finish status output error now
      · exact hasTexts
  | finalize _ _ now ih =>
      exact List.forall_mem_map.2 fun step member =>
        (ih step member).cancelOpen now

def members (record : HistoryRecord) : List (String × Json) :=
  [("id", .string record.id), ("workflowRef", .string record.workflowRef),
    ("workflowName", .string record.workflowName),
    ("status", record.status.toJson),
    ("steps", .array (record.steps.map HistoryStep.toJson)),
    ("startedAt", .string record.startedAt.render)] ++
    present "finishedAt" (fun instant => .string instant.render)
      record.finishedAt

/-- What is written under a name. -/
theorem member?_members (name : String) (record : HistoryRecord) :
    Json.member? name record.members =
      (Json.member? name [("id", .string record.id),
        ("workflowRef", .string record.workflowRef),
        ("workflowName", .string record.workflowName),
        ("status", record.status.toJson),
        ("steps", .array (record.steps.map HistoryStep.toJson)),
        ("startedAt", .string record.startedAt.render)]).or
      (if "finishedAt" = name then
        record.finishedAt.map fun instant => .string instant.render
      else none) := by
  rw [members, Json.member?_append, member?_present]

theorem fields?_members (record : HistoryRecord) (depth : Nat) :
    fields? fieldNames (depth + 1) record.toJson.source =
      some (encoded depth record.members) := by
  have sublist : (record.members.map Prod.fst).Sublist fieldNames := by
    simp only [members, List.map_append]
    exact (List.Sublist.refl _).append (sublist_present ..)
  exact fields?_source sublist (by decide) depth

theorem restores (isRecorded : IsRecorded record)
    (reads : ∀ instant ∈ record.instants, instant.ReadsBack) (depth : Nat) :
    Restores decode toJson (depth + 4) record := by
  simp only [instants, List.cons_append, List.forall_mem_cons,
    List.forall_mem_append, List.forall_mem_flatMap] at reads
  obtain ⟨started, finished, steps⟩ := reads
  have status : RunStatus.decode (depth + 3) record.status.toJson.source =
      some record.status :=
    restores_choice (depth + 3) (by cases record.status <;> rfl)
  have restored : Wire.list HistoryStep.decode (depth + 3)
      (Json.array (record.steps.map HistoryStep.toJson)).source =
        some record.steps :=
    restores_list fun step member =>
      HistoryStep.restores (isRecorded.hasTexts step member)
        (steps step member) depth
  have startedAt : Wire.instant (depth + 3)
      (Json.string record.startedAt.render).source = some record.startedAt :=
    restores_instant started (depth + 3)
  have finishedAt : (encoded (depth + 3) record.members).optional "finishedAt"
      Wire.instant = some record.finishedAt :=
    optional_present (by simp [member?_members, Json.member?])
      (fun _ _ => source_string_ne_null _) fun instant held =>
        restores_instant (finished instant (Option.mem_toList.2 held)) _
  simp [Restores, decode, fields?_members, required_encoded, member?_members,
    Json.member?, status, restored, startedAt, finishedAt]

end HistoryRecord

end Runbook

/-! ## Prompts -/

namespace Runbook

open Wire
open Json (Piece Source)

/-! ### The fields of each kind -/

theorem ValuePrompt.ofFields?_encoded (prompt : ValuePrompt) (depth : Nat) :
    ofFields? (encoded depth prompt.members) = some prompt := by
  simp [ofFields?, members, required_encoded, defaulted_encoded,
    optional_encoded, Json.member?]

theorem DialogPrompt.ofFields?_encoded (prompt : DialogPrompt) (depth : Nat) :
    ofFields? (encoded (depth + 1) prompt.members) = some prompt := by
  simp [ofFields?, members, required_encoded, defaulted_encoded,
    optional_encoded, Json.member?]

theorem DriveFilePrompt.ofFields?_encoded (prompt : DriveFilePrompt)
    (depth : Nat) :
    ofFields? (encoded (depth + 1) prompt.members) = some prompt := by
  simp [ofFields?, members, required_encoded, defaulted_encoded, Json.member?]

theorem DiffPrompt.ofFields?_encoded (prompt : DiffPrompt) (depth : Nat) :
    ofFields? (encoded depth prompt.members) = some prompt := by
  simp [ofFields?, members, required_encoded, Json.member?]

theorem PasswordPrompt.ofFields?_encoded (prompt : PasswordPrompt)
    (depth : Nat) :
    ofFields? (encoded depth prompt.members) = some prompt := by
  simp [ofFields?, members, required_encoded, Json.member?]

namespace Prompt

theorem ofFields?_encoded (prompt : Prompt) (depth : Nat) :
    ofFields? prompt.kind (encoded (depth + 1) prompt.members) =
      some prompt := by
  cases prompt with
  | value prompt =>
      exact congrArg (Option.map _) (prompt.ofFields?_encoded _)
  | dialog prompt =>
      exact congrArg (Option.map _) (prompt.ofFields?_encoded _)
  | driveFile prompt =>
      exact congrArg (Option.map _) (prompt.ofFields?_encoded _)
  | diff prompt => exact congrArg (Option.map _) (prompt.ofFields?_encoded _)
  | password prompt =>
      exact congrArg (Option.map _) (prompt.ofFields?_encoded _)

/-- The fields of a prompt are those of its kind, in their order. -/
theorem map_fst_members (prompt : Prompt) :
    prompt.members.map Prod.fst = prompt.kind.fieldNames := by
  cases prompt <;> rfl

/-- No other field is called like the kind. -/
theorem kind_not_mem (kind : PromptKind) : "kind" ∉ kind.fieldNames := by
  cases kind <;> decide

theorem nodup_fieldNames (kind : PromptKind) : kind.fieldNames.Nodup := by
  cases kind <;> decide

/-- The kind of a written prompt is taken out. -/
theorem kindAndRest?_toJson (prompt : Prompt) :
    kindAndRest? prompt.toJson.source =
      some (prompt.kind.toJson.source,
        (Json.object prompt.members).source) := by
  have named := mapM_sourceMembers
    (fun name content source => (name, content, source))
    (("kind", prompt.kind.toJson) :: prompt.members)
  have others : ∀ field ∈ prompt.members.map fun member =>
      (member.1, member.1.toList.map Piece.ofChar, member.2.source),
        (field.1 == "kind") = false := by
    refine List.forall_mem_map.2 fun member present => beq_false_of_ne ?_
    intro same
    have isField := List.mem_map_of_mem (f := Prod.fst) present
    rw [map_fst_members, same] at isField
    exact kind_not_mem _ isField
  rw [toJson, Json.source, kindAndRest?, named, Option.bind_eq_bind,
    Option.bind_some, List.map_cons, List.partition_eq_filter_filter,
    List.filter_cons_of_pos (by simp), List.filter_cons_of_neg (by simp),
    List.filter_eq_nil_iff.2 fun field member => by simp [others field member],
    List.filter_eq_self.2 fun field member => by simp [others field member]]
  simp [Json.source, Json.sourceMembers_eq_map]

/-- A written prompt is a JSON value of texts, flags and lists of texts. -/
theorem readable_toJson (prompt : Prompt) (depth : Nat) :
    Json.Readable (depth + 2) prompt.toJson := by
  have lists : ∀ values, Json.Readable (depth + 1) (texts values) :=
    fun values => List.forall_mem_map.2 fun _ _ => by cases depth <;> trivial
  have perhaps : ∀ value, Json.Readable (depth + 1) (orNull value) := by
    rintro (_ | _) <;> trivial
  refine List.forall_mem_cons.2 ⟨trivial, ?_⟩
  cases prompt <;>
    simp [members, ValuePrompt.members, DialogPrompt.members,
      DriveFilePrompt.members, DiffPrompt.members, PasswordPrompt.members,
      Json.Readable, lists, perhaps]

theorem restores (prompt : Prompt) (depth : Nat) :
    Restores decode toJson (depth + 2) prompt := by
  have isValue := Json.ofSource?_source (prompt.readable_toJson depth)
  have isKind : PromptKind.ofText? prompt.kind.text = some prompt.kind := by
    cases prompt <;> rfl
  have fields : fields? prompt.kind.fieldNames (depth + 2)
      (Json.object prompt.members).source =
        some (encoded (depth + 1) prompt.members) :=
    fields?_source (by rw [map_fst_members]) (nodup_fieldNames _) (depth + 1)
  simp [Restores, decode, isValue, kindAndRest?_toJson, PromptKind.toJson,
    isKind, fields, ofFields?_encoded]

end Prompt

theorem PromptRequest.restores (request : PromptRequest) (depth : Nat) :
    Restores decode toJson (depth + 3) request := by
  have fields : fields? fieldNames (depth + 3) request.toJson.source = _ :=
    fields?_source (by exact .refl _) (by decide) (depth + 2)
  have prompt : Prompt.decode (depth + 2) request.prompt.toJson.source =
      some request.prompt := request.prompt.restores depth
  simp [Restores, decode, fields, required_encoded, Json.member?, prompt]

end Runbook

/-! ## Written in lines -/

namespace Runbook

open Wire

variable {isAccepting : Bool} {request : PromptRequest}
  {transcript : Transcript Host.Question Host.Reply} {answer : String}

/-- A dialog node finds what has been entered at the terminal. -/
theorem Terminal.exists_enters_dialogResult {prompt : DialogPrompt}
    (isDialog : request.prompt = .dialog prompt)
    (yields : (Terminal.answer isAccepting request).Yields transcript
      (some answer)) :
    ∃ entered, Enters prompt isAccepting (typed transcript) entered ∧
      Step.dialogResult (some answer) = entered := by
  obtain ⟨id, executionId, nodeId, asked⟩ := request
  obtain rfl : asked = .dialog prompt := isDialog
  obtain ⟨entered, enters, rfl⟩ :=
    Hears.of_answerDialog ⟨transcript, yields, rfl⟩
  refine ⟨entered, enters, ?_⟩
  have reads := (entered.restores 125).readsBack.rendered
  rw [Step.dialogResult, reads, Option.getD_some]

/-- A node that has a file picked looks for the path that has been typed at the
terminal. -/
theorem Terminal.exists_line_selectedFile {prompt : DriveFilePrompt}
    (isFile : request.prompt = .driveFile prompt)
    (yields : (Terminal.answer isAccepting request).Yields transcript
      (some answer)) :
    ∃ line, typed transcript = [some line] ∧
      read? DriveFileSelection.decode answer =
        some ⟨Text.trim line, Text.trim line⟩ ∧
      Step.selectedFile answer = Step.existingFile (Text.trim line) := by
  obtain ⟨id, executionId, nodeId, asked⟩ := request
  obtain rfl : asked = .driveFile prompt := isFile
  obtain ⟨-, line, typed_eq, path, rfl⟩ :=
    Hears.of_answerFile ⟨transcript, yields, rfl⟩
  have reads := (DriveFileSelection.restores ⟨Text.trim line, Text.trim line⟩
    126).readsBack.rendered
  refine ⟨line, typed_eq, reads, ?_⟩
  rw [Step.selectedFile, reads]
  exact if_neg (by simpa using path)

/-- Every record is read back from its text: the history of a run, prompts of
every kind, the results of dialogs, selections, files and attachments, with any
texts in them.  And what is entered at the terminal is what the nodes find that
asked for it. -/
theorem Wire.records_read_back :
    (∀ record : HistoryRecord, record.IsRecorded →
      (∀ instant ∈ record.instants, instant.ReadsBack) →
      ReadsBack HistoryRecord.decode HistoryRecord.toJson record) ∧
    (∀ request : PromptRequest,
      ReadsBack PromptRequest.decode PromptRequest.toJson request) ∧
    (∀ result : DialogResult,
      ReadsBack DialogResult.decode DialogResult.toJson result) ∧
    (∀ selection : DriveFileSelection,
      ReadsBack DriveFileSelection.decode DriveFileSelection.toJson
        selection) ∧
    (∀ info : FileInfo, (∀ instant ∈ info.modifiedAt, instant.ReadsBack) →
      (∀ size ∈ info.size, size < 2 ^ 64) →
      ReadsBack FileInfo.decode FileInfo.toJson info) ∧
    (∀ attachment : Attachment,
      ReadsBack Attachment.decode Attachment.toJson attachment) ∧
    (∀ (isAccepting : Bool) (request : PromptRequest) (prompt : DialogPrompt)
      (transcript : Transcript Host.Question Host.Reply) (answer : String),
      request.prompt = .dialog prompt →
      (Terminal.answer isAccepting request).Yields transcript (some answer) →
      ∃ entered,
        Terminal.Enters prompt isAccepting (Terminal.typed transcript)
          entered ∧
        Step.dialogResult (some answer) = entered) ∧
    ∀ (isAccepting : Bool) (request : PromptRequest) (prompt : DriveFilePrompt)
      (transcript : Transcript Host.Question Host.Reply) (answer : String),
      request.prompt = .driveFile prompt →
      (Terminal.answer isAccepting request).Yields transcript (some answer) →
      ∃ line, Terminal.typed transcript = [some line] ∧
        read? DriveFileSelection.decode answer =
          some ⟨Text.trim line, Text.trim line⟩ ∧
        Step.selectedFile answer = Step.existingFile (Text.trim line) :=
  ⟨fun _ isRecorded reads =>
      (HistoryRecord.restores isRecorded reads 123).readsBack,
    fun request => (request.restores 124).readsBack,
    fun result => (result.restores 125).readsBack,
    fun selection => (selection.restores 126).readsBack,
    fun _ reads small => (FileInfo.restores reads small 126).readsBack,
    fun attachment => (attachment.restores 126).readsBack,
    fun _ _ _ _ _ isDialog yields =>
      Terminal.exists_enters_dialogResult isDialog yields,
    fun _ _ _ _ _ isFile yields =>
      Terminal.exists_line_selectedFile isFile yields⟩

/-- The record of a run of one node that was given a text with quotes and a line
break. -/
def HistoryRecord.ofOneStep : HistoryRecord :=
  let input := Engine.textObject [("value", "\"a\"\n")]
  ((HistoryRecord.start "run" "flow.yaml" "flow" .epoch).startStep "note"
    "variable" (some input) .epoch).finishStep 0 .success (some "\\") none
      .epoch

theorem HistoryRecord.isRecorded_ofOneStep : ofOneStep.IsRecorded :=
  .finishStep (.startStep (.start ..) _ _ (some [("value", "\"a\"\n")]) _) ..

/-- A dialog with two options. -/
def DialogPrompt.ofTwoOptions : DialogPrompt :=
  ⟨"", "", ["red", "green"], false, "OK", none, none, false, none, [], false⟩

theorem Terminal.yields_ofTwoOptions :
    (Terminal.answer false
      ⟨"1", "run", "ask", .dialog .ofTwoOptions⟩).Yields
      [⟨.show "[ask] \n", ()⟩, ⟨.show "  1) red\n", ()⟩,
        ⟨.show "  2) green\n", ()⟩,
        ⟨.show "Select (numbers, comma separated): ", ()⟩, ⟨.line, some "2"⟩]
      (some (DialogResult.toJson ⟨"OK", ["green"], ""⟩).render) :=
  .ask _ (.ask _ (.ask _ (.ask _ (.ask _ (.done _)))))

theorem Terminal.yields_ofFile :
    (Terminal.answer false
      ⟨"2", "run", "pick", .driveFile ⟨"", []⟩⟩).Yields
      [⟨.show "[pick] \n", ()⟩, ⟨.show "Path: ", ()⟩, ⟨.line, some " a.md"⟩]
      (some (DriveFileSelection.toJson ⟨"a.md", "a.md"⟩).render) :=
  .ask _ (.ask _ (.ask _ (.done _)))

theorem Wire.records_read_back_typed :
    ReadsBack HistoryRecord.decode HistoryRecord.toJson
        HistoryRecord.ofOneStep ∧
      ReadsBack FileInfo.decode FileInfo.toJson
        ⟨"a", "a.md", "notes/a.md", none, some .epoch, some 3⟩ ∧
      (∃ entered, Terminal.Enters .ofTwoOptions false [some "2"] entered ∧
        Step.dialogResult
          (some (DialogResult.toJson ⟨"OK", ["green"], ""⟩).render) =
            entered) ∧
      Step.selectedFile
          (DriveFileSelection.toJson ⟨"a.md", "a.md"⟩).render =
        Step.existingFile "a.md" := by
  have epoch : Instant.epoch.ReadsBack := by
    unfold Instant.ReadsBack
    decide +kernel
  obtain ⟨history, -, -, -, files, -, dialogs, selections⟩ :=
    Wire.records_read_back
  refine ⟨history _ HistoryRecord.isRecorded_ofOneStep ?_,
    files _ ?_ ?_, ?_, ?_⟩
  · have all : ∀ instant ∈ HistoryRecord.ofOneStep.instants,
        instant = Instant.epoch := by decide
    exact fun instant member => all instant member ▸ epoch
  · rintro _ ⟨⟩
    exact epoch
  · rintro _ ⟨⟩
    decide
  · exact dialogs false _ _ _ _ rfl Terminal.yields_ofTwoOptions
  · obtain ⟨line, typed, -, found⟩ :=
      selections false _ _ _ _ rfl Terminal.yields_ofFile
    obtain rfl : " a.md" = line := by simpa [Terminal.typed] using typed
    exact found

end Runbook
