import Runbook.Proofs.Step.Transcript
import Runbook.Step.Registry

/-!
# The directives of the standard handlers

A node of a type ends with few directives: branching nodes jump, nodes that
call another workflow call it, and all others go on to the next node, some of
them after a prompt of a kind that belongs to the type.
-/

namespace Runbook

/-- The kinds of prompts that nodes of a type raise. -/
def NodeType.prompts : NodeType → List PromptKind
  | .driveFile => [.diff]
  | .driveRead => [.password]
  | .dialog => [.dialog]
  | .promptValue => [.value]
  | .promptFile => [.driveFile, .password]
  | .promptSelection => [.value]
  | _ => []

/-- The directives with which nodes of a type end. -/
def Directive.Fits (nodeType : NodeType) : Directive → Prop
  | .proceed => nodeType.isBranching = false ∧ nodeType ≠ .workflow
  | .jump _ => nodeType.isBranching = true
  | .terminate => False
  | .suspend prompt => prompt.kind ∈ nodeType.prompts
  | .call _ => nodeType = .workflow

namespace Step

variable {α : Type}

theorem ensures_property? (name : String) :
    (property? name).Ensures fun _ => True :=
  ensures_read.andThen fun _ => .pure trivial

theorem ensures_trimmedProperty? (name : String) :
    (trimmedProperty? name).Ensures fun _ => True :=
  (ensures_property? name).andThen fun _ => .pure trivial

theorem ensures_propertyOrEmpty (name : String) :
    (propertyOrEmpty name).Ensures fun _ => True :=
  ensures_read.andThen fun _ => .pure trivial

theorem ensures_required (name : String) :
    (required name).Ensures fun _ => True := by
  refine (ensures_property? name).andThen fun value => ?_
  cases value with
  | none => exact ensures_fail _
  | some value => exact .pure trivial

theorem ensures_requiredTrimmed (name : String) :
    (requiredTrimmed name).Ensures fun _ => True :=
  (ensures_required name).andThen fun _ => .pure trivial

theorem ensures_flag (name : String) : (flag name).Ensures fun _ => True :=
  (ensures_property? name).andThen fun _ => .pure trivial

theorem ensures_items (name : String) : (items name).Ensures fun _ => True :=
  (ensures_property? name).andThen fun _ => .pure trivial

theorem ensures_natural? (name : String) :
    (natural? name).Ensures fun _ => True := by
  refine (ensures_property? name).andThen fun value => ?_
  split
  · exact .pure trivial
  · split
    · exact .pure trivial
    · exact ensures_failWith _

theorem ensures_decimal? (name : String) :
    (decimal? name).Ensures fun _ => True := by
  refine (ensures_property? name).andThen fun value => ?_
  split
  · exact .pure trivial
  · dsimp only
    split
    · exact .pure trivial
    · exact ensures_failWith _

theorem ensures_json? (name : String) :
    (json? name).Ensures fun _ => True := by
  refine (ensures_property? name).andThen fun value => ?_
  split
  · exact .pure trivial
  · split
    · exact .pure trivial
    · exact ensures_fail _

theorem ensures_textMap (name : String) (value : Option Json) :
    (textMap name value).Ensures fun _ => True := by
  unfold textMap
  split
  · exact .pure trivial
  · exact .pure trivial
  · exact .pure trivial
  · exact ensures_fail _

theorem ensures_valueOf? (name : String) :
    (valueOf? name).Ensures fun _ => True :=
  ensures_get.andThen fun _ => .pure trivial

theorem ensures_setNamed (property value : String) :
    (setNamed property value).Ensures fun _ => True := by
  refine (ensures_trimmedProperty? property).andThen fun name => ?_
  split
  · exact ensures_modify _
  · exact .pure trivial

theorem ensures_save (property value : String) :
    (save property value).Ensures fun _ => True :=
  (ensures_setNamed property value).andThen fun _ => ensures_modify _

theorem ensures_within (context : String) (attempt : Except Failure α) :
    (within context attempt).Ensures fun _ => True := by
  cases attempt with
  | ok value => exact .pure trivial
  | error failure => exact ensures_failWith _

theorem ensures_callOrFail (serviceCall : ServiceCall) :
    (callOrFail serviceCall).Ensures fun _ => True := by
  refine (ensures_call serviceCall).andThen fun reply => ?_
  cases reply with
  | ok result => exact .pure trivial
  | error failure => exact ensures_failWith _

theorem ensures_callWithin (context : String) (serviceCall : ServiceCall) :
    (callWithin context serviceCall).Ensures fun _ => True :=
  (ensures_call serviceCall).andThen fun _ => ensures_within context _

/-! ### Variables, branches, waiting and calls -/

theorem ensures_assignWith (function : String → String) :
    (assignWith function).Ensures fun directive => directive = .proceed :=
  (ensures_requiredTrimmed _).andThen fun _ =>
    (ensures_propertyOrEmpty _).andThen fun _ =>
      (ensures_modify _).andThen fun _ =>
        (ensures_modify _).andThen fun _ => .pure rfl

theorem ensures_branch :
    branch.Ensures fun directive => ∃ target, directive = .jump target :=
  (ensures_propertyOrEmpty _).andThen fun _ =>
    (ensures_modify _).andThen fun _ =>
      ensures_read.andThen fun _ => .pure ⟨_, rfl⟩

theorem ensures_pause :
    pause.Ensures fun directive => directive = .proceed := by
  refine (ensures_decimal? _).andThen fun value => ?_
  unfold waitFor
  dsimp only
  split
  · exact ensures_fail_bind _ _
  · split
    · exact ensures_fail _
    · exact (ensures_sleep _).andThen fun _ => .pure rfl

theorem ensures_callInputs : callInputs.Ensures fun _ => True := by
  refine ensures_read.andThen fun context => ?_
  dsimp only
  split
  · exact (ensures_textMap _ _).andThen fun _ =>
      ensures_get.andThen fun _ => .pure trivial
  · split
    · exact (ensures_textMap _ _).andThen fun _ =>
        ensures_get.andThen fun _ => .pure trivial
    · exact ensures_fail_bind _ _

theorem ensures_callWorkflow :
    callWorkflow.Ensures fun directive => ∃ call, directive = .call call :=
  (ensures_requiredTrimmed _).andThen fun _ =>
    (ensures_trimmedProperty? _).andThen fun _ =>
      ensures_callInputs.andThen fun _ =>
        (ensures_json? _).andThen fun _ =>
          (ensures_textMap _ _).andThen fun _ => .pure ⟨_, rfl⟩

/-! ### Models, requests and data -/

theorem ensures_tools : tools.Ensures fun _ => True := by
  refine (ensures_json? _).andThen fun value => ?_
  split
  · exact .pure trivial
  · exact .pure trivial
  · exact .pure trivial
  · exact ensures_fail _

theorem ensures_attachment (name : String) :
    (attachment name).Ensures fun _ => True := by
  refine (ensures_valueOf? name).andThen fun value => ?_
  split
  · exact .pure trivial
  · exact ensures_fail _

theorem ensures_mapM {β : Type} {step : α → Step β}
    (each : ∀ value, (step value).Ensures fun _ => True) (values : List α) :
    (values.mapM step).Ensures fun _ => True := by
  have gathers : ∀ results : List β,
      (List.mapM.loop step values results).Ensures fun _ => True := by
    induction values with
    | nil => exact fun results => .pure trivial
    | cons value values ih =>
        intro results
        exact (each value).andThen fun result => ih (result :: results)
  exact gathers []

theorem ensures_askModel :
    askModel.Ensures fun directive => directive = .proceed :=
  ensures_tools.andThen fun _ =>
    (ensures_items _).andThen fun names =>
      (ensures_mapM ensures_attachment names).andThen fun _ =>
        (ensures_required _).andThen fun _ =>
          (ensures_property? _).andThen fun _ =>
            (ensures_property? _).andThen fun _ =>
              (ensures_callWithin _ _).andThen fun _ =>
                (ensures_save _ _).andThen fun _ => .pure rfl

theorem ensures_httpRequest : httpRequest.Ensures fun _ => True :=
  (ensures_requiredTrimmed _).andThen fun _ =>
    (ensures_trimmedProperty? _).andThen fun _ =>
      (ensures_json? _).andThen fun _ =>
        (ensures_textMap _ _).andThen fun _ =>
          (ensures_property? _).andThen fun _ =>
            (ensures_trimmedProperty? _).andThen fun _ => .pure trivial

theorem ensures_sendRequest :
    sendRequest.Ensures fun directive => directive = .proceed := by
  refine ensures_httpRequest.andThen fun request => ?_
  refine (ensures_callWithin _ _).andThen fun response => ?_
  refine (ensures_flag _).andThen fun throws => ?_
  dsimp only
  split
  · exact ensures_fail_bind _ _
  · exact (ensures_setNamed _ _).andThen fun _ =>
      (ensures_save _ _).andThen fun _ => .pure rfl

theorem ensures_readJson :
    readJson.Ensures fun directive => directive = .proceed := by
  refine (ensures_requiredTrimmed _).andThen fun source => ?_
  refine (ensures_valueOf? _).andThen fun text => ?_
  split
  · exact ensures_fail _
  · split
    · exact ensures_fail _
    · exact (ensures_save _ _).andThen fun _ => .pure rfl

theorem ensures_callTool :
    callTool.Ensures fun directive => directive = .proceed := by
  refine (ensures_requiredTrimmed _).andThen fun url => ?_
  refine (ensures_requiredTrimmed _).andThen fun tool => ?_
  refine (ensures_json? _).andThen fun arguments => ?_
  refine (ensures_json? _).andThen fun headers => ?_
  refine (ensures_textMap _ _).andThen fun headers => ?_
  refine (ensures_callWithin _ _).andThen fun result => ?_
  split
  · exact (ensures_save _ _).andThen fun _ => .pure rfl
  · exact (ensures_save _ _).andThen fun _ => .pure rfl

theorem ensures_syncIndex :
    syncIndex.Ensures fun directive => directive = .proceed :=
  (ensures_requiredTrimmed _).andThen fun _ =>
    (ensures_property? _).andThen fun _ =>
      (ensures_callWithin _ _).andThen fun _ =>
        (ensures_save _ _).andThen fun _ => .pure rfl

/-! ### Files -/

theorem ensures_existingFile (path : String) :
    (existingFile path).Ensures fun _ => True := by
  refine (ensures_callWithin _ _).andThen fun info => ?_
  split
  · exact .pure trivial
  · exact ensures_fail _

theorem ensures_readPlain? (info : FileInfo) :
    (readPlain? info).Ensures fun _ => True :=
  (ensures_callWithin _ _).andThen fun _ => .pure trivial

theorem ensures_readProtected (prompt : PasswordPrompt)
    (answer : Option String) :
    (readProtected prompt answer).Ensures fun _ => True := by
  unfold readProtected
  split
  · exact ensures_fail _
  · refine (ensures_callWithin _ _).andThen fun file => ?_
    dsimp only
    split
    · exact ensures_fail_bind _ _
    · exact .pure trivial

theorem ensures_writeFile (context path content : String)
    (mimeType : Option String) :
    (writeFile context path content mimeType).Ensures fun _ => True := by
  refine ensures_read.andThen fun _ => ?_
  refine (ensures_callOrFail _).andThen fun existing => ?_
  split
  · exact ensures_callWithin _ _
  · exact ensures_callWithin _ _

theorem ensures_writeMode : writeMode.Ensures fun _ => True := by
  refine (ensures_trimmedProperty? _).andThen fun name => ?_
  split
  · exact .pure trivial
  · exact .pure trivial
  · exact .pure trivial
  · exact .pure trivial
  · exact ensures_fail _

theorem ensures_currentContent (mode : WriteMode) (path : String)
    (existing : Option FileInfo) :
    (currentContent mode path existing).Ensures fun _ => True := by
  unfold currentContent
  split
  · exact .pure trivial
  · dsimp only
    split
    · exact ensures_fail_bind _ _
    · refine (ensures_readPlain? _).andThen fun content => ?_
      split
      · exact .pure trivial
      · exact ensures_fail _

theorem ensures_saveWritten (path content : String) :
    (saveWritten path content).Ensures fun directive =>
      directive = .proceed :=
  (ensures_writeFile _ _ _ _).andThen fun _ =>
    (ensures_save _ _).andThen fun _ => .pure rfl

theorem ensures_writeOrAsk :
    writeOrAsk.Ensures (Directive.Fits .driveFile) := by
  refine (ensures_requiredTrimmed _).andThen fun path => ?_
  refine (ensures_propertyOrEmpty _).andThen fun content => ?_
  refine ensures_writeMode.andThen fun mode => ?_
  refine (ensures_callOrFail _).andThen fun existing => ?_
  refine (ensures_currentContent _ _ _).andThen fun current => ?_
  refine (ensures_flag _).andThen fun confirm => ?_
  split
  · exact .pure (by simp [Directive.Fits, Prompt.kind, NodeType.prompts])
  · exact (ensures_saveWritten _ _).mono fun directive same =>
      same ▸ ⟨rfl, by decide⟩

theorem ensures_writeIfConfirmed (request : PromptRequest)
    (answer : Option String) :
    (writeIfConfirmed request answer).Ensures fun directive =>
      directive = .proceed := by
  unfold writeIfConfirmed
  split
  · split
    · exact ensures_saveWritten _ _
    · exact (ensures_note _).andThen fun _ =>
        (ensures_modify _).andThen fun _ => .pure rfl
  · exact ensures_fail _

theorem ensures_readOrAsk :
    readOrAsk.Ensures (Directive.Fits .driveRead) := by
  refine (ensures_requiredTrimmed _).andThen fun path => ?_
  refine (ensures_existingFile _).andThen fun info => ?_
  refine (ensures_readPlain? _).andThen fun content => ?_
  split
  · exact (ensures_save _ _).andThen fun _ => .pure ⟨rfl, by decide⟩
  · exact .pure (by simp [Directive.Fits, Prompt.kind, NodeType.prompts])

theorem ensures_readAnswered (request : PromptRequest)
    (answer : Option String) :
    (readAnswered request answer).Ensures fun directive =>
      directive = .proceed := by
  unfold readAnswered
  split
  · exact (ensures_readProtected _ _).andThen fun _ =>
      (ensures_save _ _).andThen fun _ => .pure rfl
  · exact ensures_fail _

theorem ensures_searchFiles :
    searchFiles.Ensures fun directive => directive = .proceed :=
  (ensures_required _).andThen fun _ =>
    (ensures_flag _).andThen fun _ =>
      (ensures_natural? _).andThen fun _ =>
        (ensures_callWithin _ _).andThen fun _ =>
          (ensures_save _ _).andThen fun _ => .pure rfl

theorem ensures_fileSort : fileSort.Ensures fun _ => True := by
  refine (ensures_trimmedProperty? _).andThen fun name => ?_
  split
  · exact .pure trivial
  · exact .pure trivial
  · exact .pure trivial
  · exact ensures_fail _

theorem ensures_listFiles :
    listFiles.Ensures fun directive => directive = .proceed :=
  ensures_fileSort.andThen fun _ =>
    (ensures_propertyOrEmpty _).andThen fun _ =>
      (ensures_natural? _).andThen fun _ =>
        (ensures_callWithin _ _).andThen fun _ =>
          (ensures_save _ _).andThen fun _ => .pure rfl

theorem ensures_listFolders :
    listFolders.Ensures fun directive => directive = .proceed :=
  (ensures_propertyOrEmpty _).andThen fun _ =>
    (ensures_callWithin _ _).andThen fun _ =>
      (ensures_save _ _).andThen fun _ => .pure rfl

theorem ensures_saveFile :
    saveFile.Ensures fun directive => directive = .proceed := by
  refine (ensures_requiredTrimmed _).andThen fun source => ?_
  refine (ensures_requiredTrimmed _).andThen fun path => ?_
  refine (ensures_valueOf? _).andThen fun text => ?_
  split
  · exact ensures_fail _
  · exact (ensures_writeFile _ _ _ _).andThen fun _ =>
      (ensures_save _ _).andThen fun _ => .pure rfl

theorem ensures_announce :
    announce.Ensures fun directive => directive = .proceed :=
  (ensures_requiredTrimmed _).andThen fun _ =>
    (ensures_existingFile _).andThen fun _ =>
      (ensures_note _).andThen fun _ =>
        (ensures_save _ _).andThen fun _ => .pure rfl

/-! ### Questions to a person -/

theorem ensures_dialogDefaults : dialogDefaults.Ensures fun _ => True := by
  refine (ensures_json? _).andThen fun value => ?_
  split
  · exact .pure trivial
  · split
    · exact .pure trivial
    · exact ensures_fail _

/-- A dialog is shown, if nothing fails. -/
theorem ensures_askDialog_suspend :
    askDialog.Ensures fun directive =>
      ∃ prompt, directive = .suspend (.dialog prompt) :=
  ensures_dialogDefaults.andThen fun _ =>
    (ensures_propertyOrEmpty _).andThen fun _ =>
    (ensures_propertyOrEmpty _).andThen fun _ =>
    (ensures_items _).andThen fun _ =>
    (ensures_flag _).andThen fun _ =>
    (ensures_property? _).andThen fun _ =>
    (ensures_property? _).andThen fun _ =>
    (ensures_property? _).andThen fun _ =>
    (ensures_flag _).andThen fun _ =>
    (ensures_flag _).andThen fun _ =>
      .pure ⟨_, rfl⟩

theorem ensures_askDialog : askDialog.Ensures (Directive.Fits .dialog) := by
  refine ensures_askDialog_suspend.mono ?_
  rintro _ ⟨prompt, rfl⟩
  simp [Directive.Fits, Prompt.kind, NodeType.prompts]

theorem ensures_saveDialog (request : PromptRequest)
    (answer : Option String) :
    (saveDialog request answer).Ensures fun directive =>
      directive = .proceed :=
  (ensures_save _ _).andThen fun _ => .pure rfl

theorem ensures_askValue : askValue.Ensures (Directive.Fits .promptValue) :=
  (ensures_property? _).andThen fun _ =>
    (ensures_property? _).andThen fun _ =>
      (ensures_flag _).andThen fun _ =>
        .pure (by simp [Directive.Fits, Prompt.kind, NodeType.prompts])

theorem ensures_saveValue (request : PromptRequest)
    (answer : Option String) :
    (saveValue request answer).Ensures fun directive =>
      directive = .proceed :=
  (ensures_save _ _).andThen fun _ => .pure rfl

theorem ensures_askFile : askFile.Ensures (Directive.Fits .promptFile) :=
  (ensures_property? _).andThen fun _ =>
    (ensures_items _).andThen fun _ =>
      .pure (by simp [Directive.Fits, Prompt.kind, NodeType.prompts])

theorem ensures_selectedFile (answer : String) :
    (selectedFile answer).Ensures fun _ => True := by
  unfold selectedFile
  split
  · split
    · exact .pure trivial
    · exact ensures_existingFile _
  · exact ensures_existingFile _

theorem ensures_saveSelected (info : FileInfo) (content : String) :
    (saveSelected info content).Ensures fun directive =>
      directive = .proceed :=
  (ensures_setNamed _ _).andThen fun _ =>
    (ensures_save _ _).andThen fun _ => .pure rfl

theorem ensures_readSelected (request : PromptRequest)
    (answer : Option String) :
    (readSelected request answer).Ensures (Directive.Fits .promptFile) := by
  have proceeds : ∀ directive, directive = .proceed →
      Directive.Fits .promptFile directive :=
    fun directive same => same ▸ ⟨rfl, by decide⟩
  unfold readSelected
  split
  · split
    · exact ensures_fail _
    · refine (ensures_selectedFile _).andThen fun info => ?_
      refine (ensures_readPlain? _).andThen fun content => ?_
      split
      · exact (ensures_saveSelected _ _).mono proceeds
      · exact .pure (by simp [Directive.Fits, Prompt.kind, NodeType.prompts])
  · exact (ensures_readProtected _ _).andThen fun _ =>
      (ensures_saveSelected _ _).mono proceeds
  · exact ensures_fail _

theorem ensures_askSelection :
    askSelection.Ensures (Directive.Fits .promptSelection) :=
  (ensures_property? _).andThen fun _ =>
    .pure (by simp [Directive.Fits, Prompt.kind, NodeType.prompts])

theorem ensures_saveSelection (request : PromptRequest)
    (answer : Option String) :
    (saveSelection request answer).Ensures fun directive =>
      directive = .proceed := by
  unfold saveSelection
  split
  · exact ensures_fail _
  · exact (ensures_save _ _).andThen fun _ => .pure rfl

end Step

namespace Handler

variable {nodeType : NodeType}

/-- Whatever a handler does, its nodes end with directives that fit their
type. -/
structure Fits (nodeType : NodeType) (handler : Handler) : Prop where
  execute : handler.execute.Ensures (Directive.Fits nodeType)
  resume : ∀ request answer,
    (handler.resume request answer).Ensures (Directive.Fits nodeType)

theorem ensures_refuse (request : PromptRequest) (answer : Option String)
    (allowed : Directive → Prop) : (refuse request answer).Ensures allowed :=
  Step.ensures_read.andThen fun _ => Step.ensures_fail _

/-- A handler that asks nobody. -/
theorem fits_of_refuse {execute : Step Directive}
    (ensures : execute.Ensures (Directive.Fits nodeType)) :
    Fits nodeType ⟨execute, refuse⟩ :=
  ⟨ensures, fun request answer => ensures_refuse request answer _⟩

theorem fits_of_proceed (plain : nodeType.isBranching = false)
    (noCall : nodeType ≠ .workflow) {directive : Directive}
    (same : directive = .proceed) : directive.Fits nodeType :=
  same ▸ ⟨plain, noCall⟩

/-- A handler that asks nobody and goes on to the next node. -/
theorem fits_of_execute_proceed {execute : Step Directive}
    (plain : nodeType.isBranching = false) (noCall : nodeType ≠ .workflow)
    (ensures : execute.Ensures fun directive => directive = .proceed) :
    Fits nodeType ⟨execute, refuse⟩ :=
  fits_of_refuse (ensures.mono fun _ => fits_of_proceed plain noCall)

/-- A handler that may ask at first, and goes on to the next node when it has
an answer. -/
theorem fits_of_resume_proceed {handler : Handler}
    (plain : nodeType.isBranching = false) (noCall : nodeType ≠ .workflow)
    (execute : handler.execute.Ensures (Directive.Fits nodeType))
    (resume : ∀ request answer, (handler.resume request answer).Ensures
      fun directive => directive = .proceed) : Fits nodeType handler :=
  ⟨execute, fun request answer =>
    (resume request answer).mono fun _ => fits_of_proceed plain noCall⟩

/-- The standard handlers end with directives that fit. -/
theorem standard_fits (nodeType : NodeType) :
    Fits nodeType (standard nodeType) := by
  have jumps : ∀ branching : NodeType, branching.isBranching = true →
      ∀ directive : Directive, (∃ target, directive = .jump target) →
        directive.Fits branching := by
    rintro branching isBranching _ ⟨target, rfl⟩
    exact isBranching
  have calls : ∀ directive : Directive, (∃ call, directive = .call call) →
      directive.Fits .workflow := by
    rintro _ ⟨call, rfl⟩
    rfl
  cases nodeType with
  | assign =>
      exact fits_of_execute_proceed rfl (by decide) (Step.ensures_assignWith _)
  | compute =>
      exact fits_of_execute_proceed rfl (by decide) (Step.ensures_assignWith _)
  | branch => exact fits_of_refuse (Step.ensures_branch.mono (jumps _ rfl))
  | loop => exact fits_of_refuse (Step.ensures_branch.mono (jumps _ rfl))
  | sleep => exact fits_of_execute_proceed rfl (by decide) Step.ensures_pause
  | command =>
      exact fits_of_execute_proceed rfl (by decide) Step.ensures_askModel
  | http =>
      exact fits_of_execute_proceed rfl (by decide) Step.ensures_sendRequest
  | json => exact fits_of_execute_proceed rfl (by decide) Step.ensures_readJson
  | driveFile =>
      exact fits_of_resume_proceed rfl (by decide) Step.ensures_writeOrAsk
        Step.ensures_writeIfConfirmed
  | driveRead =>
      exact fits_of_resume_proceed rfl (by decide) Step.ensures_readOrAsk
        Step.ensures_readAnswered
  | driveSearch =>
      exact fits_of_execute_proceed rfl (by decide) Step.ensures_searchFiles
  | driveList =>
      exact fits_of_execute_proceed rfl (by decide) Step.ensures_listFiles
  | driveFolderList =>
      exact fits_of_execute_proceed rfl (by decide) Step.ensures_listFolders
  | driveSave =>
      exact fits_of_execute_proceed rfl (by decide) Step.ensures_saveFile
  | preview =>
      exact fits_of_execute_proceed rfl (by decide) Step.ensures_announce
  | dialog =>
      exact fits_of_resume_proceed rfl (by decide) Step.ensures_askDialog
        Step.ensures_saveDialog
  | promptValue =>
      exact fits_of_resume_proceed rfl (by decide) Step.ensures_askValue
        Step.ensures_saveValue
  | promptFile => exact ⟨Step.ensures_askFile, Step.ensures_readSelected⟩
  | promptSelection =>
      exact fits_of_resume_proceed rfl (by decide) Step.ensures_askSelection
        Step.ensures_saveSelection
  | workflow => exact fits_of_refuse (Step.ensures_callWorkflow.mono calls)
  | mcp => exact fits_of_execute_proceed rfl (by decide) Step.ensures_callTool
  | ragSync =>
      exact fits_of_execute_proceed rfl (by decide) Step.ensures_syncIndex

end Handler

end Runbook
