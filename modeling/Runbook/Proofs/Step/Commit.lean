import Runbook.Proofs.Step.Reads
import Runbook.Step.Registry

/-!
# Steps that commit at their end

A standard handler first reads, asks and checks, and only then sets variables
and records an output; from there on nothing can stop it.  So a step that
fails, is interrupted, asks a person or describes a call leaves its state as
it found it.
-/

namespace Runbook

/-- Whether a node is done with a directive: it is neither resumed, nor does it
run another workflow first. -/
def Directive.isFinal : Directive → Bool
  | .proceed | .jump _ | .terminate => true
  | .suspend _ | .call _ => false

namespace Step

variable {α β : Type} {allowed : α → Prop} {permitted : β → Prop}

/-! ### Steps that change nothing -/

/-- A step leaves its state as it is, whatever it ends with. -/
structure Keeps (step : Step α) : Prop where
  state_eq : ∀ {context before transcript result after},
    Yields step context before transcript result after → after = before

theorem Reads.keeps {step : Step α} (reads : step.Reads) : step.Keeps where
  state_eq yields := by
    obtain ⟨ended, done⟩ := reads _ _
    exact ((yields_iff_of_done done).1 yields).2.2

theorem Keeps.pure (value : α) : Keeps (Pure.pure value : Step α) :=
  (Reads.pure value).keeps

theorem Keeps.bind {step : Step α} {next : α → Step β} (first : step.Keeps)
    (rest : ∀ value, (next value).Keeps) : (step >>= next).Keeps where
  state_eq yields := by
    rcases yields_bind_iff.1 yields with
      ⟨stop, rfl, start⟩ | ⟨_, _, value, middle, rfl, start, remaining⟩
    · exact first.state_eq start
    · exact ((rest value).state_eq remaining).trans (first.state_eq start)

theorem keeps_failWith (failure : Failure) :
    Keeps (failWith failure : Step α) :=
  ⟨fun yields => (yields_failWith_iff.1 yields).2.2⟩

theorem keeps_fail (message : String) : Keeps (fail message : Step α) :=
  keeps_failWith _

/-- A check may come first. -/
theorem keeps_unless (refused : Prop) [Decidable refused] (message : String)
    {rest : Step α} (keeps : rest.Keeps) :
    Keeps (if refused then fail message >>= fun (_ : PUnit) => rest
      else rest) := by
  split
  · exact (keeps_fail message).bind fun _ => keeps
  · exact keeps

theorem keeps_interrupted : Keeps (throw .interrupted : Step α) :=
  ⟨fun yields => (yields_throw_iff.1 yields).2.2⟩

theorem keeps_query (question : Question) : (query question).Keeps where
  state_eq yields := by
    obtain ⟨-, -, -, same⟩ := yields_query_iff.1 yields
    exact same

theorem keeps_note (message : String) : (note message).Keeps :=
  keeps_query _

theorem keeps_call (serviceCall : ServiceCall) :
    (call serviceCall).Keeps := by
  refine (keeps_query _).bind fun reply => ?_
  rcases reply with _ | result
  · exact keeps_interrupted
  · exact .pure result

theorem keeps_sleep (nanoseconds : Nat) : (sleep nanoseconds).Keeps := by
  refine (keeps_query _).bind fun reply => ?_
  rcases reply with _ | _
  · exact keeps_interrupted
  · exact .pure ()

theorem keeps_within (context : String) (attempt : Except Failure α) :
    (within context attempt).Keeps := by
  cases attempt with
  | ok value => exact .pure value
  | error failure => exact keeps_failWith _

theorem keeps_callWithin (context : String) (serviceCall : ServiceCall) :
    (callWithin context serviceCall).Keeps :=
  (keeps_call serviceCall).bind fun _ => keeps_within context _

theorem keeps_callOrFail (serviceCall : ServiceCall) :
    (callOrFail serviceCall).Keeps := by
  refine (keeps_call serviceCall).bind fun reply => ?_
  cases reply with
  | ok result => exact .pure result
  | error failure => exact keeps_failWith _

theorem keeps_propertyOrEmpty (name : String) :
    (propertyOrEmpty name).Keeps :=
  reads_read.keeps.bind fun _ => .pure _

theorem keeps_property? (name : String) : (property? name).Keeps :=
  (reads_property? name).keeps

theorem keeps_trimmedProperty? (name : String) :
    (trimmedProperty? name).Keeps :=
  (reads_trimmedProperty? name).keeps

theorem keeps_required (name : String) : (required name).Keeps := by
  refine (keeps_property? name).bind fun value => ?_
  cases value with
  | none => exact keeps_fail _
  | some value => exact .pure value

theorem keeps_requiredTrimmed (name : String) :
    (requiredTrimmed name).Keeps :=
  (reads_requiredTrimmed name).keeps

theorem keeps_flag (name : String) : (flag name).Keeps :=
  (keeps_property? name).bind fun _ => .pure _

theorem keeps_items (name : String) : (items name).Keeps :=
  (keeps_property? name).bind fun _ => .pure _

theorem keeps_natural? (name : String) : (natural? name).Keeps := by
  refine (keeps_property? name).bind fun value => ?_
  split
  · exact .pure _
  · split
    · exact .pure _
    · exact keeps_failWith _

theorem keeps_decimal? (name : String) : (decimal? name).Keeps := by
  refine (keeps_property? name).bind fun value => ?_
  split
  · exact .pure _
  · dsimp only
    split
    · exact .pure _
    · exact keeps_failWith _

theorem keeps_json? (name : String) : (json? name).Keeps :=
  (reads_json? name).keeps

theorem keeps_textMap (name : String) (value : Option Json) :
    (textMap name value).Keeps :=
  (reads_textMap name value).keeps

theorem keeps_valueOf? (name : String) : (valueOf? name).Keeps :=
  reads_get.keeps.bind fun _ => .pure _

theorem keeps_mapM {step : α → Step β} (each : ∀ value, (step value).Keeps)
    (values : List α) : (values.mapM step).Keeps := by
  have gathers : ∀ results : List β,
      (List.mapM.loop step values results).Keeps := by
    induction values with
    | nil => exact fun results => .pure _
    | cons value values ih =>
        exact fun results => (each value).bind fun result =>
          ih (result :: results)
  exact gathers []

/-! ### Steps that do not fail -/

/-- A step ends with an allowed value, whatever is replied. -/
structure Delivers (step : Step α) (allowed : α → Prop) : Prop where
  result_eq : ∀ {context before transcript result after},
    Yields step context before transcript result after →
      ∃ value, result = .ok value ∧ allowed value

theorem Delivers.pure {value : α} (holds : allowed value) :
    Delivers (Pure.pure value : Step α) allowed :=
  ⟨fun yields => ⟨value, (yields_pure_iff.1 yields).2.1, holds⟩⟩

theorem Delivers.bind {step : Step α} {next : α → Step β}
    (first : step.Delivers fun _ => True)
    (rest : ∀ value, (next value).Delivers permitted) :
    (step >>= next).Delivers permitted where
  result_eq yields := by
    rcases yields_bind_iff.1 yields with
      ⟨stop, rfl, start⟩ | ⟨_, _, value, _, rfl, -, remaining⟩
    · obtain ⟨_, impossible, -⟩ := first.result_eq start
      cases impossible
    · exact (rest value).result_eq remaining

theorem delivers_read : Delivers (read : Step Context) fun _ => True :=
  ⟨fun yields => ⟨_, (yields_read_iff.1 yields).2.1, trivial⟩⟩

theorem delivers_modify (change : State → State) :
    Delivers (modify change : Step PUnit) fun _ => True :=
  ⟨fun yields => ⟨_, (yields_modify_iff.1 yields).2.1, trivial⟩⟩

theorem delivers_setNamed (property value : String) :
    (setNamed property value).Delivers fun _ => True := by
  have named : (trimmedProperty? property).Delivers fun _ => True :=
    (delivers_read.bind fun _ => .pure trivial).bind fun _ => .pure trivial
  refine named.bind fun name => ?_
  cases name with
  | none => exact .pure trivial
  | some name => exact delivers_modify _

theorem delivers_save (property value : String) :
    (save property value).Delivers fun _ => True :=
  (delivers_setNamed property value).bind fun _ => delivers_modify _

/-! ### Steps that commit -/

/-- A step changes its state only if it ends with a final directive. -/
structure Commits (step : Step Directive) : Prop where
  final_or_eq : ∀ {context before transcript result after},
    Yields step context before transcript result after →
      (∃ directive, result = .ok directive ∧ directive.isFinal) ∨
        after = before

theorem Delivers.commits {step : Step Directive}
    (delivers : step.Delivers fun directive => directive.isFinal) :
    step.Commits :=
  ⟨fun yields => .inl (delivers.result_eq yields)⟩

theorem Keeps.commits {step : Step Directive} (keeps : step.Keeps) :
    step.Commits :=
  ⟨fun yields => .inr (keeps.state_eq yields)⟩

/-- A step commits if its last part does, and the parts before it change
nothing. -/
theorem Keeps.andThen {step : Step α} {next : α → Step Directive}
    (first : step.Keeps) (rest : ∀ value, (next value).Commits) :
    (step >>= next).Commits where
  final_or_eq yields := by
    rcases yields_bind_iff.1 yields with
      ⟨stop, rfl, start⟩ | ⟨_, _, value, middle, rfl, start, remaining⟩
    · exact .inr (first.state_eq start)
    · obtain rfl := first.state_eq start
      exact (rest value).final_or_eq remaining

theorem commits_fail (message : String) : (fail message).Commits :=
  (keeps_fail message).commits

/-- What comes after a failure does not matter. -/
theorem commits_fail_bind (message : String) (next : α → Step Directive) :
    (fail message >>= next).Commits where
  final_or_eq yields := by
    rcases yields_bind_iff.1 yields with
      ⟨stop, rfl, start⟩ | ⟨_, _, value, _, rfl, start, -⟩
    · exact .inr ((keeps_fail message).state_eq start)
    · obtain ⟨-, impossible, -⟩ := yields_failWith_iff.1 start
      cases impossible

theorem commits_suspend (prompt : Prompt) :
    Commits (pure (.suspend prompt)) :=
  (Keeps.pure _).commits

/-- Saving a value and going on is all that comes last in most steps. -/
theorem commits_save (property value : String) :
    Commits (do save property value; return .proceed) :=
  Delivers.commits <| (delivers_save property value).bind fun _ => .pure rfl

/-! ### Variables, branches, waiting and calls -/

theorem commits_assignWith (function : String → String) :
    (assignWith function).Commits :=
  (keeps_requiredTrimmed _).andThen fun _ =>
    (keeps_propertyOrEmpty _).andThen fun _ =>
      Delivers.commits <| (delivers_modify _).bind fun _ =>
        (delivers_modify _).bind fun _ => .pure rfl

theorem commits_branch : branch.Commits :=
  (keeps_propertyOrEmpty _).andThen fun _ =>
    Delivers.commits <| (delivers_modify _).bind fun _ =>
      delivers_read.bind fun _ => .pure rfl

theorem commits_pause : pause.Commits := by
  refine (keeps_decimal? _).andThen fun value => ?_
  unfold waitFor
  dsimp only
  split
  · exact commits_fail_bind _ _
  · split
    · exact commits_fail _
    · exact (keeps_sleep _).andThen fun _ => (Keeps.pure _).commits

theorem commits_callWorkflow : callWorkflow.Commits :=
  reads_callWorkflow.keeps.commits

/-! ### Models, requests and data -/

theorem keeps_tools : tools.Keeps := by
  refine (keeps_json? _).bind fun value => ?_
  split
  · exact .pure _
  · exact .pure _
  · exact .pure _
  · exact keeps_fail _

theorem keeps_attachment (name : String) : (attachment name).Keeps := by
  refine (keeps_valueOf? name).bind fun value => ?_
  cases value with
  | none => exact keeps_fail _
  | some text => exact .pure _

theorem commits_askModel : askModel.Commits :=
  keeps_tools.andThen fun _ =>
    (keeps_items _).andThen fun names =>
      (keeps_mapM keeps_attachment names).andThen fun _ =>
        (keeps_required _).andThen fun _ =>
          (keeps_property? _).andThen fun _ =>
            (keeps_property? _).andThen fun _ =>
              (keeps_callWithin _ _).andThen fun _ => commits_save _ _

theorem keeps_httpRequest : httpRequest.Keeps :=
  (keeps_requiredTrimmed _).bind fun _ =>
    (keeps_trimmedProperty? _).bind fun _ =>
      (keeps_json? _).bind fun _ =>
        (keeps_textMap _ _).bind fun _ =>
          (keeps_property? _).bind fun _ =>
            (keeps_trimmedProperty? _).bind fun _ => .pure _

theorem commits_sendRequest : sendRequest.Commits := by
  refine keeps_httpRequest.andThen fun request => ?_
  refine (keeps_callWithin _ _).andThen fun response => ?_
  refine (keeps_flag _).andThen fun throws => ?_
  dsimp only
  split
  · exact commits_fail_bind _ _
  · exact Delivers.commits <| (delivers_setNamed _ _).bind fun _ =>
      (delivers_save _ _).bind fun _ => .pure rfl

theorem commits_readJson : readJson.Commits := by
  refine (keeps_requiredTrimmed _).andThen fun source => ?_
  refine (keeps_valueOf? _).andThen fun text => ?_
  split
  · exact commits_fail _
  · split
    · exact commits_fail _
    · exact commits_save _ _

theorem commits_callTool : callTool.Commits := by
  refine (keeps_requiredTrimmed _).andThen fun url => ?_
  refine (keeps_requiredTrimmed _).andThen fun tool => ?_
  refine (keeps_json? _).andThen fun arguments => ?_
  refine (keeps_json? _).andThen fun headers => ?_
  refine (keeps_textMap _ _).andThen fun headers => ?_
  refine (keeps_callWithin _ _).andThen fun result => ?_
  split
  · exact commits_save _ _
  · exact commits_save _ _

theorem commits_syncIndex : syncIndex.Commits :=
  (keeps_requiredTrimmed _).andThen fun _ =>
    (keeps_property? _).andThen fun _ =>
      (keeps_callWithin _ _).andThen fun _ => commits_save _ _

/-! ### Files -/

theorem keeps_existingFile (path : String) : (existingFile path).Keeps := by
  refine (keeps_callWithin _ _).bind fun info => ?_
  cases info with
  | none => exact keeps_fail _
  | some info => exact .pure info

theorem keeps_readPlain? (info : FileInfo) : (readPlain? info).Keeps :=
  (keeps_callWithin _ _).bind fun _ => .pure _

theorem keeps_readProtected (prompt : PasswordPrompt)
    (answer : Option String) : (readProtected prompt answer).Keeps := by
  unfold readProtected
  split
  · exact keeps_fail _
  · exact (keeps_callWithin _ _).bind fun _ => keeps_unless _ _ (.pure _)

theorem keeps_writeFile (context path content : String)
    (mimeType : Option String) :
    (writeFile context path content mimeType).Keeps := by
  refine reads_read.keeps.bind fun _ => ?_
  refine (keeps_callOrFail _).bind fun existing => ?_
  cases existing with
  | none => exact keeps_callWithin _ _
  | some info => exact keeps_callWithin _ _

theorem keeps_writeMode : writeMode.Keeps := by
  refine (keeps_trimmedProperty? _).bind fun name => ?_
  split
  · exact .pure _
  · exact .pure _
  · exact .pure _
  · exact .pure _
  · exact keeps_fail _

theorem keeps_currentContent (mode : WriteMode) (path : String)
    (existing : Option FileInfo) :
    (currentContent mode path existing).Keeps := by
  cases existing with
  | none => exact .pure ""
  | some info =>
      unfold currentContent
      refine keeps_unless _ _ ((keeps_readPlain? info).bind fun content => ?_)
      cases content with
      | none => exact keeps_fail _
      | some content => exact .pure content

theorem commits_saveWritten (path content : String) :
    (saveWritten path content).Commits :=
  (keeps_writeFile _ _ _ _).andThen fun _ => commits_save _ _

theorem commits_writeOrAsk : writeOrAsk.Commits := by
  refine (keeps_requiredTrimmed _).andThen fun path => ?_
  refine (keeps_propertyOrEmpty _).andThen fun content => ?_
  refine keeps_writeMode.andThen fun mode => ?_
  refine (keeps_callOrFail _).andThen fun existing => ?_
  refine (keeps_currentContent _ _ _).andThen fun current => ?_
  refine (keeps_flag _).andThen fun confirm => ?_
  split
  · exact commits_suspend _
  · exact commits_saveWritten _ _

theorem commits_writeIfConfirmed (request : PromptRequest)
    (answer : Option String) : (writeIfConfirmed request answer).Commits := by
  unfold writeIfConfirmed
  split
  · split
    · exact commits_saveWritten _ _
    · exact (keeps_note _).andThen fun _ =>
        Delivers.commits <| (delivers_modify _).bind fun _ => .pure rfl
  · exact commits_fail _

theorem commits_readOrAsk : readOrAsk.Commits := by
  refine (keeps_requiredTrimmed _).andThen fun path => ?_
  refine (keeps_existingFile _).andThen fun info => ?_
  refine (keeps_readPlain? _).andThen fun content => ?_
  split
  · exact commits_save _ _
  · exact commits_suspend _

theorem commits_readAnswered (request : PromptRequest)
    (answer : Option String) : (readAnswered request answer).Commits := by
  unfold readAnswered
  split
  · exact (keeps_readProtected _ _).andThen fun _ => commits_save _ _
  · exact commits_fail _

theorem commits_searchFiles : searchFiles.Commits :=
  (keeps_required _).andThen fun _ =>
    (keeps_flag _).andThen fun _ =>
      (keeps_natural? _).andThen fun _ =>
        (keeps_callWithin _ _).andThen fun _ => commits_save _ _

theorem keeps_fileSort : fileSort.Keeps := by
  refine (keeps_trimmedProperty? _).bind fun name => ?_
  split
  · exact .pure _
  · exact .pure _
  · exact .pure _
  · exact keeps_fail _

theorem commits_listFiles : listFiles.Commits :=
  keeps_fileSort.andThen fun _ =>
    (keeps_propertyOrEmpty _).andThen fun _ =>
      (keeps_natural? _).andThen fun _ =>
        (keeps_callWithin _ _).andThen fun _ => commits_save _ _

theorem commits_listFolders : listFolders.Commits :=
  (keeps_propertyOrEmpty _).andThen fun _ =>
    (keeps_callWithin _ _).andThen fun _ => commits_save _ _

theorem commits_saveFile : saveFile.Commits := by
  refine (keeps_requiredTrimmed _).andThen fun source => ?_
  refine (keeps_requiredTrimmed _).andThen fun path => ?_
  refine (keeps_valueOf? _).andThen fun text => ?_
  split
  · exact commits_fail _
  · exact (keeps_writeFile _ _ _ _).andThen fun _ => commits_save _ _

theorem commits_announce : announce.Commits :=
  (keeps_requiredTrimmed _).andThen fun _ =>
    (keeps_existingFile _).andThen fun _ =>
      (keeps_note _).andThen fun _ => commits_save _ _

/-! ### Questions to a person -/

theorem keeps_dialogDefaults : dialogDefaults.Keeps := by
  refine (keeps_json? _).bind fun value => ?_
  split
  · exact .pure _
  · split
    · exact .pure _
    · exact keeps_fail _

theorem commits_askDialog : askDialog.Commits :=
  keeps_dialogDefaults.andThen fun _ =>
    (keeps_propertyOrEmpty _).andThen fun _ =>
    (keeps_propertyOrEmpty _).andThen fun _ =>
    (keeps_items _).andThen fun _ =>
    (keeps_flag _).andThen fun _ =>
    (keeps_property? _).andThen fun _ =>
    (keeps_property? _).andThen fun _ =>
    (keeps_property? _).andThen fun _ =>
    (keeps_flag _).andThen fun _ =>
    (keeps_flag _).andThen fun _ => commits_suspend _

theorem commits_askValue : askValue.Commits :=
  (keeps_property? _).andThen fun _ =>
    (keeps_property? _).andThen fun _ =>
      (keeps_flag _).andThen fun _ => commits_suspend _

theorem commits_askFile : askFile.Commits :=
  (keeps_property? _).andThen fun _ =>
    (keeps_items _).andThen fun _ => commits_suspend _

theorem keeps_selectedFile (answer : String) :
    (selectedFile answer).Keeps := by
  unfold selectedFile
  split
  · split
    · exact .pure _
    · exact keeps_existingFile _
  · exact keeps_existingFile _

theorem commits_saveSelected (info : FileInfo) (content : String) :
    (saveSelected info content).Commits :=
  Delivers.commits <| (delivers_setNamed _ _).bind fun _ =>
    (delivers_save _ _).bind fun _ => .pure rfl

theorem commits_readSelected (request : PromptRequest)
    (answer : Option String) : (readSelected request answer).Commits := by
  unfold readSelected
  split
  · split
    · exact commits_fail _
    · refine (keeps_selectedFile _).andThen fun info => ?_
      refine (keeps_readPlain? _).andThen fun content => ?_
      split
      · exact commits_saveSelected _ _
      · exact commits_suspend _
  · exact (keeps_readProtected _ _).andThen fun _ => commits_saveSelected _ _
  · exact commits_fail _

theorem commits_askSelection : askSelection.Commits :=
  (keeps_property? _).andThen fun _ => commits_suspend _

theorem commits_saveSelection (request : PromptRequest)
    (answer : Option String) : (saveSelection request answer).Commits := by
  unfold saveSelection
  split
  · exact commits_fail _
  · exact commits_save _ _

end Step

namespace Handler

/-- Whatever a handler does, it commits at the end. -/
structure Commits (handler : Handler) : Prop where
  execute : handler.execute.Commits
  resume : ∀ request answer, (handler.resume request answer).Commits

/-- A handler that asks nobody commits if its execution does. -/
theorem commits_of_refuse {execute : Step Directive}
    (commits : execute.Commits) : Commits ⟨execute, refuse⟩ :=
  ⟨commits, fun _ _ => Step.reads_read.keeps.andThen fun _ =>
    Step.commits_fail _⟩

/-- The standard handlers commit at their end. -/
theorem standard_commits (nodeType : NodeType) :
    (standard nodeType).Commits := by
  cases nodeType with
  | assign => exact commits_of_refuse (Step.commits_assignWith _)
  | compute => exact commits_of_refuse (Step.commits_assignWith _)
  | branch => exact commits_of_refuse Step.commits_branch
  | loop => exact commits_of_refuse Step.commits_branch
  | sleep => exact commits_of_refuse Step.commits_pause
  | command => exact commits_of_refuse Step.commits_askModel
  | http => exact commits_of_refuse Step.commits_sendRequest
  | json => exact commits_of_refuse Step.commits_readJson
  | driveFile =>
      exact ⟨Step.commits_writeOrAsk, Step.commits_writeIfConfirmed⟩
  | driveRead => exact ⟨Step.commits_readOrAsk, Step.commits_readAnswered⟩
  | driveSearch => exact commits_of_refuse Step.commits_searchFiles
  | driveList => exact commits_of_refuse Step.commits_listFiles
  | driveFolderList => exact commits_of_refuse Step.commits_listFolders
  | driveSave => exact commits_of_refuse Step.commits_saveFile
  | preview => exact commits_of_refuse Step.commits_announce
  | dialog => exact ⟨Step.commits_askDialog, fun _ _ => Step.commits_save _ _⟩
  | promptValue =>
      exact ⟨Step.commits_askValue, fun _ _ => Step.commits_save _ _⟩
  | promptFile => exact ⟨Step.commits_askFile, Step.commits_readSelected⟩
  | promptSelection =>
      exact ⟨Step.commits_askSelection, Step.commits_saveSelection⟩
  | workflow => exact commits_of_refuse Step.commits_callWorkflow
  | mcp => exact commits_of_refuse Step.commits_callTool
  | ragSync => exact commits_of_refuse Step.commits_syncIndex

end Handler

end Runbook
