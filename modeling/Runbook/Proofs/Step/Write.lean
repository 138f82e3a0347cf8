import Runbook.Proofs.Step.Directive
import Runbook.Proofs.Step.Parts

/-!
# Steps that write a file

A content is put at a path by two calls: the path is looked up, and then the
file that has been found is updated, or one is created.  A node that is to
create a file has looked its path up once before, and stops there unless
nothing has been found.
-/

namespace Runbook

namespace Step

variable {context : Context} {before after : State} {transcript : Transcript}
  {path content message : String} {mimeType : Option String}

/-- What a store is asked to write. -/
def Context.write (context : Context) (path content : String)
    (mimeType : Option String) : FileWrite :=
  ⟨path, content, mimeType, context.settings.editHistory,
    context.settings.encryption⟩

@[simp]
theorem Context.write_path : (context.write path content mimeType).path =
    path :=
  rfl

/-- A path is looked up, and this is found. -/
abbrev lookup (path : String) (existing : Option FileInfo) : Exchange :=
  ⟨.call (.findFile path), some (.ok existing)⟩

/-- The calls that put a content at a path. -/
inductive Writing (write : FileWrite) : Transcript → Prop
  | unsettled {reply : Reply (.call (.findFile write.path))}
      (unknown : ∀ existing, reply ≠ some (.ok existing)) :
      Writing write [⟨.call (.findFile write.path), reply⟩]
  | updates (info : FileInfo)
      (reply : Reply (.call (.updateFile info.id write))) :
      Writing write [lookup write.path (some info),
        ⟨.call (.updateFile info.id write), reply⟩]
  | creates (reply : Reply (.call (.createFile write))) :
      Writing write [lookup write.path none,
        ⟨.call (.createFile write), reply⟩]

/-- Writing takes nothing but calls. -/
theorem Writing.calls_eq {write : FileWrite} {transcript : Transcript}
    (writing : Writing write transcript) : transcript.calls = transcript := by
  cases writing <;> rfl

section Writing

variable {write : FileWrite} {transcript : Transcript}

/-- The store is asked for the file at the path, and to write it. -/
theorem Writing.question_eq (writing : Writing write transcript) :
    ∀ exchange ∈ transcript, exchange.question = .call (.findFile write.path) ∨
      exchange.question = .call (.createFile write) ∨
        ∃ id, exchange.question = .call (.updateFile id write) := by
  cases writing <;> simp

/-- A file is created if the lookup has found nothing. -/
theorem Writing.creates_iff (writing : Writing write transcript)
    (other : FileWrite) :
    (∃ reply, ⟨.call (.createFile other), reply⟩ ∈ transcript) ↔
      other = write ∧ [lookup write.path none] <+: transcript := by
  cases writing with
  | unsettled unknown => simp [lookup, (unknown none).symm]
  | updates info reply => simp [lookup]
  | creates reply => simp [lookup]

/-- A file is replaced if the lookup has found it. -/
theorem Writing.updates_iff (writing : Writing write transcript)
    (id : String) :
    (∃ other reply, ⟨.call (.updateFile id other), reply⟩ ∈ transcript) ↔
      ∃ info, info.id = id ∧
        [lookup write.path (some info)] <+: transcript := by
  cases writing with
  | unsettled unknown => simp [lookup, fun info => (unknown (some info)).symm]
  | updates info reply => simp [lookup, eq_comm]
  | creates reply => simp [lookup]

end Writing

theorem outcome_ne_error {α : Type} {explain : Failure → Failure}
    {reply : Option (Except Failure α)} {stop : Stop}
    (stops : outcome explain reply = .error stop) (value : α) :
    reply ≠ some (.ok value) := by
  rintro rfl
  cases stops

theorem writing_of_yields {result : Except Stop FileInfo}
    (yields : Yields (writeFile message path content mimeType) context before
      transcript result after) :
    Writing (context.write path content mimeType) transcript := by
  have begins : (read : Step Context).program context before =
      .done (.ok context, before) := rfl
  rw [writeFile, yields_bind_iff_of_done begins] at yields
  obtain ⟨reply, rest, rfl, ⟨stop, stops, rfl, -⟩ | ⟨existing, rfl, wrote⟩⟩ :=
    (isCall_callOrFail (.findFile path)).yields_bind yields
  · exact .unsettled (outcome_ne_error stops)
  · cases existing with
    | some info =>
        obtain ⟨reply, rfl, -⟩ := (isCall_callWithin _ _).yields_iff.1 wrote
        exact .updates info reply
    | none =>
        obtain ⟨reply, rfl, -⟩ := (isCall_callWithin _ _).yields_iff.1 wrote
        exact .creates reply

theorem writing_of_yields_saveWritten {result : Except Stop Directive}
    (yields : Yields (saveWritten path content) context before transcript
      result after) :
    Writing (context.write path content (mimeType? path)) transcript := by
  rcases yields_bind_iff.1 yields with
    ⟨stop, -, wrote⟩ | ⟨first, second, info, _, rfl, wrote, saving⟩
  · exact writing_of_yields wrote
  · rw [saveJson, yields_bind_iff_of_done program_save,
      yields_pure_iff] at saving
    obtain ⟨rfl, -⟩ := saving
    rw [List.append_nil]
    exact writing_of_yields wrote

/-! ### Creating a file -/

/-- A node is to create a file. -/
def Context.Creates (context : Context) : Prop :=
  ((context.properties.get? "mode").bind Text.nonBlank?).map
    Text.toLowerAscii = some "create"

/-- A node names a path. -/
def Context.HasPath (context : Context) (path : String) : Prop :=
  (context.properties.get? "path").bind Text.nonBlank? = some path

theorem Context.Creates.program_writeMode (creates : context.Creates) :
    writeMode.program context before = .done (.ok .create, before) := by
  rw [writeMode, program_bind, program_trimmedProperty?]
  dsimp only [Program.pure_bind]
  rw [creates]
  rfl

/-- What a node does that is to create a file, until it asks or ends: it has no
path; the lookup finds a file, or fails; or nothing is found. -/
inductive Creating (context : Context) (content : String) :
    Transcript → Except Stop Directive → Prop
  | unnamed (stop : Stop) (unnamed : ∀ path, ¬ context.HasPath path) :
      Creating context content [] (.error stop)
  | refused {path : String} {reply : Reply (.call (.findFile path))}
      {stop : Stop} (hasPath : context.HasPath path)
      (taken : reply ≠ some (.ok none))
      (explained : ∀ info, reply = some (.ok (some info)) →
        stop = .failed (.of s!"file already exists: {info.path}")) :
      Creating context content [⟨.call (.findFile path), reply⟩] (.error stop)
  | asks {path : String} (hasPath : context.HasPath path) :
      Creating context content [lookup path none]
        (.ok (.suspend (.diff ⟨path, "", content⟩)))
  | writes {path : String} {rest : Transcript}
      {result : Except Stop Directive} (hasPath : context.HasPath path)
      (writing : Writing (context.write path content (mimeType? path)) rest)
      (ends : ∀ prompt, result ≠ .ok (.suspend prompt)) :
      Creating context content (lookup path none :: rest) result

/-- Until it asks or ends, such a node does nothing but call. -/
theorem Creating.calls_eq {result : Except Stop Directive}
    (creating : Creating context content transcript result) :
    transcript.calls = transcript := by
  cases creating with
  | unnamed | refused | asks => rfl
  | writes hasPath writing ends =>
      exact congrArg (lookup _ none :: ·) writing.calls_eq

theorem ne_suspend_of_yields_saveWritten {result : Except Stop Directive}
    (yields : Yields (saveWritten path content) context before transcript
      result after) (prompt : Prompt) : result ≠ .ok (.suspend prompt) := by
  rintro rfl
  cases (ensures_saveWritten path content).value_allowed yields

theorem Context.Creates.creating_of_yields (creates : context.Creates)
    {result : Except Stop Directive}
    (yields : Yields writeOrAsk context before transcript result after) :
    Creating context ((context.properties.get? "content").getD "") transcript
      result := by
  rw [writeOrAsk] at yields
  cases given : (context.properties.get? "path").bind Text.nonBlank? with
  | none =>
      have stopped : (requiredTrimmed "path").program context before = _ :=
        program_requiredTrimmed "path"
      rw [given] at stopped
      obtain ⟨rfl, rfl, -⟩ := (yields_bind_iff_of_stopped stopped).1 yields
      refine .unnamed _ fun path hasPath => ?_
      rw [HasPath, given] at hasPath
      cases hasPath
  | some path =>
      rw [yields_bind_iff_of_done (program_requiredTrimmed_of_some given),
        yields_bind_iff_of_done program_propertyOrEmpty,
        yields_bind_iff_of_done creates.program_writeMode] at yields
      obtain ⟨reply, rest, rfl, ⟨stop, stops, rfl, rfl⟩ |
        ⟨existing, rfl, drafts⟩⟩ :=
          (isCall_callOrFail (.findFile path)).yields_bind yields
      · refine .refused given (outcome_ne_error stops none) fun info found => ?_
        exact absurd found (outcome_ne_error stops _)
      · cases existing with
        | some info =>
            have stopped : (currentContent .create path (some info)).program
                context before = .done (.error (.failed
                  (.of s!"file already exists: {info.path}")), before) := rfl
            obtain ⟨rfl, rfl, -⟩ :=
              (yields_bind_iff_of_stopped stopped).1 drafts
            refine .refused given (by simp) fun other found => ?_
            cases found
            rfl
        | none =>
            have empty : (currentContent .create path none).program context
                before = .done (.ok "", before) := rfl
            rw [yields_bind_iff_of_done empty,
              yields_bind_iff_of_done program_flag] at drafts
            split at drafts
            · obtain ⟨rfl, rfl, -⟩ := yields_pure_iff.1 drafts
              exact .asks given
            · exact .writes given (writing_of_yields_saveWritten drafts)
                (ne_suspend_of_yields_saveWritten drafts)

/-! ### Once a person has answered -/

/-- A change that is confirmed is written; without that, there are no
calls. -/
theorem calls_of_yields_writeIfConfirmed {request : PromptRequest}
    {diff : DiffPrompt} {answer : Option String}
    {result : Except Stop Directive} (asked : request.prompt = .diff diff)
    (yields : Yields (writeIfConfirmed request answer) context before
      transcript result after) :
    transcript.calls = [] ∨
      Writing (context.write diff.path diff.proposed (mimeType? diff.path))
        transcript.calls := by
  rw [writeIfConfirmed, asked] at yields
  dsimp only at yields
  split at yields
  · have writing := writing_of_yields_saveWritten yields
    rw [writing.calls_eq]
    exact .inr writing
  · have noted : (do
          note s!"write to {diff.path} skipped"
          recordOutput "skipped"
          return Directive.proceed : Step Directive).program context before =
        .ask (.note s!"write to {diff.path} skipped") fun _ =>
          .done (.ok .proceed, { before with output := some "skipped" }) := rfl
    rw [Yields, noted, Program.yields_ask_iff] at yields
    obtain ⟨_, rest, rfl, done⟩ := yields
    obtain ⟨rfl, -⟩ := Program.yields_done_iff.1 done
    exact .inl rfl

end Step

end Runbook
