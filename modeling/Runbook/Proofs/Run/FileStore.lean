import Runbook.Proofs.OrderedMap
import Runbook.Proofs.Run.Served
import Runbook.Proofs.Step.Parts
import Runbook.Proofs.Step.Write

/-!
# Writing to a store

A store keeps a content at some paths.  A node that writes a file first finds
out what is kept at its path and drafts the change; then it saves what it has
drafted.  The draft changes nothing, and saving it puts the drafted content at
the path and leaves all other files alone.
-/

namespace Runbook

/-- A file as a store keeps it. -/
structure KeptFile where
  content : String
  isEncrypted : Bool
deriving DecidableEq

namespace Step

/-- The property that names a way to write, and the way. -/
inductive WriteMode.Named : Option String → WriteMode → Prop
  | omitted : Named none .overwrite
  | overwrite : Named (some "overwrite") .overwrite
  | append : Named (some "append") .append
  | create : Named (some "create") .create

/-- The content that a file is to have after a change, by the file before. -/
def WriteMode.proposed (mode : WriteMode) (content : String) :
    Option KeptFile → String
  | some kept => if mode = .append then kept.content ++ content else content
  | none => content

/-- The content before a change; empty if there is no file. -/
def currentText (file : Option KeptFile) : String :=
  (file.map KeptFile.content).getD ""

/-- Only what is appended goes after the content before. -/
theorem WriteMode.proposed_eq (mode : WriteMode) (content : String)
    (file : Option KeptFile) :
    mode.proposed content file =
      if mode = .append then currentText file ++ content else content := by
  cases file <;> simp [proposed, currentText]

/-- A file must not be changed: it exists but was to be created, or it is
encrypted. -/
def Blocked (mode : WriteMode) (file : Option KeptFile) : Prop :=
  ∃ kept ∈ file, mode = .create ∨ kept.isEncrypted = true

/-- A node writes a content to a path in some way. -/
structure Context.Writes (context : Context) (path : String) (mode : WriteMode)
    (content : String) : Prop where
  path_eq : (context.properties.get? "path").bind Text.nonBlank? = some path
  content_eq : (context.properties.get? "content").getD "" = content
  mode_named : WriteMode.Named
    (((context.properties.get? "mode").bind Text.nonBlank?).map
      Text.toLowerAscii) mode

/-- The change that a node asks for. -/
def draft : Step DiffPrompt := do
  let path ← requiredTrimmed "path"
  let content ← propertyOrEmpty "content"
  let mode ← writeMode
  let existing ← callOrFail (.findFile path)
  let current ← currentContent mode path existing
  return ⟨path, current,
    if mode = .append then current ++ content else content⟩

/-- A change is drafted, and then a person is asked or it is saved. -/
theorem writeOrAsk_eq :
    writeOrAsk = (do
      let diff ← draft
      if ← flag "confirm" then return .suspend (.diff diff)
      else saveWritten diff.path diff.proposed) := by
  unfold writeOrAsk draft
  simp only [bind_assoc, pure_bind]

/-! ### Properties of a node -/

variable {context : Context} {state : State} {name path content : String}
  {mode : WriteMode}

theorem Context.Writes.program_path
    (writes : context.Writes path mode content) :
    (requiredTrimmed "path").program context state =
      .done (.ok path, state) :=
  program_requiredTrimmed_of_some writes.path_eq

theorem Context.Writes.program_mode
    (writes : context.Writes path mode content) :
    writeMode.program context state = .done (.ok mode, state) := by
  have named := writes.mode_named
  rw [writeMode, program_bind, program_trimmedProperty?]
  dsimp only [Program.pure_bind]
  generalize ((context.properties.get? "mode").bind Text.nonBlank?).map
    Text.toLowerAscii = text at named ⊢
  cases named <;> rfl

theorem Context.Writes.program_content
    (writes : context.Writes path mode content) :
    (propertyOrEmpty "content").program context state =
      .done (.ok content, state) := by
  rw [← writes.content_eq]
  rfl

/-- Whether a change is to be confirmed does not matter to what the change
is. -/
theorem ignores_draft : draft.Ignores "confirm" := by
  have modes : writeMode.Ignores "confirm" := by
    refine (ignores_trimmedProperty? (by decide)).bind fun text => ?_
    split <;> first | exact .pure _ | exact ignores_fail _
  exact (ignores_requiredTrimmed (by decide)).bind fun _ =>
    (ignores_propertyOrEmpty (by decide)).bind fun _ =>
      modes.bind fun _ => (ignores_callOrFail _).bind fun _ =>
        (ignores_currentContent _ _ _).bind fun _ => .pure _

end Step

namespace Oracle

variable {Services : Type} {oracle : Oracle Services}
  {file? : Services → String → Option KeptFile}
  {context : Step.Context} {held : Step.State} {services later : Services}
  {path content : String} {mode : Step.WriteMode}

/-- All files but the one at a path are as before. -/
def KeepsOthers (file? : Services → String → Option KeptFile)
    (before after : Services) (path : String) : Prop :=
  ∀ other, other ≠ path → file? after other = file? before other

/-- A content is put at a path: the file there has it afterwards, and all other
files are as before. -/
structure Puts (file? : Services → String → Option KeptFile)
    (before after : Services) (path content : String) : Prop where
  content_eq : (file? after path).map KeptFile.content = some content
  keepsOthers : KeepsOthers file? before after path

/-- What a call that writes a file does: it puts the content at the path, or it
fails, which may leave anything there.  All other files are left alone. -/
def Replaces {α : Type} (file? : Services → String → Option KeptFile)
    (before : Services) (write : FileWrite)
    (replied : Except Failure α × Services) : Prop :=
  match replied.1 with
  | .ok _ => Puts file? before replied.2 write.path write.content
  | .error _ => KeepsOthers file? before replied.2 write.path

/-- The services keep files: at each path there is what a function tells.
Looking for a file and reading it change nothing.  To update a file is to
replace its content, and to create one is to add it.  Any call may fail. -/
structure Stores (oracle : Oracle Services)
    (file? : Services → String → Option KeptFile) : Prop where
  find_state : ∀ path services,
    (oracle.call (.findFile path) services).2 = services
  read_state : ∀ id password services,
    (oracle.call (.getFile id password) services).2 = services
  find_isSome : ∀ {path services existing},
    (oracle.call (.findFile path) services).1 = .ok existing →
      existing.isSome = (file? services path).isSome
  read_content : ∀ {path services info kept content},
    (oracle.call (.findFile path) services).1 = .ok (some info) →
      file? services path = some kept →
      (oracle.call (.getFile info.id none) services).1 = .ok content →
      content.encrypted = kept.isEncrypted ∧
        (kept.isEncrypted = false → content.content = kept.content)
  update_replaces : ∀ {services info write},
    (oracle.call (.findFile write.path) services).1 = .ok (some info) →
      Replaces file? services write
        (oracle.call (.updateFile info.id write) services)
  create_replaces : ∀ {services write}, file? services write.path = none →
    Replaces file? services write (oracle.call (.createFile write) services)

/-- A file that is kept in a map is put there. -/
theorem puts_insert (files : OrderedMap KeptFile) (path : String)
    (file : KeptFile) :
    Puts OrderedMap.get? files (files.insert path file) path file.content where
  content_eq := by rw [OrderedMap.get?_insert, if_pos rfl]; rfl
  keepsOthers other different := by
    rw [OrderedMap.get?_insert, if_neg different.symm]

/-- Files in memory, under their paths as ids, and a person who gives an answer
to every prompt. -/
def memory (answer : Option String) : Oracle (OrderedMap KeptFile) :=
  let info (path : String) : FileInfo := ⟨path, path, path, none, none, none⟩
  { call := fun
      | .findFile path, files =>
        (.ok ((files.get? path).map fun _ => info path), files)
      | .getFile id _, files =>
        match files.get? id with
        | some kept =>
          (.ok ⟨info id, if kept.isEncrypted then "" else kept.content,
            kept.isEncrypted⟩, files)
        | none => (.error (.of "no such file"), files)
      | .updateFile id write, files =>
        (.ok (info id), files.insert id ⟨write.content, write.encrypt⟩)
      | .createFile write, files =>
        (.ok (info write.path),
          files.insert write.path ⟨write.content, write.encrypt⟩)
      | _, files => (.error (.of "not a store of files"), files)
    sleep := fun _ files => files
    answer := fun _ files => (answer, files) }

theorem memory_stores (answer : Option String) :
    (memory answer).Stores OrderedMap.get? where
  find_state _ _ := rfl
  read_state id _ files := by
    dsimp only [memory]
    split <;> rfl
  find_isSome := by
    rintro path files _ ⟨⟩
    exact Option.isSome_map
  read_content := by
    intro path files info kept content found isKept replied
    dsimp only [memory] at found replied
    rw [isKept] at found
    cases found
    rw [isKept] at replied
    cases replied
    exact ⟨rfl, fun plain => if_neg (by simp [plain])⟩
  update_replaces := by
    intro files info write found
    dsimp only [memory] at found
    obtain ⟨kept, -, rfl⟩ := Option.map_eq_some_iff.1 (Except.ok.inj found)
    exact puts_insert files _ _
  create_replaces _ := puts_insert _ _ _

/-- A call has failed. -/
def HasFailure (transcript : Step.Transcript) : Prop :=
  ∃ (call : ServiceCall) (failure : Failure),
    ⟨.call call, some (.error failure)⟩ ∈ transcript

/-- A value is obtained that goes into the change of a file, unless the file
must not be changed or a call fails. -/
inductive Obtains {α : Type} (mode : Step.WriteMode) (file : Option KeptFile)
    (value : α) : Step.Transcript → Except Step.Stop α → Prop
  | blocked {transcript : Step.Transcript} {failure : Failure}
      (blocked : Step.Blocked mode file) :
      Obtains mode file value transcript (.error (.failed failure))
  | failed {transcript : Step.Transcript} {failure : Failure}
      (hasFailure : HasFailure transcript) :
      Obtains mode file value transcript (.error (.failed failure))
  | free {transcript : Step.Transcript} (free : ¬ Step.Blocked mode file) :
      Obtains mode file value transcript (.ok value)

/-- What comes of saving a content. -/
inductive Saves (file? : Services → String → Option KeptFile)
    (before after : Services) (path content : String) :
    Step.Transcript → Except Step.Stop Directive → Prop
  | failed {transcript : Step.Transcript} {failure : Failure}
      (hasFailure : HasFailure transcript)
      (keepsOthers : KeepsOthers file? before after path) :
      Saves file? before after path content transcript
        (.error (.failed failure))
  | saved {transcript : Step.Transcript}
      (puts : Puts file? before after path content) :
      Saves file? before after path content transcript (.ok .proceed)

theorem Stores.call_find (stores : oracle.Stores file?)
    {reply : Except Failure (Option FileInfo)}
    (replied : (oracle.call (.findFile path) services).1 = reply) :
    oracle.call (.findFile path) services = (reply, services) :=
  Prod.ext replied (stores.find_state path services)

theorem Stores.call_read (stores : oracle.Stores file?) {id : String}
    {password : Option String} {reply : Except Failure FileContent}
    (replied : (oracle.call (.getFile id password) services).1 = reply) :
    oracle.call (.getFile id password) services = (reply, services) :=
  Prod.ext replied (stores.read_state id password services)

theorem Stores.file?_eq_none (stores : oracle.Stores file?)
    (found : (oracle.call (.findFile path) services).1 = .ok none) :
    file? services path = none := by
  have isThere := stores.find_isSome found
  rwa [Option.isSome_none, eq_comm, Option.isSome_eq_false_iff,
    Option.isNone_iff_eq_none] at isThere

theorem Stores.exists_file (stores : oracle.Stores file?) {info : FileInfo}
    (found : (oracle.call (.findFile path) services).1 = .ok (some info)) :
    ∃ kept, file? services path = some kept := by
  have isThere := stores.find_isSome found
  rwa [Option.isSome_some, eq_comm, Option.isSome_iff_exists] at isThere

/-! ### Drafts -/

theorem hasFailure_singleton {call : ServiceCall} {failure : Failure} :
    HasFailure [⟨.call call, some (.error failure)⟩] :=
  ⟨call, failure, List.mem_singleton_self _⟩

theorem HasFailure.cons {transcript : Step.Transcript}
    (hasFailure : HasFailure transcript) (exchange : Step.Exchange) :
    HasFailure (exchange :: transcript) := by
  obtain ⟨call, failure, member⟩ := hasFailure
  exact ⟨call, failure, List.mem_cons_of_mem _ member⟩

theorem HasFailure.append {transcript : Step.Transcript}
    (hasFailure : HasFailure transcript) (before : Step.Transcript) :
    HasFailure (before ++ transcript) := by
  obtain ⟨call, failure, member⟩ := hasFailure
  exact ⟨call, failure, List.mem_append_right before member⟩

theorem HasFailure.calls {transcript : Step.Transcript}
    (hasFailure : HasFailure transcript) : HasFailure transcript.calls := by
  obtain ⟨call, failure, member⟩ := hasFailure
  exact ⟨call, failure, List.mem_filter.2 ⟨member, rfl⟩⟩

theorem HasFailure.exists_called {scope : Engine.Scope} {node : Node}
    {run : Run} {transcript : Step.Transcript}
    (hasFailure : HasFailure transcript) :
    ∃ call failure, Activity.called call (.error failure) ∈
      Run.Transcript.activities
        (transcript.map (Engine.relay scope node run)) := by
  obtain ⟨call, failure, member⟩ := hasFailure
  exact ⟨call, failure, called_mem_activities_iff.2 member⟩

theorem Obtains.cons {α : Type} {value : α} {file : Option KeptFile}
    {transcript : Step.Transcript} {result : Except Step.Stop α}
    (obtains : Obtains mode file value transcript result)
    (exchange : Step.Exchange) :
    Obtains mode file value (exchange :: transcript) result := by
  cases obtains with
  | blocked blocked => exact .blocked blocked
  | failed hasFailure => exact .failed (hasFailure.cons exchange)
  | free free => exact .free free

/-- The content of a file that is kept is read, unless it is encrypted or the
call fails. -/
theorem Stores.serve_readPlain? (stores : oracle.Stores file?)
    (context : Step.Context) (held : Step.State) {info : FileInfo}
    {kept : KeptFile}
    (found : (oracle.call (.findFile path) services).1 = .ok (some info))
    (isKept : file? services path = some kept) :
    ∃ transcript result,
      oracle.serve (Step.readPlain? info) context held services =
        ⟨transcript, (result, held), services⟩ ∧
      (result = .ok (if kept.isEncrypted then none else some kept.content) ∨
        HasFailure transcript ∧
          ∃ failure, result = .error (.failed failure)) := by
  cases replied : (oracle.call (.getFile info.id none) services).1 with
  | error failure =>
      exact ⟨_, _, serve_call_bind_of_error (Step.isCall_callWithin _ _)
        (stores.call_read replied), .inr ⟨hasFailure_singleton, _, rfl⟩⟩
  | ok file =>
      refine ⟨_, _, serve_call_bind_of_ok (Step.isCall_callWithin _ _)
        (stores.call_read replied) rfl, .inl ?_⟩
      obtain ⟨encrypted, plain⟩ := stores.read_content found isKept replied
      rw [encrypted]
      cases isEncrypted : kept.isEncrypted with
      | true => rfl
      | false => rw [plain isEncrypted]

theorem Stores.serve_currentContent (stores : oracle.Stores file?)
    (context : Step.Context) (held : Step.State) (mode : Step.WriteMode)
    {existing : Option FileInfo}
    (found : (oracle.call (.findFile path) services).1 = .ok existing) :
    ∃ transcript result,
      oracle.serve (Step.currentContent mode path existing) context held
          services =
        ⟨transcript, (result, held), services⟩ ∧
      Obtains mode (file? services path)
        (Step.currentText (file? services path)) transcript result := by
  cases existing with
  | none =>
      rw [stores.file?_eq_none found]
      exact ⟨[], .ok "", rfl, .free (by simp [Step.Blocked])⟩
  | some info =>
      obtain ⟨kept, isKept⟩ := stores.exists_file found
      rw [isKept]
      simp only [Step.currentContent]
      by_cases create : mode = .create
      · rw [if_pos create]
        exact ⟨[], _, rfl, .blocked ⟨kept, rfl, .inl create⟩⟩
      · rw [if_neg create]
        obtain ⟨transcript, result, read, rfl | ⟨hasFailure, failure, rfl⟩⟩ :=
          stores.serve_readPlain? context held found isKept
        · cases isEncrypted : kept.isEncrypted with
          | true =>
              rw [isEncrypted] at read
              exact ⟨_, _, serve_bind_of_ok read _,
                .blocked ⟨kept, rfl, .inr isEncrypted⟩⟩
          | false =>
              rw [isEncrypted] at read
              exact ⟨_, _, serve_bind_of_ok read _,
                .free (by simp [Step.Blocked, create, isEncrypted])⟩
        · exact ⟨_, _, serve_bind_of_error read _, .failed hasFailure⟩

/-- A change is drafted without changing anything. -/
theorem Stores.serve_draft (stores : oracle.Stores file?)
    (writes : context.Writes path mode content) :
    ∃ transcript result,
      oracle.serve Step.draft context held services =
        ⟨transcript, (result, held), services⟩ ∧
      Obtains mode (file? services path)
        ⟨path, Step.currentText (file? services path),
          mode.proposed content (file? services path)⟩ transcript result := by
  rw [Step.draft, serve_bind_of_done writes.program_path,
    serve_bind_of_done writes.program_content,
    serve_bind_of_done writes.program_mode]
  have isCall := Step.isCall_callOrFail (.findFile path)
  cases replied : (oracle.call (.findFile path) services).1 with
  | error failure =>
      exact ⟨_, _, serve_call_bind_of_error isCall (stores.call_find replied),
        .failed hasFailure_singleton⟩
  | ok existing =>
      obtain ⟨transcript, result, served, obtains⟩ :=
        stores.serve_currentContent context held mode replied
      cases obtains with
      | blocked blocked =>
          exact ⟨_, _, serve_call_bind_of_ok isCall (stores.call_find replied)
            (serve_bind_of_error served _), .blocked blocked⟩
      | failed hasFailure =>
          exact ⟨_, _, serve_call_bind_of_ok isCall (stores.call_find replied)
            (serve_bind_of_error served _), .failed (hasFailure.cons _)⟩
      | free free =>
          rw [Step.WriteMode.proposed_eq]
          exact ⟨_, _, serve_call_bind_of_ok isCall (stores.call_find replied)
            (serve_bind_of_ok served _), .free free⟩

/-! ### Saving -/

/-- What comes of writing a file: a call fails, and all other files are left
alone; or the content is put at the path, by the call that creates a file if
there is none, and by the one that updates a file if there is one. -/
inductive Wrote (file? : Services → String → Option KeptFile)
    (before after : Services) (write : FileWrite) :
    Step.Transcript → Except Step.Stop FileInfo → Prop
  | failed {transcript : Step.Transcript} {failure : Failure}
      (hasFailure : HasFailure transcript)
      (keepsOthers : KeepsOthers file? before after write.path) :
      Wrote file? before after write transcript (.error (.failed failure))
  | created {info : FileInfo} (unknown : file? before write.path = none)
      (puts : Puts file? before after write.path write.content) :
      Wrote file? before after write
        [Step.lookup write.path none,
          ⟨.call (.createFile write), some (.ok info)⟩] (.ok info)
  | updated {existing info : FileInfo} {kept : KeptFile}
      (known : file? before write.path = some kept)
      (puts : Puts file? before after write.path write.content) :
      Wrote file? before after write
        [Step.lookup write.path (some existing),
          ⟨.call (.updateFile existing.id write), some (.ok info)⟩] (.ok info)

theorem Wrote.calls {before after : Services} {write : FileWrite}
    {transcript : Step.Transcript} {written : Except Step.Stop FileInfo}
    (wrote : Wrote file? before after write transcript written) :
    Wrote file? before after write transcript.calls written := by
  cases wrote with
  | failed hasFailure keepsOthers => exact .failed hasFailure.calls keepsOthers
  | created unknown puts => exact .created unknown puts
  | updated known puts => exact .updated known puts

theorem Replaces.cases {α : Type} {before : Services} {write : FileWrite}
    {replied : Except Failure α × Services}
    (replaces : Replaces file? before write replied) :
    (∃ failure later, replied = (.error failure, later) ∧
        KeepsOthers file? before later write.path) ∨
      ∃ value later, replied = (.ok value, later) ∧
        Puts file? before later write.path write.content := by
  obtain ⟨failure | value, later⟩ := replied
  · exact .inl ⟨failure, later, rfl, replaces⟩
  · exact .inr ⟨value, later, rfl, replaces⟩

/-- A content is written by a call that depends on whether there is a file. -/
theorem Stores.serve_writeFile (stores : oracle.Stores file?)
    (context : Step.Context) (held : Step.State) (services : Services)
    (message path content : String) (mimeType : Option String) :
    ∃ transcript result later,
      oracle.serve (Step.writeFile message path content mimeType) context held
          services =
        ⟨transcript, (result, held), later⟩ ∧
      Wrote file? services later (context.write path content mimeType)
        transcript result := by
  have begins : (MonadReaderOf.read : Step Step.Context).program context held =
      .done (.ok context, held) := rfl
  have isCall := Step.isCall_callOrFail (.findFile path)
  let write := context.write path content mimeType
  have creates := Step.isCall_callWithin message (.createFile write)
  have updates (id : String) :=
    Step.isCall_callWithin message (.updateFile id write)
  rw [Step.writeFile]
  refine (serve_bind_of_done begins _).symm ▸ ?_
  cases replied : (oracle.call (.findFile path) services).1 with
  | error failure =>
      exact ⟨_, _, _, serve_call_bind_of_error isCall
        (stores.call_find replied), .failed hasFailure_singleton
          fun _ _ => rfl⟩
  | ok existing =>
      cases existing with
      | some existing =>
          obtain ⟨kept, known⟩ := stores.exists_file replied
          have replaces : Replaces file? services write _ :=
            stores.update_replaces replied
          obtain ⟨failure, later, wrote, keeps⟩ | ⟨info, later, wrote, puts⟩ :=
            replaces.cases
          · exact ⟨_, _, _, serve_call_bind_of_ok isCall
              (stores.call_find replied) (serve_of_isCall (updates _) wrote),
              .failed (hasFailure_singleton.cons _) keeps⟩
          · exact ⟨_, _, _, serve_call_bind_of_ok isCall
              (stores.call_find replied) (serve_of_isCall (updates _) wrote),
              .updated known puts⟩
      | none =>
          have unknown := stores.file?_eq_none replied
          have replaces : Replaces file? services write _ :=
            stores.create_replaces unknown
          obtain ⟨failure, later, wrote, keeps⟩ | ⟨info, later, wrote, puts⟩ :=
            replaces.cases
          · exact ⟨_, _, _, serve_call_bind_of_ok isCall
              (stores.call_find replied) (serve_of_isCall creates wrote),
              .failed (hasFailure_singleton.cons _) keeps⟩
          · exact ⟨_, _, _, serve_call_bind_of_ok isCall
              (stores.call_find replied) (serve_of_isCall creates wrote),
              .created unknown puts⟩

/-- A content is saved by writing it, whether there is a file or not. -/
theorem Stores.serve_saveWritten (stores : oracle.Stores file?)
    (context : Step.Context) (held : Step.State) (services : Services)
    (path content : String) :
    ∃ transcript result reached later,
      oracle.serve (Step.saveWritten path content) context held services =
        ⟨transcript, (result, reached), later⟩ ∧
      Saves file? services later path content transcript result := by
  obtain ⟨transcript, result, later, served, wrote⟩ :=
    stores.serve_writeFile context held services
      s!"failed to write '{path}'" path content (Step.mimeType? path)
  cases wrote with
  | failed hasFailure keepsOthers =>
      exact ⟨_, _, _, _, serve_bind_of_error served _,
        .failed hasFailure keepsOthers⟩
  | created unknown puts | updated known puts =>
      exact ⟨_, _, _, _,
        serve_bind_of_ok_of_done served Step.program_save_proceed,
        .saved puts⟩

end Oracle

end Runbook
