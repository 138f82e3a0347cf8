import Runbook.Proofs.Run.ConfirmedWrite
import Runbook.Proofs.Step.Write

/-!
# Nodes that create a file

A node that is to create a file looks its path up, and fails if there is a
file.  It may ask a person then, and it looks the path up once more when it
writes.  It replaces a file exactly if the file has appeared between the two
lookups: only the first one refuses what it finds.
-/

namespace Runbook

namespace Engine

open Step

variable {engine : Engine} {runChild : FrameRunner} {fuel : Nat}
  {scope : Scope} {node : Node} {context : Step.Context} {content : String}
  {before after : Run} {transcript : Run.Transcript}

/-- What a node calls that is to create a file, and how it ends: nothing is
called; the lookup finds a file, or fails; nothing is found, and then nothing
is written, or the content is. -/
inductive Creation (context : Step.Context) (content : String) :
    Step.Transcript → Except Interrupt Flow → Prop
  | unlooked (interrupt : Interrupt) :
      Creation context content [] (.error interrupt)
  | refused {path : String} {reply : Step.Reply (.call (.findFile path))}
      {interrupt : Interrupt} (hasPath : context.HasPath path)
      (taken : reply ≠ some (.ok none))
      (explained : ∀ info, reply = some (.ok (some info)) →
        interrupt = nodeFailure context.node
          (.of s!"file already exists: {info.path}")) :
      Creation context content [⟨.call (.findFile path), reply⟩]
        (.error interrupt)
  | unwritten {path : String} {result : Except Interrupt Flow}
      (hasPath : context.HasPath path) :
      Creation context content [lookup path none] result
  | written {path : String} {rest : Step.Transcript}
      {result : Except Interrupt Flow} (hasPath : context.HasPath path)
      (writing : Writing (context.write path content (mimeType? path)) rest) :
      Creation context content (lookup path none :: rest) result

/-- Once there is an answer, the change is written, or nothing is called. -/
theorem calls_of_interacts_writeIfConfirmed {handler : Handler}
    {state ended : Step.State} {request : PromptRequest} {diff : DiffPrompt}
    {answer : Option String} {result : Except Interrupt Flow}
    (asked : request.prompt = .diff diff)
    (interacts : Interacts engine scope context handler fuel
      (writeIfConfirmed request answer) state before transcript result ended
      after) :
    transcript.calls = [] ∨
      Writing (context.write diff.path diff.proposed (mimeType? diff.path))
        transcript.calls := by
  cases interacts with
  | exhausted | aborted => exact .inl rfl
  | stopped carried | directed carried leads =>
      rw [calls_carried]
      exact calls_of_yields_writeIfConfirmed asked carried
  | unanswered carried | resumed carried =>
      cases (ensures_writeIfConfirmed request answer).value_allowed carried

theorem Interacts.creation (creates : context.Creates)
    {state ended : Step.State} {result : Except Interrupt Flow}
    (interacts : Interacts engine scope context Handler.driveFile fuel
      writeOrAsk state before transcript result ended after) :
    Creation context ((context.properties.get? "content").getD "")
      transcript.calls result := by
  cases interacts with
  | exhausted => exact .unlooked _
  | aborted => exact .unlooked _
  | @stopped _ _ _ _ _ _ stop carried =>
      have creating := creates.creating_of_yields carried
      rw [calls_carried, creating.calls_eq]
      cases creating with
      | unnamed _ unnamed => cases stop <;> exact .unlooked _
      | refused hasPath taken explained =>
          cases stop with
          | failed failure =>
              refine .refused hasPath taken fun info found => ?_
              cases explained info found
              rfl
          | interrupted =>
              refine .refused hasPath taken fun info found => ?_
              cases explained info found
      | writes hasPath writing ends => exact .written hasPath writing
  | directed carried leads =>
      have creating := creates.creating_of_yields carried
      rw [calls_carried, creating.calls_eq]
      cases creating with
      | asks hasPath => cases leads
      | writes hasPath writing ends => exact .written hasPath writing
  | unanswered carried awaits =>
      have creating := creates.creating_of_yields carried
      rw [Run.Transcript.calls_append, calls_carried, awaits.calls_eq,
        List.append_nil, creating.calls_eq]
      cases creating with
      | asks hasPath => exact .unwritten hasPath
      | writes hasPath writing ends => exact absurd rfl (ends _)
  | resumed carried awaits resumes =>
      have creating := creates.creating_of_yields carried
      rw [Run.Transcript.calls_append, Run.Transcript.calls_append,
        calls_carried, awaits.calls_eq, List.append_nil, creating.calls_eq]
      cases creating with
      | asks hasPath =>
          rcases calls_of_interacts_writeIfConfirmed awaits.prompt_eq resumes
            with nothing | writing
          · rw [nothing]
            exact .unwritten hasPath
          · exact .written hasPath writing
      | writes hasPath writing ends => exact absurd rfl (ends _)

/-- How far a node that is to create a file spares the ones that exist. -/
structure SparesExisting (context : Step.Context) (content : String)
    (calls : Step.Transcript) (result : Except Interrupt Target) : Prop where
  /-- The store is asked for the file at the path of the node, and to write
  that file; it is asked for nothing else. -/
  calls_path : ∀ exchange ∈ calls, ∃ path, context.HasPath path ∧
    (exchange.question = .call (.findFile path) ∨
      let write := context.write path content (mimeType? path)
      exchange.question = .call (.createFile write) ∨
        ∃ id, exchange.question = .call (.updateFile id write))
  /-- If the first lookup finds a file, the node fails and does no more. -/
  refuses : ∀ path info rest, calls = lookup path (some info) :: rest →
    rest = [] ∧ result = .error (nodeFailure context.node
      (.of s!"file already exists: {info.path}"))
  /-- A file is created where both lookups have found nothing. -/
  creates_iff : ∀ write,
    (∃ reply, ⟨.call (.createFile write), reply⟩ ∈ calls) ↔
      ∃ path, write = context.write path content (mimeType? path) ∧
        [lookup path none, lookup path none] <+: calls
  /-- A file is replaced where the first lookup has found nothing, and the
  second one finds the file. -/
  updates_iff : ∀ id,
    (∃ write reply, ⟨.call (.updateFile id write), reply⟩ ∈ calls) ↔
      ∃ path info, info.id = id ∧
        [lookup path none, lookup path (some info)] <+: calls

namespace Creation

variable {calls : Step.Transcript} {result : Except Interrupt Flow}

theorem calls_path (creation : Creation context content calls result) :
    ∀ exchange ∈ calls, ∃ path, context.HasPath path ∧
      (exchange.question = .call (.findFile path) ∨
        let write := context.write path content (mimeType? path)
        exchange.question = .call (.createFile write) ∨
          ∃ id, exchange.question = .call (.updateFile id write)) := by
  cases creation with
  | unlooked =>
      intro exchange member
      cases member
  | refused hasPath taken explained | unwritten hasPath =>
      intro exchange member
      cases List.mem_singleton.1 member
      exact ⟨_, hasPath, .inl rfl⟩
  | written hasPath writing =>
      intro exchange member
      refine ⟨_, hasPath, ?_⟩
      rcases List.mem_cons.1 member with rfl | member
      · exact .inl rfl
      · exact writing.question_eq exchange member

theorem creates_iff (creation : Creation context content calls result)
    (write : FileWrite) :
    (∃ reply, ⟨.call (.createFile write), reply⟩ ∈ calls) ↔
      ∃ path, write = context.write path content (mimeType? path) ∧
        [lookup path none, lookup path none] <+: calls := by
  cases creation with
  | unlooked | refused hasPath taken explained | unwritten hasPath =>
      simp [lookup]
  | written hasPath writing =>
      simpa [lookup] using writing.creates_iff write

theorem updates_iff (creation : Creation context content calls result)
    (id : String) :
    (∃ write reply, ⟨.call (.updateFile id write), reply⟩ ∈ calls) ↔
      ∃ path info, info.id = id ∧
        [lookup path none, lookup path (some info)] <+: calls := by
  cases creation with
  | unlooked | refused hasPath taken explained | unwritten hasPath =>
      simp [lookup]
  | written hasPath writing =>
      simpa [lookup] using writing.updates_iff id

theorem refused_of_found (creation : Creation context content calls result)
    {path : String} {info : FileInfo} {rest : Step.Transcript}
    (found : calls = lookup path (some info) :: rest) :
    rest = [] ∧ result = .error (nodeFailure context.node
      (.of s!"file already exists: {info.path}")) := by
  cases creation with
  | unlooked | unwritten | written => cases found
  | refused hasPath taken explained =>
      cases found
      exact ⟨rfl, congrArg Except.error (explained info rfl)⟩

end Creation

/-- A node that is to create a file replaces none, unless the file appears
after the node has looked for it; and a file that is found then makes it
fail. -/
theorem create_spares_existing {properties : OrderedMap String}
    {bindings reached : Variables} {result : Except Interrupt Target}
    {output : Option String}
    (handled : engine.registry.handler? node.nodeType =
      some Handler.driveFile)
    (creates : Context.Creates ⟨node, properties, engine.settings⟩)
    (yields : (engine.driveNode runChild fuel scope node properties
      bindings).Yields before transcript (result, output, reached) after) :
    SparesExisting ⟨node, properties, engine.settings⟩
      ((properties.get? "content").getD "") transcript.calls result := by
  obtain ⟨state, interacts, -, -⟩ := (drives_of_yields yields).exists_interacts
    (Handler.standard_fits .driveFile) (by decide) handled
  have creation := interacts.creation creates
  refine ⟨creation.calls_path, fun path info rest found => ?_,
    creation.creates_iff, creation.updates_iff⟩
  obtain ⟨nothing, failed⟩ := creation.refused_of_found found
  refine ⟨nothing, ?_⟩
  cases result with
  | error interrupt => exact congrArg Except.error (Except.error.inj failed)
  | ok target => cases failed

end Engine

namespace CallSite

open Engine

/-- A node that creates a file, once a person has seen its content. -/
def creating (files : OrderedMap KeptFile) : CallSite (OrderedMap KeptFile) :=
  let properties := .ofList [("path", "a.txt"), ("content", "mine"),
    ("mode", " Create"), ("confirm", "true"), ("saveTo", "file")]
  ⟨⟨""⟩, ⟨"write", .driveFile, properties, ⟨.pastEnd, none, none⟩⟩, properties,
    .empty, .fresh "id" "file",
    ⟨files, fun _ => "id", fun _ => Instant.epoch⟩, 2⟩

theorem creates_creating (files : OrderedMap KeptFile) :
    ((creating files).context attended).Creates :=
  rfl

/-- The file as the store in memory describes it. -/
def noted : FileInfo :=
  ⟨"a.txt", "a.txt", "a.txt", none, none, none⟩

/-- A store with a file at the path. -/
def taken : OrderedMap KeptFile :=
  .ofList [("a.txt", ⟨"theirs", false⟩)]

theorem calls_creating_taken :
    (creating taken).calls attended (Oracle.memory (some "true")) =
      [Step.lookup "a.txt" (some noted)] :=
  rfl

theorem create_spares_existing_creating :
    let site := creating taken
    let oracle := Oracle.memory (some "true")
    let result := (site.executed attended oracle).value.1.1
    (site.context attended).Creates ∧
      SparesExisting (site.context attended)
        ((site.properties.get? "content").getD "")
        (site.calls attended oracle) result ∧
      result = .error (nodeFailure site.node
        (.of "file already exists: a.txt")) := by
  intro site oracle result
  have creates : (site.context attended).Creates := creates_creating _
  have spares := create_spares_existing rfl creates
    (site.yields_executed attended oracle)
  exact ⟨creates, spares, (spares.refuses _ _ _ calls_creating_taken).2⟩

/-- A person who confirms a change while somebody else puts a file at a
path. -/
def meanwhile (path : String) (file : KeptFile) :
    Oracle (OrderedMap KeptFile) :=
  { Oracle.memory none with
    answer := fun _ files => (some "true", files.insert path file) }

theorem calls_creating_meanwhile :
    (creating .empty).calls attended (meanwhile "a.txt" ⟨"theirs", false⟩) =
      [Step.lookup "a.txt" none, Step.lookup "a.txt" (some noted),
        ⟨.call (.updateFile "a.txt"
          ⟨"a.txt", "mine", some "text/plain", false, false⟩),
          some (.ok noted)⟩] :=
  rfl

/-- A file that appears while the change is shown is replaced. -/
theorem create_replaces_file_of_meanwhile :
    let oracle := meanwhile "a.txt" ⟨"theirs", false⟩
    let executed := (creating .empty).executed attended oracle
    ((creating .empty).context attended).Creates ∧
      (∀ request, (oracle.answer request .empty).2.get? "a.txt" =
        some ⟨"theirs", false⟩) ∧
      (∃ write reply, ⟨.call (.updateFile "a.txt" write), reply⟩ ∈
        (creating .empty).calls attended oracle) ∧
      executed.value.1.1 = .ok .pastEnd ∧
      executed.state.services.get? "a.txt" = some ⟨"mine", false⟩ := by
  refine ⟨creates_creating _, fun request => rfl, ?_, rfl, rfl⟩
  rw [calls_creating_meanwhile]
  exact ⟨_, _, .tail _ (.tail _ (.head _))⟩

end CallSite

end Runbook
