import Runbook.Proofs.Run.ConfirmedWrite
import Runbook.Proofs.Step.Parts

/-!
# Files that a person picks

A node that has a file picked saves the content of the file, and what describes
it.  If the file is encrypted, a person is asked for the password, and the
description is made of what this prompt carries: the id and the path.  It is
the one of the file as the store describes it if the store names files by the
last parts of their paths.  A file that is picked by its id alone has no path,
and there the two descriptions differ.
-/

namespace Runbook

namespace Step

variable {context : Context} {state : State}

/-- The state after a file has been saved that a person has picked. -/
def stored (context : Context) (info : FileInfo) (content : String)
    (state : State) : State :=
  saved context "saveTo" content
    (named context "saveFileTo" (fileDescriptor info).render state)

theorem program_saveSelected {info : FileInfo} {content : String} :
    (saveSelected info content).program context state =
      .done (.ok .proceed, stored context info content state) := by
  rw [saveSelected, program_bind, program_setNamed]
  dsimp only [Program.pure_bind]
  rw [program_bind, program_save]
  rfl

/-- An answer selects a file by its id, and gives no path. -/
def IsIdAlone (answer : String) : Prop :=
  ∃ id, id ≠ "" ∧
    Wire.read? DriveFileSelection.decode answer = some ⟨id, ""⟩

/-- What describes a file goes through a password prompt unchanged where the
name of the file is the last part of its path. -/
theorem fileDescriptor_promptedFile {info : FileInfo}
    (name_eq : info.name = Text.afterLast '/' info.path) :
    fileDescriptor (promptedFile (passwordPrompt info)) =
      fileDescriptor info := by
  simp only [fileDescriptor, promptedFile, passwordPrompt, name_eq]

end Step

namespace Oracle

variable {Services : Type} {oracle : Oracle Services}
  {answer content : String} {info : FileInfo} {file : FileContent}
  {services picked found later : Services}

/-- The file that an answer names: the one that is found at a path, or the one
with an id, which is not looked up. -/
inductive Names (oracle : Oracle Services) (answer : String)
    (services : Services) : FileInfo → Services → Prop
  | path {selection : DriveFileSelection} {info : FileInfo} {found : Services}
      (selects : Wire.read? DriveFileSelection.decode answer = some selection)
      (hasPath : selection.path ≠ "")
      (finds : oracle.call (.findFile selection.path) services =
        (.ok (some info), found)) :
      Names oracle answer services info found
  | id {id : String}
      (selects : Wire.read? DriveFileSelection.decode answer =
        some ⟨id, ""⟩) :
      Names oracle answer services ⟨id, id, "", none, none, none⟩ services
  | text {info : FileInfo} {found : Services}
      (selectsNot : Wire.read? DriveFileSelection.decode answer = none)
      (finds : oracle.call (.findFile (Text.trim answer)) services =
        (.ok (some info), found)) :
      Names oracle answer services info found

/-- A person answers a prompt for a file, the answer names a file, and this is
what the store replies if it is read without a password. -/
def Picks (oracle : Oracle Services) (answer : String) (info : FileInfo)
    (file : FileContent) (services later : Services) : Prop :=
  ∃ picked found,
    (∀ request prompt, request.prompt = .driveFile prompt →
      oracle.answer request services = (some answer, picked)) ∧
    oracle.Names answer picked info found ∧
    oracle.call (.getFile info.id none) found = (.ok file, later)

/-- A person answers a prompt for a password, and this is what the store
replies if a file is read with it. -/
def Unlocks (oracle : Oracle Services) (id : String) (file : FileContent)
    (services : Services) : Prop :=
  ∃ password asked later,
    (∀ request prompt, request.prompt = .password prompt →
      oracle.answer request services = (some password, asked)) ∧
    oracle.call (.getFile id (some password)) asked = (.ok file, later)

/-- A person picks a file that can be read without a password. -/
def PicksPlain (oracle : Oracle Services) (answer : String) (info : FileInfo)
    (content : String) (services : Services) : Prop :=
  ∃ file later, oracle.Picks answer info file services later ∧
    file.encrypted = false ∧ file.content = content

/-- A person picks an encrypted file, and gives the right password. -/
def PicksEncrypted (oracle : Oracle Services) (answer : String)
    (info : FileInfo) (content : String) (services : Services) : Prop :=
  ∃ file later opened, oracle.Picks answer info file services later ∧
    file.encrypted = true ∧ oracle.Unlocks info.id opened later ∧
    opened.encrypted = false ∧ opened.content = content

/-- Files are named by the last parts of their paths. -/
def NamesByPath (oracle : Oracle Services) : Prop :=
  ∀ path services info later,
    oracle.call (.findFile path) services = (.ok (some info), later) →
      info.name = Text.afterLast '/' info.path

/-- Only a file that is picked by its id alone goes by another name. -/
theorem Names.name_eq (names : oracle.Names answer services info found)
    (namesByPath : oracle.NamesByPath) (hasPath : ¬ Step.IsIdAlone answer) :
    info.name = Text.afterLast '/' info.path := by
  cases names with
  | path selects _ finds | text selects finds => exact namesByPath _ _ _ _ finds
  | @id id selects =>
      by_cases empty : id = ""
      · subst empty
        rfl
      · exact absurd ⟨id, empty, selects⟩ hasPath

theorem serve_existingFile (context : Step.Context) (held : Step.State)
    {path : String}
    (finds : oracle.call (.findFile path) services = (.ok (some info), found)) :
    ∃ transcript,
      oracle.serve (Step.existingFile path) context held services =
        ⟨transcript, (.ok info, held), found⟩ :=
  ⟨_, serve_call_bind_of_ok (Step.isCall_callWithin _ _) finds rfl⟩

theorem Names.serve_selectedFile
    (names : oracle.Names answer services info found)
    (context : Step.Context) (held : Step.State) :
    ∃ transcript,
      oracle.serve (Step.selectedFile answer) context held services =
        ⟨transcript, (.ok info, held), found⟩ := by
  unfold Step.selectedFile
  cases names with
  | path selects hasPath finds =>
      rw [selects]
      dsimp only
      rw [if_neg (by simpa using hasPath)]
      exact serve_existingFile context held finds
  | id selects =>
      rw [selects]
      exact ⟨[], rfl⟩
  | text selectsNot finds =>
      rw [selectsNot]
      exact serve_existingFile context held finds

theorem serve_readPlain? (context : Step.Context) (held : Step.State)
    (reads : oracle.call (.getFile info.id none) services =
      (.ok file, later)) :
    ∃ transcript,
      oracle.serve (Step.readPlain? info) context held services =
        ⟨transcript, (.ok (if file.encrypted then none else some file.content),
          held), later⟩ :=
  ⟨_, serve_call_bind_of_ok (Step.isCall_callWithin _ _) reads rfl⟩

variable {request : PromptRequest}

/-- A file is stored at once, unless it is encrypted: then a password is asked
for. -/
theorem Names.serve_readSelected {prompt : DriveFilePrompt}
    (names : oracle.Names answer services info found)
    (context : Step.Context) (held : Step.State)
    (reads : oracle.call (.getFile info.id none) found = (.ok file, later))
    (asked : request.prompt = .driveFile prompt) :
    ∃ transcript,
      oracle.serve (Step.readSelected request (some answer)) context held
          services =
        ⟨transcript,
          if file.encrypted then
            (.ok (.suspend (.password (Step.passwordPrompt info))), held)
          else (.ok .proceed, Step.stored context info file.content held),
          later⟩ := by
  obtain ⟨first, selected⟩ := names.serve_selectedFile context held
  obtain ⟨second, isRead⟩ := serve_readPlain? context held reads
  unfold Step.readSelected
  rw [asked]
  dsimp only
  rw [serve_bind_of_ok selected]
  dsimp only
  rw [serve_bind_of_ok isRead]
  cases encrypted : file.encrypted with
  | true => exact ⟨_, rfl⟩
  | false =>
      simp only [Bool.false_eq_true, if_false,
        serve_of_done Step.program_saveSelected]
      exact ⟨_, rfl⟩

/-- A file that is read with its password is stored, with what the prompt for
the password carries. -/
theorem serve_readSelected_of_password (context : Step.Context)
    (held : Step.State) {prompt : PasswordPrompt} {password : String}
    (reads : oracle.call (.getFile prompt.fileId (some password)) services =
      (.ok file, later))
    (plain : file.encrypted = false)
    (asked : request.prompt = .password prompt) :
    ∃ transcript,
      oracle.serve (Step.readSelected request (some password)) context held
          services =
        ⟨transcript, (.ok .proceed,
          Step.stored context (Step.promptedFile prompt) file.content held),
          later⟩ := by
  have isRead : ∃ transcript,
      oracle.serve (Step.readProtected prompt (some password)) context held
        services = ⟨transcript, (.ok file.content, held), later⟩ := by
    refine ⟨[⟨.call (.getFile prompt.fileId (some password)),
      some (.ok file)⟩],
      serve_call_bind_of_ok (Step.isCall_callWithin _ _) reads ?_⟩
    simp only [plain, Bool.false_eq_true, if_false]
    rfl
  obtain ⟨transcript, isRead⟩ := isRead
  unfold Step.readSelected
  rw [asked]
  dsimp only
  rw [serve_bind_of_ok isRead]
  dsimp only
  rw [serve_of_done Step.program_saveSelected]
  exact ⟨_, rfl⟩

end Oracle

namespace CallSite

open Engine

section Sites

variable {Services Others : Type} {engine : Engine}
  {oracle : Oracle Services} {other : Oracle Others} {site : CallSite Services}
  {plain : CallSite Services} {locked : CallSite Others}
  {answer content : String} {info : FileInfo}

/-- What comes of a node whose handler leads somewhere. -/
theorem executed_of_leads {handler : Handler} {target : Target}
    {ended : Step.State}
    (handled : engine.registry.handler? site.node.nodeType = some handler)
    (leads : oracle.Leads engine site.scope (site.context engine) handler
      site.fuel handler.execute site.held site.state.services
      (.ok (.jump target)) ended) :
    (site.executed engine oracle).value.1 =
      (.ok target, ended.output, ended.bindings) := by
  obtain ⟨exchanges, after, left, ran⟩ := leads site.run site.state rfl
  have jumped : Except.ok (Flow.jump target) =
      (Except.ok target : Except Interrupt Target).map Flow.jump := rfl
  rw [jumped] at ran
  have driven : site.executed engine oracle = _ :=
    Oracle.run_driveNode_of_jump handled ran
  rw [driven]

/-- A person is asked to pick a file, and may be asked for a password. -/
structure PicksFile (site : CallSite Services) (engine : Engine) : Prop where
  handled : engine.registry.handler? site.node.nodeType =
    some Handler.promptFile
  available : engine.hasPrompts = true
  /-- A step and two continuations may be taken. -/
  enough : 3 ≤ site.fuel

/-- What comes of a node that stores a file with a description. -/
def stores (site : CallSite Services) (engine : Engine) (info : FileInfo)
    (content : String) : Except Interrupt Target × Option String × Variables :=
  let state := Step.stored (site.context engine) info content site.held
  (.ok site.node.jumps.next, state.output, state.bindings)

theorem result_stores (site : CallSite Services) (engine : Engine)
    (info : FileInfo) (content : String) :
    (site.stores engine info content).1 = .ok site.node.jumps.next :=
  rfl

theorem output_stores (site : CallSite Services) (engine : Engine)
    (info : FileInfo) (content : String) :
    (site.stores engine info content).2.1 = some content :=
  rfl

/-- Only the description depends on how the file is described. -/
theorem get?_stores (site : CallSite Services) (engine : Engine)
    (info : FileInfo) (content : String) {name : String}
    (different : (site.properties.get? "saveFileTo").bind Text.nonBlank? ≠
      some name) :
    (site.stores engine info content).2.2.get? name =
      if (site.properties.get? "saveTo").bind Text.nonBlank? = some name then
        some content
      else site.bindings.get? name := by
  simp only [stores, Step.stored, Step.get?_saved, Step.get?_named, context,
    held, if_neg different]

theorem serve_askFile (oracle : Oracle Services) (context : Step.Context)
    (held : Step.State) (services : Services) :
    ∃ prompt, oracle.serve Step.askFile context held services =
      ⟨[], (.ok (.suspend (.driveFile prompt)), held), services⟩ :=
  ⟨_, rfl⟩

/-- A node that asks for a file goes on with the answer. -/
theorem PicksFile.executed_of_answer (picksFile : site.PicksFile engine)
    {fuel : Nat} (fuel_eq : site.fuel = fuel + 1) {picked : Services}
    (answers : ∀ request prompt, request.prompt = .driveFile prompt →
      oracle.answer request site.state.services = (some answer, picked))
    {target : Target} {ended : Step.State}
    (resumes : ∀ request prompt, request.prompt = .driveFile prompt →
      oracle.Leads engine site.scope (site.context engine) Handler.promptFile
        fuel (Step.readSelected request (some answer)) site.held picked
        (.ok (.jump target)) ended) :
    (site.executed engine oracle).value.1 =
      (.ok target, ended.output, ended.bindings) := by
  obtain ⟨prompt, asks⟩ :=
    serve_askFile oracle (site.context engine) site.held site.state.services
  refine executed_of_leads picksFile.handled ?_
  rw [fuel_eq]
  exact Oracle.leads_of_suspend picksFile.available asks
    (fun request => answers request prompt)
    fun request => resumes request prompt

/-- A file that needs no password is stored as it is described. -/
theorem PicksFile.executed_of_plain (picksFile : site.PicksFile engine)
    (plain : oracle.PicksPlain answer info content site.state.services) :
    (site.executed engine oracle).value.1 =
      site.stores engine info content := by
  obtain ⟨file, later, ⟨picked, found, answers, names, reads⟩, isPlain, rfl⟩ :=
    plain
  obtain ⟨fuel, same⟩ := Nat.exists_eq_add_of_le' picksFile.enough
  refine picksFile.executed_of_answer same answers
    fun request prompt asked => ?_
  obtain ⟨transcript, served⟩ :=
    names.serve_readSelected (site.context engine) site.held reads asked
  rw [isPlain] at served
  exact Oracle.leads_of_proceed served

/-- A file that needs a password is stored with what the prompt for it
carries. -/
theorem PicksFile.executed_of_encrypted (picksFile : site.PicksFile engine)
    (encrypted : oracle.PicksEncrypted answer info content
      site.state.services) :
    (site.executed engine oracle).value.1 =
      site.stores engine (Step.promptedFile (Step.passwordPrompt info))
        content := by
  obtain ⟨file, later, opened, ⟨picked, found, answers, names, reads⟩,
    isEncrypted, ⟨password, asked, left, replies, readsAgain⟩, isPlain, rfl⟩ :=
      encrypted
  obtain ⟨fuel, same⟩ := Nat.exists_eq_add_of_le' picksFile.enough
  refine picksFile.executed_of_answer same answers
    fun request prompt asked => ?_
  obtain ⟨transcript, served⟩ :=
    names.serve_readSelected (site.context engine) site.held reads asked
  rw [isEncrypted] at served
  refine Oracle.leads_of_suspend picksFile.available served
    (fun request => replies request _) fun request asked => ?_
  obtain ⟨transcript, served⟩ := Oracle.serve_readSelected_of_password
    (site.context engine) site.held readsAgain isPlain asked
  exact Oracle.leads_of_proceed served

/-- Two sites have the same node, with the same properties and variables. -/
structure SameTask (first : CallSite Services) (second : CallSite Others) :
    Prop where
  node_eq : second.node = first.node
  properties_eq : second.properties = first.properties
  bindings_eq : second.bindings = first.bindings

theorem SameTask.stores_eq (same : plain.SameTask locked) (info : FileInfo)
    (content : String) :
    locked.stores engine info content = plain.stores engine info content := by
  unfold stores context held
  rw [same.node_eq, same.properties_eq, same.bindings_eq]

/-- An encrypted file is stored like the same file in the clear: with the same
content, and with the same description unless it is picked by its id alone.
Nothing but the description differs then. -/
theorem picked_file_alike (same : plain.SameTask locked)
    (picksPlain : plain.PicksFile engine)
    (picksLocked : locked.PicksFile engine)
    (namesByPath : oracle.NamesByPath)
    (isPlain : oracle.PicksPlain answer info content plain.state.services)
    (isLocked : other.PicksEncrypted answer info content
      locked.state.services) :
    let first := (plain.executed engine oracle).value.1
    let second := (locked.executed engine other).value.1
    first = plain.stores engine info content ∧
      (second.1 = first.1 ∧ second.2.1 = first.2.1 ∧
        ∀ name, (plain.properties.get? "saveFileTo").bind Text.nonBlank? ≠
            some name → second.2.2.get? name = first.2.2.get? name) ∧
      (¬ Step.IsIdAlone answer → second = first) := by
  intro first second
  have first_eq : first = plain.stores engine info content :=
    picksPlain.executed_of_plain isPlain
  have second_eq : second = plain.stores engine
      (Step.promptedFile (Step.passwordPrompt info)) content :=
    (picksLocked.executed_of_encrypted isLocked).trans (same.stores_eq _ _)
  refine ⟨first_eq, ?_, fun hasPath => ?_⟩
  · rw [first_eq, second_eq, result_stores, result_stores, output_stores,
      output_stores]
    refine ⟨rfl, rfl, fun name different => ?_⟩
    rw [get?_stores _ _ _ _ different, get?_stores _ _ _ _ different]
  · obtain ⟨file, later, ⟨picked, found, -, names, -⟩, -⟩ := isPlain
    rw [first_eq, second_eq, stores, stores, Step.stored, Step.stored,
      Step.fileDescriptor_promptedFile (names.name_eq namesByPath hasPath)]

end Sites

/-- How a store describes the file at a path, whose id is the path. -/
def filed (path : String) : FileInfo :=
  ⟨path, Text.afterLast '/' path, path, none, none, none⟩

/-- A store in memory that opens encrypted files with a password, and a person
who knows it and picks a file. -/
def vault (answer password : String) : Oracle (OrderedMap KeptFile) :=
  { Oracle.memory none with
    call := fun
      | .findFile path, files =>
        (.ok ((files.get? path).map fun _ => filed path), files)
      | .getFile id given, files =>
        match files.get? id with
        | some kept =>
          let locked := kept.isEncrypted && given != some password
          (.ok ⟨filed id, if locked then "" else kept.content, locked⟩, files)
        | none => (.error (.of "no such file"), files)
      | call, files => (Oracle.memory none).call call files
    answer := fun request files =>
      (match request.prompt with
        | .password _ => some password
        | _ => some answer, files) }

theorem vault_namesByPath (answer password : String) :
    (vault answer password).NamesByPath := by
  intro path files info later finds
  obtain ⟨found, -⟩ := Prod.mk.inj finds
  obtain ⟨kept, -, rfl⟩ := Option.map_eq_some_iff.1 (Except.ok.inj found)
  rfl

/-- A node that has a file picked. -/
def picking (files : OrderedMap KeptFile) : CallSite (OrderedMap KeptFile) :=
  let properties := .ofList [("saveTo", "text"), ("saveFileTo", "file")]
  ⟨⟨""⟩, ⟨"pick", .promptFile, properties, ⟨.pastEnd, none, none⟩⟩, properties,
    .empty, .fresh "id" "file",
    ⟨files, fun _ => "id", fun _ => Instant.epoch⟩, 3⟩

theorem picksFile_picking (files : OrderedMap KeptFile) :
    (picking files).PicksFile attended :=
  ⟨rfl, rfl, Nat.le_refl 3⟩

/-- A store with one file, encrypted or not. -/
def oneFile (isEncrypted : Bool) : OrderedMap KeptFile :=
  .ofList [("docs/a.md", ⟨"# A", isEncrypted⟩)]

theorem vault_picksPlain {answer : String} {info : FileInfo}
    (names : (vault answer "secret").Names answer (oneFile false) info
      (oneFile false)) (id_eq : info.id = "docs/a.md") :
    (vault answer "secret").PicksPlain answer info "# A" (oneFile false) := by
  refine ⟨⟨filed info.id, "# A", false⟩, oneFile false,
    ⟨_, _, fun request prompt asked => ?_, names, ?_⟩, rfl, rfl⟩
  · simp only [vault, asked]
  · rw [id_eq]
    rfl

theorem vault_picksEncrypted {answer : String} {info : FileInfo}
    (names : (vault answer "secret").Names answer (oneFile true) info
      (oneFile true)) (id_eq : info.id = "docs/a.md") :
    (vault answer "secret").PicksEncrypted answer info "# A"
      (oneFile true) := by
  refine ⟨⟨filed info.id, "", true⟩, oneFile true,
    ⟨filed info.id, "# A", false⟩,
    ⟨_, _, fun request prompt asked => ?_, names, ?_⟩, rfl,
    ⟨"secret", oneFile true, oneFile true, fun request prompt asked => ?_, ?_⟩,
    rfl, rfl⟩
  · simp only [vault, asked]
  · rw [id_eq]
    rfl
  · simp only [vault, asked]
  · rw [id_eq]
    rfl

/-- An answer that gives a path. -/
def byPath : String :=
  "\x7b\"id\":\"docs/a.md\",\"path\":\"docs/a.md\"\x7d"

theorem read?_byPath : Wire.read? DriveFileSelection.decode byPath =
    some ⟨"docs/a.md", "docs/a.md"⟩ :=
  rfl

theorem picked_file_alike_byPath :
    let oracle := vault byPath "secret"
    let first := (picking (oneFile false)).executed attended oracle
    let second := (picking (oneFile true)).executed attended oracle
    ¬ Step.IsIdAlone byPath ∧
      oracle.PicksPlain byPath (filed "docs/a.md") "# A" (oneFile false) ∧
      oracle.PicksEncrypted byPath (filed "docs/a.md") "# A" (oneFile true) ∧
      second.value.1 = first.value.1 ∧
      first.value.1.2.1 = some "# A" := by
  intro oracle first second
  have hasPath : ¬ Step.IsIdAlone byPath := by
    rintro ⟨id, -, selects⟩
    rw [read?_byPath] at selects
    have noPath : "docs/a.md" = "" :=
      congrArg DriveFileSelection.path (Option.some.inj selects)
    exact absurd noPath (by decide)
  have plain : oracle.PicksPlain byPath (filed "docs/a.md") "# A"
      (oneFile false) :=
    vault_picksPlain (.path read?_byPath (by decide) rfl) rfl
  have encrypted : oracle.PicksEncrypted byPath (filed "docs/a.md") "# A"
      (oneFile true) :=
    vault_picksEncrypted (.path read?_byPath (by decide) rfl) rfl
  have same : (picking (oneFile false)).SameTask (picking (oneFile true)) :=
    ⟨rfl, rfl, rfl⟩
  obtain ⟨stored, -, alike⟩ := picked_file_alike same
    (picksFile_picking (oneFile false)) (picksFile_picking (oneFile true))
    (vault_namesByPath byPath "secret") plain encrypted
  exact ⟨hasPath, plain, encrypted, alike hasPath,
    (congrArg (fun value => value.2.1) stored).trans (output_stores ..)⟩

/-- An answer that gives an id alone. -/
def byId : String :=
  "\x7b\"id\":\"docs/a.md\"\x7d"

theorem read?_byId : Wire.read? DriveFileSelection.decode byId =
    some ⟨"docs/a.md", ""⟩ :=
  rfl

/-- A file that is picked by its id alone loses its name where it is
encrypted. -/
theorem picked_file_differs_byId :
    let oracle := vault byId "secret"
    let info : FileInfo := ⟨"docs/a.md", "docs/a.md", "", none, none, none⟩
    let first := (picking (oneFile false)).executed attended oracle
    let second := (picking (oneFile true)).executed attended oracle
    oracle.NamesByPath ∧
      oracle.PicksPlain byId info "# A" (oneFile false) ∧
      oracle.PicksEncrypted byId info "# A" (oneFile true) ∧
      first.value.1.2.2.get? "file" = some ("\x7b\"id\":\"docs/a.md\"," ++
        "\"name\":\"docs/a.md\",\"path\":\"\"\x7d") ∧
      second.value.1.2.2.get? "file" = some ("\x7b\"id\":\"docs/a.md\"," ++
        "\"name\":\"\",\"path\":\"\"\x7d") := by
  intro oracle info first second
  refine ⟨vault_namesByPath _ _, vault_picksPlain (.id read?_byId) rfl,
    vault_picksEncrypted (.id read?_byId) rfl, ?_, ?_⟩
  · decide +kernel
  · decide +kernel

end CallSite

end Runbook
