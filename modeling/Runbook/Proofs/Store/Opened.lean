import Runbook.Proofs.Rehearsal.Contained
import Runbook.Proofs.Store.Write

/-!
# What a store asks

Whatever the machine replies, a store asks about few paths when it reads, finds,
lists or writes a file, and all of them come from the id or the folder that is
given.  The only file whose content it asks for when a file is read or written
is the one that the id leads to.
-/

namespace Runbook

/-- The path of the file whose content a question asks for. -/
def Host.Question.opened? : Host.Question → Option String
  | .load path => some path
  | .copy source _ => some source
  | _ => none

namespace Program

variable {α : Type} {allowed : String → Prop}
  {isAsked : Host.Question → Prop}

/-- Whatever the replies are, a program asks for the contents of files at
allowed paths only. -/
inductive OpensOnly (allowed : String → Prop) : Hosted α → Prop
  | done (value : α) : OpensOnly allowed (Program.done value)
  | ask {question : Host.Question} {next : Host.Reply question → Hosted α}
      (opens : ∀ path, question.opened? = some path → allowed path)
      (rest : ∀ reply, OpensOnly allowed (next reply)) :
      OpensOnly allowed (Program.ask question next)

theorem OpensOnly.mono {others : String → Prop} {program : Hosted α}
    (opens : OpensOnly allowed program)
    (wider : ∀ path, allowed path → others path) :
    OpensOnly others program := by
  induction opens with
  | done value => exact .done value
  | ask opens _ ih =>
      exact .ask (fun path here => wider path (opens path here)) ih

theorem AsksOnly.opensOnly {program : Hosted α}
    (asks : program.AsksOnly isAsked)
    (opens : ∀ question, isAsked question → ∀ path,
      question.opened? = some path → allowed path) :
    OpensOnly allowed program := by
  induction asks with
  | done value => exact .done value
  | ask asks _ ih => exact .ask (opens _ asks) ih

end Program

namespace DirectoryStore

open Program (AsksOnly OpensOnly)

variable {α β : Type} {store : DirectoryStore} {isAsked : Host.Question → Prop}
  {path : String}

/-! ### The parts of computations -/

theorem asksOnly_bind {first : Stored α} {next : α → Stored β}
    (asks : first.run.AsksOnly isAsked)
    (rest : ∀ value, (next value).run.AsksOnly isAsked) :
    (first >>= next).run.AsksOnly isAsked := by
  refine AsksOnly.bind asks fun result => ?_
  cases result with
  | error error => exact .done _
  | ok value => exact rest value

theorem asksOnly_ask {question : Host.Question} (asks : isAsked question) :
    (ask question).run.AsksOnly isAsked :=
  .ask asks fun _ => .done _

theorem asksOnly_orRefuse (context : Option String)
    (attempt : Except SystemError α) :
    (orRefuse context attempt).run.AsksOnly isAsked := by
  cases attempt <;> exact .done _

theorem asksOnly_liftExcept_bind {attempt : Except StoreError α}
    {next : α → Stored β}
    (rest : ∀ value, attempt = .ok value → (next value).run.AsksOnly isAsked) :
    ((liftM attempt : Stored α) >>= next).run.AsksOnly isAsked := by
  cases attempt with
  | error error => exact .done _
  | ok value => exact rest value rfl

theorem asksOnly_loadText (asks : isAsked (.load path)) :
    (ExceptT.lift (Hosted.loadText path) : Stored _).run.AsksOnly isAsked := by
  have loads : (Hosted.loadText path).AsksOnly isAsked := by
    refine .ask asks fun reply => ?_
    cases reply with
    | error error => exact .done _
    | ok bytes =>
        dsimp only [Program.bind]
        cases Text.ofBytes? bytes <;> exact .done _
  exact AsksOnly.bind loads fun _ => .done _

theorem asksOnly_fileStatus (asks : isAsked (.inspect path)) :
    (fileStatus path).run.AsksOnly isAsked := by
  refine asksOnly_bind (asksOnly_ask asks) fun reply => ?_
  refine asksOnly_bind (asksOnly_orRefuse none reply) fun status => ?_
  cases status <;> exact .done _

theorem asksOnly_makeParent
    (asks : ∀ folder, Path.parent? path = some folder →
      isAsked (.makeFolders folder)) :
    (makeParent path).run.AsksOnly isAsked := by
  unfold makeParent
  cases holds : Path.parent? path with
  | none => exact .done _
  | some folder =>
      exact asksOnly_bind (asksOnly_ask (asks folder holds))
        (asksOnly_orRefuse none)

theorem asksOnly_isThere (asks : isAsked (.inspect path)) :
    (isThere path).run.AsksOnly isAsked := by
  refine asksOnly_bind (asksOnly_ask asks) fun reply => ?_
  cases reply with
  | ok status => exact .done _
  | error error => cases error <;> exact .done _

/-! ### Reading, finding and listing -/

/-- What is asked when the file at a path is read. -/
inductive AsksToRead (store : DirectoryStore) (path : String) :
    Host.Question → Prop
  | load : AsksToRead store path (.load (store.fullPath path))
  | inspect : AsksToRead store path (.inspect (store.fullPath path))

theorem asksOnly_read (store : DirectoryStore) (id : String) :
    (store.read id).run.AsksOnly fun question =>
      ∃ path, normalize id = .ok path ∧ store.AsksToRead path question := by
  refine asksOnly_liftExcept_bind fun path normalized => ?_
  refine asksOnly_bind (asksOnly_loadText ⟨path, normalized, .load⟩)
    fun attempt => ?_
  refine asksOnly_bind (asksOnly_orRefuse _ attempt) fun content => ?_
  exact asksOnly_bind (asksOnly_fileStatus ⟨path, normalized, .inspect⟩)
    fun _ => .done _

theorem asksOnly_find (store : DirectoryStore) (id : String) :
    (store.find id).run.AsksOnly fun question =>
      ∃ path, normalize id = .ok path ∧
        question = .inspect (store.fullPath path) := by
  refine asksOnly_liftExcept_bind fun path normalized => ?_
  refine asksOnly_bind (asksOnly_ask ⟨path, normalized, rfl⟩) fun reply => ?_
  cases reply with
  | ok status => cases status <;> exact .done _
  | error error => cases error <;> exact .done _

theorem asksOnly_walk (store : DirectoryStore)
    (asks : isAsked (.tree (store.fullPath path))) :
    (store.walk path).run.AsksOnly isAsked := by
  refine asksOnly_bind (asksOnly_ask asks) fun reply => ?_
  exact asksOnly_liftExcept_bind fun files _ => .done _

theorem asksOnly_list (store : DirectoryStore) (listing : FileListing) :
    (store.list listing).run.AsksOnly fun question =>
      ∃ path, normalize listing.folder = .ok path ∧
        question = .tree (store.fullPath path) := by
  refine asksOnly_liftExcept_bind fun path normalized => ?_
  exact asksOnly_bind (asksOnly_walk store ⟨path, normalized, rfl⟩)
    fun files => .done _

theorem asksOnly_folders (store : DirectoryStore) (folder : String) :
    (store.folders folder).run.AsksOnly fun question =>
      ∃ path, normalize folder = .ok path ∧
        question = .tree (store.fullPath path) := by
  refine asksOnly_liftExcept_bind fun path normalized => ?_
  refine asksOnly_bind (asksOnly_ask ⟨path, normalized, rfl⟩) fun reply => ?_
  cases reply <;> exact .done _

/-! ### Writing -/

/-- The full path at which the content before is kept. -/
def backupPath (store : DirectoryStore) (path : String) (time : Instant) :
    String :=
  Path.join (store.fullPath historyFolder) (path ++ "." ++ time.stamp)

/-- What is asked when the file at a path is written and its folder is there. -/
inductive AsksToWrite (store : DirectoryStore) (path : String) :
    Host.Question → Prop
  | inspect : AsksToWrite store path (.inspect (store.fullPath path))
  | now : AsksToWrite store path .now
  | makeParent {time : Instant} {folder : String}
      (holds : Path.parent? (store.backupPath path time) = some folder) :
      AsksToWrite store path (.makeFolders folder)
  | copy (time : Instant) : AsksToWrite store path
      (.copy (store.fullPath path) (store.backupPath path time))
  | save (content : Bytes) :
      AsksToWrite store path (.save (store.fullPath path) content)

/-- The question to make the folder of the file at a path. -/
def AsksForFolder (store : DirectoryStore) (path : String)
    (question : Host.Question) : Prop :=
  ∃ folder, Path.parent? (store.fullPath path) = some folder ∧
    question = .makeFolders folder

theorem asksOnly_keepRevision (store : DirectoryStore) (path : String) :
    (store.keepRevision path (store.fullPath path)).run.AsksOnly
      (store.AsksToWrite path) := by
  refine asksOnly_bind (asksOnly_ask .now) fun now => ?_
  refine asksOnly_bind (asksOnly_makeParent fun folder => .makeParent)
    fun _ => ?_
  exact asksOnly_bind (asksOnly_ask (.copy now)) (asksOnly_orRefuse none)

theorem asksOnly_replace (store : DirectoryStore) (path : String)
    (write : FileWrite) :
    (store.replace path write).run.AsksOnly (store.AsksToWrite path) := by
  refine asksOnly_bind (asksOnly_ask (.save _)) fun saved => ?_
  refine asksOnly_bind (asksOnly_orRefuse _ saved) fun _ => ?_
  exact asksOnly_bind (asksOnly_fileStatus .inspect) fun _ => .done _

/-- Write a file whose folder is there. -/
def writeThere (store : DirectoryStore) (path : String) (write : FileWrite) :
    Stored FileInfo := do
  if write.recordHistory then
    if ← isThere (store.fullPath path) then
      store.keepRevision path (store.fullPath path)
  store.replace path write

theorem write_eq {write : FileWrite} (plain : write.encrypt = false)
    (store : DirectoryStore) (id : String) :
    store.write id write = (do
      let path ← normalize id
      makeParent (store.fullPath path)
      store.writeThere path write) := by
  unfold DirectoryStore.write
  rw [plain]
  rfl

theorem asksOnly_writeThere (store : DirectoryStore) (path : String)
    (write : FileWrite) :
    (store.writeThere path write).run.AsksOnly (store.AsksToWrite path) := by
  have replaces := asksOnly_replace store path write
  unfold writeThere
  cases write.recordHistory with
  | false => exact replaces
  | true =>
      refine asksOnly_bind (asksOnly_isThere .inspect) fun isThere => ?_
      cases isThere with
      | false => exact replaces
      | true =>
          exact asksOnly_bind (asksOnly_keepRevision store path)
            fun _ => replaces

theorem asksOnly_write (store : DirectoryStore) (id : String)
    (write : FileWrite) :
    (store.write id write).run.AsksOnly fun question =>
      ∃ path, normalize id = .ok path ∧
        (store.AsksForFolder path question ∨
          store.AsksToWrite path question) := by
  cases encrypt : write.encrypt with
  | true =>
      rw [write_of_encrypt encrypt]
      exact .done _
  | false =>
      rw [write_eq encrypt]
      refine asksOnly_liftExcept_bind fun path normalized => ?_
      refine asksOnly_bind (asksOnly_makeParent fun folder holds =>
        ⟨path, normalized, .inl ⟨folder, holds, rfl⟩⟩) fun _ => ?_
      exact (asksOnly_writeThere store path write).mono fun _ asks =>
        ⟨path, normalized, .inr asks⟩

/-! ### What is opened -/

/-- The path that an id stands for. -/
def LeadsTo (store : DirectoryStore) (id path : String) : Prop :=
  ∃ relative, normalize id = .ok relative ∧ path = store.fullPath relative

/-- Reading asks for no content but that of the file that the id leads to. -/
theorem opensOnly_read (store : DirectoryStore) (id : String) :
    OpensOnly (store.LeadsTo id) (store.read id).run := by
  refine (asksOnly_read store id).opensOnly fun question asks opened opens => ?_
  obtain ⟨path, normalized, asks⟩ := asks
  cases asks <;> cases opens
  exact ⟨path, normalized, rfl⟩

/-- Writing asks for no content but that of the file that the id leads to. -/
theorem opensOnly_write (store : DirectoryStore) (id : String)
    (write : FileWrite) :
    OpensOnly (store.LeadsTo id) (store.write id write).run := by
  refine (asksOnly_write store id write).opensOnly
    fun question asks opened opens => ?_
  obtain ⟨path, normalized, ⟨folder, -, rfl⟩ | asks⟩ := asks
  · cases opens
  · cases asks <;> cases opens
    exact ⟨path, normalized, rfl⟩

end DirectoryStore

end Runbook
