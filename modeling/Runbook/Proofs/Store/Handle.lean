import Runbook.Proofs.Store.Opened
import Runbook.Proofs.Text.Utf8

/-!
# Ids as handles

The id of a file that a store offers stands for that file: what is read by it is
the content of the file, what is written by it replaces that content, and
nothing else is opened or changed, except that the content before is kept if
that is asked for.  This is so exactly if there are no blanks around the id,
because ids are trimmed before they are used.
-/

namespace Runbook

namespace DirectoryStore

open Rehearsal Rehearsal.Disk
open Program (OpensOnly)
open Runbook.Path (IsName)

variable {store : DirectoryStore} {machine after : Machine}
  {names : List String} {base place : Place} {path id : String}
  {content : Bytes} {modified : Instant} {info : FileInfo} {write : FileWrite}

/-! ### Reading -/

theorem run_normalize (normalized : normalize id = .ok path)
    (machine : Machine) :
    machine.run (liftM (normalize id) : Stored String).run =
      (.ok path, machine) := by
  rw [Machine.run_liftExcept, normalized]

theorem text_of_file
    (isFile : machine.disk.find machine.folder path =
      .ok (.file content modified)) :
    machine.text path =
      (Text.ofBytes? content).elim (.error .notText) .ok := by
  have loaded := load_eq_ok_iff.2 ⟨modified, isFile⟩
  cases isText : Text.ofBytes? content with
  | none => simp only [Machine.text, loaded, isText, Option.elim_none]
  | some text => simp only [Machine.text, loaded, isText, Option.elim_some]

/-- Reading gives the text of the file that an id leads to. -/
theorem run_read_of_text (normalized : normalize id = .ok path)
    (isFile : machine.disk.find machine.folder (store.fullPath path) =
      .ok (.file content modified))
    {text : String} (isText : Text.ofBytes? content = some text) :
    machine.run (store.read id).run =
      (.ok ⟨fileInfo path ⟨content.length, some modified⟩, text, false⟩,
        machine) := by
  have known := run_fileStatus (store.fullPath path) machine
  rw [inspect_eq_file_iff.2 ⟨content, modified, isFile, rfl⟩] at known
  have loaded : machine.text (store.fullPath path) = .ok text := by
    rw [text_of_file isFile, isText, Option.elim_some]
  unfold DirectoryStore.read
  rw [Machine.run_bind_of_ok (run_normalize normalized machine),
    Machine.run_bind_of_ok (Machine.run_loadText _ _), loaded,
    Machine.run_bind_of_ok (Machine.run_orRefuse _ _ _),
    Machine.run_bind_of_ok known]
  rfl

/-- Reading is refused if the file that an id leads to does not hold text. -/
theorem run_read_of_bytes (normalized : normalize id = .ok path)
    (isFile : machine.disk.find machine.folder (store.fullPath path) =
      .ok (.file content modified))
    (notText : Text.ofBytes? content = none) :
    machine.run (store.read id).run =
      (.error (.system (some ("read " ++ store.fullPath path)) .notText),
        machine) := by
  have loaded : machine.text (store.fullPath path) = .error .notText := by
    rw [text_of_file isFile, notText, Option.elim_none]
  unfold DirectoryStore.read
  rw [Machine.run_bind_of_ok (run_normalize normalized machine),
    Machine.run_bind_of_ok (Machine.run_loadText _ _), loaded]
  rfl

/-! ### Writing where there is a file -/

theorem Describes.areNamesToo
    (describes : store.Describes machine info names base content modified) :
    ∀ name ∈ names, IsName name :=
  fun name member => (describes.areNames name member).toIsName

theorem Describes.located
    (describes : store.Describes machine info names base content modified) :
    machine.disk.locate machine.folder
      (store.fullPath ("/".intercalate names)) =
        .ok (names.reverse ++ base) :=
  locate_join_of_isSome describes.areNames describes.valid describes.root
    (Option.isSome_of_mem (kind?_eq_file_iff.2 describes.isFile))

theorem Describes.found
    (describes : store.Describes machine info names base content modified) :
    machine.disk.find machine.folder
      (store.fullPath ("/".intercalate names)) =
        .ok (.file content modified) :=
  find_eq_ok_iff.2 ⟨_, describes.located, describes.isFile⟩

theorem Describes.filePlace
    (describes : store.Describes machine info names base content modified) :
    machine.disk.filePlace machine.folder
      (store.fullPath ("/".intercalate names)) =
        .ok (names.reverse ++ base) :=
  filePlace_join_of_file describes.areNames describes.some_ describes.valid
    describes.root (kind?_eq_file_iff.2 describes.isFile)

/-- The folder of a file does not have to be created. -/
theorem Describes.makeParent
    (describes : store.Describes machine info names base content modified) :
    machine.run (makeParent (store.fullPath ("/".intercalate names))).run =
      (.ok (), machine) := by
  have located := describes.located
  have areNames := describes.areNamesToo
  obtain ⟨above, name, rfl⟩ :=
    (List.eq_nil_or_concat' names).resolve_left describes.some_
  obtain ⟨front, joined, ends⟩ :=
    Path.exists_join_eq_append areNames store.root
  rw [fullPath, joined] at located ⊢
  obtain ⟨path, parent, made⟩ :=
    makeFolders_parent? (areNames name (by simp)) ends located
  unfold DirectoryStore.makeParent
  rw [parent]
  dsimp only
  rw [Machine.run_bind_of_ok (Machine.run_ask _ _), Machine.run_orRefuse]
  simp only [Machine.answer, made]
  rfl

theorem machine_of_copy_error {source target : String} {error : SystemError}
    (refused : machine.answer (.copy source target) = (.error error, after)) :
    after = machine := by
  simp only [Machine.answer, Machine.changeDisk] at refused
  split at refused
  · cases refused
  · cases refused
    rfl

/-- When a content cannot be kept, no file is changed. -/
theorem grows_of_keepRevision {error : StoreError} {full : String}
    (ran : machine.run (store.keepRevision path full).run =
      (.error error, after)) : Grows machine.disk after.disk := by
  unfold keepRevision at ran
  rw [Machine.run_bind_of_ok (Machine.run_ask _ _)] at ran
  simp only [Machine.answer] at ran
  generalize Path.join (store.fullPath historyFolder)
    (path ++ "." ++ machine.time.stamp) = backup at ran
  obtain ⟨result, made, creates, grows, folder, -⟩ :=
    run_makeParent backup (machine.pass Machine.tick)
  cases result with
  | error refused =>
      rw [Machine.run_bind_of_error creates, Prod.mk.injEq] at ran
      rw [← ran.2]
      exact grows
  | ok =>
      rw [Machine.run_bind_of_ok creates,
        Machine.run_bind_of_ok (Machine.run_ask _ _), Machine.run_orRefuse,
        Prod.mk.injEq] at ran
      cases copied : made.answer (.copy full backup) with
      | mk reply changed =>
          rw [copied] at ran
          obtain ⟨refused, rfl⟩ := ran
          cases reply with
          | ok => cases refused
          | error error =>
              rw [machine_of_copy_error copied]
              exact grows

/-- Writing by the path of a file replaces that file. -/
theorem Describes.run_write
    (describes : store.Describes machine info names base content modified)
    (normalized : normalize id = .ok ("/".intercalate names))
    (plain : write.encrypt = false)
    (unrecorded : write.recordHistory = false) :
    machine.run (store.write id write).run =
      (.ok (writtenInfo ("/".intercalate names) write machine.time),
        machine.putFile (names.reverse ++ base)
          (Text.toBytes write.content)) := by
  rw [write_of_plain plain unrecorded,
    Machine.run_bind_of_ok (run_normalize normalized machine),
    Machine.run_bind_of_ok describes.makeParent,
    run_replace describes.areNamesToo describes.filePlace]

/-- Once the content of a file has been kept, the file is replaced. -/
theorem Describes.run_replace_of_kept {middle : Machine}
    (describes : store.Describes machine info names base content modified)
    (ran : machine.run (store.keepRevision ("/".intercalate names)
      (store.fullPath ("/".intercalate names))).run = (.ok (), middle))
    (write : FileWrite) :
    middle.run (store.replace ("/".intercalate names) write).run =
      (.ok (writtenInfo ("/".intercalate names) write middle.time),
        middle.putFile (names.reverse ++ base)
          (Text.toBytes write.content)) := by
  obtain ⟨-, kept, baseToo, old, keeps⟩ :=
    keeps_of_keepRevision describes.areNamesToo (.refl _) rfl rfl ran
  obtain rfl : baseToo = base :=
    (keeps.more.leadsToFolder describes.root).unique keeps.root
  have stays : middle.disk.content? (names.reverse ++ baseToo) =
      some content := by
    rw [keeps.contents, Function.update_of_ne keeps.backup_ne]
    exact content?_eq_some_iff.2 ⟨modified, describes.isFile⟩
  obtain ⟨modifiedToo, at_⟩ := content?_eq_some_iff.1 stays
  have root := keeps.root
  rw [← keeps.folder] at root
  exact run_replace describes.areNamesToo (filePlace_join_of_file
    describes.areNames describes.some_ describes.valid root
    (kind?_eq_file_iff.2 at_)) write

theorem Describes.contents_of_written {written : FileInfo}
    (describes : store.Describes machine info names base content modified)
    (normalized : normalize id = .ok ("/".intercalate names))
    (recorded : write.recordHistory = true)
    (ran : machine.run (store.write id write).run = (.ok written, after)) :
    ∃ kept, after.disk.content? = Function.update
      (Function.update machine.disk.content?
        (kept ++ historyFolder :: base) (some content))
      (names.reverse ++ base) (some (Text.toBytes write.content)) := by
  obtain ⟨namesToo, baseToo, normalizedToo, areNames, some_, revises⟩ :=
    revises_of_write recorded ran
  have sameParts := congrArg Path.parts
    (Except.ok.inj (normalizedToo.symm.trans normalized))
  rw [Path.parts_intercalate some_ areNames, Path.parts_intercalate
    describes.some_ describes.areNamesToo] at sameParts
  subst sameParts
  obtain rfl : baseToo = base :=
    (revises.more.leadsToFolder describes.root).unique revises.root
  have before := content?_eq_some_iff.2 ⟨modified, describes.isFile⟩
  rcases revises.contents with
    ⟨nothing, -⟩ | ⟨middle, kept, old, keeps, -, contents⟩
  · rw [nothing] at before
    cases before
  · obtain rfl : content = old :=
      Option.some.inj (before.symm.trans keeps.isFile)
    refine ⟨kept.reverse, ?_⟩
    rw [contents, keeps.contents, List.reverse_cons, List.append_assoc,
      List.singleton_append]

/-- When the file cannot be written, that is because its content cannot be
kept. -/
theorem Describes.grows_of_refused {error : StoreError}
    (describes : store.Describes machine info names base content modified)
    (normalized : normalize id = .ok ("/".intercalate names))
    (plain : write.encrypt = false)
    (recorded : write.recordHistory = true)
    (ran : machine.run (store.write id write).run = (.error error, after)) :
    Grows machine.disk after.disk := by
  have known := inspect_eq_file_iff.2 ⟨content, modified, describes.found, rfl⟩
  have there := run_isThere (store.fullPath ("/".intercalate names)) machine
  rw [known] at there
  rw [write_of_recorded plain recorded,
    Machine.run_bind_of_ok (run_normalize normalized machine),
    Machine.run_bind_of_ok describes.makeParent,
    Machine.run_bind_of_ok there, if_pos rfl] at ran
  cases keptRan : machine.run (store.keepRevision ("/".intercalate names)
      (store.fullPath ("/".intercalate names))).run with
  | mk result middle =>
      cases result with
      | error refused =>
          rw [Machine.run_bind_of_error keptRan, Prod.mk.injEq] at ran
          rw [← ran.2]
          exact grows_of_keepRevision keptRan
      | ok =>
          rw [Machine.run_bind_of_ok keptRan,
            describes.run_replace_of_kept keptRan write, Prod.mk.injEq] at ran
          cases ran.1

/-- Writing by the path of a file and keeping the content before changes nothing
but these two. -/
theorem Describes.run_write_recorded
    (describes : store.Describes machine info names base content modified)
    (normalized : normalize id = .ok ("/".intercalate names))
    (plain : write.encrypt = false)
    (recorded : write.recordHistory = true) :
    ∃ result changed, machine.run (store.write id write).run =
        (result, changed) ∧
      ((∃ error, result = .error error ∧
          Grows machine.disk changed.disk) ∨
        ∃ written kept, result = .ok written ∧
          changed.disk.content? = Function.update
            (Function.update machine.disk.content?
              (kept ++ historyFolder :: base) (some content))
            (names.reverse ++ base) (some (Text.toBytes write.content))) := by
  cases ran : machine.run (store.write id write).run with
  | mk result changed =>
      refine ⟨result, changed, rfl, ?_⟩
      cases result with
      | ok written =>
          obtain ⟨kept, contents⟩ :=
            describes.contents_of_written normalized recorded ran
          exact .inr ⟨written, kept, rfl, contents⟩
      | error error =>
          exact .inl ⟨error, rfl,
            describes.grows_of_refused normalized plain recorded ran⟩

/-! ### Blanks around ids -/

theorem length_le_intercalate_cons (name : String) (names : List String) :
    name.length ≤ ("/".intercalate (name :: names)).length ∧
      ("/".intercalate names).length ≤
        ("/".intercalate (name :: names)).length := by
  cases names with
  | nil => simp
  | cons next rest =>
      simp only [String.intercalate_cons_cons, String.length_append]
      omega

theorem length_intercalate_le {fewer more : List String}
    (sublist : fewer.Sublist more) :
    ("/".intercalate fewer).length ≤ ("/".intercalate more).length := by
  induction sublist with
  | slnil => exact Nat.le_refl _
  | cons name _ ih => exact ih.trans (length_le_intercalate_cons name _).2
  | @cons_cons fewer more name sublist ih =>
      cases fewer with
      | nil =>
          rw [String.intercalate_singleton]
          exact (length_le_intercalate_cons name more).1
      | cons next rest =>
          cases more with
          | nil => cases sublist
          | cons other others =>
              simp only [String.intercalate_cons_cons, String.length_append]
                at ih ⊢
              omega

/-- A path that stays as it is has no blanks around it. -/
theorem trim_of_normalize_eq_self (normalized : normalize id = .ok id) :
    Text.trim id = id := by
  have trims : (Text.trimBoth id.toList).Sublist id.toList := by
    unfold Text.trimBoth Text.trimRight Text.trimLeft
    refine List.Sublist.trans ?_ (List.dropWhile_sublist Text.isBlank)
    rw [← List.reverse_sublist, List.reverse_reverse]
    exact List.dropWhile_sublist Text.isBlank
  have shorter : id.length ≤ (Text.trim id).length := by
    simp only [normalize] at normalized
    split at normalized
    · cases normalized
    · have fewer := length_intercalate_le (@List.filter_sublist String
        (fun part => decide (part ≠ "" ∧ part ≠ "."))
        (Path.parts (Text.trim id)))
      rw [Path.intercalate_parts] at fewer
      rwa [Except.ok.inj normalized] at fewer
  apply String.toList_injective
  rw [Text.trim, String.toList_ofList]
  rw [← String.length_toList, ← String.length_toList, Text.trim,
    String.toList_ofList] at shorter
  exact trims.eq_of_length_le shorter

/-! ### Handles -/

/-- The id of an info stands for the file at a place below the root of a store,
and for nothing else. -/
structure IsHandle (store : DirectoryStore) (machine : Machine)
    (info : FileInfo) (base place : Place) (content : Bytes) : Prop where
  leads : ∃ path, normalize info.id = .ok path ∧
    machine.disk.locate machine.folder (store.fullPath path) = .ok place
  reads : ∀ text, Text.ofBytes? content = some text →
    machine.run (store.read info.id).run = (.ok ⟨info, text, false⟩, machine)
  /-- What is not text cannot be read. -/
  refusesBytes : Text.ofBytes? content = none →
    machine.run (store.read info.id).run =
      (.error (.system (some ("read " ++ store.fullPath info.id)) .notText),
        machine)
  /-- Only the file is changed when it is written. -/
  replaces : ∀ write : FileWrite, write.encrypt = false →
    write.recordHistory = false → ∃ written changed,
      machine.run (store.write info.id write).run = (.ok written, changed) ∧
        changed.disk.kind? = Function.update machine.disk.kind? place
          (some (.file (Text.toBytes write.content) machine.time))
  /-- Only the file is changed when it is written, and its content before is
  put below the folder `.history`; or that cannot be done, and no file is
  changed. -/
  keeps : ∀ write : FileWrite, write.encrypt = false →
    write.recordHistory = true → ∃ result changed,
      machine.run (store.write info.id write).run = (result, changed) ∧
        ((∃ error, result = .error error ∧ Grows machine.disk changed.disk) ∨
          ∃ written kept, result = .ok written ∧
            changed.disk.content? = Function.update
              (Function.update machine.disk.content?
                (kept ++ historyFolder :: base) (some content))
              place (some (Text.toBytes write.content)))
  refusesEncryption : ∀ write : FileWrite, write.encrypt = true →
    machine.run (store.write info.id write).run =
      (.error .noEncryption, machine)
  /-- No content is asked for but that of the file. -/
  opensRead : OpensOnly (fun path =>
    machine.disk.locate machine.folder path = .ok place)
    (store.read info.id).run
  opensWrite : ∀ write, OpensOnly (fun path =>
    machine.disk.locate machine.folder path = .ok place)
    (store.write info.id write).run

theorem Describes.isHandle
    (describes : store.Describes machine info names base content modified)
    (trimmed : Text.trim info.id = info.id) :
    store.IsHandle machine info base (names.reverse ++ base) content := by
  obtain rfl := describes.info_eq
  have normalized := normalize_of_trimmed describes.areNamesToo trimmed
  have leads (path : String)
      (leads : store.LeadsTo ("/".intercalate names) path) :
      machine.disk.locate machine.folder path =
        .ok (names.reverse ++ base) := by
    obtain ⟨relative, normalizedToo, rfl⟩ := leads
    rw [← Except.ok.inj (normalized.symm.trans normalizedToo)]
    exact describes.located
  refine ⟨⟨_, normalized, describes.located⟩, fun text isText => ?_,
    fun notText => ?_, fun write plain unrecorded => ?_,
    fun write plain recorded => ?_, fun write encrypt => ?_, ?_,
    fun write => ?_⟩
  · exact run_read_of_text normalized describes.found isText
  · exact run_read_of_bytes normalized describes.found notText
  · have put := Machine.putFile_kind? describes.areNamesToo
      describes.filePlace (Text.toBytes write.content)
    exact ⟨_, _, describes.run_write normalized plain unrecorded, put.1⟩
  · exact describes.run_write_recorded normalized plain recorded
  · rw [write_of_encrypt encrypt, Machine.run_throw]
  · exact (opensOnly_read store _).mono leads
  · exact (opensOnly_write store _ write).mono leads

theorem Describes.trimmed
    (describes : store.Describes machine info names base content modified)
    (handle : store.IsHandle machine info base (names.reverse ++ base)
      content) : Text.trim info.id = info.id := by
  obtain rfl := describes.info_eq
  obtain ⟨path, normalized, located⟩ := handle.leads
  obtain ⟨namesToo, areNames, rfl⟩ := exists_names_of_normalize normalized
  obtain ⟨baseToo, root, same⟩ := locate_join areNames located
  obtain rfl : baseToo = base := describes.root.unique root
  obtain rfl := names_eq_of_place_eq same
  exact trim_of_normalize_eq_self normalized

/-- What a listing, a search or a request by path gives describes a file below
the root of the store, with its size and time.  The id stands for that file
exactly if there are no blanks around it. -/
theorem Offers.isHandle_iff (isTree : machine.disk.IsTree)
    (offers : store.Offers machine after info) :
    after = machine ∧ ∃ names base content modified,
      store.Describes machine info names base content modified ∧
        (store.IsHandle machine info base (names.reverse ++ base) content ↔
          Text.trim info.id = info.id) := by
  obtain ⟨same, names, base, content, modified, describes⟩ :=
    offers.describes isTree
  exact ⟨same, names, base, content, modified, describes,
    describes.trimmed, describes.isHandle⟩

/-- A machine with one file, in a folder of a store. -/
def noteMachine (name : String) : Machine :=
  .new (.folder [("data", .folder [("notes",
    .folder [(name, .file [120] .epoch)])])]) "/" .empty [] .offline 0

def noteInfo (name : String) : FileInfo :=
  ⟨"notes/" ++ name, name, "notes/" ++ name, none, some .epoch, some 1⟩

theorem noteMachine_isTree {name : String} (isName : IsFileName name) :
    (noteMachine name).disk.IsTree := by
  have isData : IsFileName "data" :=
    ⟨⟨by decide, by decide, by decide, by decide⟩, by decide, by decide⟩
  have isNotes : IsFileName "notes" :=
    ⟨⟨by decide, by decide, by decide, by decide⟩, by decide, by decide⟩
  refine .folder (by simp) (by simpa using isData) ?_
  simp only [List.mem_singleton, forall_eq]
  refine .folder (by simp) (by simpa using isNotes) ?_
  simp only [List.mem_singleton, forall_eq]
  refine .folder (by simp) (by simpa using isName) ?_
  simp only [List.mem_singleton, forall_eq]
  exact .file [120] .epoch

theorem noteMachine_offers {name : String}
    (listed : ((noteMachine name).run
      ((⟨"/data"⟩ : DirectoryStore).list ⟨"notes", none, .name⟩).run).1 =
        .ok [noteInfo name]) :
    ∃ after, DirectoryStore.Offers ⟨"/data"⟩ (noteMachine name) after
      (noteInfo name) :=
  ⟨_, .list (Prod.ext listed rfl) List.mem_cons_self⟩

/-- The id of a note without blanks around it stands for the note. -/
theorem isHandle_of_note :
    ∃ base place content, DirectoryStore.IsHandle ⟨"/data"⟩
      (noteMachine "a.txt") (noteInfo "a.txt") base place content := by
  obtain ⟨after, offers⟩ := @noteMachine_offers "a.txt" (by decide +kernel)
  have isTree := @noteMachine_isTree "a.txt"
    ⟨⟨by decide, by decide, by decide, by decide⟩, by decide, by decide⟩
  obtain ⟨-, names, base, content, modified, -, isHandle⟩ :=
    Offers.isHandle_iff isTree offers
  exact ⟨base, _, content, isHandle.2 (by decide +kernel)⟩

/-- The id of a note with a blank at its end does not stand for any file: there
is no file where it leads. -/
theorem not_isHandle_of_blank :
    ¬ ∀ (store : DirectoryStore) (machine after : Machine) (info : FileInfo),
      machine.disk.IsTree → store.Offers machine after info →
        ∃ base place content,
          store.IsHandle machine info base place content := by
  intro handles
  obtain ⟨after, offers⟩ := @noteMachine_offers "a.txt " (by decide +kernel)
  have isTree := @noteMachine_isTree "a.txt "
    ⟨⟨by decide, by decide, by decide, by decide⟩, by decide, by decide⟩
  obtain ⟨base, place, content, handle⟩ := handles _ _ _ _ isTree offers
  have refused : ((noteMachine "a.txt ").run
      (DirectoryStore.read ⟨"/data"⟩ (noteInfo "a.txt ").id).run).1 =
        .error (.system (some "read /data/notes/a.txt") .notFound) := by
    decide +kernel
  cases isText : Text.ofBytes? content with
  | none =>
      rw [handle.refusesBytes isText] at refused
      simp at refused
  | some text =>
      rw [handle.reads text isText] at refused
      cases refused

end DirectoryStore

end Runbook
