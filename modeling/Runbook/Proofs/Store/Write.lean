import Runbook.Proofs.Store.Listing
import Runbook.Proofs.Time.Stamp

/-!
# What a write leaves

A write that succeeds puts a file where its path leads, below the folder that
the root of the store then is.  If it keeps the content before, that is put
below the folder `.history`, where the path and the time lead.  Folders may be
created for both.  Nothing else changes.
-/

namespace Runbook

namespace Rehearsal

namespace Machine

open Disk

variable {machine after : Machine} {path source target : String}
  {place : Place} {content : Bytes}

/-- The machine after a file has been put at a place. -/
def putFile (machine : Machine) (place : Place) (content : Bytes) : Machine :=
  { machine with
    disk := machine.disk.put place (.file content machine.time) }.pass tick

@[simp] theorem putFile_folder (machine : Machine) (place : Place)
    (content : Bytes) : (machine.putFile place content).folder =
      machine.folder := rfl

theorem answer_save (found : machine.disk.filePlace machine.folder path =
    .ok place) (content : Bytes) :
    machine.answer (.save path content) =
      (.ok (), machine.putFile place content) := by
  simp only [answer, Disk.save, found]
  rfl

theorem filePlace_of_save
    (saved : machine.answer (.save path content) = (.ok (), after)) :
    ∃ place, machine.disk.filePlace machine.folder path = .ok place := by
  cases found : machine.disk.filePlace machine.folder path with
  | ok place => exact ⟨place, rfl⟩
  | error error =>
      simp only [answer, Disk.save, found] at saved
      cases saved

theorem answer_copy_of_file {modified : Instant}
    (isFile : machine.disk.find machine.folder source =
      .ok (.file content modified)) (target : String) :
    machine.answer (.copy source target) =
      machine.answer (.save target content) := by
  simp only [answer, Disk.copy, isFile]
  rfl

theorem file_of_copy
    (copied : machine.answer (.copy source target) = (.ok (), after)) :
    ∃ content modified, machine.disk.find machine.folder source =
      .ok (.file content modified) := by
  cases found : machine.disk.find machine.folder source with
  | error error =>
      simp only [answer, Disk.copy, found] at copied
      cases copied
  | ok disk =>
      cases disk with
      | file content modified => exact ⟨content, modified, rfl⟩
      | folder entries =>
          simp only [answer, Disk.copy, found] at copied
          cases copied

/-- A file that is put below a folder is all that changes. -/
theorem putFile_kind? {folder : String} {names : List String}
    (areNames : ∀ name ∈ names, Path.IsName name)
    (found : machine.disk.filePlace folder
      (Path.join source ("/".intercalate names)) = .ok place)
    (content : Bytes) :
    (machine.putFile place content).disk.kind? =
        Function.update machine.disk.kind? place
          (some (.file content machine.time)) ∧
      Extends machine.disk (machine.putFile place content).disk := by
  obtain ⟨some_, isFolder, free, base, -, rfl⟩ := filePlace_join areNames found
  obtain ⟨above, name, rfl⟩ := (List.eq_nil_or_concat' names).resolve_left some_
  rw [List.reverse_append, List.reverse_singleton, List.singleton_append,
    List.cons_append] at isFolder free ⊢
  have put : (machine.putFile (name :: (above.reverse ++ base))
      content).disk.kind? = _ := kind?_put rfl isFolder free
  exact ⟨put, extends_of_update put free⟩

end Machine

end Rehearsal

namespace DirectoryStore

open Rehearsal Rehearsal.Disk
open Runbook.Path (IsName)

variable {store : DirectoryStore} {machine after : Machine}
  {names : List String} {base place : Place} {path id : String}
  {write : FileWrite} {content : Bytes} {modified : Instant} {info : FileInfo}

/-! ### The parts of a write -/

/-- The last part of a write: replace the file at a relative path. -/
def replace (store : DirectoryStore) (path : String) (write : FileWrite) :
    Stored FileInfo := do
  orRefuse (some ("write " ++ store.fullPath path))
    (← ask (.save (store.fullPath path) (Text.toBytes write.content)))
  let status ← fileStatus (store.fullPath path)
  return { fileInfo path status with mimeType := write.mimeType }

theorem write_of_encrypt (encrypt : write.encrypt = true)
    (store : DirectoryStore) (id : String) :
    store.write id write = throw .noEncryption := by
  unfold DirectoryStore.write
  rw [encrypt, if_pos rfl]
  rfl

theorem write_of_plain (plain : write.encrypt = false)
    (unrecorded : write.recordHistory = false) (store : DirectoryStore)
    (id : String) :
    store.write id write = (do
      let path ← normalize id
      makeParent (store.fullPath path)
      store.replace path write) := by
  unfold DirectoryStore.write
  simp only [plain, unrecorded, Bool.false_eq_true, if_false]
  rfl

theorem write_of_recorded (plain : write.encrypt = false)
    (recorded : write.recordHistory = true) (store : DirectoryStore)
    (id : String) :
    store.write id write = (do
      let path ← normalize id
      makeParent (store.fullPath path)
      if ← isThere (store.fullPath path) then
        store.keepRevision path (store.fullPath path)
        store.replace path write
      else store.replace path write) := by
  unfold DirectoryStore.write
  simp only [plain, recorded, Bool.false_eq_true, if_false, if_true]
  rfl

theorem run_makeParent (path : String) (machine : Machine) :
    ∃ result middle, machine.run (makeParent path).run = (result, middle) ∧
      Grows machine.disk middle.disk ∧ middle.folder = machine.folder ∧
      middle.time = machine.time := by
  unfold makeParent
  cases Path.parent? path with
  | none => exact ⟨.ok (), machine, rfl, .refl _, rfl, rfl⟩
  | some folder =>
      have grows := makeFolders_grows machine.disk machine.folder folder
      dsimp only
      rw [Machine.run_bind_of_ok (Machine.run_ask _ _), Machine.run_orRefuse]
      exact ⟨_, _, rfl, grows, rfl, rfl⟩

theorem run_isThere (path : String) (machine : Machine) :
    machine.run (isThere path).run =
      (match machine.disk.inspect machine.folder path with
        | .ok _ => .ok true
        | .error .notFound => .ok false
        | .error error => .error (.system none error), machine) := by
  unfold isThere
  rw [Machine.run_bind_of_ok (Machine.run_ask _ _)]
  simp only [Machine.answer]
  cases machine.disk.inspect machine.folder path with
  | ok status => rfl
  | error error => cases error <;> rfl

theorem run_fileStatus (path : String) (machine : Machine) :
    machine.run (fileStatus path).run =
      (match machine.disk.inspect machine.folder path with
        | .ok (.file status) => .ok status
        | .ok .folder => .ok ⟨0, none⟩
        | .error error => .error (.system none error), machine) := by
  unfold fileStatus
  rw [Machine.run_bind_of_ok (Machine.run_ask _ _)]
  simp only [Machine.answer]
  cases machine.disk.inspect machine.folder path with
  | error error => rfl
  | ok status => cases status <;> rfl

/-- The info of a file that has been written. -/
def writtenInfo (path : String) (write : FileWrite) (time : Instant) :
    FileInfo :=
  { fileInfo path ⟨(Text.toBytes write.content).length, some time⟩ with
    mimeType := write.mimeType }

theorem run_replace (areNames : ∀ name ∈ names, IsName name)
    (found : machine.disk.filePlace machine.folder
      (store.fullPath ("/".intercalate names)) = .ok place)
    (write : FileWrite) :
    machine.run (store.replace ("/".intercalate names) write).run =
      (.ok (writtenInfo ("/".intercalate names) write machine.time),
        machine.putFile place (Text.toBytes write.content)) := by
  obtain ⟨put, more⟩ :=
    Machine.putFile_kind? areNames found (Text.toBytes write.content)
  have at_ := congrFun put place
  rw [Function.update_self] at at_
  have located : _ = Except.ok place := locate_join_of_filePlace areNames
    found more (Option.isSome_of_mem at_)
  rw [← fullPath] at located
  have inspected := inspect_eq_file_iff.2 ⟨_, _,
    find_eq_ok_iff.2 ⟨place, located, kind?_eq_file_iff.1 at_⟩, rfl⟩
  have known := run_fileStatus (store.fullPath ("/".intercalate names))
    (machine.putFile place (Text.toBytes write.content))
  rw [Machine.putFile_folder, inspected] at known
  unfold replace
  rw [Machine.run_bind_of_ok (Machine.run_ask _ _), Machine.answer_save found,
    Machine.run_bind_of_ok (Machine.run_orRefuse _ _ _),
    Machine.run_bind_of_ok known]
  rfl

theorem filePlace_of_replace
    (ran : machine.run (store.replace path write).run = (.ok info, after)) :
    ∃ place, machine.disk.filePlace machine.folder (store.fullPath path) =
      .ok place := by
  unfold replace at ran
  rw [Machine.run_bind_of_ok (Machine.run_ask _ _)] at ran
  obtain ⟨_, middle, saved, -⟩ := Machine.run_bind_eq_ok_iff.1 ran
  rw [Machine.run_orRefuse, Prod.mk.injEq] at saved
  cases answered : machine.answer
      (.save (store.fullPath path) (Text.toBytes write.content)) with
  | mk reply changed =>
      rw [answered] at saved
      cases reply with
      | error error => cases saved.1
      | ok => exact Machine.filePlace_of_save answered

/-- The relative path of the content of a file that has been kept. -/
def revisionPath (path stamp : String) : String :=
  historyFolder ++ "/" ++ (path ++ "." ++ stamp)

theorem join_history {kept : String} (relative : Path.isAbsolute kept = false)
    (store : DirectoryStore) :
    Path.join (store.fullPath historyFolder) kept =
      store.fullPath (historyFolder ++ "/" ++ kept) := by
  have below : Path.join historyFolder kept = historyFolder ++ "/" ++ kept :=
    Path.join_of_noSlash relative (by decide) (by decide)
  rw [fullPath, fullPath, ← Path.join_assoc relative, below]

theorem run_keepRevision
    (ran : machine.run
      (store.keepRevision path (store.fullPath path)).run = (.ok (), after)) :
    ∃ (middle : Machine) (content : Bytes) (modified : Instant)
      (place : Place), Grows machine.disk middle.disk ∧
      middle.folder = machine.folder ∧
      middle.disk.find machine.folder (store.fullPath path) =
        .ok (.file content modified) ∧
      middle.disk.filePlace machine.folder
        (Path.join (store.fullPath historyFolder)
          (path ++ "." ++ machine.time.stamp)) = .ok place ∧
      after = middle.putFile place content := by
  unfold keepRevision at ran
  rw [Machine.run_bind_of_ok (Machine.run_ask _ _)] at ran
  simp only [Machine.answer] at ran
  generalize Path.join (store.fullPath historyFolder)
    (path ++ "." ++ machine.time.stamp) = backup at ran ⊢
  obtain ⟨result, made, creates, grows, folder, -⟩ :=
    run_makeParent backup (machine.pass Machine.tick)
  obtain ⟨_, middle, created, ran⟩ := Machine.run_bind_eq_ok_iff.1 ran
  rw [creates, Prod.mk.injEq] at created
  obtain ⟨-, rfl⟩ := created
  rw [Machine.run_bind_of_ok (Machine.run_ask _ _), Machine.run_orRefuse,
    Prod.mk.injEq] at ran
  cases copied : made.answer (.copy (store.fullPath path) backup) with
  | mk reply changed =>
      rw [copied] at ran
      obtain ⟨allowed, rfl⟩ := ran
      cases reply with
      | error error => cases allowed
      | ok =>
          obtain ⟨content, modified, isFile⟩ := Machine.file_of_copy copied
          rw [Machine.answer_copy_of_file isFile] at copied
          obtain ⟨place, found⟩ := Machine.filePlace_of_save copied
          rw [Machine.answer_save found] at copied
          rw [folder] at isFile found
          exact ⟨made, content, modified, place, grows, folder, isFile, found,
            (Prod.mk.inj copied).2.symm⟩

/-- The relative path of a content that is kept is one of names. -/
theorem exists_names_kept (areNames : ∀ name ∈ names, IsName name)
    (some_ : names ≠ []) (time : Instant) :
    ∃ kept, (∀ name ∈ historyFolder :: kept, IsName name) ∧
      kept.length = names.length ∧
      "/".intercalate names ++ "." ++ time.stamp = "/".intercalate kept := by
  obtain ⟨above, name, rfl⟩ := (List.eq_nil_or_concat' names).resolve_left some_
  refine ⟨above ++ [name ++ "." ++ time.stamp], ?_, by simp, ?_⟩
  · have isHistory : IsName historyFolder :=
      ⟨by decide, by decide, by decide, by decide⟩
    have isLast := (areNames name (by simp)).append_dot time.noSlash_stamp
    intro other member
    rcases List.mem_cons.1 member with rfl | member
    · exact isHistory
    · rcases List.mem_append.1 member with member | member
      · exact areNames other (by simp [member])
      · rw [List.mem_singleton] at member
        rwa [member]
  · rw [String.append_assoc, Path.intercalate_append, String.append_assoc]

theorem intercalate_history {kept : List String} (some_ : kept ≠ []) :
    "/".intercalate (historyFolder :: kept) =
      historyFolder ++ "/" ++ "/".intercalate kept := by
  obtain ⟨first, rest, rfl⟩ := List.exists_cons_of_ne_nil some_
  exact String.intercalate_cons_cons

/-! ### Writes that keep what they replace -/

/-- The content of a file has been kept. -/
structure Keeps (store : DirectoryStore) (before after : Machine)
    (names kept : List String) (base : Place) (old : Bytes) : Prop where
  folder : after.folder = before.folder
  more : Extends before.disk after.disk
  root : after.disk.LeadsToFolder (Path.join before.folder store.root) base
  areKept : ∀ name ∈ historyFolder :: kept, IsName name
  length_eq : kept.length = names.length
  kept_eq : "/".intercalate names ++ "." ++ before.time.stamp =
    "/".intercalate kept
  isFile : before.disk.content? (names.reverse ++ base) = some old
  contents : after.disk.content? = Function.update before.disk.content?
    ((historyFolder :: kept).reverse ++ base) (some old)
  located : after.disk.locate before.folder
    (store.fullPath ("/".intercalate (historyFolder :: kept))) =
      .ok ((historyFolder :: kept).reverse ++ base)

/-- A file below the root of a store has been written.  If there has been one
before, its content has been kept. -/
structure Revises (store : DirectoryStore) (before after : Machine)
    (names : List String) (base : Place) (content : Bytes) : Prop where
  folder : after.folder = before.folder
  more : Extends before.disk after.disk
  root : after.disk.LeadsToFolder (Path.join before.folder store.root) base
  located : after.disk.locate before.folder
    (store.fullPath ("/".intercalate names)) = .ok (names.reverse ++ base)
  contents :
    before.disk.content? (names.reverse ++ base) = none ∧
        after.disk.content? = Function.update before.disk.content?
          (names.reverse ++ base) (some content) ∨
      ∃ middle kept old, store.Keeps before middle names kept base old ∧
        Extends middle.disk after.disk ∧
        after.disk.content? = Function.update middle.disk.content?
          (names.reverse ++ base) (some content)

theorem write_plain_of_ok
    (ran : machine.run (store.write id write).run = (.ok info, after)) :
    write.encrypt = false := by
  cases encrypt : write.encrypt with
  | false => rfl
  | true =>
      rw [write_of_encrypt encrypt] at ran
      cases ran

theorem content?_eq_none_of_absent (areNames : ∀ name ∈ names, IsName name)
    (found : machine.disk.filePlace machine.folder
      (store.fullPath ("/".intercalate names)) = .ok place)
    (absent : machine.disk.inspect machine.folder
      (store.fullPath ("/".intercalate names)) = .error .notFound) :
    machine.disk.content? place = none := by
  by_contra present
  obtain ⟨content, isFile⟩ := Option.ne_none_iff_exists'.1 present
  obtain ⟨modified, at_⟩ := content?_eq_some_iff.1 isFile
  have located : machine.disk.locate machine.folder
      (store.fullPath ("/".intercalate names)) = .ok place :=
    locate_join_of_filePlace areNames found (.refl _)
      (Option.isSome_of_mem (kind?_eq_file_iff.2 at_))
  rw [inspect_eq_file_iff.2
    ⟨content, modified, find_eq_ok_iff.2 ⟨place, located, at_⟩, rfl⟩] at absent
  cases absent

/-- A write where there has been nothing keeps nothing. -/
theorem revises_of_absent {middle : Machine}
    (areNames : ∀ name ∈ names, IsName name)
    (grows : Grows machine.disk middle.disk)
    (folder : middle.folder = machine.folder)
    (absent : middle.disk.inspect middle.folder
      (store.fullPath ("/".intercalate names)) = .error .notFound)
    (ran : middle.run (store.replace ("/".intercalate names) write).run =
      (.ok info, after)) :
    names ≠ [] ∧ ∃ base,
      store.Revises machine after names base (Text.toBytes write.content) := by
  obtain ⟨place, found⟩ := filePlace_of_replace ran
  have nothing := content?_eq_none_of_absent areNames found absent
  rw [run_replace areNames found, Prod.mk.injEq] at ran
  obtain ⟨put, more⟩ :=
    Machine.putFile_kind? areNames found (Text.toBytes write.content)
  obtain ⟨some_, -, -, base, root, rfl⟩ := filePlace_join areNames found
  obtain ⟨-, rfl⟩ := ran
  have at_ := congrFun put (names.reverse ++ base)
  rw [Function.update_self] at at_
  have located := locate_join_of_filePlace areNames found more
    (Option.isSome_of_mem at_)
  rw [grows.content?] at nothing
  refine ⟨some_, base, ⟨folder, grows.extends.trans more, ?_, ?_,
    .inl ⟨nothing, ?_⟩⟩⟩
  · rw [← folder]
    exact more.leadsToFolder root
  · rw [← folder]
    exact located
  · rw [content?_of_update put, grows.content?]

/-- What is kept is not put in the place of the file itself. -/
theorem Keeps.backup_ne {kept : List String} {old : Bytes}
    (keeps : store.Keeps machine after names kept base old) :
    names.reverse ++ base ≠ (historyFolder :: kept).reverse ++ base := by
  intro same
  have lengths := congrArg List.length same
  simp [keeps.length_eq] at lengths

theorem keeps_of_keepRevision {middle changed : Machine}
    (areNames : ∀ name ∈ names, IsName name)
    (grows : Grows machine.disk middle.disk)
    (folder : middle.folder = machine.folder)
    (time : middle.time = machine.time)
    (ran : middle.run (store.keepRevision ("/".intercalate names)
      (store.fullPath ("/".intercalate names))).run = (.ok (), changed)) :
    names ≠ [] ∧
      ∃ kept base old, store.Keeps machine changed names kept base old := by
  obtain ⟨grown, old, modified, backup, growsMore, grownFolder, isFile,
    found, rfl⟩ := run_keepRevision ran
  rw [time] at found
  rw [folder] at grownFolder isFile found
  have grownAll := grows.trans growsMore
  obtain ⟨place, located, at_⟩ := find_eq_ok_iff.1 isFile
  obtain ⟨base, root, rfl⟩ := locate_join areNames located
  have some_ : names ≠ [] := by
    rintro rfl
    obtain ⟨entries, isFolder⟩ := kind?_eq_folder_iff.1 root.isFolder
    cases isFolder.symm.trans at_
  obtain ⟨kept, areKept, length_eq, kept_eq⟩ :=
    exists_names_kept areNames some_ machine.time
  have keptSome : kept ≠ [] := by
    rintro rfl
    exact some_ (List.eq_nil_of_length_eq_zero length_eq.symm)
  have areKeptToo : ∀ name ∈ kept, IsName name :=
    fun name member => areKept name (List.mem_cons_of_mem _ member)
  rw [kept_eq, join_history (Path.isAbsolute_intercalate areKeptToo),
    ← intercalate_history keptSome] at found
  obtain ⟨put, more⟩ := Machine.putFile_kind? areKept found old
  obtain ⟨-, -, -, baseToo, rootToo, rfl⟩ := filePlace_join areKept found
  obtain rfl : baseToo = base := root.unique rootToo
  have at_backup := congrFun put ((historyFolder :: kept).reverse ++ baseToo)
  rw [Function.update_self] at at_backup
  refine ⟨some_, kept, baseToo, old, grownFolder,
    grownAll.extends.trans more, more.leadsToFolder root, areKept, length_eq,
    kept_eq, ?_, ?_, ?_⟩
  · rw [← grownAll.content?]
    exact content?_eq_some_iff.2 ⟨modified, at_⟩
  · rw [content?_of_update put, grownAll.content?]
  · exact locate_join_of_filePlace areKept found more
      (Option.isSome_of_mem at_backup)

/-- A write where there has been a file keeps its content. -/
theorem revises_of_keeps {changed : Machine} {kept : List String} {old : Bytes}
    (areNames : ∀ name ∈ names, IsName name)
    (keeps : store.Keeps machine changed names kept base old)
    (ran : changed.run (store.replace ("/".intercalate names) write).run =
      (.ok info, after)) :
    store.Revises machine after names base (Text.toBytes write.content) := by
  obtain ⟨place, found⟩ := filePlace_of_replace ran
  rw [run_replace areNames found, Prod.mk.injEq] at ran
  rw [keeps.folder] at found
  obtain ⟨put, more⟩ :=
    Machine.putFile_kind? areNames found (Text.toBytes write.content)
  obtain ⟨-, -, -, baseToo, root, rfl⟩ := filePlace_join areNames found
  obtain rfl : baseToo = base := keeps.root.unique root
  obtain ⟨-, rfl⟩ := ran
  have at_ := congrFun put (names.reverse ++ baseToo)
  rw [Function.update_self] at at_
  have located := locate_join_of_filePlace areNames found more
    (Option.isSome_of_mem at_)
  exact ⟨keeps.folder, keeps.more.trans more, more.leadsToFolder keeps.root,
    located, .inr ⟨changed, kept, old, keeps, more, content?_of_update put⟩⟩

theorem revises_of_write (recorded : write.recordHistory = true)
    (ran : machine.run (store.write id write).run = (.ok info, after)) :
    ∃ names base, normalize id = .ok ("/".intercalate names) ∧
      (∀ name ∈ names, IsName name) ∧ names ≠ [] ∧
      store.Revises machine after names base (Text.toBytes write.content) := by
  rw [write_of_recorded (write_plain_of_ok ran) recorded] at ran
  obtain ⟨path, middle, normalized, ran⟩ := Machine.run_bind_eq_ok_iff.1 ran
  rw [Machine.run_liftExcept, Prod.mk.injEq] at normalized
  obtain ⟨normalized, rfl⟩ := normalized
  obtain ⟨names, areNames, rfl⟩ := exists_names_of_normalize normalized
  obtain ⟨_, middle, created, ran⟩ := Machine.run_bind_eq_ok_iff.1 ran
  obtain ⟨result, made, creates, grows, folder, time⟩ :=
    run_makeParent (store.fullPath ("/".intercalate names)) machine
  rw [creates, Prod.mk.injEq] at created
  obtain ⟨-, rfl⟩ := created
  rw [Machine.run_stored_bind, run_isThere] at ran
  cases inspected : made.disk.inspect made.folder
      (store.fullPath ("/".intercalate names)) with
  | ok status =>
      rw [inspected] at ran
      obtain ⟨_, changed, kept, ran⟩ := Machine.run_bind_eq_ok_iff.1 ran
      obtain ⟨some_, keptNames, base, old, keeps⟩ :=
        keeps_of_keepRevision areNames grows folder time kept
      exact ⟨names, base, normalized, areNames, some_,
        revises_of_keeps areNames keeps ran⟩
  | error error =>
      rw [inspected] at ran
      by_cases absent : error = .notFound
      · subst absent
        obtain ⟨some_, base, revises⟩ :=
          revises_of_absent areNames grows folder inspected ran
        exact ⟨names, base, normalized, areNames, some_, revises⟩
      · cases error <;> first | exact (absent rfl).elim | cases ran

end DirectoryStore

end Runbook
