import Runbook.Proofs.Store.Listed
import Runbook.Proofs.Store.Opened

/-!
# What a store addresses

What a listing, a search or a request for folders returns is not hidden, and
neither is anything between it and the folder in which the request begins.  So
no part of a path that is returned is hidden, unless it is a part of the folder
that is asked for: that one is looked into even if it is hidden itself.

The normal form of a path has names only, and so what it leads to is within the
root of the store.  Whatever an id, a folder or a path says, reading, finding,
listing and writing ask about nothing else, and there is one exception: where
the id stands for the root itself, a write also asks to make the folder that
holds the root.  If the root is there, that does nothing.
-/

/-! ## What is hidden -/

namespace Runbook

namespace DirectoryStore

open Rehearsal Rehearsal.Disk
open Runbook.Path (IsName)

variable {store : DirectoryStore} {machine after : Machine}
  {folder path name : String} {names below : List String}

instance (names : List String) : Decidable (AreShown names) :=
  List.decidableBAll _ names

/-- A path leads below a folder, and from there by names that are not
hidden. -/
structure IsShownBelow (folder path : String) : Prop where
  exists_names : ∃ names below, (∀ name ∈ names, IsName name) ∧
    folder = "/".intercalate names ∧ Path.parts path = names ++ below ∧
      AreShown below

theorem parts_pathBelow (areNames : ∀ name ∈ names, IsName name)
    (areNamesToo : ∀ name ∈ below, IsName name) (some_ : below ≠ []) :
    Path.parts (pathBelow ("/".intercalate names) below) = names ++ below := by
  rw [pathBelow_intercalate areNames areNamesToo]
  exact Path.parts_intercalate (by simp [some_])
    (List.forall_mem_append.2 ⟨areNames, areNamesToo⟩)

theorem isShownBelow_child (isNormal : IsNormal folder) (isName : IsName name)
    (isShown : isHidden name = false) :
    IsShownBelow folder (child folder name) := by
  obtain ⟨names, areNames, rfl⟩ := isNormal
  have isNameToo : ∀ other ∈ [name], IsName other := by simpa
  have parts_eq := parts_pathBelow areNames isNameToo (List.cons_ne_nil _ _)
  exact ⟨names, [name], areNames, rfl, parts_eq, by simpa [AreShown]⟩

/-- Below a folder that is not hidden, no part of a path is. -/
theorem IsShownBelow.areShown (isShownBelow : IsShownBelow folder path)
    (shows : AreShown (Path.parts folder)) : AreShown (Path.parts path) := by
  obtain ⟨names, below, areNames, rfl, parts_eq, areShown⟩ :=
    isShownBelow.exists_names
  rw [parts_eq]
  cases names with
  | nil => exact areShown
  | cons first rest =>
      rw [Path.parts_intercalate (List.cons_ne_nil _ _) areNames] at shows
      exact List.forall_mem_append.2 ⟨shows, areShown⟩

/-! ### What is returned -/

theorem isShownBelow_of_list (isTree : machine.disk.IsTree)
    {listing : FileListing} {infos : List FileInfo}
    (normalized : normalize listing.folder = .ok path)
    (ran : machine.run (store.list listing).run = (.ok infos, after)) :
    ∀ info ∈ infos, IsShownBelow path info.path := by
  intro info member
  cases answers_list isTree normalized with
  | folder here exactly gives =>
      cases ran.symm.trans gives
      obtain ⟨all, isListing, rfl⟩ := exactly
      obtain ⟨name, isShown, content, modified, leads, rfl⟩ :=
        (isListing.mem_iff info).1 (mem_of_mem_limited member)
      have isName := areNames_of_below? (isTree_of_lookUp isTree here) leads
      exact isShownBelow_child (isNormal_of_normalize normalized)
        (isName name List.mem_cons_self) isShown
  | absent absent gives =>
      cases ran.symm.trans gives
      cases member
  | refused refuses gives => cases ran.symm.trans gives

theorem areShown_of_search (isTree : machine.disk.IsTree) {query : FileQuery}
    {infos : List FileInfo}
    (ran : machine.run (store.search query).run = (.ok infos, after)) :
    ∀ info ∈ infos, AreShown (Path.parts info.path) := by
  intro info member
  cases answers_search isTree query with
  | folder here exactly gives =>
      cases ran.symm.trans gives
      obtain ⟨all, isSearch, rfl⟩ := exactly
      obtain ⟨names, areShown, name, content, modified, last, leads, -, rfl⟩ :=
        (isSearch.mem_iff info).1 (mem_of_mem_limited member)
      have areNames := areNames_of_below? (isTree_of_lookUp isTree here) leads
      have some_ : names ≠ [] := by
        rintro rfl
        cases last
      have noNames : ∀ name ∈ ([] : List String), IsName name := by simp
      have parts_eq := parts_pathBelow noNames areNames some_
      rw [String.intercalate_nil, List.nil_append] at parts_eq
      intro part isPart
      rw [fileInfo, parts_eq] at isPart
      exact areShown part isPart
  | absent absent gives =>
      cases ran.symm.trans gives
      cases member
  | refused refuses gives => cases ran.symm.trans gives

/-- The folders that are returned are entries of the folder that is asked
for. -/
theorem isShownBelow_of_folders (isTree : machine.disk.IsTree)
    {found : List String} (normalized : normalize folder = .ok path)
    (ran : machine.run (store.folders folder).run = (.ok found, after)) :
    ∀ returned ∈ found, IsShownBelow path returned := by
  have read : machine.run (liftM (normalize folder) : Stored String).run =
      (.ok path, machine) := by
    rw [Machine.run_liftExcept, normalized]
  rw [folders, Machine.run_bind_of_ok read,
    Machine.run_bind_of_ok (Machine.run_ask _ _)] at ran
  simp only [Machine.answer] at ran
  intro returned member
  cases here : store.lookUp machine path with
  | error error =>
      rw [treeAt_of_error here] at ran
      cases ran
  | ok disk =>
      cases disk with
      | file content modified =>
          rw [treeAt_of_file here] at ran
          cases ran
      | folder entries =>
          rw [treeAt_of_folder here] at ran
          cases ran
          rw [List.mem_mergeSort, map_isVisibleFolder, List.mem_map] at member
          obtain ⟨item, isFolder, rfl⟩ := member
          obtain ⟨entry, isVisible, rfl⟩ :=
            List.mem_map.1 (List.mem_of_mem_filter isFolder)
          obtain ⟨isEntry, isShown⟩ := mem_visible_iff.1 isVisible
          have isName := (isTree_of_lookUp isTree here).of_mem isEntry
          exact isShownBelow_child (isNormal_of_normalize normalized)
            isName.1.toIsName isShown

/-- Nothing hidden is returned, save what is below a folder that is hidden and
is asked for. -/
theorem hidden_not_returned (isTree : machine.disk.IsTree) :
    (∀ (listing : FileListing) (path : String) (infos : List FileInfo)
        (after : Machine), normalize listing.folder = .ok path →
        machine.run (store.list listing).run = (.ok infos, after) →
          ∀ info ∈ infos, IsShownBelow path info.path ∧
            (AreShown (Path.parts path) → AreShown (Path.parts info.path))) ∧
      (∀ (folder path : String) (found : List String) (after : Machine),
        normalize folder = .ok path →
        machine.run (store.folders folder).run = (.ok found, after) →
          ∀ returned ∈ found, IsShownBelow path returned ∧
            (AreShown (Path.parts path) → AreShown (Path.parts returned))) ∧
      ∀ (query : FileQuery) (infos : List FileInfo) (after : Machine),
        machine.run (store.search query).run = (.ok infos, after) →
          ∀ info ∈ infos, AreShown (Path.parts info.path) := by
  refine ⟨fun listing path infos after normalized ran info member => ?_,
    fun folder path found after normalized ran returned member => ?_,
    fun _ _ _ => areShown_of_search isTree⟩
  · have isShownBelow := isShownBelow_of_list isTree normalized ran info member
    exact ⟨isShownBelow, isShownBelow.areShown⟩
  · have isShownBelow :=
      isShownBelow_of_folders isTree normalized ran returned member
    exact ⟨isShownBelow, isShownBelow.areShown⟩

/-- A listing of a folder that is there. -/
theorem exists_list (isTree : machine.disk.IsTree) {listing : FileListing}
    {entries : List (String × Disk)}
    (normalized : normalize listing.folder = .ok path)
    (here : store.lookUp machine path = .ok (.folder entries)) :
    ∃ all, IsListing path listing.sort (.folder entries) all ∧
      machine.run (store.list listing).run =
        (.ok (limited listing.limit all), machine) := by
  cases answers_list isTree normalized with
  | folder found exactly gives =>
      cases here.symm.trans found
      obtain ⟨all, isListing, rfl⟩ := exactly
      exact ⟨all, isListing, gives⟩
  | absent absent gives => cases here.symm.trans absent
  | refused refuses gives =>
      cases refuses with
      | system other refused => cases here.symm.trans refused
      | file isFile => cases here.symm.trans isFile

theorem hidden_not_returned_of_shelf :
    ∃ infos, shelfMachine.run (shelf.list ⟨"/notes", none, .name⟩).run =
        (.ok infos, shelfMachine) ∧
      (∃ info ∈ infos, info.path = "notes/a.md") ∧
      ∀ info ∈ infos, AreShown (Path.parts info.path) := by
  have normalized : normalize "/notes" = .ok "notes" := rfl
  have here : shelf.lookUp shelfMachine "notes" =
      .ok (.folder shelfEntries) := rfl
  obtain ⟨infos, isListing, gives⟩ :=
    @exists_list _ _ _ shelfMachine_isTree ⟨"/notes", none, .name⟩ _ normalized
      here
  have isListed : fileInfo "notes/a.md" ⟨1, some .epoch⟩ ∈ infos :=
    (isListing.mem_iff _).2 ⟨"a.md", by decide, [65], .epoch, rfl, rfl⟩
  obtain ⟨lists, -, -⟩ := @hidden_not_returned shelf _ shelfMachine_isTree
  refine ⟨infos, gives, ⟨_, isListed, rfl⟩, fun info member => ?_⟩
  have notHidden : AreShown (Path.parts "notes") := by decide
  exact (lists ⟨"/notes", none, .name⟩ "notes" infos shelfMachine normalized
    gives info member).2 notHidden

/-- What is in a folder that is hidden is returned if one asks for the
folder. -/
theorem list_shows_hidden :
    ∃ infos, shelfMachine.run (shelf.list ⟨"notes/.old", none, .name⟩).run =
        (.ok infos, shelfMachine) ∧
      ∃ info ∈ infos, info.path = "notes/.old/a.md" ∧
        ¬ AreShown (Path.parts info.path) := by
  have here : shelf.lookUp shelfMachine "notes/.old" =
      .ok (.folder [("a.md", .file [65] .epoch)]) := rfl
  have normalized : normalize "notes/.old" = .ok "notes/.old" := rfl
  obtain ⟨infos, isListing, gives⟩ :=
    @exists_list _ _ _ shelfMachine_isTree ⟨"notes/.old", none, .name⟩ _
      normalized here
  have isListed : fileInfo "notes/.old/a.md" ⟨1, some .epoch⟩ ∈ infos :=
    (isListing.mem_iff _).2 ⟨"a.md", by decide, [65], .epoch, rfl, rfl⟩
  exact ⟨infos, gives, _, isListed, rfl, by decide⟩

end DirectoryStore

end Runbook

/-! ## What a store addresses -/

namespace Runbook

namespace DirectoryStore

open Rehearsal Rehearsal.Disk
open Rehearsal.Machine (HasRoot IsContained)
open Program (AsksOnly)
open Host (Question)
open Runbook.Path (IsName IsWithin counted)

variable {store : DirectoryStore} {id path : String} {names : List String}
  {question : Question}

/-! ### Normal forms -/

theorem isWithin_fullPath (areNames : ∀ name ∈ names, IsName name)
    (store : DirectoryStore) :
    IsWithin store.root (store.fullPath ("/".intercalate names)) :=
  Path.isWithin_join areNames store.root

/-- A path has a normal form. -/
structure IsNormalForm (store : DirectoryStore) (path normal : String) :
    Prop where
  eq_intercalate : normal = "/".intercalate (counted (Text.trim path))
  counted_eq : counted normal = counted (Text.trim path)
  areNames : ∀ name ∈ counted normal, IsName name
  isRelative : Path.isAbsolute normal = false
  isWithin : IsWithin store.root (store.fullPath normal)
  below : ∀ (machine : Machine) (base place : Place),
    machine.HasRoot store.root base →
      machine.disk.locate machine.folder (store.fullPath normal) = .ok place →
        base <:+ place

theorem isNormalForm_of_normalize (store : DirectoryStore) {normal : String}
    (normalized : normalize path = .ok normal) :
    store.IsNormalForm path normal := by
  rw [normalize_eq] at normalized
  split at normalized
  · cases normalized
  · rename_i noSteps
    rw [← Except.ok.inj normalized]
    have areNames : ∀ name ∈ counted (Text.trim path), IsName name :=
      fun name => Path.isName_of_mem_counted noSteps
    have isWithin := isWithin_fullPath areNames store
    have counted_eq := Path.counted_intercalate areNames
    exact ⟨rfl, counted_eq, by rwa [counted_eq],
      Path.isAbsolute_intercalate areNames, isWithin,
      fun machine base place => below_of_locate isWithin⟩

/-! ### Questions -/

/-- A question that names one path. -/
theorem isWithin_of_path {root : String} (isWithin : IsWithin root path)
    (named : question.paths? = some [path]) : question.IsWithin root :=
  ⟨[path], named, by simpa⟩

theorem isName_stamp (time : Instant) : IsName ("." ++ time.stamp) := by
  have letter : 'T' ∈ ("." ++ time.stamp).toList := by
    rw [String.toList_append, Instant.toList_stamp]
    simp [Instant.stampSeconds]
  have differs (other : String) (without : 'T' ∉ other.toList) :
      "." ++ time.stamp ≠ other := by
    rintro rfl
    exact without letter
  refine ⟨differs "" (by decide), differs "." (by decide),
    differs ".." (by decide), ?_⟩
  rw [String.toList_append, List.mem_append, not_or]
  exact ⟨by decide, time.noSlash_stamp⟩

/-- The path of a content that is kept is one of names, even if that of the file
is the root. -/
theorem exists_names_backup (areNames : ∀ name ∈ names, IsName name)
    (store : DirectoryStore) (time : Instant) :
    ∃ kept, (∀ name ∈ kept, IsName name) ∧ kept ≠ [] ∧
      store.backupPath ("/".intercalate names) time =
        store.fullPath ("/".intercalate kept) := by
  obtain ⟨kept, areKept, some_, kept_eq⟩ : ∃ kept,
      (∀ name ∈ historyFolder :: kept, IsName name) ∧ kept ≠ [] ∧
        "/".intercalate names ++ "." ++ time.stamp = "/".intercalate kept := by
    rcases eq_or_ne names [] with rfl | some_
    · have isHistory : IsName historyFolder :=
        ⟨by decide, by decide, by decide, by decide⟩
      exact ⟨["." ++ time.stamp], by simpa using ⟨isHistory, isName_stamp time⟩,
        List.cons_ne_nil _ _, by simp⟩
    · obtain ⟨kept, areKept, same, kept_eq⟩ :=
        exists_names_kept areNames some_ time
      refine ⟨kept, areKept, ?_, kept_eq⟩
      rintro rfl
      exact some_ (List.eq_nil_of_length_eq_zero same.symm)
  have relative := Path.isAbsolute_intercalate
    fun name member => areKept name (List.mem_cons_of_mem _ member)
  refine ⟨historyFolder :: kept, areKept, List.cons_ne_nil _ _, ?_⟩
  rw [backupPath, kept_eq, join_history relative, intercalate_history some_]

theorem isWithin_of_asksToWrite (areNames : ∀ name ∈ names, IsName name)
    (asks : store.AsksToWrite ("/".intercalate names) question) :
    question.IsWithin store.root := by
  have isWithin := isWithin_fullPath areNames store
  cases asks with
  | inspect => exact isWithin_of_path isWithin rfl
  | save content => exact isWithin_of_path isWithin rfl
  | now => exact ⟨[], rfl, nofun⟩
  | @makeParent time folder holds =>
      obtain ⟨kept, areKept, some_, backup_eq⟩ :=
        exists_names_backup areNames store time
      rw [backup_eq] at holds
      exact isWithin_of_path (Path.isWithin_parent? areKept some_ holds) rfl
  | copy time =>
      obtain ⟨kept, areKept, -, backup_eq⟩ :=
        exists_names_backup areNames store time
      rw [backup_eq]
      refine ⟨_, rfl, ?_⟩
      rw [List.forall_mem_cons, List.forall_mem_singleton]
      exact ⟨isWithin, isWithin_fullPath areKept store⟩

theorem isWithin_of_asksForFolder (areNames : ∀ name ∈ names, IsName name)
    (some_ : names ≠ [])
    (asks : store.AsksForFolder ("/".intercalate names) question) :
    question.IsWithin store.root := by
  obtain ⟨folder, holds, rfl⟩ := asks
  exact isWithin_of_path (Path.isWithin_parent? areNames some_ holds) rfl

/-! ### Operations -/

/-- All that is asked is about what is within the root of a store, or about the
time; so what is done is contained in the root. -/
structure StaysWithin {α : Type} (store : DirectoryStore)
    (computation : Stored α) : Prop where
  asks : computation.run.AsksOnly (Question.IsWithin store.root)
  isContained : IsContained store.root computation.run

theorem staysWithin_of_asksOnly {α : Type} {computation : Stored α}
    {isAsked : Question → Prop} (asks : computation.run.AsksOnly isAsked)
    (areWithin : ∀ question, isAsked question →
      question.IsWithin store.root) :
    store.StaysWithin computation :=
  have within := asks.mono areWithin
  ⟨within, Machine.isContained_of_asksOnly within⟩

theorem staysWithin_read (store : DirectoryStore) (id : String) :
    store.StaysWithin (store.read id) := by
  refine staysWithin_of_asksOnly (asksOnly_read store id)
    fun question asks => ?_
  obtain ⟨path, normalized, asks⟩ := asks
  have isWithin := (isNormalForm_of_normalize store normalized).isWithin
  cases asks with
  | load => exact isWithin_of_path isWithin rfl
  | inspect => exact isWithin_of_path isWithin rfl

theorem staysWithin_find (store : DirectoryStore) (path : String) :
    store.StaysWithin (store.find path) := by
  refine staysWithin_of_asksOnly (asksOnly_find store path)
    fun question asks => ?_
  obtain ⟨path, normalized, rfl⟩ := asks
  exact isWithin_of_path
    (isNormalForm_of_normalize store normalized).isWithin rfl

theorem staysWithin_list (store : DirectoryStore) (listing : FileListing) :
    store.StaysWithin (store.list listing) := by
  refine staysWithin_of_asksOnly (asksOnly_list store listing)
    fun question asks => ?_
  obtain ⟨path, normalized, rfl⟩ := asks
  exact isWithin_of_path
    (isNormalForm_of_normalize store normalized).isWithin rfl

theorem staysWithin_folders (store : DirectoryStore) (folder : String) :
    store.StaysWithin (store.folders folder) := by
  refine staysWithin_of_asksOnly (asksOnly_folders store folder)
    fun question asks => ?_
  obtain ⟨path, normalized, rfl⟩ := asks
  exact isWithin_of_path
    (isNormalForm_of_normalize store normalized).isWithin rfl

theorem staysWithin_write (store : DirectoryStore) {id : String}
    (notRoot : normalize id ≠ .ok "") (write : FileWrite) :
    store.StaysWithin (store.write id write) := by
  refine staysWithin_of_asksOnly (asksOnly_write store id write)
    fun question asks => ?_
  obtain ⟨path, normalized, asks⟩ := asks
  obtain ⟨names, areNames, path_eq⟩ := exists_names_of_normalize normalized
  rw [path_eq] at normalized asks
  rcases asks with asks | asks
  · refine isWithin_of_asksForFolder areNames (fun none_ => ?_) asks
    rw [none_] at normalized
    exact notRoot normalized
  · exact isWithin_of_asksToWrite areNames asks

/-- To make the folder that holds the root is contained, because it is there. -/
theorem isContained_makeParent (store : DirectoryStore) :
    IsContained store.root (makeParent (store.fullPath "")).run := by
  unfold makeParent
  cases holds : Path.parent? (store.fullPath "") with
  | none => exact Machine.isContained_done _ _
  | some folder =>
      refine (Machine.isContained_makeFolders holds).bind fun reply => ?_
      cases reply <;> exact Machine.isContained_done _ _

/-- A write is contained even where the id stands for the root. -/
theorem isContained_write (store : DirectoryStore) (id : String)
    (write : FileWrite) :
    IsContained store.root (store.write id write).run := by
  by_cases isRoot : normalize id = .ok ""
  · cases encrypt : write.encrypt with
    | true =>
        rw [write_of_encrypt encrypt]
        exact Machine.isContained_done _ _
    | false =>
        -- Only the first question is not about what is within the root.
        have noNames : ∀ name ∈ ([] : List String), IsName name := by simp
        have there := Machine.isContained_of_asksOnly
          ((asksOnly_writeThere store "" write).mono fun question asks =>
            isWithin_of_asksToWrite noNames asks)
        rw [write_eq encrypt, isRoot]
        refine (isContained_makeParent store).bind fun result => ?_
        cases result with
        | error error => exact Machine.isContained_done _ _
        | ok => exact there
  · exact (staysWithin_write store isRoot write).isContained

/-- No path leads out of the root of a store. -/
theorem addresses_within_root (store : DirectoryStore) :
    (∀ path, (∃ error, normalize path = .error error) ↔
        ".." ∈ Path.parts (Text.trim path)) ∧
      (∀ path normal, normalize path = .ok normal →
        store.IsNormalForm path normal) ∧
      (∀ id, store.StaysWithin (store.read id)) ∧
      (∀ path, store.StaysWithin (store.find path)) ∧
      (∀ listing, store.StaysWithin (store.list listing)) ∧
      (∀ folder, store.StaysWithin (store.folders folder)) ∧
      (∀ id write, normalize id ≠ .ok "" →
        store.StaysWithin (store.write id write)) ∧
      ∀ id write, IsContained store.root (store.write id write).run := by
  refine ⟨fun path => ?_, fun path normal => isNormalForm_of_normalize store,
    staysWithin_read store, staysWithin_find store, staysWithin_list store,
    staysWithin_folders store,
    fun id write notRoot => staysWithin_write store notRoot write,
    isContained_write store⟩
  rw [normalize_eq]
  split
  · exact ⟨fun _ => ‹_›, fun _ => ⟨_, rfl⟩⟩
  · exact ⟨nofun, fun up => (‹¬ _› up).elim⟩

/-- A new note is within the root, and what is beside the root stays. -/
theorem addresses_within_root_of_shelf :
    normalize " /notes//c.md" = .ok "notes/c.md" ∧
      shelf.IsNormalForm " /notes//c.md" "notes/c.md" ∧
      shelf.StaysWithin (shelf.write " /notes//c.md" default) ∧
      shelfMachine.HasRoot shelf.root ["data"] ∧
      (shelfMachine.run
        (shelf.write " /notes//c.md" default).run).2.disk.kind? ["other"] =
          none := by
  have normalized : normalize " /notes//c.md" = .ok "notes/c.md" := rfl
  have hasRoot : shelfMachine.HasRoot shelf.root ["data"] := ⟨rfl, rfl⟩
  obtain ⟨-, normal, -, -, -, -, writes, -⟩ := addresses_within_root shelf
  have notRoot : normalize " /notes//c.md" ≠ .ok "" := by
    rw [normalized]
    decide
  have staysWithin := writes " /notes//c.md" default notRoot
  refine ⟨normalized, normal _ _ normalized, staysWithin, hasRoot, ?_⟩
  have changes := staysWithin.isContained.changes shelfMachine _ hasRoot
  rw [changes.changes.kind?_eq ["other"] (by decide)]
  rfl

theorem not_isWithin_above : ¬ (Question.makeFolders "a").IsWithin "a/b" := by
  rintro ⟨paths, named, areWithin⟩
  cases named
  obtain ⟨-, names, -, counted_eq⟩ := areWithin "a" (by simp)
  have ofFolder : counted "a" = ["a"] := rfl
  have ofRoot : counted "a/b" = ["a", "b"] := rfl
  rw [ofFolder, ofRoot] at counted_eq
  cases (List.cons.inj counted_eq).2

/-- Where the root is not there, a write whose id stands for the root makes the
folder that would hold it. -/
theorem write_leaves_root :
    let store : DirectoryStore := ⟨"a/b"⟩
    let machine := Machine.new .empty "/" .empty [] .offline 0
    let after := (machine.run (store.write "/" default).run).2
    normalize "/" = .ok "" ∧
      ¬ (store.write "/" default).run.AsksOnly (Question.IsWithin "a/b") ∧
      machine.disk.kind? ["a"] = none ∧
      after.disk.kind? ["a"] = some .folder ∧
      after.disk.kind? ["b", "a"] = none :=
  ⟨rfl, fun asks => not_isWithin_above asks.first, rfl, rfl, rfl⟩

end DirectoryStore

end Runbook
