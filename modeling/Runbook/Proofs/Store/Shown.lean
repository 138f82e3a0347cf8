import Mathlib.Data.List.Nodup
import Runbook.Proofs.Store.Listing

/-!
# What a store shows

Below a folder, a store shows what names lead to none of which is hidden.  A
walk gives the files among this, each of them once.
-/

namespace Runbook

namespace Rehearsal.Disk

variable {entries : List (String × Disk)}

theorem IsTree.of_mem (isTree : IsTree (.folder entries))
    {entry : String × Disk} (member : entry ∈ entries) :
    IsFileName entry.1 ∧ entry.2.IsTree := by
  cases isTree with
  | folder distinct areNames areTrees =>
      exact ⟨areNames entry member, areTrees entry member⟩

end Rehearsal.Disk

namespace DirectoryStore

open Rehearsal Rehearsal.Disk
open Runbook.Path (IsName)

variable {store : DirectoryStore} {machine : Machine} {disk found : Disk}
  {path place name : String} {names below others : List String}
  {entries : List (String × Disk)}

/-! ### Paths below a folder -/

/-- The path to which names lead from a folder. -/
def pathBelow (folder : String) (names : List String) : String :=
  names.foldl child folder

/-- A path that leads from the root by names. -/
def IsNormal (path : String) : Prop :=
  ∃ names, (∀ name ∈ names, IsName name) ∧ path = "/".intercalate names

theorem pathBelow_intercalate (areNames : ∀ name ∈ names, IsName name)
    (areNamesToo : ∀ name ∈ below, IsName name) :
    pathBelow ("/".intercalate names) below =
      "/".intercalate (names ++ below) := by
  induction below generalizing names with
  | nil => rw [List.append_nil, pathBelow, List.foldl_nil]
  | cons name below ih =>
      rw [List.forall_mem_cons] at areNamesToo
      have areNames : ∀ other ∈ names ++ [name], IsName other := by
        simpa [or_imp, forall_and] using ⟨areNames, areNamesToo.1⟩
      have more := ih areNames areNamesToo.2
      rw [pathBelow] at more ⊢
      rw [List.foldl_cons, child_intercalate (fun other member => areNames
        other (List.mem_append_left _ member)), more, List.append_assoc]
      rfl

theorem names_eq_of_intercalate_eq (areNames : ∀ name ∈ names, IsName name)
    (areNamesToo : ∀ name ∈ others, IsName name)
    (same : "/".intercalate names = "/".intercalate others) :
    names = others := by
  have parted := Path.counted_intercalate areNames
  rw [same, Path.counted_intercalate areNamesToo] at parted
  exact parted.symm

/-- Different names lead to different paths. -/
theorem IsNormal.pathBelow_inj (isNormal : IsNormal path)
    (areNames : ∀ name ∈ below, IsName name)
    (areNamesToo : ∀ name ∈ others, IsName name)
    (same : pathBelow path below = pathBelow path others) :
    below = others := by
  obtain ⟨names, areNamesBefore, rfl⟩ := isNormal
  rw [pathBelow_intercalate areNamesBefore areNames,
    pathBelow_intercalate areNamesBefore areNamesToo] at same
  refine List.append_cancel_left (names_eq_of_intercalate_eq ?_ ?_ same)
  · exact List.forall_mem_append.2 ⟨areNamesBefore, areNames⟩
  · exact List.forall_mem_append.2 ⟨areNamesBefore, areNamesToo⟩

theorem IsNormal.child (isNormal : IsNormal path) (isName : IsName name) :
    IsNormal (child path name) := by
  obtain ⟨names, areNames, rfl⟩ := isNormal
  refine ⟨names ++ [name], ?_, child_intercalate areNames name⟩
  simpa [or_imp, forall_and] using ⟨areNames, isName⟩

theorem isNormal_of_normalize {id : String}
    (normalized : normalize id = .ok path) : IsNormal path :=
  exists_names_of_normalize normalized

/-! ### What is shown -/

/-- None of the names is hidden. -/
def AreShown (names : List String) : Prop :=
  ∀ name ∈ names, isHidden name = false

mutual

/-- What is shown of a disk with a path, each thing with its own path. -/
def shown (path : String) : Disk → List (String × Disk)
  | .file content modified => [(path, .file content modified)]
  | .folder entries => (path, .folder entries) :: shownEntries path entries

def shownEntries (folder : String) :
    List (String × Disk) → List (String × Disk)
  | [] => []
  | (name, entry) :: rest =>
    (if isHidden name then [] else shown (child folder name) entry) ++
      shownEntries folder rest

end

/-- The entries of a folder that are not hidden. -/
def visible (entries : List (String × Disk)) : List (String × Disk) :=
  entries.filter fun entry => !isHidden entry.1

theorem mem_visible_iff {entry : String × Disk} :
    entry ∈ visible entries ↔ entry ∈ entries ∧ isHidden entry.1 = false := by
  simp [visible]

theorem shownEntries_eq (folder : String) (entries : List (String × Disk)) :
    shownEntries folder entries = (visible entries).flatMap fun entry =>
      shown (child folder entry.1) entry.2 := by
  induction entries with
  | nil => rfl
  | cons entry rest ih =>
      obtain ⟨name, entry⟩ := entry
      rw [shownEntries, ih, visible, visible, List.filter_cons]
      cases isHidden name <;> rfl

/-- What is shown is what names lead to none of which is hidden. -/
theorem mem_shown_iff (isTree : disk.IsTree) :
    (place, found) ∈ shown path disk ↔
      ∃ names, AreShown names ∧ disk.below? names = some found ∧
        place = pathBelow path names := by
  induction isTree generalizing path with
  | file content modified =>
      rw [shown, List.mem_singleton, Prod.mk.injEq]
      constructor
      · rintro ⟨rfl, rfl⟩
        exact ⟨[], nofun, rfl, rfl⟩
      · rintro ⟨_ | ⟨name, names⟩, -, below, rfl⟩
        · exact ⟨rfl, (Option.some.inj below).symm⟩
        · cases below
  | @folder entries distinct areNames areTrees ih =>
      rw [shown, List.mem_cons, shownEntries_eq, List.mem_flatMap,
        Prod.mk.injEq]
      constructor
      · rintro (⟨rfl, rfl⟩ | ⟨entry, isVisible, member⟩)
        · exact ⟨[], nofun, rfl, rfl⟩
        · obtain ⟨isEntry, isShown⟩ := mem_visible_iff.1 isVisible
          obtain ⟨names, areShown, below, rfl⟩ := (ih entry isEntry).1 member
          refine ⟨entry.1 :: names, List.forall_mem_cons.2 ⟨isShown, areShown⟩,
            ?_, rfl⟩
          rw [Disk.below?, Disk.entries, lookup_of_mem distinct isEntry]
          exact below
      · rintro ⟨_ | ⟨name, names⟩, areShown, below, rfl⟩
        · exact .inl ⟨rfl, (Option.some.inj below).symm⟩
        · obtain ⟨entry, here, below⟩ := Option.bind_eq_some_iff.1 below
          obtain ⟨isShown, areShown⟩ := List.forall_mem_cons.1 areShown
          have isEntry := mem_of_lookup here
          exact .inr ⟨(name, entry), mem_visible_iff.2 ⟨isEntry, isShown⟩,
            (ih _ isEntry).2 ⟨names, areShown, below, rfl⟩⟩

/-- What is shown of a part of a tree has names of its own. -/
theorem areNames_of_below? (isTree : disk.IsTree)
    (leads : disk.below? names = some found) : ∀ name ∈ names, IsName name :=
  fun name member => ((isTree.below? leads).2 name member).toIsName

/-- Nothing is shown twice. -/
theorem nodup_shown (isTree : disk.IsTree) (isNormal : IsNormal path) :
    ((shown path disk).map Prod.fst).Nodup := by
  induction isTree generalizing path with
  | file content modified => simp [shown]
  | @folder entries distinct areNames areTrees ih =>
      have names_of {entry : String × Disk} {place : String}
          (member : entry ∈ entries)
          (isPlace : place ∈ (shown (child path entry.1) entry.2).map
            Prod.fst) :
          ∃ below, (∀ name ∈ entry.1 :: below, IsName name) ∧
            place = pathBelow path (entry.1 :: below) := by
        obtain ⟨⟨place, found⟩, isShown, rfl⟩ := List.mem_map.1 isPlace
        obtain ⟨below, -, leads, rfl⟩ :=
          (mem_shown_iff (areTrees entry member)).1 isShown
        exact ⟨below, List.forall_mem_cons.2 ⟨(areNames entry member).toIsName,
          areNames_of_below? (areTrees entry member) leads⟩, rfl⟩
      rw [shown, List.map_cons, List.nodup_cons, shownEntries_eq,
        List.map_flatMap, List.nodup_flatMap]
      refine ⟨?_, fun entry isVisible => ?_, ?_⟩
      · intro isPlace
        obtain ⟨entry, isVisible, isPlace⟩ := List.mem_flatMap.1 isPlace
        obtain ⟨below, areNames, same⟩ :=
          names_of (mem_visible_iff.1 isVisible).1 isPlace
        have noNames : ∀ name ∈ ([] : List String), IsName name := by simp
        cases isNormal.pathBelow_inj noNames areNames same
      · have member := (mem_visible_iff.1 isVisible).1
        exact ih entry member (isNormal.child (areNames entry member).toIsName)
      · have differ : (visible entries).Pairwise fun first second =>
            first.1 ≠ second.1 :=
          (List.pairwise_map.1 distinct).filter _
        refine differ.imp_of_mem fun {first second} isFirst isSecond other => ?_
        intro place inFirst inSecond
        obtain ⟨below, areNames, rfl⟩ :=
          names_of (mem_visible_iff.1 isFirst).1 inFirst
        obtain ⟨belowToo, areNamesToo, same⟩ :=
          names_of (mem_visible_iff.1 isSecond).1 inSecond
        exact other (List.cons.inj
          (isNormal.pathBelow_inj areNames areNamesToo same)).1

/-! ### Files and folders -/

def fileStatus? : String × Disk → Option (String × FileStatus)
  | (path, .file content modified) =>
    some (path, ⟨content.length, some modified⟩)
  | _ => none

def folderPath? : String × Disk → Option String
  | (path, .folder _) => some path
  | _ => none

theorem fileStatus?_eq_some_iff {item : String × Disk}
    {file : String × FileStatus} :
    fileStatus? item = some file ↔
      ∃ content modified, item.2 = .file content modified ∧
        file = (item.1, ⟨content.length, some modified⟩) := by
  obtain ⟨path, content | inner⟩ := item
  · simp [fileStatus?, eq_comm]
  · simp [fileStatus?]

/-- The files that are shown. -/
theorem mem_shownFiles_iff (isTree : disk.IsTree)
    {file : String × FileStatus} :
    file ∈ (shown path disk).filterMap fileStatus? ↔
      ∃ names content modified, AreShown names ∧
        disk.below? names = some (.file content modified) ∧
        file = (pathBelow path names, ⟨content.length, some modified⟩) := by
  rw [List.mem_filterMap]
  constructor
  · rintro ⟨⟨place, found⟩, isShown, isFile⟩
    obtain ⟨content, modified, rfl, rfl⟩ := fileStatus?_eq_some_iff.1 isFile
    obtain ⟨names, areShown, leads, rfl⟩ := (mem_shown_iff isTree).1 isShown
    exact ⟨names, content, modified, areShown, leads, rfl⟩
  · rintro ⟨names, content, modified, areShown, leads, rfl⟩
    exact ⟨_, (mem_shown_iff isTree).2 ⟨names, areShown, leads, rfl⟩, rfl⟩

theorem nodup_shownFiles (isTree : disk.IsTree) (isNormal : IsNormal path) :
    (((shown path disk).filterMap fileStatus?).map Prod.fst).Nodup := by
  have distinct := List.pairwise_map.1 (nodup_shown isTree isNormal)
  refine List.pairwise_map.2 (distinct.filterMap _ ?_)
  intro first second differ file isFile other isOther
  obtain ⟨_, _, -, rfl⟩ := fileStatus?_eq_some_iff.1 isFile
  obtain ⟨_, _, -, rfl⟩ := fileStatus?_eq_some_iff.1 isOther
  exact differ

/-- A walk finds the files that are shown. -/
theorem visibleFiles_tree (store : DirectoryStore) (path : String)
    (isTree : disk.IsTree) :
    store.visibleFiles path disk.tree =
      .ok ((shown path disk).filterMap fileStatus?) := by
  induction isTree generalizing path with
  | file content modified => rfl
  | @folder entries distinct areNames areTrees ih =>
      rw [Disk.tree, visibleFiles, shown, List.filterMap_cons_none rfl]
      clear distinct areNames
      induction entries with
      | nil => rfl
      | cons entry rest ihRest =>
          obtain ⟨name, entry⟩ := entry
          rw [List.forall_mem_cons] at areTrees
          have others := ihRest areTrees.2 fun other member =>
            ih other (List.mem_cons_of_mem _ member)
          rw [treeEntries, visibleEntries, others, shownEntries]
          cases isHidden name with
          | true => rfl
          | false =>
              have here := ih (name, entry) List.mem_cons_self
                (child path name)
              rw [if_neg Bool.false_ne_true, here, if_neg Bool.false_ne_true,
                List.filterMap_append]
              rfl

/-! ### What paths lead to -/

/-- What a path relative to the root leads to. -/
def lookUp (store : DirectoryStore) (machine : Machine) (path : String) :
    Except SystemError Disk :=
  machine.disk.find machine.folder (store.fullPath path)

theorem isTree_of_lookUp (isTree : machine.disk.IsTree)
    (here : store.lookUp machine path = .ok disk) : disk.IsTree := by
  obtain ⟨place, -, at_⟩ := find_eq_ok_iff.1 here
  exact (isTree.below? at_).1

/-- What is below a folder is found with its own path. -/
theorem lookUp_pathBelow (isTree : machine.disk.IsTree)
    (isNormal : IsNormal path) (here : store.lookUp machine path = .ok disk)
    (leads : disk.below? below = some found) :
    store.lookUp machine (pathBelow path below) = .ok found := by
  cases below with
  | nil => rwa [← Option.some.inj leads]
  | cons first rest =>
      obtain ⟨names, areNames, rfl⟩ := isNormal
      obtain ⟨place, located, at_⟩ := find_eq_ok_iff.1 here
      obtain ⟨base, root, rfl⟩ := locate_join areNames located
      have isAt : machine.disk.at? ((names ++ first :: rest).reverse ++ base) =
          some found := by
        rw [List.reverse_append, List.append_assoc, at?_append, at_]
        exact leads
      have areFileNames : ∀ name ∈ names ++ first :: rest, IsFileName name := by
        have above := isAt
        rw [at?_append, Option.bind_eq_some_iff] at above
        obtain ⟨top, atTop, leads⟩ := above
        exact ((isTree.below? atTop).1.below? leads).2
      have areNamesToo : ∀ name ∈ names ++ first :: rest, IsName name :=
        fun name member => (areFileNames name member).toIsName
      have valid := valid_join (Path.isAbsolute_intercalate areNames)
        (valid_of_locate located) (Path.isAbsolute_intercalate areNamesToo)
        (noZero_intercalate areFileNames)
        (Path.intercalate_ne_empty (by simp) areNamesToo)
      rw [pathBelow_intercalate areNames
        (areNames_of_below? (isTree.below? at_).1 leads)]
      refine find_eq_ok_iff.2 ⟨_, locate_join_of_isSome areFileNames valid root
        ?_, isAt⟩
      rw [kind?, isAt]
      rfl

theorem treeAt_of_folder
    (here : store.lookUp machine path = .ok (.folder entries)) :
    machine.disk.treeAt machine.folder (store.fullPath path) =
      .folder (treeEntries entries) := by
  rw [lookUp] at here
  rw [treeAt, here]
  rfl

theorem treeAt_of_error {error : SystemError}
    (refused : store.lookUp machine path = .error error) :
    machine.disk.treeAt machine.folder (store.fullPath path) =
      .unreadable error := by
  rw [lookUp] at refused
  rw [treeAt, refused]

theorem treeAt_of_file {content : Bytes} {modified : Instant}
    (here : store.lookUp machine path = .ok (.file content modified)) :
    machine.disk.treeAt machine.folder (store.fullPath path) =
      .unreadable .notAFolder := by
  rw [lookUp] at here
  rw [treeAt, here]

/-! ### Walks -/

/-- Files in the order of their paths. -/
def sortedFiles (files : List (String × FileStatus)) :
    List (String × FileStatus) :=
  files.mergeSort fun left right => decide (left.1 ≤ right.1)

variable {files filesToo : List (String × FileStatus)}

theorem sortedFiles_perm (files : List (String × FileStatus)) :
    (sortedFiles files).Perm files :=
  List.mergeSort_perm files _

theorem pairwise_sortedFiles (distinct : (files.map Prod.fst).Nodup) :
    (sortedFiles files).Pairwise fun left right => left.1 < right.1 := by
  have sorted : (sortedFiles files).Pairwise fun left right =>
      left.1 ≤ right.1 := by
    have sorted := @List.pairwise_mergeSort (String × FileStatus)
      (fun left right => decide (left.1 ≤ right.1))
      (fun _ _ _ => by simpa using String.le_trans)
      (fun _ _ => by simpa using String.le_total _ _) files
    simpa [sortedFiles] using sorted
  have differ : (sortedFiles files).Pairwise fun left right =>
      left.1 ≠ right.1 := by
    have same := (sortedFiles_perm files).map Prod.fst
    exact List.pairwise_map.1 (same.nodup_iff.2 distinct)
  exact (sorted.and differ).imp fun both => Std.lt_of_le_of_ne both.1 both.2

/-- What comes of a walk that begins in a folder. -/
theorem run_walk_of_folder (isTree : machine.disk.IsTree)
    (here : store.lookUp machine path = .ok (.folder entries)) :
    machine.run (store.walk path).run =
      (.ok (sortedFiles ((shown path (.folder entries)).filterMap
        fileStatus?)), machine) := by
  have found := visibleFiles_tree store path (isTree_of_lookUp isTree here)
  rw [Disk.tree] at found
  rw [run_walk, treeAt_of_folder here, found]
  rfl

theorem run_walk_of_notFound
    (absent : store.lookUp machine path = .error .notFound) :
    machine.run (store.walk path).run = (.ok [], machine) := by
  rw [run_walk, treeAt_of_error absent, visibleFiles, Except.map,
    List.mergeSort_nil]

/-- What the machine refuses when a walk begins. -/
inductive Refuses (store : DirectoryStore) (machine : Machine)
    (path : String) : SystemError → Prop
  | system {error : SystemError} (other : error ≠ .notFound)
      (refused : store.lookUp machine path = .error error) :
      Refuses store machine path error
  | file {content : Bytes} {modified : Instant}
      (isFile : store.lookUp machine path = .ok (.file content modified)) :
      Refuses store machine path .notAFolder

theorem run_walk_of_refuses {error : SystemError}
    (refuses : store.Refuses machine path error) :
    machine.run (store.walk path).run =
      (.error (.system (some ("list " ++ store.fullPath path)) error),
        machine) := by
  cases refuses with
  | system other refused =>
      rw [run_walk, treeAt_of_error refused]
      cases error <;> first | rfl | exact (other rfl).elim
  | file isFile =>
      rw [run_walk, treeAt_of_file isFile]
      rfl

end DirectoryStore

end Runbook
