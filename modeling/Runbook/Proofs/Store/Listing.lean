import Runbook.Proofs.Host.Path
import Runbook.Proofs.Rehearsal.Locate
import Runbook.Proofs.Rehearsal.Machine

/-!
# What a store offers

Every file that a listing, a search or a request by path finds is a file below
the root of the store.  The names that lead to it are those in its id, and its
size and time are its own.  Nothing on the machine changes.
-/

namespace Runbook

namespace Rehearsal.Disk

/-- The names in every folder are different, and something can have them. -/
inductive IsTree : Disk → Prop
  | file (content : Bytes) (modified : Instant) :
      IsTree (.file content modified)
  | folder {entries : List (String × Disk)}
      (distinct : (entries.map Prod.fst).Nodup)
      (areNames : ∀ entry ∈ entries, IsFileName entry.1)
      (areTrees : ∀ entry ∈ entries, IsTree entry.2) :
      IsTree (.folder entries)

variable {disk found : Disk} {names : List String}

theorem lookup_of_mem {entries : List (String × Disk)} {name : String}
    (distinct : (entries.map Prod.fst).Nodup)
    (member : (name, found) ∈ entries) : entries.lookup name = some found := by
  induction entries with
  | nil => cases member
  | cons first rest ih =>
      obtain ⟨notLater, distinct⟩ := List.nodup_cons.1 distinct
      rcases List.mem_cons.1 member with rfl | later
      · rw [List.lookup_cons_self]
      · have different : name ≠ first.1 := by
          rintro rfl
          exact notLater (List.mem_map.2 ⟨_, later, rfl⟩)
        rw [List.lookup_cons, beq_eq_false_iff_ne.2 different]
        exact ih distinct later

theorem mem_of_lookup {entries : List (String × Disk)} {name : String}
    (here : entries.lookup name = some found) : (name, found) ∈ entries := by
  obtain ⟨before, after, rfl, -⟩ := List.lookup_eq_some_iff.1 here
  simp

theorem IsTree.below? (isTree : disk.IsTree)
    (at_ : disk.below? names = some found) :
    found.IsTree ∧ ∀ name ∈ names, IsFileName name := by
  induction names generalizing disk with
  | nil =>
      cases at_
      exact ⟨isTree, by simp⟩
  | cons name names ih =>
      obtain ⟨entry, here, below⟩ := Option.bind_eq_some_iff.1 at_
      cases isTree with
      | file => cases here
      | folder distinct areNames areTrees =>
          have member := mem_of_lookup here
          obtain ⟨isTree, areNamesToo⟩ := ih (areTrees _ member) below
          exact ⟨isTree, List.forall_mem_cons.2
            ⟨areNames _ member, areNamesToo⟩⟩

end Rehearsal.Disk

namespace DirectoryStore

open Rehearsal Rehearsal.Disk
open Runbook.Path (IsName counted)

variable {store : DirectoryStore} {machine after : Machine} {disk : Disk}
  {info : FileInfo} {names : List String} {base : Place} {path id : String}
  {content : Bytes} {modified : Instant}

/-! ### Paths relative to the root -/

theorem normalize_eq (path : String) :
    normalize path =
      if ".." ∈ Path.parts (Text.trim path) then .error (.leavesRoot path)
      else .ok ("/".intercalate (counted (Text.trim path))) := by
  simp only [normalize]
  rw [← counted]
  have leadsUp : (counted (Text.trim path)).contains ".." = true ↔
      ".." ∈ Path.parts (Text.trim path) := by
    rw [List.contains_iff_mem, Path.mem_counted_iff]
    simp
  simp only [leadsUp]

/-- The parts of a relative path that count are names. -/
theorem exists_names_of_normalize (normalized : normalize id = .ok path) :
    ∃ names, (∀ name ∈ names, IsName name) ∧ path = "/".intercalate names := by
  rw [normalize_eq] at normalized
  split at normalized
  · cases normalized
  · rename_i noSteps
    exact ⟨_, fun name => Path.isName_of_mem_counted noSteps,
      (Except.ok.inj normalized).symm⟩

/-- A path of names without blanks around it stays as it is. -/
theorem normalize_of_trimmed (areNames : ∀ name ∈ names, IsName name)
    (trimmed : Text.trim ("/".intercalate names) = "/".intercalate names) :
    normalize ("/".intercalate names) = .ok ("/".intercalate names) := by
  have counted_eq := Path.counted_intercalate areNames
  rw [normalize_eq, trimmed, counted_eq, if_neg]
  intro leadsUp
  have counts : ".." ∈ counted ("/".intercalate names) :=
    Path.mem_counted_iff.2 ⟨leadsUp, by decide⟩
  rw [counted_eq] at counts
  exact (areNames _ counts).ne_dots rfl

theorem child_intercalate (areNames : ∀ name ∈ names, IsName name)
    (name : String) :
    child ("/".intercalate names) name = "/".intercalate (names ++ [name]) := by
  cases names with
  | nil => rfl
  | cons first rest =>
      have some_ := List.cons_ne_nil first rest
      rw [child, Path.intercalate_concat some_, if_neg]
      simpa using Path.intercalate_ne_empty some_ areNames

/-! ### Visible files -/

theorem except_bind_eq_ok_iff {ε α β : Type} {first : Except ε α}
    {next : α → Except ε β} {last : β} :
    first >>= next = .ok last ↔
      ∃ middle, first = .ok middle ∧ next middle = .ok last := by
  cases first <;> simp [bind, Except.bind]

theorem visibleEntries_cons {folder name : String} {tree : FolderTree}
    {rest : List (String × FolderTree)} {files : List (String × FileStatus)}
    (visible : store.visibleEntries folder ((name, tree) :: rest) =
      .ok files) :
    ∃ first others, files = first ++ others ∧
      store.visibleEntries folder rest = .ok others ∧
      (isHidden name = true ∧ first = [] ∨ isHidden name = false ∧
        store.visibleFiles (child folder name) tree = .ok first) := by
  rw [visibleEntries] at visible
  cases hidden : isHidden name with
  | true =>
      rw [hidden, if_pos rfl] at visible
      obtain ⟨first, found, visible⟩ := except_bind_eq_ok_iff.1 visible
      obtain ⟨others, foundOthers, visible⟩ := except_bind_eq_ok_iff.1 visible
      exact ⟨first, others, (Except.ok.inj visible).symm, foundOthers,
        .inl ⟨rfl, (Except.ok.inj found).symm⟩⟩
  | false =>
      rw [hidden, if_neg Bool.false_ne_true] at visible
      obtain ⟨first, found, visible⟩ := except_bind_eq_ok_iff.1 visible
      obtain ⟨others, foundOthers, visible⟩ := except_bind_eq_ok_iff.1 visible
      exact ⟨first, others, (Except.ok.inj visible).symm, foundOthers,
        .inr ⟨rfl, found⟩⟩

/-- A visible file in or below the entries of a folder comes from one of them
that is not hidden. -/
theorem exists_entry_of_visible {folder : String}
    {entries : List (String × Disk)}
    {files : List (String × FileStatus)} {file : String × FileStatus}
    (visible : store.visibleEntries folder (treeEntries entries) = .ok files)
    (member : file ∈ files) :
    ∃ entry ∈ entries, isHidden entry.1 = false ∧ ∃ found,
      store.visibleFiles (child folder entry.1) entry.2.tree = .ok found ∧
        file ∈ found := by
  induction entries generalizing files with
  | nil =>
      cases visible
      cases member
  | cons entry entries ih =>
      obtain ⟨first, others, rfl, visibleRest, fromFirst⟩ :=
        visibleEntries_cons visible
      rcases List.mem_append.1 member with here | later
      · rcases fromFirst with ⟨-, rfl⟩ | ⟨shown, visibleFirst⟩
        · cases here
        · exact ⟨entry, List.mem_cons_self, shown, first, visibleFirst, here⟩
      · obtain ⟨other, isEntry, rest⟩ := ih visibleRest later
        exact ⟨other, List.mem_cons_of_mem _ isEntry, rest⟩

/-- A visible file of a tree is below it, with the names that lead to it and
with its own size and time. -/
theorem exists_file_of_visible (isTree : disk.IsTree)
    (areNames : ∀ name ∈ names, IsName name)
    {files : List (String × FileStatus)} {file : String × FileStatus}
    (visible : store.visibleFiles ("/".intercalate names) disk.tree = .ok files)
    (member : file ∈ files) :
    ∃ below content modified,
      disk.below? below = some (.file content modified) ∧
        file = ("/".intercalate (names ++ below),
          ⟨content.length, some modified⟩) := by
  induction isTree generalizing names files with
  | file content modified =>
      rw [Disk.tree, visibleFiles] at visible
      cases visible
      rw [List.mem_singleton] at member
      exact ⟨[], content, modified, rfl, by rw [member, List.append_nil]⟩
  | @folder entries distinct areNamesToo areTrees ih =>
      rw [Disk.tree, visibleFiles] at visible
      obtain ⟨entry, isEntry, -, found, visible, member⟩ :=
        exists_entry_of_visible visible member
      rw [child_intercalate areNames] at visible
      have isName := (areNamesToo entry isEntry).toIsName
      obtain ⟨below, content, modified, at_, rfl⟩ := ih entry isEntry
        (by simpa [or_imp, forall_and] using ⟨areNames, isName⟩) visible member
      refine ⟨entry.1 :: below, content, modified, ?_, by simp⟩
      rw [Disk.below?, Disk.entries, lookup_of_mem distinct isEntry]
      exact at_

/-! ### What is offered -/

/-- The file below the root of a store that names lead to, and its info. -/
structure Describes (store : DirectoryStore) (machine : Machine)
    (info : FileInfo) (names : List String) (base : Place) (content : Bytes)
    (modified : Instant) : Prop where
  root : machine.disk.LeadsToFolder (Path.join machine.folder store.root) base
  some_ : names ≠ []
  areNames : ∀ name ∈ names, IsFileName name
  isFile : machine.disk.at? (names.reverse ++ base) =
    some (.file content modified)
  valid : IsValidPath (store.fullPath ("/".intercalate names))
  info_eq : info =
    fileInfo ("/".intercalate names) ⟨content.length, some modified⟩

/-- A listing, a search or a request by path gives the info of a file. -/
inductive Offers (store : DirectoryStore) (machine after : Machine)
    (info : FileInfo) : Prop
  | list {listing : FileListing} {infos : List FileInfo}
      (ran : machine.run (store.list listing).run = (.ok infos, after))
      (member : info ∈ infos)
  | search {query : FileQuery} {infos : List FileInfo}
      (ran : machine.run (store.search query).run = (.ok infos, after))
      (member : info ∈ infos)
  | find {path : String}
      (ran : machine.run (store.find path).run = (.ok (some info), after))

theorem run_walk (store : DirectoryStore) (folder : String)
    (machine : Machine) :
    machine.run (store.walk folder).run =
      ((store.visibleFiles folder
          (machine.disk.treeAt machine.folder (store.fullPath folder))).map
        (List.mergeSort · fun left right => decide (left.1 ≤ right.1)),
      machine) := by
  rw [walk, Machine.run_bind_of_ok (Machine.run_ask _ _)]
  simp only [Machine.answer]
  generalize store.visibleFiles folder _ = files
  cases files <;> rfl

theorem describes_of_at? (isTree : machine.disk.IsTree)
    (root : machine.disk.LeadsToFolder
      (Path.join machine.folder store.root) base)
    (some_ : names ≠ [])
    (isFile : machine.disk.at? (names.reverse ++ base) =
      some (.file content modified))
    {first : String} (relative : Path.isAbsolute first = false)
    (valid : IsValidPath (store.fullPath first)) :
    store.Describes machine
      (fileInfo ("/".intercalate names) ⟨content.length, some modified⟩)
      names base content modified := by
  have areNames : ∀ name ∈ names, IsFileName name := by
    have below := isFile
    rw [at?_append, Option.bind_eq_some_iff] at below
    obtain ⟨found, at_, below⟩ := below
    exact ((isTree.below? at_).1.below? below).2
  have areNamesToo : ∀ name ∈ names, IsName name :=
    fun name member => (areNames name member).toIsName
  refine ⟨root, some_, areNames, isFile, ?_, rfl⟩
  exact valid_join relative valid (Path.isAbsolute_intercalate areNamesToo)
    (noZero_intercalate areNames) (Path.intercalate_ne_empty some_ areNamesToo)

theorem describes_of_visible (isTree : machine.disk.IsTree)
    (areNames : ∀ name ∈ names, IsName name)
    {files : List (String × FileStatus)} {file : String × FileStatus}
    (visible : store.visibleFiles ("/".intercalate names)
      (machine.disk.treeAt machine.folder
        (store.fullPath ("/".intercalate names))) = .ok files)
    (member : file ∈ files) :
    ∃ names base content modified, store.Describes machine
      (fileInfo file.1 file.2) names base content modified := by
  unfold treeAt at visible
  split at visible
  · rename_i error _
    cases error <;> cases visible
    cases member
  · cases visible
  · rename_i found notFile located
    obtain ⟨place, located, at_⟩ := find_eq_ok_iff.1 located
    obtain ⟨base, root, rfl⟩ := locate_join areNames located
    obtain ⟨below, content, modified, isFile, rfl⟩ :=
      exists_file_of_visible (isTree.below? at_).1 areNames visible member
    have some_ : below ≠ [] := by
      rintro rfl
      exact notFile content modified (Option.some.inj isFile)
    refine ⟨names ++ below, base, content, modified, describes_of_at? isTree
      root (by simp [some_]) ?_ (Path.isAbsolute_intercalate areNames)
      (valid_of_locate located)⟩
    rw [List.reverse_append, List.append_assoc, at?_append, at_]
    exact isFile

theorem walk_describes (isTree : machine.disk.IsTree)
    (areNames : ∀ name ∈ names, IsName name)
    {files : List (String × FileStatus)}
    (ran : machine.run (store.walk ("/".intercalate names)).run =
      (.ok files, after)) :
    after = machine ∧ ∀ file ∈ files, ∃ names base content modified,
      store.Describes machine (fileInfo file.1 file.2) names base content
        modified := by
  rw [run_walk, Prod.mk.injEq] at ran
  refine ⟨ran.2.symm, fun file member => ?_⟩
  cases visible : store.visibleFiles ("/".intercalate names)
      (machine.disk.treeAt machine.folder
        (store.fullPath ("/".intercalate names))) with
  | error error =>
      rw [visible] at ran
      cases ran.1
  | ok found =>
      rw [visible] at ran
      have sorted := Except.ok.inj ran.1
      rw [← sorted, List.mem_mergeSort] at member
      exact describes_of_visible isTree areNames visible member

/-- Whether a search finds a file is found out without changes. -/
theorem run_isHit (store : DirectoryStore) (query : FileQuery) (path : String)
    (machine : Machine) :
    ∃ hit, machine.run (store.isHit query path).run = (.ok hit, machine) := by
  unfold isHit
  generalize Text.toLower query.query = piece
  dsimp only
  generalize matchesLower piece (Text.afterLast '/' path) = named
  cases named with
  | true => exact ⟨true, rfl⟩
  | false =>
      cases query.searchContent with
      | false => exact ⟨false, rfl⟩
      | true =>
          rw [if_neg Bool.false_ne_true, if_pos rfl,
            Machine.run_bind_of_ok (Machine.run_loadText _ _)]
          cases machine.text (store.fullPath path) <;> exact ⟨_, rfl⟩

theorem run_filterAuxM {α : Type} {choose : α → Stored Bool}
    (chooses : ∀ value, ∃ chosen,
      machine.run (choose value).run = (.ok chosen, machine))
    (values kept : List α) :
    ∃ all, machine.run (values.filterAuxM choose kept).run =
        (.ok all, machine) ∧
      ∀ value ∈ all, value ∈ values ∨ value ∈ kept := by
  induction values generalizing kept with
  | nil => exact ⟨kept, rfl, fun value => .inr⟩
  | cons first values ih =>
      obtain ⟨chosen, ran⟩ := chooses first
      obtain ⟨all, ranRest, members⟩ := ih (cond chosen (first :: kept) kept)
      refine ⟨all, (Machine.run_bind_of_ok ran).trans ranRest, ?_⟩
      intro value member
      rcases members value member with later | here
      · exact .inl (List.mem_cons_of_mem _ later)
      · cases chosen with
        | false => exact .inr here
        | true =>
            rcases List.mem_cons.1 here with rfl | here
            · exact .inl List.mem_cons_self
            · exact .inr here

theorem run_filterM {α : Type} {choose : α → Stored Bool}
    (chooses : ∀ value, ∃ chosen,
      machine.run (choose value).run = (.ok chosen, machine))
    (values : List α) :
    ∃ all, machine.run (values.filterM choose).run = (.ok all, machine) ∧
      ∀ value ∈ all, value ∈ values := by
  obtain ⟨all, ran, members⟩ := run_filterAuxM chooses values []
  refine ⟨all.reverse, ?_, fun value member => ?_⟩
  · exact Machine.run_bind_of_ok ran
  · simpa using members value (List.mem_reverse.1 member)

theorem mem_of_mem_limited {α : Type} {limit : Option Nat} {values : List α}
    {value : α} (member : value ∈ limited limit values) : value ∈ values := by
  cases limit with
  | none => exact member
  | some limit => exact List.mem_of_mem_take member

theorem list_describes (isTree : machine.disk.IsTree) {listing : FileListing}
    {infos : List FileInfo}
    (ran : machine.run (store.list listing).run = (.ok infos, after)) :
    after = machine ∧ ∀ info ∈ infos, ∃ names base content modified,
      store.Describes machine info names base content modified := by
  obtain ⟨folder, middle, normalized, ran⟩ :=
    Machine.run_bind_eq_ok_iff.1 ran
  obtain ⟨files, last, walked, ended⟩ := Machine.run_bind_eq_ok_iff.1 ran
  rw [Machine.run_liftExcept, Prod.mk.injEq] at normalized
  obtain ⟨normalized, rfl⟩ := normalized
  obtain ⟨names, areNames, rfl⟩ := exists_names_of_normalize normalized
  obtain ⟨rfl, describes⟩ := walk_describes isTree areNames walked
  rw [Machine.run_pure, Prod.mk.injEq] at ended
  refine ⟨ended.2.symm, fun info member => ?_⟩
  rw [← Except.ok.inj ended.1] at member
  have sorted := mem_of_mem_limited member
  rw [List.mem_mergeSort, List.mem_map] at sorted
  obtain ⟨file, inFolder, rfl⟩ := sorted
  exact describes file (List.mem_of_mem_filter inFolder)

theorem search_describes (isTree : machine.disk.IsTree) {query : FileQuery}
    {infos : List FileInfo}
    (ran : machine.run (store.search query).run = (.ok infos, after)) :
    after = machine ∧ ∀ info ∈ infos, ∃ names base content modified,
      store.Describes machine info names base content modified := by
  obtain ⟨files, middle, walked, rest⟩ := Machine.run_bind_eq_ok_iff.1 ran
  have noNames : ∀ name ∈ ([] : List String), IsName name := by simp
  rw [← @String.intercalate_nil "/"] at walked
  obtain ⟨rfl, describes⟩ := walk_describes isTree noNames walked
  have isHit_run (file : String × FileStatus) :=
    run_isHit store query file.1 middle
  obtain ⟨hits, chosen, members⟩ := run_filterM isHit_run files
  rw [Machine.run_bind_of_ok chosen, Machine.run_pure, Prod.mk.injEq] at rest
  refine ⟨rest.2.symm, fun info member => ?_⟩
  rw [← Except.ok.inj rest.1] at member
  obtain ⟨file, isHit, rfl⟩ := List.mem_map.1 (mem_of_mem_limited member)
  exact describes file (members file isHit)

theorem find_describes (isTree : machine.disk.IsTree)
    (ran : machine.run (store.find path).run = (.ok (some info), after)) :
    after = machine ∧ ∃ names base content modified,
      store.Describes machine info names base content modified := by
  obtain ⟨relative, middle, normalized, rest⟩ :=
    Machine.run_bind_eq_ok_iff.1 ran
  rw [Machine.run_liftExcept, Prod.mk.injEq] at normalized
  obtain ⟨normalized, rfl⟩ := normalized
  obtain ⟨names, areNames, rfl⟩ := exists_names_of_normalize normalized
  rw [Machine.run_bind_of_ok (Machine.run_ask _ _)] at rest
  simp only [Machine.answer] at rest
  cases inspected : machine.disk.inspect machine.folder
      (store.fullPath ("/".intercalate names)) with
  | error error =>
      rw [inspected] at rest
      cases error <;> cases rest
  | ok status =>
      rw [inspected] at rest
      cases status with
      | folder => cases rest
      | file status =>
          cases rest
          obtain ⟨content, modified, found, rfl⟩ :=
            inspect_eq_file_iff.1 inspected
          obtain ⟨place, located, isFile⟩ := find_eq_ok_iff.1 found
          obtain ⟨base, root, rfl⟩ := locate_join areNames located
          have some_ : names ≠ [] := by
            rintro rfl
            have isFolder := root.isFolder
            rw [kind?_eq_folder_iff] at isFolder
            obtain ⟨entries, at_⟩ := isFolder
            cases at_.symm.trans isFile
          exact ⟨rfl, names, base, content, modified, describes_of_at? isTree
            root some_ isFile (Path.isAbsolute_intercalate areNames)
            (valid_of_locate located)⟩

/-- What is offered describes a file, and nothing changes when it is offered.
-/
theorem Offers.describes (isTree : machine.disk.IsTree)
    (offers : store.Offers machine after info) :
    after = machine ∧ ∃ names base content modified,
      store.Describes machine info names base content modified := by
  cases offers with
  | list ran member =>
      obtain ⟨same, describes⟩ := list_describes isTree ran
      exact ⟨same, describes info member⟩
  | search ran member =>
      obtain ⟨same, describes⟩ := search_describes isTree ran
      exact ⟨same, describes info member⟩
  | find ran => exact find_describes isTree ran

end DirectoryStore

end Runbook
