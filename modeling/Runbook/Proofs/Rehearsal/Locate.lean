import Runbook.Proofs.Host.Path
import Runbook.Proofs.Rehearsal.Layout

/-!
# Where paths lead

The names in a path below a folder are, the last one first, the place that the
path leads to, followed by the place of the folder.  A file can be written at
such a place if it is in a folder and not itself one.

On every disk on which a path leads anywhere, it leads to one and the same
place, which its parts determine.  So it can be said that two paths lead to one
file before there is a disk.  Paths that are plainly written, as names with
slashes between them, lead from a folder to one place only if they are the same
text.
-/

namespace Runbook

namespace Rehearsal.Disk

open Runbook.Path (IsName)

/-- A name that something on a disk can have. -/
structure IsFileName (name : String) : Prop extends IsName name where
  noZero : '\x00' ∉ name.toList
  short : name.utf8ByteSize ≤ nameLimit

/-- A path leads to a place, and there is a folder. -/
structure LeadsToFolder (disk : Disk) (path : String) (place : Place) :
    Prop where
  leads : disk.Leads [] (Path.parts path) place
  isFolder : disk.kind? place = some .folder

variable {disk before after : Disk} {place base parent target : Place}
  {name folder root path start front : String} {names parts : List String}

/-! ### Names -/

theorem follow_name (isName : IsName name)
    (followed : disk.follow place name = .ok target) :
    target = name :: place := by
  obtain ⟨stays, -⟩ | ⟨up, -⟩ | ⟨same, -⟩ := follow_cases followed
  · exact (stays.elim isName.ne_empty isName.ne_dot).elim
  · exact (isName.ne_dots up).elim
  · exact same

theorem follow_of_isSome (isName : IsFileName name)
    (present : (disk.kind? (name :: place)).isSome) :
    disk.follow place name = .ok (name :: place) := by
  rw [follow_of_folder (isFolder_of_isSome_cons present),
    if_neg (not_or.2 ⟨isName.ne_empty, isName.ne_dot⟩),
    if_neg isName.ne_dots, if_neg (Nat.not_lt.2 isName.short), if_pos present]

theorem leads_names (areNames : ∀ name ∈ names, IsName name)
    (leads : disk.Leads place names target) :
    target = names.reverse ++ place := by
  induction names generalizing place with
  | nil => exact leads_nil_iff.1 leads
  | cons name names ih =>
      rw [List.forall_mem_cons] at areNames
      obtain ⟨next, followed, leads⟩ := leads_cons_iff.1 leads
      rw [ih areNames.2 leads, follow_name areNames.1 followed]
      simp

theorem leads_of_isSome (areNames : ∀ name ∈ names, IsFileName name)
    (present : (disk.kind? (names.reverse ++ place)).isSome) :
    disk.Leads place names (names.reverse ++ place) := by
  induction names generalizing place with
  | nil => exact leads_nil_iff.2 rfl
  | cons name names ih =>
      rw [List.forall_mem_cons] at areNames
      have split : (name :: names).reverse ++ place =
          names.reverse ++ name :: place := by simp
      rw [split] at present ⊢
      refine leads_cons_iff.2 ⟨name :: place, ?_, ih areNames.2 present⟩
      exact follow_of_isSome areNames.1 (isSome_of_isSome_append _ present)

/-! ### Paths below folders -/

theorem isFolder_of_leads (some_ : parts ≠ [])
    (leads : disk.Leads place parts target) :
    disk.kind? place = some .folder := by
  obtain ⟨part, rest, rfl⟩ := List.exists_cons_of_ne_nil some_
  obtain ⟨next, followed, -⟩ := leads_cons_iff.1 leads
  exact isFolder_of_follow followed

/-- An empty part, or a dot, leads from a folder to itself. -/
theorem leads_append_still {still : String} (stays : still = "" ∨ still = ".") :
    disk.Leads place (parts ++ [still]) target ↔
      disk.Leads place parts target ∧ disk.kind? target = some .folder := by
  rw [leads_append_iff]
  constructor
  · rintro ⟨next, leads, last⟩
    obtain ⟨same, followed, isLast⟩ := leads_cons_iff.1 last
    rw [leads_nil_iff] at isLast
    subst isLast
    have isFolder := isFolder_of_follow followed
    rw [follow_of_folder isFolder, if_pos stays] at followed
    rw [← Except.ok.inj followed]
    exact ⟨leads, isFolder⟩
  · rintro ⟨leads, isFolder⟩
    refine ⟨target, leads, leads_cons_iff.2 ⟨target, ?_, leads_nil_iff.2 rfl⟩⟩
    rw [follow_of_folder isFolder, if_pos stays]

/-- The parts of a path below a folder lead from there, once the parts before
them have led to the folder. -/
theorem exists_parts_leads (relative : Path.isAbsolute path = false)
    (start : String) :
    ∃ front, Path.parts (Path.join start path) = front ++ Path.parts path ∧
      ∀ (disk : Disk) (base : Place), disk.LeadsToFolder start base ↔
        disk.Leads [] front base ∧ disk.kind? base = some .folder := by
  obtain ⟨front, joined, ends⟩ := Path.exists_parts_join relative start
  refine ⟨front, joined, fun disk base => ?_⟩
  have both : disk.LeadsToFolder start base ↔
      disk.Leads [] (Path.parts start) base ∧
        disk.kind? base = some .folder :=
    ⟨fun leads => ⟨leads.leads, leads.isFolder⟩,
      fun leads => ⟨leads.1, leads.2⟩⟩
  rcases ends with same | same
  · rw [both, same]
  · rw [both, same, leads_append_still (.inl rfl), and_assoc, and_self]

theorem leads_join_iff (relative : Path.isAbsolute path = false) :
    disk.Leads [] (Path.parts (Path.join start path)) target ↔
      ∃ base, disk.LeadsToFolder start base ∧
        disk.Leads base (Path.parts path) target := by
  obtain ⟨front, joined, leads_front⟩ := exists_parts_leads relative start
  rw [joined, leads_append_iff]
  constructor
  · rintro ⟨base, leads, rest⟩
    have isFolder := isFolder_of_leads (Path.parts_ne_nil path) rest
    exact ⟨base, (leads_front disk base).2 ⟨leads, isFolder⟩, rest⟩
  · rintro ⟨base, leads, rest⟩
    exact ⟨base, ((leads_front disk base).1 leads).1, rest⟩

theorem LeadsToFolder.unique (first : disk.LeadsToFolder path place)
    (second : disk.LeadsToFolder path target) : target = place :=
  first.leads.unique second.leads

theorem Extends.leadsToFolder (more : Extends before after)
    (leads : before.LeadsToFolder path place) :
    after.LeadsToFolder path place :=
  ⟨more.leads leads.leads, more.folders place leads.isFolder⟩

/-! ### Locating -/

/-- A path that can lead anywhere at all. -/
structure IsValidPath (path : String) : Prop where
  noZero : '\x00' ∉ path.toList
  ne_empty : path ≠ ""

theorem partsOf_of_valid (valid : IsValidPath path) (folder : String) :
    partsOf folder path = .ok (Path.parts (Path.join folder path)) := by
  simp [partsOf, valid.noZero, valid.ne_empty]

theorem valid_of_partsOf (read : partsOf folder path = .ok parts) :
    IsValidPath path := by
  unfold partsOf at read
  split at read
  · cases read
  · split at read
    · cases read
    · exact ⟨by simp_all, by simp_all⟩

theorem locate_of_valid (valid : IsValidPath path) :
    disk.locate folder path = .ok place ↔
      disk.Leads [] (Path.parts (Path.join folder path)) place := by
  rw [locate, partsOf_of_valid valid]
  rfl

theorem valid_of_locate (located : disk.locate folder path = .ok place) :
    IsValidPath path := by
  unfold locate at located
  cases read : partsOf folder path with
  | error error =>
      rw [read] at located
      cases located
  | ok parts => exact valid_of_partsOf read

theorem find_eq_ok_iff {found : Disk} :
    disk.find folder path = .ok found ↔
      ∃ place, disk.locate folder path = .ok place ∧
        disk.at? place = some found := by
  unfold find
  cases located : disk.locate folder path with
  | error error => simp [bind, Except.bind]
  | ok place =>
      simp only [bind, Except.bind, Except.ok.injEq, exists_eq_left']
      cases disk.at? place <;> simp [pure, Except.pure]

theorem load_eq_ok_iff {content : Bytes} :
    disk.load folder path = .ok content ↔
      ∃ modified, disk.find folder path = .ok (.file content modified) := by
  unfold load
  cases disk.find folder path with
  | error error => simp [bind, Except.bind]
  | ok found => cases found <;> simp [bind, Except.bind, pure, Except.pure]

theorem Extends.locate (more : Extends before after)
    (located : before.locate folder path = .ok place) :
    after.locate folder path = .ok place := by
  have valid := valid_of_locate located
  rw [locate_of_valid valid] at located ⊢
  exact more.leads located

theorem inspect_eq_file_iff {status : FileStatus} :
    disk.inspect folder path = .ok (.file status) ↔
      ∃ content modified, disk.find folder path = .ok (.file content modified) ∧
        status = ⟨content.length, some modified⟩ := by
  unfold inspect
  cases disk.find folder path with
  | error error => simp [bind, Except.bind]
  | ok found =>
      cases found <;> simp [bind, Except.bind, pure, Except.pure, eq_comm]

theorem valid_of_filePlace (found : disk.filePlace folder path = .ok place) :
    IsValidPath path := by
  unfold filePlace at found
  cases read : partsOf folder path with
  | error error =>
      rw [read] at found
      cases found
  | ok parts => exact valid_of_partsOf read

/-- A file can be written where the last part of a path leads from a folder, or
could lead, unless it is a folder. -/
theorem filePlace_of_valid (valid : IsValidPath path)
    (ends : Path.parts (Path.join folder path) = parts ++ [name])
    (nonempty : name ≠ "") :
    disk.filePlace folder path = .ok place ↔
      ∃ parent, disk.Leads [] parts parent ∧
        (disk.follow parent name = .error .notFound ∧ place = name :: parent ∨
          disk.follow parent name = .ok place ∧
            disk.kind? place ≠ some .folder) := by
  have isLast : ¬ name.isEmpty = true := by rwa [String.isEmpty_iff]
  simp only [filePlace, partsOf_of_valid valid, ends, bind, Except.bind,
    List.reverse_append, List.reverse_singleton, List.singleton_append,
    List.dropWhile_cons_of_neg isLast, List.tail_cons, List.reverse_reverse,
    List.headD_cons]
  unfold Leads
  cases parts.foldlM disk.follow [] with
  | error error => simp
  | ok parent =>
      simp only [Except.ok.injEq, exists_eq_left']
      cases followed : disk.follow parent name with
      | error error =>
          cases error <;> simp [pure, Except.pure, eq_comm]
      | ok target =>
          simp only [reduceCtorEq, false_and, false_or, Except.ok.injEq]
          constructor
          · intro result
            split at result
            · cases result
            · rename_i free
              cases result
              refine ⟨rfl, fun isFolder => ?_⟩
              obtain ⟨entries, at_⟩ := kind?_eq_folder_iff.1 isFolder
              exact free entries at_
          · rintro ⟨rfl, free⟩
            split
            · exact (free (kind?_eq_folder_iff.2 ⟨_, ‹_›⟩)).elim
            · rfl

theorem follow_of_notFound (isName : IsName name)
    (present : (before.kind? parent).isSome)
    (absent : before.follow parent name = .error .notFound)
    (more : Extends before after)
    (presentToo : (after.kind? (name :: parent)).isSome) :
    after.follow parent name = .ok (name :: parent) := by
  obtain ⟨isFolder, -⟩ := follow_eq_notFound present absent
  have notStill := not_or.2 ⟨isName.ne_empty, isName.ne_dot⟩
  rw [follow_of_folder isFolder, if_neg notStill,
    if_neg isName.ne_dots] at absent
  rw [follow_of_folder (more.folders _ isFolder), if_neg notStill,
    if_neg isName.ne_dots]
  by_cases long : nameLimit < name.utf8ByteSize
  · rw [if_pos long] at absent
    cases absent
  · rw [if_neg long, if_pos presentToo]

/-- Once a file is where it can be written, its path leads there. -/
theorem locate_of_filePlace
    (ends : Path.parts (Path.join folder path) = parts ++ [name])
    (isName : IsName name)
    (found : before.filePlace folder path = .ok place)
    (more : Extends before after) (present : (after.kind? place).isSome) :
    after.locate folder path = .ok place := by
  have valid := valid_of_filePlace found
  obtain ⟨parent, leads, last⟩ :=
    (filePlace_of_valid valid ends isName.ne_empty).1 found
  rw [locate_of_valid valid, ends, leads_append_iff]
  refine ⟨parent, more.leads leads,
    leads_cons_iff.2 ⟨place, ?_, leads_nil_iff.2 rfl⟩⟩
  rcases last with ⟨absent, rfl⟩ | ⟨followed, -⟩
  · exact follow_of_notFound isName
      (leads.isSome (isSome_kind?_nil before)) absent more present
  · exact more.follow followed

/-- A path with nothing after its last slash does not name a file. -/
theorem filePlace_ne_ok_of_empty
    (ends : Path.parts (Path.join folder path) = parts ++ [""]) :
    disk.filePlace folder path ≠ .ok place := by
  intro found
  simp only [filePlace, partsOf_of_valid (valid_of_filePlace found), ends,
    bind, Except.bind, List.reverse_append, List.reverse_singleton,
    List.singleton_append, List.headD_cons] at found
  split at found <;> cases found

/-! ### Paths of names below folders -/

theorem valid_join (relative : Path.isAbsolute path = false)
    (valid : IsValidPath (Path.join root path)) {other : String}
    (relativeToo : Path.isAbsolute other = false)
    (noZero : '\x00' ∉ other.toList) (nonempty : other ≠ "") :
    IsValidPath (Path.join root other) := by
  obtain ⟨front, joined⟩ := Path.exists_front_join root
  have noZeroBefore := valid.noZero
  rw [joined path relative, String.toList_append, List.mem_append,
    not_or] at noZeroBefore
  rw [joined other relativeToo]
  constructor
  · rw [String.toList_append, List.mem_append, not_or]
    exact ⟨noZeroBefore.1, noZero⟩
  · simp [nonempty]

theorem noZero_intercalate (areNames : ∀ name ∈ names, IsFileName name) :
    '\x00' ∉ ("/".intercalate names).toList := by
  induction names with
  | nil => simp
  | cons name names ih =>
      rw [List.forall_mem_cons] at areNames
      cases names with
      | nil =>
          rw [String.intercalate_singleton]
          exact areNames.1.noZero
      | cons next rest =>
          rw [String.intercalate_cons_cons]
          simp only [String.toList_append, List.mem_append, not_or]
          exact ⟨⟨areNames.1.noZero, by decide⟩, ih areNames.2⟩

theorem locate_join (areNames : ∀ name ∈ names, IsName name)
    (located : disk.locate folder (Path.join root ("/".intercalate names)) =
      .ok place) :
    ∃ base, disk.LeadsToFolder (Path.join folder root) base ∧
      place = names.reverse ++ base := by
  have relative := Path.isAbsolute_intercalate areNames
  rw [locate_of_valid (valid_of_locate located), Path.join_assoc relative,
    leads_join_iff relative] at located
  obtain ⟨base, leads, rest⟩ := located
  refine ⟨base, leads, ?_⟩
  cases names with
  | nil =>
      have still :=
        (@leads_append_still disk base place [] "" (.inl rfl)).1 rest
      rw [leads_nil_iff.1 still.1]
      rfl
  | cons name names =>
      rw [Path.parts_intercalate (by simp) areNames] at rest
      exact leads_names areNames rest

theorem locate_join_of_isSome (areNames : ∀ name ∈ names, IsFileName name)
    (valid : IsValidPath (Path.join root ("/".intercalate names)))
    (leads : disk.LeadsToFolder (Path.join folder root) base)
    (present : (disk.kind? (names.reverse ++ base)).isSome) :
    disk.locate folder (Path.join root ("/".intercalate names)) =
      .ok (names.reverse ++ base) := by
  have areNamesToo : ∀ name ∈ names, IsName name :=
    fun name member => (areNames name member).toIsName
  have relative := Path.isAbsolute_intercalate areNamesToo
  rw [locate_of_valid valid, Path.join_assoc relative, leads_join_iff relative]
  refine ⟨base, leads, ?_⟩
  cases names with
  | nil =>
      exact (@leads_append_still disk base base [] "" (.inl rfl)).2
        ⟨leads_nil_iff.2 rfl, leads.isFolder⟩
  | cons name names =>
      rw [Path.parts_intercalate (by simp) areNamesToo]
      exact leads_of_isSome areNames present

/-- The last of the names in a path below a folder is the last part of the
path. -/
theorem exists_parts_concat (areNames : ∀ name ∈ names, IsName name)
    (found : disk.filePlace folder (Path.join root ("/".intercalate names)) =
      .ok place) :
    ∃ front above name, names = above ++ [name] ∧
      Path.parts (Path.join folder
        (Path.join root ("/".intercalate names))) = front ++ above ++ [name] ∧
      ∀ (disk : Disk) (base : Place),
        disk.LeadsToFolder (Path.join folder root) base ↔
          disk.Leads [] front base ∧ disk.kind? base = some .folder := by
  have relative := Path.isAbsolute_intercalate areNames
  obtain ⟨front, joined, leads_front⟩ :=
    exists_parts_leads relative (Path.join folder root)
  rw [← Path.join_assoc relative] at joined
  rcases List.eq_nil_or_concat' names with rfl | ⟨above, name, rfl⟩
  · rw [String.intercalate_nil, Path.parts_empty] at joined
    exact (filePlace_ne_ok_of_empty joined found).elim
  rw [Path.parts_intercalate (by simp) areNames, ← List.append_assoc] at joined
  exact ⟨front, above, name, rfl, joined, leads_front⟩

/-- A file that can be written at a path below a folder has a place there, in a
folder, and is not itself a folder. -/
theorem filePlace_join (areNames : ∀ name ∈ names, IsName name)
    (found : disk.filePlace folder (Path.join root ("/".intercalate names)) =
      .ok place) :
    names ≠ [] ∧ disk.kind? place.tail = some .folder ∧
      disk.kind? place ≠ some .folder ∧
      ∃ base, disk.LeadsToFolder (Path.join folder root) base ∧
        place = names.reverse ++ base := by
  obtain ⟨front, above, name, rfl, joined, leads_front⟩ :=
    exists_parts_concat areNames found
  have isName := areNames name (by simp)
  have areAbove : ∀ other ∈ above, IsName other :=
    fun other member => areNames other (by simp [member])
  obtain ⟨parent, leads, last⟩ := (filePlace_of_valid
    (valid_of_filePlace found) joined isName.ne_empty).1 found
  have present := leads.isSome (isSome_kind?_nil disk)
  obtain ⟨base, toBase, rest⟩ := leads_append_iff.1 leads
  have parent_eq := leads_names areAbove rest
  have ended : disk.kind? parent = some .folder ∧
      disk.kind? place ≠ some .folder ∧ place = name :: parent := by
    rcases last with ⟨absent, rfl⟩ | ⟨followed, free⟩
    · obtain ⟨isFolder, free⟩ := follow_eq_notFound present absent
      exact ⟨isFolder, by simp [free], rfl⟩
    · exact ⟨isFolder_of_follow followed, free, follow_name isName followed⟩
  obtain ⟨isFolder, free, rfl⟩ := ended
  refine ⟨by simp, isFolder, free, base,
    (leads_front disk base).2 ⟨toBase, ?_⟩, ?_⟩
  · cases above with
    | nil =>
        rw [leads_nil_iff] at rest
        rw [← rest]
        exact isFolder
    | cons => exact isFolder_of_leads (by simp) rest
  · simp [parent_eq]

theorem locate_join_of_filePlace (areNames : ∀ name ∈ names, IsName name)
    (found : before.filePlace folder
      (Path.join root ("/".intercalate names)) = .ok place)
    (more : Extends before after) (present : (after.kind? place).isSome) :
    after.locate folder (Path.join root ("/".intercalate names)) =
      .ok place := by
  obtain ⟨front, above, name, rfl, joined, -⟩ :=
    exists_parts_concat areNames found
  exact locate_of_filePlace joined (areNames name (by simp)) found more present

/-- A file below a folder can be written again. -/
theorem filePlace_join_of_file (areNames : ∀ name ∈ names, IsFileName name)
    (some_ : names ≠ [])
    (valid : IsValidPath (Path.join root ("/".intercalate names)))
    (leads : disk.LeadsToFolder (Path.join folder root) base)
    {content : Bytes} {modified : Instant}
    (isFile : disk.kind? (names.reverse ++ base) =
      some (.file content modified)) :
    disk.filePlace folder (Path.join root ("/".intercalate names)) =
      .ok (names.reverse ++ base) := by
  have areNamesToo : ∀ name ∈ names, IsName name :=
    fun name member => (areNames name member).toIsName
  have relative := Path.isAbsolute_intercalate areNamesToo
  obtain ⟨front, joined, leads_front⟩ :=
    exists_parts_leads relative (Path.join folder root)
  rw [← Path.join_assoc relative,
    Path.parts_intercalate some_ areNamesToo] at joined
  obtain ⟨above, name, rfl⟩ :=
    (List.eq_nil_or_concat' names).resolve_left some_
  rw [← List.append_assoc] at joined
  have isName := areNames name (by simp)
  have areAbove : ∀ other ∈ above, IsFileName other :=
    fun other member => areNames other (by simp [member])
  have present : (disk.kind? (name :: (above.reverse ++ base))).isSome := by
    simpa using Option.isSome_of_mem isFile
  rw [filePlace_of_valid valid joined isName.ne_empty]
  refine ⟨above.reverse ++ base, leads_append_iff.2 ⟨base,
    ((leads_front disk base).1 leads).1, leads_of_isSome areAbove ?_⟩, .inr ?_⟩
  · rw [isFolder_of_isSome_cons present]
    rfl
  · rw [isFile]
    refine ⟨?_, by simp⟩
    simpa using follow_of_isSome isName present

/-! ### The folder that holds a file -/

theorem leads_trimmedEnd (front : String) (reversed : List Char)
    (leads : disk.Leads []
      (Path.parts (front ++ String.ofList reversed.reverse)) place) :
    disk.Leads [] (Path.parts
      (front ++ String.ofList (Path.trimmedEnd reversed).reverse)) place := by
  fun_induction Path.trimmedEnd reversed with
  | case1 => exact leads
  | case2 rest _ ih =>
      have split : front ++ String.ofList ('/' :: rest).reverse =
          front ++ String.ofList rest.reverse ++ "/" ++ "" := by
        simp [String.ofList_append, String.append_assoc]
      rw [split, Path.parts_append, Path.parts_empty,
        leads_append_still (.inl rfl)] at leads
      exact ih leads.1
  | case3 rest ih =>
      have split : front ++ String.ofList ('.' :: '/' :: rest).reverse =
          front ++ String.ofList rest.reverse ++ "/" ++ "." := by
        simp [String.ofList_append, String.append_assoc]
      have slashed : front ++ String.ofList ('/' :: rest).reverse =
          front ++ String.ofList rest.reverse ++ "/" ++ "" := by
        simp [String.ofList_append, String.append_assoc]
      have dot : Path.parts "." = ["."] := rfl
      rw [split, Path.parts_append, dot, leads_append_still (.inr rfl)] at leads
      apply ih
      rwa [slashed, Path.parts_append, Path.parts_empty,
        leads_append_still (.inl rfl)]
  | case4 => exact leads

/-- Paths that both are absolute, or both are not, have the same before them
below a folder. -/
theorem exists_join_both {other : String}
    (same : Path.isAbsolute other = Path.isAbsolute path) (folder : String) :
    ∃ front, Path.join folder path = front ++ path ∧
      Path.join folder other = front ++ other := by
  cases absolute : Path.isAbsolute path with
  | true =>
      refine ⟨"", ?_, ?_⟩
      · rw [Path.join_of_isAbsolute absolute, String.empty_append]
      · rw [Path.join_of_isAbsolute (same.trans absolute), String.empty_append]
  | false =>
      obtain ⟨front, joined⟩ := Path.exists_front_join folder
      exact ⟨front, joined path absolute, joined other (same.trans absolute)⟩

/-- The folder of what a path leads to does not have to be created. -/
theorem makeFolders_parent? (isName : IsName name)
    (ends : front = "" ∨ ∃ rest, front = rest ++ "/")
    (located : disk.locate folder (front ++ name) = .ok place) :
    ∃ path, Path.parent? (front ++ name) = some path ∧
      disk.makeFolders folder path = (disk, .ok ()) := by
  refine ⟨_, Path.parent?_append isName ends, ?_⟩
  rcases ends with rfl | ⟨rest, rfl⟩
  · rfl
  obtain ⟨nonempty, dropped, whole⟩ :=
    @Path.exists_append_trimmedEnd (rest ++ "/") (by simp)
  have trims (start : String) (target : Place)
      (leads : disk.Leads [] (Path.parts (start ++ (rest ++ "/"))) target) :
      disk.Leads [] (Path.parts (start ++ String.ofList
        (Path.trimmedEnd (rest ++ "/").toList.reverse).reverse)) target := by
    apply leads_trimmedEnd
    rwa [List.reverse_reverse, String.ofList_toList]
  generalize String.ofList
    (Path.trimmedEnd (rest ++ "/").toList.reverse).reverse = path
    at nonempty whole trims ⊢
  have valid := valid_of_locate located
  have validToo : IsValidPath path := by
    refine ⟨fun zero => valid.noZero ?_, nonempty⟩
    rw [whole, String.toList_append, String.toList_append]
    exact List.mem_append_left _ (List.mem_append_left _ zero)
  have same : Path.isAbsolute path =
      Path.isAbsolute (rest ++ "/" ++ name) := by
    rw [whole, String.append_assoc, Path.isAbsolute_append nonempty]
  obtain ⟨start, joined, joinedToo⟩ := exists_join_both same folder
  have onlyName : Path.parts name = [name] := by
    simpa using Path.parts_intercalate (List.cons_ne_nil name [])
      (by simpa using isName)
  have split : start ++ (rest ++ "/" ++ name) =
      start ++ rest ++ "/" ++ name := by simp only [String.append_assoc]
  have splitToo : start ++ (rest ++ "/") = start ++ rest ++ "/" ++ "" := by
    simp only [String.append_assoc, String.append_empty]
  rw [locate_of_valid valid, joined, split, Path.parts_append, onlyName,
    leads_append_iff] at located
  obtain ⟨parent, leads, last⟩ := located
  have isFolder := isFolder_of_leads (List.cons_ne_nil name []) last
  have leadsToo : disk.Leads [] (Path.parts (start ++ path)) parent := by
    apply trims
    rw [splitToo, Path.parts_append, Path.parts_empty,
      leads_append_still (.inl rfl)]
    exact ⟨leads, isFolder⟩
  rw [makeFolders, if_neg (by simpa using nonempty),
    partsOf_of_valid validToo, joinedToo]
  exact makeFrom_of_folder leadsToo isFolder

end Rehearsal.Disk

end Runbook

/-! ## Where paths lead at all -/

namespace Runbook

namespace Path

variable {first second path folder start : String} {names : List String}

/-- Where a part of a path leads from a place; a place is the list of the names
that lead to it, the last one first. -/
def partTarget (place : List String) (part : String) : List String :=
  if part = "" ∨ part = "." then place
  else if part = ".." then place.tail
  else part :: place

/-- Where a path leads that starts in a folder, if it leads anywhere. -/
def target (start path : String) : List String :=
  (parts (join start path)).foldl partTarget []

/-- A path is written plainly: as names with slashes between them. -/
inductive IsPlain : String → Prop
  | intro {names : List String} (some_ : names ≠ [])
      (areNames : ∀ name ∈ names, IsName name) :
      IsPlain ("/".intercalate names)

theorem IsName.isPlain (isName : IsName path) : IsPlain path := by
  have plain : IsPlain ("/".intercalate [path]) :=
    .intro (List.cons_ne_nil _ _) (List.forall_mem_singleton.2 isName)
  rwa [String.intercalate_singleton] at plain

theorem foldl_partTarget (areNames : ∀ name ∈ names, IsName name)
    (place : List String) :
    names.foldl partTarget place = names.reverse ++ place := by
  induction names generalizing place with
  | nil => rfl
  | cons name names ih =>
      obtain ⟨isName, areNames⟩ := List.forall_mem_cons.1 areNames
      have leads : partTarget place name = name :: place := by
        rw [partTarget, if_neg (not_or.2 ⟨isName.ne_empty, isName.ne_dot⟩),
          if_neg isName.ne_dots]
      rw [List.foldl_cons, ih areNames, leads]
      simp

/-- From a folder, a plain path leads by its names. -/
theorem target_join (some_ : names ≠ [])
    (areNames : ∀ name ∈ names, IsName name) (start folder : String) :
    target start (join folder ("/".intercalate names)) =
      names.reverse ++ target start folder := by
  have relative := isAbsolute_intercalate areNames
  obtain ⟨front, parts_eq, folder_eq⟩ :=
    exists_parts_join relative (join start folder)
  have folder_target : target start folder = front.foldl partTarget [] := by
    rcases folder_eq with same | same
    · rw [target, same]
    · rw [target, same, List.foldl_append]
      rfl
  rw [target, join_assoc relative, parts_eq, List.foldl_append,
    parts_intercalate some_ areNames, foldl_partTarget areNames, folder_target]

/-- Plain paths lead from a folder to different places. -/
theorem eq_of_target_eq (plain : IsPlain first) (plainToo : IsPlain second)
    (same : target start (join folder first) =
      target start (join folder second)) : first = second := by
  cases plain with
  | intro some_ areNames =>
      cases plainToo with
      | intro someToo areNamesToo =>
          rw [target_join some_ areNames, target_join someToo areNamesToo]
            at same
          rw [Rehearsal.Disk.names_eq_of_place_eq same]

/-- The folder of a name is the one in which paths start. -/
theorem parent?_of_isName (isName : IsName path) : parent? path = some "" := by
  have folder := parent?_append isName (.inl rfl)
  rwa [String.empty_append] at folder

end Path

namespace Rehearsal.Disk

variable {disk : Disk} {place reached : Place} {folder path part : String}
  {parts : List String}

theorem eq_of_follow (followed : disk.follow place part = .ok reached) :
    reached = Path.partTarget place part := by
  rw [follow_of_folder (isFolder_of_follow followed)] at followed
  unfold Path.partTarget
  by_cases stays : part = "" ∨ part = "."
  · rw [if_pos stays] at followed ⊢
    exact (Except.ok.inj followed).symm
  · rw [if_neg stays] at followed ⊢
    by_cases up : part = ".."
    · rw [if_pos up] at followed ⊢
      exact (Except.ok.inj followed).symm
    · rw [if_neg up] at followed ⊢
      split_ifs at followed
      exact (Except.ok.inj followed).symm

theorem eq_of_leads (leads : disk.Leads place parts reached) :
    reached = parts.foldl Path.partTarget place := by
  induction parts generalizing place with
  | nil => exact leads_nil_iff.1 leads
  | cons part parts ih =>
      obtain ⟨next, followed, leads⟩ := leads_cons_iff.1 leads
      rw [List.foldl_cons, ← eq_of_follow followed]
      exact ih leads

/-- A path leads to its target, if it leads anywhere. -/
theorem eq_target_of_locate (located : disk.locate folder path = .ok place) :
    place = Path.target folder path := by
  rw [locate_of_valid (valid_of_locate located)] at located
  exact eq_of_leads located

end Rehearsal.Disk

end Runbook
