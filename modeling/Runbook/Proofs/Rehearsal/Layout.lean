import Mathlib.Logic.Function.Basic
import Mathlib.Data.List.Basic
import Runbook.Rehearsal.Disk

/-!
# What is where on a disk

What programs see of a disk is what is at its places: a folder, or a file with
its content and the time at which it was written.  Where a path leads depends
on that alone.  A disk that has more than another one, and a folder wherever
the other one has a folder, leads all paths to the same places.
-/

namespace Runbook.Rehearsal

/-- What can be at a place of a disk. -/
inductive Kind
  | file (content : Bytes) (modified : Instant)
  | folder
deriving DecidableEq

namespace Disk

def kind : Disk → Kind
  | .file content modified => .file content modified
  | .folder _ => .folder

/-- What is where names lead to, the first one first. -/
def kindBelow? (names : List String) (disk : Disk) : Option Kind :=
  (disk.below? names).map kind

def kind? (disk : Disk) (place : Place) : Option Kind :=
  (disk.at? place).map kind

/-- The content of the file at a place. -/
def content? (disk : Disk) (place : Place) : Option Bytes :=
  match disk.kind? place with
  | some (.file content _) => some content
  | _ => none

variable {disk before after last new : Disk} {place base target : Place}
  {name part : String} {names parts : List String} {content : Bytes}
  {modified : Instant}

/-! ### Places below places -/

theorem below?_append (first second : List String) (disk : Disk) :
    disk.below? (first ++ second) =
      (disk.below? first).bind (below? second) := by
  induction first generalizing disk with
  | nil => rfl
  | cons name first ih =>
      rw [List.cons_append, below?, below?]
      cases disk.entries.lookup name with
      | none => rfl
      | some entry => exact ih entry

theorem at?_cons (disk : Disk) (name : String) (place : Place) :
    disk.at? (name :: place) =
      (disk.at? place).bind fun found => found.entries.lookup name := by
  rw [at?, List.reverse_cons, below?_append, at?]
  refine congrArg _ (funext fun found => ?_)
  rw [below?]
  cases found.entries.lookup name <;> rfl

theorem names_eq_of_place_eq {others : List String}
    (same : names.reverse ++ base = others.reverse ++ base) :
    names = others :=
  List.reverse_injective (List.append_cancel_right same)

theorem at?_append (disk : Disk) (names : List String) (place : Place) :
    disk.at? (names.reverse ++ place) =
      (disk.at? place).bind (below? names) := by
  rw [at?, List.reverse_append, List.reverse_reverse, below?_append, at?]

theorem isSome_kind?_nil (disk : Disk) : (disk.kind? []).isSome := by
  simp [kind?, at?, below?]

theorem kind?_eq_folder_iff :
    disk.kind? place = some .folder ↔
      ∃ entries, disk.at? place = some (.folder entries) := by
  rw [kind?, Option.map_eq_some_iff]
  constructor
  · rintro ⟨found, at_, isFolder⟩
    cases found with
    | file => cases isFolder
    | folder entries => exact ⟨entries, at_⟩
  · rintro ⟨entries, at_⟩
    exact ⟨_, at_, rfl⟩

theorem kind?_eq_file_iff :
    disk.kind? place = some (.file content modified) ↔
      disk.at? place = some (.file content modified) := by
  rw [kind?, Option.map_eq_some_iff]
  constructor
  · rintro ⟨found, at_, isFile⟩
    cases found with
    | file =>
        cases isFile
        exact at_
    | folder => cases isFile
  · intro at_
    exact ⟨_, at_, rfl⟩

theorem content?_eq_some_iff :
    disk.content? place = some content ↔
      ∃ modified, disk.at? place = some (.file content modified) := by
  simp only [← kind?_eq_file_iff, content?]
  cases disk.kind? place with
  | none => simp
  | some found => cases found <;> simp

theorem mem_entryFiles {entries : List (String × Disk)} {entry : Disk}
    {file : Place × Bytes} (found : entries.lookup name = some entry)
    (member : file ∈ entry.files (name :: place)) :
    file ∈ entryFiles place entries := by
  induction entries with
  | nil => cases found
  | cons first rest ih =>
      obtain ⟨other, old⟩ := first
      rw [entryFiles, List.mem_append]
      rw [List.lookup_cons] at found
      by_cases same : name = other
      · subst same
        rw [beq_self_eq_true] at found
        obtain rfl := Option.some.inj found
        exact .inl member
      · rw [beq_false_of_ne same] at found
        exact .inr (ih found)

theorem mem_files_of_below? (disk : Disk) (place : Place)
    (found : disk.below? names = some (.file content modified)) :
    (names.reverse ++ place, content) ∈ disk.files place := by
  induction names generalizing disk place with
  | nil =>
      obtain rfl := Option.some.inj found
      rw [files]
      exact List.mem_cons_self
  | cons name names ih =>
      obtain ⟨entry, isEntry, found⟩ := Option.bind_eq_some_iff.1 found
      have member := ih entry (name :: place) found
      cases disk with
      | file content modified => cases isEntry
      | folder entries =>
          rw [files, List.reverse_cons, List.append_assoc]
          exact mem_entryFiles isEntry member

/-- Every file of a disk is among its files. -/
theorem mem_files_of_content? (isFile : disk.content? place = some content) :
    (place, content) ∈ disk.files [] := by
  obtain ⟨modified, at_⟩ := content?_eq_some_iff.1 isFile
  have member := mem_files_of_below? disk [] at_
  rwa [List.reverse_reverse, List.append_nil] at member

/-- Whatever has something below it is a folder. -/
theorem isFolder_of_isSome_cons
    (present : (disk.kind? (name :: place)).isSome) :
    disk.kind? place = some .folder := by
  rw [kind?, at?_cons, Option.isSome_map] at present
  rw [kind?_eq_folder_iff]
  cases at_ : disk.at? place with
  | none =>
      rw [at_] at present
      cases present
  | some found =>
      rw [at_] at present
      cases found with
      | file => cases present
      | folder entries => exact ⟨entries, rfl⟩

theorem isSome_of_isSome_append (above : List String)
    (present : (disk.kind? (above ++ place)).isSome) :
    (disk.kind? place).isSome := by
  induction above with
  | nil => exact present
  | cons name above ih =>
      apply ih
      have isFolder := isFolder_of_isSome_cons present
      exact Option.isSome_of_mem isFolder

/-! ### Putting something at a place -/

theorem lookup_replaceEntry (name other : String) (entry : Disk)
    (entries : List (String × Disk)) :
    (replaceEntry name entry entries).lookup other =
      if other = name then some entry else entries.lookup other := by
  induction entries with
  | nil =>
      by_cases same : other = name
      · simp [replaceEntry, same]
      · simp [replaceEntry, List.lookup_cons, beq_eq_false_iff_ne.2 same, same]
  | cons first rest ih =>
      obtain ⟨key, old⟩ := first
      by_cases replaced : key = name
      · subst replaced
        rw [replaceEntry, if_pos rfl]
        by_cases same : other = key
        · simp [same]
        · simp only [List.lookup_cons, beq_eq_false_iff_ne.2 same, if_neg same]
      · rw [replaceEntry, if_neg replaced]
        by_cases here : other = key
        · subst here
          simp [replaced]
        · simp only [List.lookup_cons, beq_eq_false_iff_ne.2 here, ih]

theorem below?_of_leaf (leaf : new.entries = []) (name : String)
    (names : List String) : new.below? (name :: names) = none := by
  rw [below?, leaf]
  rfl

/-- A file or an empty folder that is put into a folder, and not in the place
of a folder, changes nothing else. -/
theorem kindBelow?_putBelow (leaf : new.entries = [])
    (isFolder : disk.kindBelow? names = some .folder)
    (free : disk.kindBelow? (names ++ [name]) ≠ some .folder)
    (others : List String) :
    (putBelow new (names ++ [name]) disk).kindBelow? others =
      if others = names ++ [name] then some new.kind
      else disk.kindBelow? others := by
  induction names generalizing disk others with
  | nil =>
      cases disk with
      | file => cases isFolder
      | folder entries =>
      cases others with
      | nil => rfl
      | cons other others =>
      simp only [List.nil_append, putBelow, kindBelow?, below?, Disk.entries,
        lookup_replaceEntry, List.cons.injEq] at free ⊢
      by_cases same : other = name
      · subst same
        rw [if_pos rfl, Option.bind_some]
        cases others with
        | nil => simp [below?]
        | cons next others =>
            rw [below?_of_leaf leaf, if_neg (by simp)]
            cases found : entries.lookup other with
            | none => rfl
            | some old =>
                cases old with
                | file => rfl
                | folder => simp [found, kind] at free
      · simp [same]
  | cons first names ih =>
      cases disk with
      | file => cases isFolder
      | folder entries =>
      cases others with
      | nil => rfl
      | cons other others =>
      simp only [List.cons_append, putBelow, kindBelow?, below?, Disk.entries,
        lookup_replaceEntry, List.cons.injEq] at isFolder free ⊢
      by_cases same : other = first
      · subst same
        cases found : entries.lookup other with
        | none => simp [found] at isFolder
        | some old =>
            simp only [found, Option.bind_some] at isFolder free
            simpa [found, kindBelow?] using ih isFolder free others
      · simp [same]

theorem kind?_put (leaf : new.entries = [])
    (isFolder : disk.kind? place = some .folder)
    (free : disk.kind? (name :: place) ≠ some .folder) :
    (disk.put (name :: place) new).kind? =
      Function.update disk.kind? (name :: place) (some new.kind) := by
  funext other
  have reversed : (name :: place).reverse = place.reverse ++ [name] :=
    List.reverse_cons
  have put_eq := @kindBelow?_putBelow disk new name place.reverse leaf
    isFolder (by rwa [← reversed]) other.reverse
  rw [← reversed] at put_eq
  rw [Function.update_apply]
  refine put_eq.trans ?_
  simp only [List.reverse_inj]
  rfl

/-! ### Following paths -/

theorem follow_of_folder (isFolder : disk.kind? place = some .folder)
    (part : String) :
    disk.follow place part =
      if part = "" ∨ part = "." then .ok place
      else if part = ".." then .ok place.tail
      else if nameLimit < part.utf8ByteSize then .error .nameTooLong
      else if (disk.kind? (part :: place)).isSome then .ok (part :: place)
      else .error .notFound := by
  obtain ⟨entries, at_⟩ := kind?_eq_folder_iff.1 isFolder
  simp only [follow, kind?, at_, at?_cons, Option.isSome_map,
    Option.bind_some, Disk.entries]

theorem isFolder_of_follow (followed : disk.follow place part = .ok target) :
    disk.kind? place = some .folder := by
  rw [kind?_eq_folder_iff]
  unfold follow at followed
  split at followed
  · cases followed
  · cases followed
  · exact ⟨_, ‹_›⟩

/-- Where a part of a path leads. -/
theorem follow_cases (followed : disk.follow place part = .ok target) :
    ((part = "" ∨ part = ".") ∧ target = place) ∨
      (part = ".." ∧ target = place.tail) ∨
      (target = part :: place ∧ (disk.kind? (part :: place)).isSome) := by
  rw [follow_of_folder (isFolder_of_follow followed)] at followed
  split at followed
  · exact .inl ⟨‹_›, (Except.ok.inj followed).symm⟩
  · split at followed
    · exact .inr (.inl ⟨‹_›, (Except.ok.inj followed).symm⟩)
    · split at followed
      · cases followed
      · split at followed
        · exact .inr (.inr ⟨(Except.ok.inj followed).symm, ‹_›⟩)
        · cases followed

theorem isSome_of_follow (followed : disk.follow place part = .ok target) :
    (disk.kind? target).isSome := by
  have isFolder := isFolder_of_follow followed
  obtain ⟨-, rfl⟩ | ⟨-, rfl⟩ | ⟨rfl, present⟩ := follow_cases followed
  · rw [isFolder]
    rfl
  · refine isSome_of_isSome_append (place.take 1) ?_
    rw [← List.drop_one, List.take_append_drop, isFolder]
    rfl
  · exact present

/-- The parts of a path lead from a place to another one. -/
def Leads (disk : Disk) (place : Place) (parts : List String)
    (target : Place) : Prop :=
  parts.foldlM disk.follow place = .ok target

theorem leads_nil_iff : disk.Leads place [] target ↔ target = place := by
  simp [Leads, pure, Except.pure, eq_comm]

theorem leads_cons_iff :
    disk.Leads place (part :: parts) target ↔
      ∃ next, disk.follow place part = .ok next ∧
        disk.Leads next parts target := by
  rw [Leads, List.foldlM_cons]
  cases followed : disk.follow place part with
  | error error => simp [bind, Except.bind]
  | ok next => simp [bind, Except.bind, Leads]

theorem leads_append_iff {first second : List String} :
    disk.Leads place (first ++ second) target ↔
      ∃ next, disk.Leads place first next ∧ disk.Leads next second target := by
  induction first generalizing place with
  | nil => simp [leads_nil_iff]
  | cons part first ih =>
      simp only [List.cons_append, leads_cons_iff, ih]
      constructor
      · rintro ⟨next, followed, middle, before, after⟩
        exact ⟨middle, ⟨next, followed, before⟩, after⟩
      · rintro ⟨middle, ⟨next, followed, before⟩, after⟩
        exact ⟨next, followed, middle, before, after⟩

theorem Leads.unique {other : Place} (first : disk.Leads place parts target)
    (second : disk.Leads place parts other) : other = target :=
  Except.ok.inj (second.symm.trans first)

theorem Leads.isSome (leads : disk.Leads place parts target)
    (present : (disk.kind? place).isSome) : (disk.kind? target).isSome := by
  induction parts generalizing place with
  | nil =>
      rw [leads_nil_iff] at leads
      rwa [leads]
  | cons part parts ih =>
      obtain ⟨next, followed, leads⟩ := leads_cons_iff.1 leads
      exact ih leads (isSome_of_follow followed)

/-! ### Disks that have more -/

/-- A disk has something wherever another one has, and a folder wherever the
other one has a folder. -/
structure Extends (before after : Disk) : Prop where
  folders : ∀ place, before.kind? place = some .folder →
    after.kind? place = some .folder
  present : ∀ place, (before.kind? place).isSome → (after.kind? place).isSome

/-- A disk has what another one has, and more folders. -/
def Grows (before after : Disk) : Prop :=
  ∀ place, after.kind? place = before.kind? place ∨
    before.kind? place = none ∧ after.kind? place = some .folder

theorem Extends.refl (disk : Disk) : Extends disk disk :=
  ⟨fun _ => id, fun _ => id⟩

theorem Extends.trans (first : Extends before after)
    (second : Extends after last) : Extends before last :=
  ⟨fun place isFolder => second.folders place (first.folders place isFolder),
    fun place present => second.present place (first.present place present)⟩

theorem Grows.refl (disk : Disk) : Grows disk disk :=
  fun _ => .inl rfl

theorem Grows.trans (first : Grows before after) (second : Grows after last) :
    Grows before last := by
  intro place
  rcases second place with same | ⟨absent, isFolder⟩
  · rw [same]
    exact first place
  · rcases first place with same | ⟨-, isFolderToo⟩
    · exact .inr ⟨same.symm.trans absent, isFolder⟩
    · rw [isFolderToo] at absent
      cases absent

theorem Grows.extends (grows : Grows before after) : Extends before after := by
  constructor
  · intro place isFolder
    rcases grows place with same | ⟨absent, -⟩
    · rw [same, isFolder]
    · rw [isFolder] at absent
      cases absent
  · intro place present
    rcases grows place with same | ⟨-, isFolder⟩
    · rwa [same]
    · rw [isFolder]
      rfl

theorem Grows.content? (grows : Grows before after) :
    after.content? = before.content? := by
  funext place
  unfold Disk.content?
  rcases grows place with same | ⟨absent, isFolder⟩
  · rw [same]
  · rw [absent, isFolder]

theorem extends_of_update {found : Kind}
    (changed : after.kind? = Function.update before.kind? place (some found))
    (free : before.kind? place ≠ some .folder) : Extends before after := by
  constructor
  · intro other isFolder
    rw [changed, Function.update_of_ne, isFolder]
    rintro rfl
    exact free isFolder
  · intro other present
    rw [changed, Function.update_apply]
    split
    · rfl
    · exact present

theorem content?_of_update
    (changed : after.kind? =
      Function.update before.kind? place (some (.file content modified))) :
    after.content? = Function.update before.content? place (some content) := by
  funext other
  simp only [content?, changed, Function.update_apply]
  by_cases same : other = place
  · simp only [if_pos same]
  · simp only [if_neg same]

theorem Extends.follow (more : Extends before after)
    (followed : before.follow place part = .ok target) :
    after.follow place part = .ok target := by
  have isFolder := isFolder_of_follow followed
  rw [follow_of_folder isFolder] at followed
  rw [follow_of_folder (more.folders place isFolder)]
  by_cases stays : part = "" ∨ part = "."
  · rwa [if_pos stays] at followed ⊢
  rw [if_neg stays] at followed ⊢
  by_cases up : part = ".."
  · rwa [if_pos up] at followed ⊢
  rw [if_neg up] at followed ⊢
  by_cases long : nameLimit < part.utf8ByteSize
  · rwa [if_pos long] at followed ⊢
  rw [if_neg long] at followed ⊢
  by_cases present : (before.kind? (part :: place)).isSome
  · rw [if_pos present] at followed
    rwa [if_pos (more.present _ present)]
  · rw [if_neg present] at followed
    cases followed

theorem Extends.leads (more : Extends before after)
    (leads : before.Leads place parts target) :
    after.Leads place parts target := by
  induction parts generalizing place with
  | nil => exact leads
  | cons part parts ih =>
      obtain ⟨next, followed, leads⟩ := leads_cons_iff.1 leads
      exact leads_cons_iff.2 ⟨next, more.follow followed, ih leads⟩

/-! ### Creating folders -/

/-- What a path does not find in a place that is there could be put there. -/
theorem follow_eq_notFound (present : (disk.kind? place).isSome)
    (absent : disk.follow place part = .error .notFound) :
    disk.kind? place = some .folder ∧ disk.kind? (part :: place) = none := by
  have isFolder : disk.kind? place = some .folder := by
    rw [kind?_eq_folder_iff]
    unfold follow at absent
    split at absent
    · simp [kind?, ‹disk.at? place = none›] at present
    · cases absent
    · exact ⟨_, ‹_›⟩
  refine ⟨isFolder, ?_⟩
  rw [← Option.not_isSome_iff_eq_none]
  intro presentToo
  rw [follow_of_folder isFolder, if_pos presentToo] at absent
  split at absent
  · cases absent
  · split at absent
    · cases absent
    · split at absent <;> cases absent

theorem grows_put_empty (present : (disk.kind? place).isSome)
    (absent : disk.follow place part = .error .notFound) :
    Grows disk (disk.put (part :: place) empty) ∧
      ((disk.put (part :: place) empty).kind? (part :: place)).isSome := by
  obtain ⟨isFolder, free⟩ := follow_eq_notFound present absent
  have made := @kind?_put disk empty place part rfl isFolder (by simp [free])
  constructor
  · intro other
    rw [made, Function.update_apply]
    split
    · rename_i same
      exact .inr ⟨by rw [same, free], rfl⟩
    · exact .inl rfl
  · rw [made, Function.update_self]
    rfl

theorem makeFrom_grows (present : (disk.kind? place).isSome)
    (parts : List String) : Grows disk (disk.makeFrom place parts).1 := by
  induction parts generalizing disk place with
  | nil =>
      unfold makeFrom
      split <;> exact .refl disk
  | cons part parts ih =>
      rw [makeFrom]
      cases followed : disk.follow place part with
      | ok target =>
          simp only [followOrMake, followed]
          exact ih (isSome_of_follow followed)
      | error error =>
          by_cases absent : error = .notFound
          · subst absent
            simp only [followOrMake, followed]
            obtain ⟨grows, made⟩ := grows_put_empty present followed
            exact grows.trans (ih made)
          · have kept : followOrMake (disk, place) part = .error error := by
              cases error <;> simp_all [followOrMake]
            rw [kept]
            exact .refl disk

theorem makeFolders_grows (disk : Disk) (folder path : String) :
    Grows disk (disk.makeFolders folder path).1 := by
  unfold makeFolders
  split
  · exact .refl disk
  · split
    · exact .refl disk
    · exact makeFrom_grows (isSome_kind?_nil disk) _

/-- Nothing has to be created for a path that leads to a folder. -/
theorem makeFrom_of_folder (leads : disk.Leads place parts target)
    (isFolder : disk.kind? target = some .folder) :
    disk.makeFrom place parts = (disk, .ok ()) := by
  induction parts generalizing place with
  | nil =>
      rw [leads_nil_iff] at leads
      obtain ⟨entries, at_⟩ := kind?_eq_folder_iff.1 isFolder
      rw [leads] at at_
      simp [makeFrom, at_]
  | cons part parts ih =>
      obtain ⟨next, followed, leads⟩ := leads_cons_iff.1 leads
      simp only [makeFrom, followOrMake, followed]
      exact ih leads

end Disk

end Runbook.Rehearsal
