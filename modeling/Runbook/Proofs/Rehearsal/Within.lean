import Mathlib.Data.List.Infix
import Runbook.Proofs.Host.Path
import Runbook.Proofs.Rehearsal.Locate

/-!
# What is within a root

On a disk on which a root leads to a folder, a path within the root leads to
that folder or to something below it, whatever else is on the disk.  So what is
asked for by such a path depends on what is in the folder only, and what is done
by it changes nothing elsewhere.
-/

namespace Runbook

namespace Rehearsal.Disk

open Runbook.Path (IsName IsWithin counted)

variable {disk other : Disk} {place base target outside : Place}
  {folder root path part name : String} {front back parts : List String}

/-! ### Parts that count -/

theorem stays_of_not_counts (counts : ¬ (part ≠ "" ∧ part ≠ ".")) :
    part = "" ∨ part = "." :=
  (not_and_or.1 counts).imp not_not.1 not_not.1

theorem leads_counted (leads : disk.Leads place parts target) :
    disk.Leads place (parts.filter fun part => part ≠ "" ∧ part ≠ ".")
      target := by
  induction parts generalizing place with
  | nil => exact leads
  | cons part parts ih =>
      obtain ⟨next, followed, leads⟩ := leads_cons_iff.1 leads
      by_cases counts : part ≠ "" ∧ part ≠ "."
      · rw [List.filter_cons_of_pos (by simpa using counts)]
        exact leads_cons_iff.2 ⟨next, followed, ih leads⟩
      · have isFolder := isFolder_of_follow followed
        rw [follow_of_folder isFolder, if_pos (stays_of_not_counts counts)]
          at followed
        cases followed
        rw [List.filter_cons_of_neg (by simpa using counts)]
        exact ih leads

/-- A path to a folder can be followed by its parts that count. -/
theorem leads_of_counted (isFolder : disk.kind? target = some .folder)
    (leads : disk.Leads place
      (parts.filter fun part => part ≠ "" ∧ part ≠ ".") target) :
    disk.Leads place parts target := by
  induction parts generalizing place with
  | nil => exact leads
  | cons part parts ih =>
      by_cases counts : part ≠ "" ∧ part ≠ "."
      · rw [List.filter_cons_of_pos (by simpa using counts)] at leads
        obtain ⟨next, followed, leads⟩ := leads_cons_iff.1 leads
        exact leads_cons_iff.2 ⟨next, followed, ih leads⟩
      · rw [List.filter_cons_of_neg (by simpa using counts)] at leads
        refine leads_cons_iff.2 ⟨place, ?_, ih leads⟩
        -- Such a part leads on from folders only; the place is one because the
        -- path ends at it, or goes on from it.
        have isFolderToo : disk.kind? place = some .folder := by
          rcases eq_or_ne (parts.filter fun part => part ≠ "" ∧ part ≠ ".") []
            with none_ | some_
          · rw [none_, leads_nil_iff] at leads
            rwa [← leads]
          · exact isFolder_of_leads some_ leads
        rw [follow_of_folder isFolderToo, if_pos (stays_of_not_counts counts)]

/-- A path within a root leads on from where the root leads, and from there
never up. -/
theorem exists_parts_within (within : IsWithin root path) (folder : String) :
    ∃ front back, Path.parts (Path.join folder path) = front ++ back ∧
      ".." ∉ back ∧
      ∀ (disk : Disk) (base : Place),
        disk.LeadsToFolder (Path.join folder root) base →
          disk.Leads [] front base := by
  obtain ⟨-, names, areNames, counted_eq⟩ := within.join folder
  obtain ⟨front, back, split, same, isBack⟩ :=
    List.filter_eq_append_iff.1 counted_eq
  refine ⟨front, back, split, fun leadsUp => ?_, fun disk base leads => ?_⟩
  · have counts : ".." ∈ names := by
      rw [← isBack]
      exact List.mem_filter.2 ⟨leadsUp, by decide⟩
    exact (areNames _ counts).ne_dots rfl
  · apply leads_of_counted leads.isFolder
    rw [same]
    exact leads_counted leads.leads

/-! ### Below a folder -/

theorem below_of_follow (notUp : part ≠ "..") (below : base <:+ place)
    (followed : disk.follow place part = .ok target) : base <:+ target := by
  obtain ⟨-, rfl⟩ | ⟨up, -⟩ | ⟨rfl, -⟩ := follow_cases followed
  · exact below
  · exact (notUp up).elim
  · exact below.trans (List.suffix_cons _ _)

theorem below_of_leads (notUp : ".." ∉ parts) (below : base <:+ place)
    (leads : disk.Leads place parts target) : base <:+ target := by
  induction parts generalizing place with
  | nil =>
      rw [leads_nil_iff] at leads
      rwa [leads]
  | cons part parts ih =>
      rw [List.mem_cons, not_or] at notUp
      obtain ⟨next, followed, leads⟩ := leads_cons_iff.1 leads
      exact ih notUp.2 (below_of_follow (Ne.symm notUp.1) below followed) leads

/-- A path within a root leads to the folder of the root or to something below
it. -/
theorem below_of_locate (within : IsWithin root path)
    (leads : disk.LeadsToFolder (Path.join folder root) base)
    (located : disk.locate folder path = .ok place) : base <:+ place := by
  obtain ⟨front, back, split, notUp, leads_front⟩ :=
    exists_parts_within within folder
  rw [locate_of_valid (valid_of_locate located), split,
    leads_append_iff] at located
  obtain ⟨next, toNext, rest⟩ := located
  cases (leads_front disk base leads).unique toNext
  exact below_of_leads notUp List.suffix_rfl rest

/-! ### Disks with the same folder -/

theorem at?_of_same (same : disk.at? base = other.at? base)
    (below : base <:+ place) : disk.at? place = other.at? place := by
  obtain ⟨names, rfl⟩ := below
  rw [← List.reverse_reverse names, at?_append, at?_append, same]

theorem follow_of_same (same : disk.at? base = other.at? base)
    (below : base <:+ place) (part : String) :
    disk.follow place part = other.follow place part := by
  simp only [follow, at?_of_same same below]

theorem foldlM_of_same (same : disk.at? base = other.at? base)
    (below : base <:+ place) (notUp : ".." ∉ parts) :
    parts.foldlM disk.follow place = parts.foldlM other.follow place := by
  induction parts generalizing place with
  | nil => rfl
  | cons part parts ih =>
      rw [List.mem_cons, not_or] at notUp
      rw [List.foldlM_cons, List.foldlM_cons, follow_of_same same below]
      cases followed : other.follow place part with
      | error error => rfl
      | ok next =>
          exact ih (below_of_follow (Ne.symm notUp.1) below followed) notUp.2

theorem foldlM_of_leads (leads : disk.Leads place front target)
    (back : List String) :
    (front ++ back).foldlM disk.follow place =
      back.foldlM disk.follow target := by
  rw [Leads] at leads
  rw [List.foldlM_append, leads]
  rfl

section Same

variable (within : IsWithin root path)
  (leads : disk.LeadsToFolder (Path.join folder root) base)
  (leadsToo : other.LeadsToFolder (Path.join folder root) base)
  (same : disk.at? base = other.at? base)

include within leads leadsToo same

/-- Where a path within a root leads depends on the folder of the root only. -/
theorem locate_of_same :
    disk.locate folder path = other.locate folder path := by
  obtain ⟨front, back, split, notUp, leads_front⟩ :=
    exists_parts_within within folder
  unfold locate
  cases read : partsOf folder path with
  | error error => rfl
  | ok parts =>
      have valid := valid_of_partsOf read
      rw [partsOf_of_valid valid, split] at read
      cases read
      refine (foldlM_of_leads (leads_front disk base leads) back).trans ?_
      rw [foldlM_of_same same List.suffix_rfl notUp]
      exact (foldlM_of_leads (leads_front other base leadsToo) back).symm

theorem find_of_same : disk.find folder path = other.find folder path := by
  have locate_eq := locate_of_same within leads leadsToo same
  unfold find
  rw [locate_eq]
  cases located : other.locate folder path with
  | error error => rfl
  | ok place =>
      have below := below_of_locate within leadsToo located
      simp only [bind, Except.bind, at?_of_same same below]

end Same

/-! ### Files to write -/

/-- The place of a file with a name in a folder. -/
def placeIn (disk : Disk) (name : String) (parent : Place) :
    Except SystemError Place :=
  match disk.follow parent name with
  | .error .notFound => .ok (name :: parent)
  | .error error => .error error
  | .ok place =>
    match disk.at? place with
    | some (.folder _) => .error .isAFolder
    | _ => .ok place

variable {before : List String} {last : String}

theorem filePlace_of_last (valid : IsValidPath path)
    (ends : Path.parts (Path.join folder path) = before ++ [last])
    (nonempty : last ≠ "") (disk : Disk) :
    disk.filePlace folder path =
      (before.foldlM disk.follow []).bind (disk.placeIn last) := by
  have isLast : ¬ last.isEmpty = true := by rwa [String.isEmpty_iff]
  simp only [filePlace, partsOf_of_valid valid, ends, bind, Except.bind,
    List.reverse_append, List.reverse_singleton, List.singleton_append,
    List.dropWhile_cons_of_neg isLast, List.tail_cons, List.reverse_reverse,
    List.headD_cons]
  cases before.foldlM disk.follow [] with
  | error error => rfl
  | ok parent => rfl

theorem filePlace_of_blank (valid : IsValidPath path)
    (ends : Path.parts (Path.join folder path) = before ++ [""]) :
    ∃ above, above <+: before ∧ ∀ disk : Disk, disk.filePlace folder path =
      (above.foldlM disk.follow []).bind fun _ => .error .isAFolder := by
  refine ⟨(before.reverse.dropWhile String.isEmpty).tail.reverse, ?_,
    fun disk => ?_⟩
  · rw [← List.reverse_suffix, List.reverse_reverse]
    exact (List.tail_suffix _).trans (List.dropWhile_suffix _)
  · simp only [filePlace, partsOf_of_valid valid, ends, bind, Except.bind,
      List.reverse_append, List.reverse_singleton, List.singleton_append,
      List.headD_cons]
    rfl

/-- No file can be written where a folder is. -/
theorem filePlace_of_folder (valid : IsValidPath path)
    (ends : Path.parts (Path.join folder path) = before ++ [last])
    (leads : disk.Leads [] (before ++ [last]) base)
    (isFolder : disk.kind? base = some .folder) :
    disk.filePlace folder path = .error .isAFolder := by
  obtain ⟨parent, toParent, rest⟩ := leads_append_iff.1 leads
  rcases eq_or_ne last "" with rfl | nonempty
  · obtain ⟨above, ⟨others, split⟩, place_eq⟩ := filePlace_of_blank valid ends
    rw [← split] at toParent
    obtain ⟨middle, toMiddle, -⟩ := leads_append_iff.1 toParent
    rw [Leads] at toMiddle
    rw [place_eq, toMiddle]
    rfl
  · obtain ⟨target, followed, isLast⟩ := leads_cons_iff.1 rest
    rw [leads_nil_iff] at isLast
    subst isLast
    obtain ⟨entries, at_⟩ := kind?_eq_folder_iff.1 isFolder
    rw [Leads] at toParent
    rw [filePlace_of_last valid ends nonempty, toParent]
    simp only [Except.bind, placeIn, followed, at_]

theorem placeIn_of_same (same : disk.at? base = other.at? base)
    (below : base <:+ place) (notUp : part ≠ "..") :
    disk.placeIn part place = other.placeIn part place := by
  unfold placeIn
  rw [follow_of_same same below]
  cases followed : other.follow place part with
  | error error => cases error <;> rfl
  | ok target =>
      have belowToo := below_of_follow notUp below followed
      simp only [at?_of_same same belowToo]

/-- The parts of a path begin with those that lead to a folder.  To follow some
of them, whatever comes of it, fails on both disks or on none. -/
theorem bind_foldlM_of_same {above rest : List String} {α : Type}
    (leads : disk.Leads place front base)
    (leadsToo : other.Leads place front base)
    (same : disk.at? base = other.at? base) (notUp : ".." ∉ rest)
    (begins : above <+: front ++ rest) (result : Except SystemError α) :
    (above.foldlM disk.follow place).bind (fun _ => result) =
      (above.foldlM other.follow place).bind fun _ => result := by
  rcases List.prefix_or_prefix_of_prefix begins (List.prefix_append front rest)
    with ⟨others, rfl⟩ | ⟨others, rfl⟩
  · obtain ⟨middle, toMiddle, -⟩ := leads_append_iff.1 leads
    obtain ⟨middleToo, toMiddleToo, -⟩ := leads_append_iff.1 leadsToo
    rw [Leads] at toMiddle toMiddleToo
    rw [toMiddle, toMiddleToo]
    rfl
  · have among := (List.prefix_append_right_inj front).1 begins
    rw [foldlM_of_leads leads, foldlM_of_leads leadsToo,
      foldlM_of_same same List.suffix_rfl fun up => notUp (among.mem up)]

theorem bind_placeIn_of_same (same : disk.at? base = other.at? base)
    (notUp : ".." ∉ parts) (notUpToo : part ≠ "..") :
    (parts.foldlM disk.follow base).bind (disk.placeIn part) =
      (parts.foldlM other.follow base).bind (other.placeIn part) := by
  rw [foldlM_of_same same List.suffix_rfl notUp]
  cases toParent : parts.foldlM other.follow base with
  | error error => rfl
  | ok parent =>
      exact placeIn_of_same same
        (below_of_leads notUp List.suffix_rfl toParent) notUpToo

/-- The parts of a path within a root end where the root leads, or they go on
from there and never lead up. -/
inductive PartsWithin (folder root path : String) : Prop
  | root (before : List String) (last : String)
      (ends : Path.parts (Path.join folder path) = before ++ [last])
      (leads : ∀ (disk : Disk) (base : Place),
        disk.LeadsToFolder (Path.join folder root) base →
          disk.Leads [] (before ++ [last]) base)
  | below (front rest : List String) (last : String)
      (ends : Path.parts (Path.join folder path) = front ++ rest ++ [last])
      (notUp : ".." ∉ rest) (notUpToo : last ≠ "..")
      (leads : ∀ (disk : Disk) (base : Place),
        disk.LeadsToFolder (Path.join folder root) base →
          disk.Leads [] front base)

theorem partsWithin (within : IsWithin root path) (folder : String) :
    PartsWithin folder root path := by
  obtain ⟨front, back, split, notUp, leads⟩ := exists_parts_within within folder
  rcases List.eq_nil_or_concat' back with rfl | ⟨rest, last, rfl⟩
  · rw [List.append_nil] at split
    obtain ⟨before, last, rfl⟩ := (List.eq_nil_or_concat' front).resolve_left
      (split ▸ Path.parts_ne_nil _)
    exact .root before last split leads
  · rw [← List.append_assoc] at split
    rw [List.mem_append, not_or, List.mem_singleton] at notUp
    exact .below front rest last split notUp.1 (Ne.symm notUp.2) leads

/-- Where a file can be written by a path within a root depends on the folder of
the root only. -/
theorem filePlace_of_same (within : IsWithin root path)
    (leads : disk.LeadsToFolder (Path.join folder root) base)
    (leadsToo : other.LeadsToFolder (Path.join folder root) base)
    (same : disk.at? base = other.at? base) :
    disk.filePlace folder path = other.filePlace folder path := by
  cases read : partsOf folder path with
  | error error => simp only [filePlace, read, bind, Except.bind]
  | ok parts =>
      have valid := valid_of_partsOf read
      cases partsWithin within folder with
      | root before last ends leads_root =>
          rw [filePlace_of_folder valid ends (leads_root _ _ leads)
            leads.isFolder, filePlace_of_folder valid ends
            (leads_root _ _ leadsToo) leadsToo.isFolder]
      | below front rest last ends notUp notUpToo leads_front =>
          have toRoot := leads_front disk base leads
          have toRootToo := leads_front other base leadsToo
          rcases eq_or_ne last "" with rfl | nonempty
          · obtain ⟨above, begins, place_eq⟩ := filePlace_of_blank valid ends
            rw [place_eq, place_eq]
            exact bind_foldlM_of_same toRoot toRootToo same notUp begins _
          · rw [filePlace_of_last valid ends nonempty,
              filePlace_of_last valid ends nonempty, foldlM_of_leads toRoot,
              foldlM_of_leads toRootToo]
            exact bind_placeIn_of_same same notUp notUpToo

/-- A file that is written by a path within a root is put below the folder of
the root, and not in the place of a folder. -/
theorem below_of_filePlace (within : IsWithin root path)
    (leads : disk.LeadsToFolder (Path.join folder root) base)
    (found : disk.filePlace folder path = .ok place) :
    ∃ name parent, place = name :: parent ∧ base <:+ parent ∧
      disk.kind? parent = some .folder ∧ disk.kind? place ≠ some .folder := by
  have valid := valid_of_filePlace found
  cases partsWithin within folder with
  | root before last ends leads_root =>
      rw [filePlace_of_folder valid ends (leads_root _ _ leads)
        leads.isFolder] at found
      cases found
  | below front rest last ends notUp notUpToo leads_front =>
      have nonempty : last ≠ "" := by
        rintro rfl
        exact filePlace_ne_ok_of_empty ends found
      obtain ⟨parent, toParent, last_⟩ :=
        (filePlace_of_valid valid ends nonempty).1 found
      have present := toParent.isSome (isSome_kind?_nil disk)
      obtain ⟨middle, toMiddle, toParent⟩ := leads_append_iff.1 toParent
      cases (leads_front disk base leads).unique toMiddle
      have below := below_of_leads notUp List.suffix_rfl toParent
      rcases last_ with ⟨absent, rfl⟩ | ⟨followed, free⟩
      · obtain ⟨isFolder, none_⟩ := follow_eq_notFound present absent
        exact ⟨last, parent, rfl, below, isFolder, by simp [none_]⟩
      · have isFolder := isFolder_of_follow followed
        obtain ⟨-, rfl⟩ | ⟨up, -⟩ | ⟨rfl, -⟩ := follow_cases followed
        · exact (free isFolder).elim
        · exact (notUpToo up).elim
        · exact ⟨last, parent, rfl, below, isFolder, free⟩

/-! ### What is put below a folder -/

theorem below?_putBelow {above names : List String} {old : Disk}
    (found : disk.below? above = some old) (new : Disk) :
    (putBelow new (above ++ names) disk).below? above =
      some (putBelow new names old) := by
  induction above generalizing disk with
  | nil =>
      cases found
      rfl
  | cons name above ih =>
      obtain ⟨entry, isEntry, found⟩ := Option.bind_eq_some_iff.1 found
      rw [List.cons_append, putBelow, isEntry, below?]
      simp only [Disk.entries, lookup_replaceEntry, if_true,
        Option.getD_some]
      exact ih found

/-- What is in a folder after something has been put below it depends on what
has been in the folder. -/
theorem put_of_same (same : disk.at? base = other.at? base)
    (isFolder : disk.kind? base = some .folder) (below : base <:+ place)
    (new : Disk) : (disk.put place new).at? base =
      (other.put place new).at? base := by
  obtain ⟨entries, at_⟩ := kind?_eq_folder_iff.1 isFolder
  obtain ⟨above, rfl⟩ := below
  rw [at?, put, at?, put, List.reverse_append, below?_putBelow at_,
    below?_putBelow (same.symm.trans at_)]

theorem makeFrom_of_leads (leads : disk.Leads place front target)
    (back : List String) :
    disk.makeFrom place (front ++ back) = disk.makeFrom target back := by
  induction front generalizing place with
  | nil =>
      rw [leads_nil_iff] at leads
      rw [leads, List.nil_append]
  | cons part front ih =>
      obtain ⟨next, followed, leads⟩ := leads_cons_iff.1 leads
      rw [List.cons_append, makeFrom]
      simp only [followOrMake, followed]
      exact ih leads

theorem followOrMake_of_error {error : SystemError}
    (other : error ≠ .notFound)
    (refused : disk.follow place part = .error error) :
    followOrMake (disk, place) part = .error error := by
  simp only [followOrMake, refused]

theorem makeFrom_of_same (same : disk.at? base = other.at? base)
    (isFolder : disk.kind? base = some .folder) (below : base <:+ place)
    (present : (disk.kind? place).isSome) (notUp : ".." ∉ parts) :
    (disk.makeFrom place parts).2 = (other.makeFrom place parts).2 ∧
      (disk.makeFrom place parts).1.at? base =
        (other.makeFrom place parts).1.at? base := by
  induction parts generalizing disk other place with
  | nil =>
      simp only [makeFrom, at?_of_same same below]
      split <;> exact ⟨rfl, same⟩
  | cons part parts ih =>
      rw [List.mem_cons, not_or] at notUp
      have follow_eq := follow_of_same same below part
      rw [makeFrom, makeFrom]
      cases followed : disk.follow place part with
      | ok target =>
          have followedToo := follow_eq.symm.trans followed
          simp only [followOrMake, followed, followedToo]
          exact ih same isFolder
            (below_of_follow (Ne.symm notUp.1) below followed)
            (isSome_of_follow followed) notUp.2
      | error error =>
          have followedToo := follow_eq.symm.trans followed
          rcases eq_or_ne error .notFound with rfl | notAbsent
          · simp only [followOrMake, followed, followedToo]
            obtain ⟨grows, made⟩ := grows_put_empty present followed
            have belowToo := below.trans (List.suffix_cons part place)
            exact ih (put_of_same same isFolder belowToo empty)
              (grows.extends.folders _ isFolder) belowToo made notUp.2
          · rw [followOrMake_of_error notAbsent followed,
              followOrMake_of_error notAbsent followedToo]
            exact ⟨rfl, same⟩

/-- Folders that are made below a place are nowhere else. -/
theorem makeFrom_kind? (below : base <:+ place)
    (present : (disk.kind? place).isSome) (notUp : ".." ∉ parts)
    (notBelow : ¬ base <:+ outside) :
    (disk.makeFrom place parts).1.kind? outside = disk.kind? outside := by
  induction parts generalizing disk place with
  | nil =>
      unfold makeFrom
      split <;> rfl
  | cons part parts ih =>
      rw [List.mem_cons, not_or] at notUp
      rw [makeFrom]
      cases followed : disk.follow place part with
      | ok target =>
          simp only [followOrMake, followed]
          exact ih (below_of_follow (Ne.symm notUp.1) below followed)
            (isSome_of_follow followed) notUp.2
      | error error =>
          rcases eq_or_ne error .notFound with rfl | notAbsent
          · simp only [followOrMake, followed]
            have belowToo := below.trans (List.suffix_cons part place)
            obtain ⟨-, made⟩ := grows_put_empty present followed
            obtain ⟨isFolder, free⟩ := follow_eq_notFound present followed
            rw [ih belowToo made notUp.2,
              kind?_put rfl isFolder (by simp [free]),
              Function.update_of_ne]
            rintro rfl
            exact notBelow belowToo
          · rw [followOrMake_of_error notAbsent followed]

/-! ### Changes within a root -/

/-- A disk has changed at most below a folder to which a path still leads. -/
structure ChangesBelow (path : String) (base : Place) (before after : Disk) :
    Prop where
  leads : after.LeadsToFolder path base
  kind?_eq : ∀ place, ¬ base <:+ place → after.kind? place = before.kind? place

section Changes

variable {after : Disk} {content : Bytes} {modified : Instant}
  (within : IsWithin root path)
  (leads : disk.LeadsToFolder (Path.join folder root) base)

include within leads

theorem changesBelow_save
    (saved : disk.save folder path content modified = .ok after) :
    ChangesBelow (Path.join folder root) base disk after := by
  unfold save at saved
  cases found : disk.filePlace folder path with
  | error error =>
      rw [found] at saved
      cases saved
  | ok place =>
      rw [found] at saved
      cases saved
      obtain ⟨name, parent, rfl, below, isFolder, free⟩ :=
        below_of_filePlace within leads found
      have put_eq := @kind?_put disk (.file content modified) parent name rfl
        isFolder free
      refine ⟨(extends_of_update put_eq free).leadsToFolder leads,
        fun outside notBelow => ?_⟩
      rw [put_eq, Function.update_of_ne]
      rintro rfl
      exact notBelow (below.trans (List.suffix_cons _ _))

theorem changesBelow_makeFolders :
    ChangesBelow (Path.join folder root) base disk
      (disk.makeFolders folder path).1 := by
  refine ⟨(makeFolders_grows disk folder path).extends.leadsToFolder leads,
    fun outside notBelow => ?_⟩
  unfold makeFolders
  split
  · rfl
  · cases read : partsOf folder path with
    | error error => rfl
    | ok parts =>
        obtain ⟨front, back, split, notUp, leads_front⟩ :=
          exists_parts_within within folder
        rw [partsOf_of_valid (valid_of_partsOf read), split] at read
        cases read
        dsimp only
        rw [makeFrom_of_leads (leads_front disk base leads)]
        refine makeFrom_kind? List.suffix_rfl ?_ notUp notBelow
        exact Option.isSome_of_mem leads.isFolder

variable (leadsToo : other.LeadsToFolder (Path.join folder root) base)
  (same : disk.at? base = other.at? base)

include leadsToo same

theorem makeFolders_of_same :
    (disk.makeFolders folder path).2 = (other.makeFolders folder path).2 ∧
      (disk.makeFolders folder path).1.at? base =
        (other.makeFolders folder path).1.at? base := by
  unfold makeFolders
  split
  · exact ⟨rfl, same⟩
  · cases read : partsOf folder path with
    | error error => exact ⟨rfl, same⟩
    | ok parts =>
        obtain ⟨front, back, split, notUp, leads_front⟩ :=
          exists_parts_within within folder
        rw [partsOf_of_valid (valid_of_partsOf read), split] at read
        cases read
        dsimp only
        rw [makeFrom_of_leads (leads_front disk base leads),
          makeFrom_of_leads (leads_front other base leadsToo)]
        exact makeFrom_of_same same leads.isFolder List.suffix_rfl
          (Option.isSome_of_mem leads.isFolder) notUp

/-- A file is written on both disks, or on none. -/
theorem save_of_same :
    (∃ error, disk.save folder path content modified = .error error ∧
        other.save folder path content modified = .error error) ∨
      ∃ after afterToo, disk.save folder path content modified = .ok after ∧
        other.save folder path content modified = .ok afterToo ∧
        after.at? base = afterToo.at? base := by
  have filePlace_eq := filePlace_of_same within leads leadsToo same
  unfold save
  rw [filePlace_eq]
  cases found : other.filePlace folder path with
  | error error => exact .inl ⟨error, rfl, rfl⟩
  | ok place =>
      obtain ⟨name, parent, rfl, below, -⟩ :=
        below_of_filePlace within leadsToo found
      refine .inr ⟨_, _, rfl, rfl, put_of_same same leads.isFolder ?_ _⟩
      exact below.trans (List.suffix_cons _ _)

end Changes

/-! ### What holds a root -/

/-- What can be said of folders that need not be made. -/
def madeAlready (path : String) : Except SystemError Unit :=
  if path.toList.contains '\x00' then .error .invalidName else .ok ()

/-- The folders that hold a folder need not be made. -/
theorem makeFolders_of_prefix
    (leads : disk.LeadsToFolder (Path.join folder root) base)
    (holds : counted (Path.join folder path) <+:
      counted (Path.join folder root)) :
    disk.makeFolders folder path = (disk, madeAlready path) := by
  obtain ⟨more, split⟩ := holds
  have toBase : disk.Leads [] (counted (Path.join folder root)) base :=
    leads_counted leads.leads
  rw [← split] at toBase
  obtain ⟨middle, toMiddle, rest⟩ := leads_append_iff.1 toBase
  -- The path leads to where the root is, or to something that it goes through.
  have isFolder : disk.kind? middle = some .folder := by
    rcases eq_or_ne more [] with rfl | some_
    · rw [leads_nil_iff] at rest
      rw [← rest]
      exact leads.isFolder
    · exact isFolder_of_leads some_ rest
  have made := makeFrom_of_folder (leads_of_counted isFolder toMiddle) isFolder
  unfold makeFolders madeAlready partsOf
  by_cases isEmpty : path = ""
  · subst isEmpty
    rfl
  · have nonempty : ¬ path.isEmpty = true := by rwa [String.isEmpty_iff]
    by_cases zero : path.toList.contains '\x00' = true
    · rw [if_neg nonempty, if_pos zero, if_pos zero]
    · rw [if_neg nonempty, if_neg zero, if_neg nonempty, if_neg zero]
      exact made

end Rehearsal.Disk

end Runbook
