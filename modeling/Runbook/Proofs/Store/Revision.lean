import Runbook.Proofs.Store.Handle

/-!
# Histories of files

Files are written one after the other, at any times, and what they held is kept
below the folder `.history`.  A content that has been kept stays there, and what
has been written last is what is read, as long as no file is written twice in
one millisecond: the second content that is kept of a file in a millisecond
takes the place of the first one.
-/

namespace Runbook

open Rehearsal Rehearsal.Disk
open Runbook.Path (IsName)

/-- A write as it is asked for, and what the clock shows then, in nanoseconds
since the first instant of 1970. -/
structure TimedWrite where
  clock : Nat
  id : String
  write : FileWrite

namespace TimedWrite

def time (writing : TimedWrite) : Instant :=
  .ofNanoseconds writing.clock

/-- A write keeps what it replaces, and no name in its path is hidden. -/
structure IsVisible (writing : TimedWrite) : Prop where
  recorded : writing.write.recordHistory = true
  shown : ∀ path, DirectoryStore.normalize writing.id = .ok path →
    ∀ name ∈ Path.parts path, DirectoryStore.isHidden name = false

/-- A place is that of the file that is written, or that of the content that is
kept. -/
def Touches (writing : TimedWrite) (base place : Place) : Prop :=
  ∃ names, (∀ name ∈ names, IsName name) ∧ names ≠ [] ∧
    DirectoryStore.normalize writing.id = .ok ("/".intercalate names) ∧
    (place = names.reverse ++ base ∨ ∃ kept,
      (∀ name ∈ DirectoryStore.historyFolder :: kept, IsName name) ∧
      "/".intercalate names ++ "." ++ writing.time.stamp =
        "/".intercalate kept ∧
      place = (DirectoryStore.historyFolder :: kept).reverse ++ base)

end TimedWrite

namespace DirectoryStore

variable {store : DirectoryStore} {machine before after middle last : Machine}
  {writing : TimedWrite} {first second : List TimedWrite}
  {names kept : List String} {base place : Place} {path : String}
  {content old : Bytes} {info : FileInfo}

/-- A write succeeds. -/
def Succeeds (store : DirectoryStore) (machine : Machine)
    (writing : TimedWrite) (after : Machine) : Prop :=
  ∃ info, ({ machine with clock := writing.clock } : Machine).run
    (store.write writing.id writing.write).run = (.ok info, after)

/-- Writes succeed one after the other. -/
inductive Writes (store : DirectoryStore) :
    Machine → List TimedWrite → Machine → Prop
  | nil (machine : Machine) : Writes store machine [] machine
  | cons {machine middle last : Machine} {writing : TimedWrite}
      {rest : List TimedWrite}
      (succeeds : store.Succeeds machine writing middle)
      (writes : Writes store middle rest last) :
      Writes store machine (writing :: rest) last

theorem writes_cons_iff :
    store.Writes machine (writing :: second) last ↔
      ∃ middle, store.Succeeds machine writing middle ∧
        store.Writes middle second last := by
  constructor
  · rintro (_ | ⟨succeeds, writes⟩)
    exact ⟨_, succeeds, writes⟩
  · rintro ⟨middle, succeeds, writes⟩
    exact .cons succeeds writes

theorem writes_append_iff :
    store.Writes machine (first ++ second) last ↔
      ∃ middle, store.Writes machine first middle ∧
        store.Writes middle second last := by
  induction first generalizing machine with
  | nil =>
      constructor
      · exact fun writes => ⟨machine, .nil machine, writes⟩
      · rintro ⟨middle, ⟨⟩, writes⟩
        exact writes
  | cons writing first ih =>
      rw [List.cons_append, writes_cons_iff]
      constructor
      · rintro ⟨next, succeeds, writes⟩
        obtain ⟨middle, before, after⟩ := ih.1 writes
        exact ⟨middle, .cons succeeds before, after⟩
      · rintro ⟨middle, before, after⟩
        obtain ⟨next, succeeds, before⟩ := writes_cons_iff.1 before
        exact ⟨next, succeeds, ih.2 ⟨middle, before, after⟩⟩

/-! ### One write -/

theorem Succeeds.revises (succeeds : store.Succeeds machine writing last)
    (recorded : writing.write.recordHistory = true) :
    ∃ names base, normalize writing.id = .ok ("/".intercalate names) ∧
      (∀ name ∈ names, IsName name) ∧ names ≠ [] ∧
      store.Revises { machine with clock := writing.clock } last names base
        (Text.toBytes writing.write.content) := by
  obtain ⟨info, ran⟩ := succeeds
  exact revises_of_write recorded ran

/-- A write leaves all contents as they are but that of the file and the one
that is kept. -/
theorem Succeeds.content?_eq (succeeds : store.Succeeds machine writing last)
    (recorded : writing.write.recordHistory = true)
    (root : machine.disk.LeadsToFolder
      (Path.join machine.folder store.root) base)
    (apart : ¬ writing.Touches base place) :
    last.disk.content? place = machine.disk.content? place := by
  obtain ⟨names, baseToo, normalized, areNames, some_, revises⟩ :=
    succeeds.revises recorded
  obtain rfl : baseToo = base :=
    (revises.more.leadsToFolder root).unique revises.root
  have notFile : place ≠ names.reverse ++ baseToo := by
    rintro rfl
    exact apart ⟨names, areNames, some_, normalized, .inl rfl⟩
  rcases revises.contents with
    ⟨-, contents⟩ | ⟨middle, kept, old, keeps, -, contents⟩
  · rw [contents, Function.update_of_ne notFile]
  · have notKept : place ≠ (historyFolder :: kept).reverse ++ baseToo := by
      rintro rfl
      exact apart ⟨names, areNames, some_, normalized,
        .inr ⟨kept, keeps.areKept, keeps.kept_eq, rfl⟩⟩
    rw [contents, Function.update_of_ne notFile, keeps.contents,
      Function.update_of_ne notKept]

/-! ### Many writes -/

theorem Writes.extends (writes : store.Writes machine second last)
    (recorded : ∀ writing ∈ second, writing.write.recordHistory = true) :
    last.folder = machine.folder ∧ Extends machine.disk last.disk := by
  induction writes with
  | nil machine => exact ⟨rfl, .refl _⟩
  | cons succeeds writes ih =>
      rw [List.forall_mem_cons] at recorded
      obtain ⟨names, base, -, -, -, revises⟩ := succeeds.revises recorded.1
      obtain ⟨folder, more⟩ := ih recorded.2
      exact ⟨folder.trans revises.folder, revises.more.trans more⟩

/-- Writes leave a content as it is if none of them puts something in its
place. -/
theorem Writes.content?_eq (writes : store.Writes machine second last)
    (recorded : ∀ writing ∈ second, writing.write.recordHistory = true)
    (root : machine.disk.LeadsToFolder
      (Path.join machine.folder store.root) base)
    (apart : ∀ writing ∈ second, ¬ writing.Touches base place) :
    last.disk.content? place = machine.disk.content? place := by
  induction writes with
  | nil machine => rfl
  | cons succeeds writes ih =>
      rw [List.forall_mem_cons] at recorded apart
      obtain ⟨names, base, -, -, -, revises⟩ := succeeds.revises recorded.1
      have rootToo := revises.more.leadsToFolder root
      rw [ih recorded.2 (by rw [revises.folder]; exact rootToo) apart.2,
        succeeds.content?_eq recorded.1 root apart.1]

/-- A file stays as it is if no write puts something in its place. -/
theorem Writes.find_of_apart (writes : store.Writes machine second last)
    (recorded : ∀ writing ∈ second, writing.write.recordHistory = true)
    (root : machine.disk.LeadsToFolder
      (Path.join machine.folder store.root) base)
    (apart : ∀ writing ∈ second, ¬ writing.Touches base place)
    (located : machine.disk.locate machine.folder path = .ok place)
    (held : machine.disk.content? place = some content) :
    ∃ modified, last.disk.find last.folder path =
      .ok (.file content modified) := by
  obtain ⟨folder, more⟩ := writes.extends recorded
  rw [← writes.content?_eq recorded root apart] at held
  obtain ⟨modified, at_⟩ := content?_eq_some_iff.1 held
  rw [folder]
  exact ⟨modified, find_eq_ok_iff.2 ⟨place, more.locate located, at_⟩⟩

/-! ### What later writes leave -/

/-- Only a write of the same file puts something in its place. -/
theorem normalize_of_touches_file
    (touches : writing.Touches base (names.reverse ++ base))
    (shown : ∀ name ∈ names, isHidden name = false) :
    normalize writing.id = .ok ("/".intercalate names) := by
  obtain ⟨others, -, -, normalized, isFile | ⟨kept, -, -, isKept⟩⟩ := touches
  · rw [names_eq_of_place_eq isFile, normalized]
  · have hidden := shown historyFolder
      (by rw [names_eq_of_place_eq isKept]; exact List.mem_cons_self)
    exact absurd hidden (by decide)

/-- Only a write of the same file in the same millisecond puts something in the
place of a content that is kept. -/
theorem same_file_of_touches_kept {clock : Nat}
    (touches : writing.Touches base ((historyFolder :: kept).reverse ++ base))
    (visible : writing.IsVisible)
    (kept_eq : path ++ "." ++ (Instant.ofNanoseconds clock).stamp =
      "/".intercalate kept) :
    normalize writing.id = .ok path ∧
      writing.clock / 1000000 = clock / 1000000 := by
  obtain ⟨others, areNames, some_, normalized, place_eq⟩ := touches
  rcases place_eq with isFile | ⟨keptToo, -, kept_eqToo, isKept⟩
  · have shown := visible.shown _ normalized historyFolder (by
      rw [Path.parts_intercalate some_ areNames,
        ← names_eq_of_place_eq isFile]
      exact List.mem_cons_self)
    exact absurd shown (by decide)
  · have same := (List.cons.inj (names_eq_of_place_eq isKept)).2
    rw [← same, ← kept_eq] at kept_eqToo
    obtain ⟨path_eq, stamp_eq⟩ := Instant.append_stamp_inj kept_eqToo
    have millisecond := Instant.millisecond_eq_of_stamp_eq stamp_eq
    exact ⟨path_eq ▸ normalized, by exact_mod_cast millisecond⟩

/-- The file at a relative path held a content before it was written. -/
def Replaces (store : DirectoryStore) (before after : Machine) (path : String)
    (old : Bytes) : Prop :=
  ∃ place, after.disk.locate after.folder (store.fullPath path) = .ok place ∧
    before.disk.content? place = some old

/-- What has been replaced has been kept. -/
theorem Revises.exists_keeps
    (revises : store.Revises before after names base content)
    (replaces : store.Replaces before after ("/".intercalate names) old) :
    ∃ middle kept, store.Keeps before middle names kept base old ∧
      Extends middle.disk after.disk ∧
      after.disk.content? ((historyFolder :: kept).reverse ++ base) =
        some old := by
  obtain ⟨place, located, held⟩ := replaces
  rw [revises.folder] at located
  obtain rfl := Except.ok.inj (located.symm.trans revises.located)
  rcases revises.contents with
    ⟨nothing, -⟩ | ⟨middle, kept, oldToo, keeps, more, contents⟩
  · exact absurd (nothing.symm.trans held) (by simp)
  · obtain rfl := Option.some.inj (keeps.isFile.symm.trans held)
    refine ⟨middle, kept, keeps, more, ?_⟩
    rw [contents, Function.update_of_ne keeps.backup_ne.symm, keeps.contents,
      Function.update_self]

theorem Keeps.kept_ne_nil
    (keeps : store.Keeps before after names kept base old)
    (some_ : names ≠ []) : kept ≠ [] := by
  rintro rfl
  exact some_ (List.eq_nil_of_length_eq_zero keeps.length_eq.symm)

/-- A content that is replaced is kept until another content of the same file
is replaced in the same millisecond. -/
theorem Writes.load_of_replaces (writes : store.Writes after second last)
    (succeeds : store.Succeeds before writing after)
    (visible : ∀ other ∈ writing :: second, other.IsVisible)
    (normalized : normalize writing.id = .ok path)
    (replaces : store.Replaces before after path old)
    (alone : ∀ later ∈ second, normalize later.id = .ok path →
      later.clock / 1000000 ≠ writing.clock / 1000000) :
    last.disk.load last.folder
      (store.fullPath (revisionPath path writing.time.stamp)) = .ok old := by
  rw [List.forall_mem_cons] at visible
  obtain ⟨isVisible, visible⟩ := visible
  obtain ⟨names, base, normalizedToo, areNames, some_, revises⟩ :=
    succeeds.revises isVisible.recorded
  obtain rfl : path = "/".intercalate names :=
    Except.ok.inj (normalized.symm.trans normalizedToo)
  obtain ⟨middle, kept, keeps, more, held⟩ := revises.exists_keeps replaces
  have kept_eq : "/".intercalate names ++ "." ++ writing.time.stamp =
      "/".intercalate kept := keeps.kept_eq
  have located := more.locate keeps.located
  have root := revises.root
  rw [intercalate_history (keeps.kept_ne_nil some_), ← kept_eq] at located
  rw [← revises.folder] at located root
  have apart : ∀ other ∈ second,
      ¬ other.Touches base ((historyFolder :: kept).reverse ++ base) := by
    intro other member touches
    obtain ⟨sameFile, sameMillisecond⟩ :=
      same_file_of_touches_kept touches (visible other member) kept_eq
    exact alone other member sameFile sameMillisecond
  exact load_eq_ok_iff.2 (writes.find_of_apart
    (fun other member => (visible other member).recorded) root apart
    located held)

theorem Revises.content?_eq
    (revises : store.Revises before after names base content) :
    after.disk.content? (names.reverse ++ base) = some content := by
  rcases revises.contents with ⟨-, contents⟩ | ⟨_, _, _, -, -, contents⟩ <;>
    rw [contents, Function.update_self]

/-- What has been written is read until the same file is written again. -/
theorem Writes.read_of_last (writes : store.Writes after second last)
    (succeeds : store.Succeeds before writing after)
    (visible : ∀ other ∈ writing :: second, other.IsVisible)
    (normalized : normalize writing.id = .ok path)
    (alone : ∀ later ∈ second, normalize later.id ≠ .ok path) :
    ∃ info, last.run (store.read writing.id).run =
      (.ok ⟨info, writing.write.content, false⟩, last) := by
  rw [List.forall_mem_cons] at visible
  obtain ⟨isVisible, visible⟩ := visible
  obtain ⟨names, base, normalizedToo, areNames, some_, revises⟩ :=
    succeeds.revises isVisible.recorded
  obtain rfl : path = "/".intercalate names :=
    Except.ok.inj (normalized.symm.trans normalizedToo)
  have shown := isVisible.shown _ normalized
  rw [Path.parts_intercalate some_ areNames] at shown
  have located := revises.located
  have root := revises.root
  rw [← revises.folder] at located root
  have apart : ∀ other ∈ second,
      ¬ other.Touches base (names.reverse ++ base) :=
    fun other member touches =>
      alone other member (normalize_of_touches_file touches shown)
  obtain ⟨modified, isFile⟩ := writes.find_of_apart
    (fun other member => (visible other member).recorded) root apart
    located revises.content?_eq
  exact ⟨_, run_read_of_text normalized isFile (Text.ofBytes?_toBytes _)⟩

/-- After writes one after the other, what each of them has replaced is kept
where its path and its time lead, unless what the same file held in between is
kept there because both were replaced in one millisecond; and what has been
written last by the path of a file is what is read. -/
theorem Writes.keeps_revisions
    (writes : store.Writes machine (first ++ writing :: second) last)
    (visible : ∀ other ∈ first ++ writing :: second, other.IsVisible) :
    ∃ path before after, normalize writing.id = .ok path ∧
      store.Writes machine first before ∧
      store.Succeeds before writing after ∧ store.Writes after second last ∧
      (∀ old, store.Replaces before after path old →
        last.disk.load last.folder
            (store.fullPath (revisionPath path writing.time.stamp)) =
              .ok old ∨
          ∃ later ∈ second, normalize later.id = .ok path ∧
            later.clock / 1000000 = writing.clock / 1000000) ∧
      ((∀ later ∈ second, normalize later.id ≠ .ok path) →
        ∃ info, last.run (store.read writing.id).run =
          (.ok ⟨info, writing.write.content, false⟩, last)) := by
  obtain ⟨before, earlier, writes⟩ := writes_append_iff.1 writes
  obtain ⟨after, succeeds, writes⟩ := writes_cons_iff.1 writes
  have visibleToo : ∀ other ∈ writing :: second, other.IsVisible :=
    fun other member => visible other (List.mem_append_right first member)
  obtain ⟨names, base, normalized, -, -, -⟩ :=
    succeeds.revises (visibleToo writing List.mem_cons_self).recorded
  refine ⟨_, before, after, normalized, earlier, succeeds, writes,
    fun old replaces => ?_,
    writes.read_of_last succeeds visibleToo normalized⟩
  by_cases again : ∃ later ∈ second,
      normalize later.id = .ok ("/".intercalate names) ∧
        later.clock / 1000000 = writing.clock / 1000000
  · exact .inr again
  · refine .inl (writes.load_of_replaces succeeds visibleToo normalized
      replaces fun later member sameFile sameMillisecond => ?_)
    exact again ⟨later, member, sameFile, sameMillisecond⟩

/-! ### A note that is written twice -/

/-- The machine after a write. -/
def afterWrite (store : DirectoryStore) (machine : Machine)
    (writing : TimedWrite) : Machine :=
  (({ machine with clock := writing.clock } : Machine).run
    (store.write writing.id writing.write).run).2

theorem succeeds_afterWrite
    (ran : (({ machine with clock := writing.clock } : Machine).run
      (store.write writing.id writing.write).run).1.isOk = true) :
    store.Succeeds machine writing (store.afterWrite machine writing) := by
  unfold afterWrite
  cases done : ({ machine with clock := writing.clock } : Machine).run
      (store.write writing.id writing.write).run with
  | mk result changed =>
      rw [done] at ran
      cases result with
      | error error => cases ran
      | ok info => exact ⟨info, done⟩

theorem Succeeds.eq_afterWrite
    (succeeds : store.Succeeds machine writing after) :
    after = store.afterWrite machine writing := by
  obtain ⟨info, ran⟩ := succeeds
  rw [afterWrite, ran]

def noteStore : DirectoryStore :=
  ⟨"/data"⟩

def noteWrite (clock : Nat) (content : String) : TimedWrite :=
  ⟨clock, "notes/a.txt", ⟨"notes/a.txt", content, none, true, false⟩⟩

theorem normalize_note : normalize "notes/a.txt" = .ok "notes/a.txt" := by
  decide +kernel

theorem noteWrite_isVisible (clock : Nat) (content : String) :
    (noteWrite clock content).IsVisible := by
  refine ⟨rfl, fun path normalized => ?_⟩
  rw [← Except.ok.inj (normalize_note.symm.trans normalized)]
  decide +kernel

/-- The machine after the note has been written at the first instant of 1970. -/
def writtenNote : Machine :=
  noteStore.afterWrite (noteMachine "a.txt") (noteWrite 0 "y")

theorem writtenNote_succeeds :
    noteStore.Succeeds (noteMachine "a.txt") (noteWrite 0 "y") writtenNote :=
  succeeds_afterWrite (by decide +kernel)

theorem writtenNote_replaces :
    noteStore.Replaces (noteMachine "a.txt") writtenNote "notes/a.txt" [120] :=
  ⟨["a.txt", "notes", "data"], by decide +kernel, by decide +kernel⟩

/-- What a note held is kept if it is written again in another millisecond. -/
theorem keeps_revisions_of_note :
    ∃ last, noteStore.Writes (noteMachine "a.txt")
        ([] ++ noteWrite 0 "y" :: [noteWrite 1000000 "z"]) last ∧
      last.disk.load last.folder
        "/data/.history/notes/a.txt.19700101T000000.000" = .ok [120] := by
  have again : noteStore.Succeeds writtenNote (noteWrite 1000000 "z") _ :=
    succeeds_afterWrite (by decide +kernel)
  have writes : noteStore.Writes (noteMachine "a.txt")
      ([] ++ noteWrite 0 "y" :: [noteWrite 1000000 "z"]) _ :=
    .cons writtenNote_succeeds (.cons again (.nil _))
  refine ⟨_, writes, ?_⟩
  obtain ⟨path, before, after, normalized, earlier, succeeds, -, kept, -⟩ :=
    writes.keeps_revisions (by simp [noteWrite_isVisible])
  obtain rfl : "notes/a.txt" = path :=
    Except.ok.inj (normalize_note.symm.trans normalized)
  cases earlier
  have replaces : noteStore.Replaces (noteMachine "a.txt") after "notes/a.txt"
      [120] := by
    rw [succeeds.eq_afterWrite]
    exact writtenNote_replaces
  have leads : noteStore.fullPath
      (revisionPath "notes/a.txt" (noteWrite 0 "y").time.stamp) =
        "/data/.history/notes/a.txt.19700101T000000.000" := by decide +kernel
  rw [leads] at kept
  rcases kept [120] replaces with
    kept | ⟨later, member, -, sameMillisecond⟩
  · exact kept
  · obtain rfl := List.mem_singleton.1 member
    exact absurd sameMillisecond (by decide)

/-- What a note held is lost if it is written again in the same millisecond:
what it held in between is kept in its place. -/
theorem not_keeps_revisions_of_millisecond :
    ¬ ∀ (store : DirectoryStore) (machine before after last : Machine)
        (first second : List TimedWrite) (writing : TimedWrite)
        (path : String) (old : Bytes),
      (first ++ writing :: second).Pairwise
          (fun earlier later => earlier.clock ≤ later.clock) →
        (∀ other ∈ first ++ writing :: second, other.IsVisible) →
        store.Writes machine first before →
        store.Succeeds before writing after →
        store.Writes after second last →
        normalize writing.id = .ok path →
        store.Replaces before after path old →
        ∃ kept, last.disk.load last.folder
          (store.fullPath (historyFolder ++ "/" ++ kept)) = .ok old := by
  intro keeps
  have again : noteStore.Succeeds writtenNote (noteWrite 100000 "z") _ :=
    succeeds_afterWrite (by decide +kernel)
  obtain ⟨kept, loaded⟩ := keeps noteStore (noteMachine "a.txt") _ _ _ []
    [noteWrite 100000 "z"] (noteWrite 0 "y") "notes/a.txt" [120]
    (by simp [noteWrite])
    (by simp [noteWrite_isVisible])
    (.nil _) writtenNote_succeeds (.cons again (.nil _)) normalize_note
    writtenNote_replaces
  obtain ⟨modified, found⟩ := load_eq_ok_iff.1 loaded
  obtain ⟨place, -, at_⟩ := find_eq_ok_iff.1 found
  have listed := List.mem_map_of_mem (f := Prod.snd)
    (mem_files_of_content? (content?_eq_some_iff.2 ⟨modified, at_⟩))
  have lost : [120] ∉ ((noteStore.afterWrite writtenNote
      (noteWrite 100000 "z")).disk.files []).map Prod.snd := by
    decide +kernel
  exact lost listed

end DirectoryStore

end Runbook
