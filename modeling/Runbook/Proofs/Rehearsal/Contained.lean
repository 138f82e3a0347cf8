import Runbook.Proofs.Rehearsal.Machine
import Runbook.Proofs.Rehearsal.Within

/-!
# Programs that are contained in a root

A program that asks only about what is within a root changes nothing elsewhere
on the disk, as long as the root leads to a folder, and what comes of it depends
on nothing elsewhere.  This is so for every question, and so for every program
by induction on its questions.
-/

namespace Runbook

namespace Program

variable {Question : Type} {Reply : Question → Type} {α β : Type}
  {isAsked isAskedToo : Question → Prop}

/-- Whatever the replies are, a program asks questions of a kind only. -/
inductive AsksOnly (isAsked : Question → Prop) :
    Program Question Reply α → Prop
  | done (value : α) : AsksOnly isAsked (.done value)
  | ask {question : Question} {next : Reply question → Program Question Reply α}
      (asks : isAsked question)
      (rest : ∀ reply, AsksOnly isAsked (next reply)) :
      AsksOnly isAsked (.ask question next)

theorem AsksOnly.first {question : Question}
    {next : Reply question → Program Question Reply α}
    (asks : AsksOnly isAsked (.ask question next)) : isAsked question := by
  cases asks with
  | ask asks _ => exact asks

theorem AsksOnly.mono {program : Program Question Reply α}
    (asks : AsksOnly isAsked program)
    (wider : ∀ question, isAsked question → isAskedToo question) :
    AsksOnly isAskedToo program := by
  induction asks with
  | done value => exact .done value
  | ask asks _ ih => exact .ask (wider _ asks) ih

theorem AsksOnly.bind {program : Program Question Reply α}
    {next : α → Program Question Reply β} (first : AsksOnly isAsked program)
    (rest : ∀ value, AsksOnly isAsked (next value)) :
    AsksOnly isAsked (program.bind next) := by
  induction first with
  | done value => exact rest value
  | ask asks _ ih => exact .ask asks ih

end Program

/-- The paths that a question names, if it is about files and folders or about
the time. -/
def Host.Question.paths? : Host.Question → Option (List String)
  | .load path | .inspect path | .tree path => some [path]
  | .save path _ | .makeFolders path => some [path]
  | .copy source target => some [source, target]
  | .now => some []
  | _ => none

/-- A question is about what is within a root, or about the time. -/
def Host.Question.IsWithin (root : String) (question : Host.Question) : Prop :=
  ∃ paths, question.paths? = some paths ∧
    ∀ path ∈ paths, Path.IsWithin root path

namespace Rehearsal

open Disk

variable {root path : String} {base : Place}

namespace Machine

variable {machine other : Machine} {disk : Disk} {question : Host.Question}

/-! ### Elsewhere -/

/-- On a machine a root leads to a folder. -/
def HasRoot (machine : Machine) (root : String) (base : Place) : Prop :=
  machine.disk.LeadsToFolder (Path.join machine.folder root) base

/-- A machine has changed its disk at most in the folder of a root, which is
still there. -/
structure ChangesWithin (root : String) (base : Place)
    (before after : Machine) : Prop where
  folder_eq : after.folder = before.folder
  changes : ChangesBelow (Path.join before.folder root) base before.disk
    after.disk

theorem ChangesWithin.hasRoot {before after : Machine}
    (changes : ChangesWithin root base before after) :
    after.HasRoot root base := by
  rw [HasRoot, changes.folder_eq]
  exact changes.changes.leads

theorem ChangesWithin.trans {before middle after : Machine}
    (first : ChangesWithin root base before middle)
    (second : ChangesWithin root base middle after) :
    ChangesWithin root base before after := by
  obtain ⟨folder_eq, leads, kind?_eq⟩ := second
  rw [first.folder_eq] at folder_eq leads
  exact ⟨folder_eq, leads, fun place notBelow =>
    (kind?_eq place notBelow).trans (first.changes.kind?_eq place notBelow)⟩

theorem changesWithin_of_disk_eq {after : Machine}
    (hasRoot : machine.HasRoot root base)
    (folder_eq : after.folder = machine.folder)
    (disk_eq : after.disk = machine.disk) :
    ChangesWithin root base machine after :=
  ⟨folder_eq, by rwa [disk_eq], fun _ _ => by rw [disk_eq]⟩

theorem changesWithin_changeDisk (hasRoot : machine.HasRoot root base)
    {change : Except SystemError Disk}
    (changes : ∀ disk, change = .ok disk →
      ChangesBelow (Path.join machine.folder root) base machine.disk disk) :
    ChangesWithin root base machine (machine.changeDisk change).2 := by
  cases change with
  | error error => exact changesWithin_of_disk_eq hasRoot rfl rfl
  | ok disk => exact ⟨rfl, changes disk rfl⟩

/-- A question about what is within a root changes nothing elsewhere. -/
theorem changesWithin_answer (within : question.IsWithin root)
    (hasRoot : machine.HasRoot root base) :
    ChangesWithin root base machine (machine.answer question).2 := by
  obtain ⟨paths, named, areWithin⟩ := within
  cases question with
  | save path content =>
      cases named
      refine changesWithin_changeDisk hasRoot fun disk saved => ?_
      exact changesBelow_save (areWithin path (by simp)) hasRoot saved
  | copy source target =>
      cases named
      refine changesWithin_changeDisk hasRoot fun disk copied => ?_
      unfold copy at copied
      cases found : machine.disk.find machine.folder source with
      | error error =>
          rw [found] at copied
          cases copied
      | ok entry =>
          rw [found] at copied
          cases entry with
          | folder entries => cases copied
          | file content modified =>
              exact changesBelow_save (areWithin target (by simp)) hasRoot
                copied
  | makeFolders path =>
      cases named
      exact ⟨rfl, changesBelow_makeFolders (areWithin path (by simp)) hasRoot⟩
  | load | inspect | tree | now =>
      exact changesWithin_of_disk_eq hasRoot rfl rfl
  | currentFolder | environment | output | «show» | line | send | sleep
  | newId | observe => cases named

/-! ### In the folder of the root -/

/-- On two machines a root leads to a folder, and what is in that folder is the
same on both.  Elsewhere their disks may differ. -/
structure SameWithin (root : String) (base : Place) (machine other : Machine) :
    Prop where
  hasRoot : machine.HasRoot root base
  hasRootToo : other.HasRoot root base
  at?_eq : machine.disk.at? base = other.disk.at? base
  rest_eq : other = { machine with disk := other.disk }

/-- Machines give the same reply, and differ at most in what is elsewhere on
their disks then. -/
structure Agree {α : Type} (base : Place) (first second : α × Machine) :
    Prop where
  value_eq : first.1 = second.1
  at?_eq : first.2.disk.at? base = second.2.disk.at? base
  rest_eq : second.2 = { first.2 with disk := second.2.disk }

/-- A file is written on both machines, or on none. -/
theorem agree_changeDisk {change changeToo : Except SystemError Disk}
    (at?_eq : machine.disk.at? base = disk.at? base)
    (both : (∃ error, change = .error error ∧ changeToo = .error error) ∨
      ∃ after afterToo, change = .ok after ∧ changeToo = .ok afterToo ∧
        after.at? base = afterToo.at? base) :
    Agree base (machine.changeDisk change)
      ({ machine with disk := disk }.changeDisk changeToo) := by
  rcases both with ⟨error, rfl, rfl⟩ | ⟨after, afterToo, rfl, rfl, same⟩
  · exact ⟨rfl, at?_eq, rfl⟩
  · exact ⟨rfl, same, rfl⟩

/-- The reply to a question about what is within a root depends on the folder of
the root only, and so does what is in that folder afterwards. -/
theorem agree_answer (within : question.IsWithin root)
    (same : SameWithin root base machine other) :
    Agree base (machine.answer question) (other.answer question) := by
  obtain ⟨hasRoot, hasRootToo, at?_eq, rest_eq⟩ := same
  obtain ⟨paths, named, areWithin⟩ := within
  -- The machines are the same but for their disks.
  generalize other.disk = disk at *
  subst rest_eq
  have found {path : String} (within : Path.IsWithin root path) :
      machine.disk.find machine.folder path = disk.find machine.folder path :=
    find_of_same within hasRoot hasRootToo at?_eq
  cases question with
  | load path =>
      cases named
      refine ⟨?_, at?_eq, rfl⟩
      simp only [answer, Disk.load, found (areWithin path (by simp))]
  | inspect path =>
      cases named
      refine ⟨?_, at?_eq, rfl⟩
      simp only [answer, Disk.inspect, found (areWithin path (by simp))]
  | tree path =>
      cases named
      refine ⟨?_, at?_eq, rfl⟩
      simp only [answer, Disk.treeAt, found (areWithin path (by simp))]
  | save path content =>
      cases named
      exact agree_changeDisk at?_eq
        (save_of_same (areWithin path (by simp)) hasRoot hasRootToo at?_eq)
  | copy source target =>
      cases named
      refine agree_changeDisk at?_eq ?_
      simp only [Disk.copy, found (areWithin source (by simp))]
      cases disk.find machine.folder source with
      | error error => exact .inl ⟨error, rfl, rfl⟩
      | ok entry =>
          cases entry with
          | folder entries => exact .inl ⟨.notAFile, rfl, rfl⟩
          | file content modified =>
              exact save_of_same (areWithin target (by simp)) hasRoot
                hasRootToo at?_eq
  | makeFolders path =>
      cases named
      obtain ⟨result_eq, made_eq⟩ := makeFolders_of_same
        (areWithin path (by simp)) hasRoot hasRootToo at?_eq
      exact ⟨result_eq, made_eq, rfl⟩
  | now => exact ⟨rfl, at?_eq, rfl⟩
  | currentFolder | environment | output | «show» | line | send | sleep
  | newId | observe => cases named

/-! ### Programs -/

/-- Whatever a program does on a machine on which a root leads to a folder stays
in that folder: nothing changes elsewhere, and what comes of the program, and is
in the folder afterwards, does not depend on what is elsewhere. -/
structure IsContained {α : Type} (root : String) (program : Hosted α) :
    Prop where
  changes : ∀ (machine : Machine) (base : Place), machine.HasRoot root base →
    ChangesWithin root base machine (machine.run program).2
  agree : ∀ (machine other : Machine) (base : Place),
    SameWithin root base machine other →
      Agree base (machine.run program) (other.run program)

theorem SameWithin.of_agree {α : Type} {first second : α × Machine}
    (hasRoot : first.2.HasRoot root base)
    (hasRootToo : second.2.HasRoot root base)
    (agree : Agree base first second) :
    SameWithin root base first.2 second.2 :=
  ⟨hasRoot, hasRootToo, agree.at?_eq, agree.rest_eq⟩

theorem isContained_done {α : Type} (root : String) (value : α) :
    IsContained root (.done value) :=
  ⟨fun _ _ hasRoot => changesWithin_of_disk_eq hasRoot rfl rfl,
    fun _ _ _ same => ⟨rfl, same.at?_eq, same.rest_eq⟩⟩

theorem IsContained.bind {α β : Type} {program : Hosted α}
    {next : α → Hosted β} (first : IsContained root program)
    (rest : ∀ value, IsContained root (next value)) :
    IsContained root (program.bind next) := by
  constructor
  · intro machine base hasRoot
    rw [run_bind]
    have changes := first.changes machine base hasRoot
    exact changes.trans ((rest _).changes _ base changes.hasRoot)
  · intro machine other base same
    have changes := first.changes machine base same.hasRoot
    have changesToo := first.changes other base same.hasRootToo
    have agree := first.agree machine other base same
    rw [run_bind, run_bind, ← agree.value_eq]
    exact (rest _).agree _ _ base
      (.of_agree changes.hasRoot changesToo.hasRoot agree)

/-- A question about what is within a root is contained. -/
theorem isContained_query (within : question.IsWithin root) :
    IsContained root (Program.query question) :=
  ⟨fun _ _ hasRoot => changesWithin_answer within hasRoot,
    fun _ _ _ same => agree_answer within same⟩

/-- A program is contained if it asks about nothing else. -/
theorem isContained_of_asksOnly {α : Type} {program : Hosted α}
    (asks : program.AsksOnly (Host.Question.IsWithin root)) :
    IsContained root program := by
  induction asks with
  | done value => exact isContained_done root value
  | ask within _ ih => exact (isContained_query within).bind ih

/-- It does no harm to ask that the folders are made that hold the root, since
they are there. -/
theorem isContained_makeFolders
    (holds : Path.parent? (Path.join root "") = some path) :
    IsContained root (Program.query (.makeFolders path)) := by
  have answered {machine : Machine} {base : Place}
      (hasRoot : machine.HasRoot root base) :
      machine.run (Program.query (.makeFolders path)) =
        (madeAlready path, machine) := by
    have made := makeFolders_of_prefix hasRoot
      (Path.counted_parent?_root holds machine.folder)
    simp only [Program.query, run, answer, made]
  constructor
  · intro machine base hasRoot
    rw [answered hasRoot]
    exact changesWithin_of_disk_eq hasRoot rfl rfl
  · intro machine other base same
    rw [answered same.hasRoot, answered same.hasRootToo]
    exact ⟨rfl, same.at?_eq, same.rest_eq⟩

end Machine

end Rehearsal

end Runbook
