import Mathlib.Logic.Relation
import Runbook.Proofs.Store.Shown

/-!
# Walks from folder to folder

A walk may look into one folder after the other and keep the folders that are
still to come on a stack.  It comes to an end, it looks into each folder that is
shown once, and the files that it finds are those of a walk over a whole tree.
-/

namespace Runbook

namespace DirectoryStore

open Rehearsal Rehearsal.Disk

/-- How far a walk has come. -/
structure Walking where
  /-- The folders to look into, the next one first. -/
  pending : List String
  /-- The folders that have been looked into. -/
  visited : List String
  files : List (String × FileStatus)

/-- The path and the status of an entry that is a file and is not hidden. -/
def visibleFile? (folder : String) :
    String × FolderTree → Option (String × FileStatus)
  | (name, .file status) =>
    if isHidden name then none else some (child folder name, status)
  | _ => none

/-- Look into the next folder.  There is nothing in a folder that is not there;
whatever else the machine refuses ends the walk before its time. -/
def Walking.next? (store : DirectoryStore) (machine : Machine)
    (walking : Walking) : Option Walking :=
  match walking.pending with
  | [] => none
  | path :: pending =>
    match machine.disk.treeAt machine.folder (store.fullPath path) with
    | .folder entries =>
      let folders := (entries.filter isVisibleFolder).map fun entry =>
        child path entry.1
      some ⟨folders.reverse ++ pending, walking.visited ++ [path],
        walking.files ++ entries.filterMap (visibleFile? path)⟩
    | .unreadable .notFound =>
      some ⟨pending, walking.visited ++ [path], walking.files⟩
    | _ => none

/-- A walk goes on from one point to another, folder by folder. -/
def Walks (store : DirectoryStore) (machine : Machine) :
    Walking → Walking → Prop :=
  Relation.ReflTransGen fun before after =>
    before.next? store machine = some after

variable {store : DirectoryStore} {machine : Machine} {disk : Disk}
  {path : String} {entries : List (String × Disk)}
  {items stack : List (String × Disk)} {visited : List String}
  {files : List (String × FileStatus)}

/-! ### The entries of a folder -/

/-- The entries of a folder that are not hidden, with their paths. -/
def placed (folder : String) (entries : List (String × Disk)) :
    List (String × Disk) :=
  (visible entries).map fun entry => (child folder entry.1, entry.2)

def foldersAmong (items : List (String × Disk)) : List (String × Disk) :=
  items.filter fun item => (folderPath? item).isSome

theorem placed_cons (folder name : String) (entry : Disk)
    (rest : List (String × Disk)) :
    placed folder ((name, entry) :: rest) =
      if isHidden name then placed folder rest
      else (child folder name, entry) :: placed folder rest := by
  rw [placed, visible, List.filter_cons]
  cases isHidden name <;> rfl

theorem map_isVisibleFolder (folder : String)
    (entries : List (String × Disk)) :
    ((treeEntries entries).filter isVisibleFolder).map
        (fun entry => child folder entry.1) =
      (foldersAmong (placed folder entries)).map Prod.fst := by
  induction entries with
  | nil => rfl
  | cons entry rest ih =>
      obtain ⟨name, entry⟩ := entry
      rw [treeEntries, placed_cons, List.filter_cons]
      cases hidden : isHidden name <;> cases entry <;>
        simp [isVisibleFolder, foldersAmong, folderPath?, Disk.tree, hidden,
          ih]

/-- The files that are shown of things with paths. -/
def filesOf (items : List (String × Disk)) : List (String × FileStatus) :=
  (items.flatMap fun item => shown item.1 item.2).filterMap fileStatus?

theorem Walks.eq_of_pending_eq_nil {walking last : Walking}
    (ended : walking.pending = []) (walks : Walks store machine walking last) :
    last = walking := by
  cases Relation.ReflTransGen.cases_head walks with
  | inl same => exact same.symm
  | inr more =>
      obtain ⟨next, step, -⟩ := more
      rw [Walking.next?, ended] at step
      cases step

/-- A walk ends in one way only. -/
theorem Walks.unique {start last other : Walking}
    (walks : Walks store machine start last) (ended : last.pending = [])
    (walksToo : Walks store machine start other)
    (endedToo : other.pending = []) : other = last := by
  induction walks using Relation.ReflTransGen.head_induction_on with
  | refl => exact walksToo.eq_of_pending_eq_nil ended
  | head step _ ih =>
      cases Relation.ReflTransGen.cases_head walksToo with
      | inl same =>
          subst same
          rw [Walking.next?, endedToo] at step
          cases step
      | inr more =>
          obtain ⟨next, stepToo, walksToo⟩ := more
          rw [step] at stepToo
          cases stepToo
          exact ih walksToo

end DirectoryStore

end Runbook
