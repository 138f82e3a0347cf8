import Runbook.Host.Basic
import Runbook.Host.Path

/-!
# Disks

A disk is a tree of folders and files.  A path leads from the top of the disk,
part by part: through a folder to one of its entries or to the folder that
holds it, but not through a file.  A place on a disk is the list of the names
that lead to it, the last one first.
-/

namespace Runbook.Rehearsal

/-- A file or a folder, with what is in it. -/
inductive Disk
  | file (content : Bytes) (modified : Instant)
  | folder (entries : List (String × Disk))
deriving Inhabited

namespace Disk

/-- A place on a disk: the names that lead to it, the last one first. -/
abbrev Place := List String

def empty : Disk := .folder []

/-- The entries of a folder; a file has none. -/
def entries : Disk → List (String × Disk)
  | .file .. => []
  | .folder entries => entries

/-- What the names of entries lead to, the first one first. -/
def below? : List String → Disk → Option Disk
  | [], disk => some disk
  | name :: rest, disk => (disk.entries.lookup name).bind (below? rest)

def at? (disk : Disk) (place : Place) : Option Disk :=
  disk.below? place.reverse

/-- Put an entry in the place of the one of its name. -/
def replaceEntry (name : String) (entry : Disk) :
    List (String × Disk) → List (String × Disk)
  | [] => [(name, entry)]
  | (other, old) :: rest =>
    if other = name then (name, entry) :: rest
    else (other, old) :: replaceEntry name entry rest

/-- Put something where names lead to, the first one first.  The folders on the
way are created. -/
def putBelow (new : Disk) : List String → Disk → Disk
  | [], _ => new
  | name :: rest, disk =>
    let old := (disk.entries.lookup name).getD empty
    .folder (replaceEntry name (putBelow new rest old) disk.entries)

def put (disk : Disk) (place : Place) (new : Disk) : Disk :=
  putBelow new place.reverse disk

/-- Put something at a place; a folder that is there stays. -/
def add (disk : Disk) (place : Place) (new : Disk) : Disk :=
  match disk.at? place, new with
  | some (.folder _), .folder _ => disk
  | _, _ => disk.put place new

/-- The place that the names in an absolute path lead to. -/
def placeNamed (path : String) : Place :=
  ((Path.parts path).filter fun part => part ≠ "" ∧ part ≠ ".").reverse

mutual

def tree : Disk → FolderTree
  | .file content modified => .file ⟨content.length, some modified⟩
  | .folder entries => .folder (treeEntries entries)

def treeEntries : List (String × Disk) → List (String × FolderTree)
  | [] => []
  | (name, entry) :: rest => (name, entry.tree) :: treeEntries rest

end

mutual

/-- The files of a disk, with the names that lead to them. -/
def files (place : Place) : Disk → List (Place × Bytes)
  | .file content _ => [(place, content)]
  | .folder entries => entryFiles place entries

def entryFiles (place : Place) : List (String × Disk) → List (Place × Bytes)
  | [] => []
  | (name, entry) :: rest =>
    entry.files (name :: place) ++ entryFiles place rest

end

/-- The files below a place, in the order of their paths from there. -/
def filesBelow (disk : Disk) (place : Place) : List (String × Bytes) :=
  let found := ((disk.at? place).getD empty).files []
  let named := found.map fun file => ("/".intercalate file.1.reverse, file.2)
  named.mergeSort fun left right => decide (left.1 ≤ right.1)

/-! Paths. -/

def nameLimit : Nat := 255

def follow (disk : Disk) (place : Place) (part : String) :
    Except SystemError Place :=
  match disk.at? place with
  | none => .error .notFound
  | some (.file ..) => .error .notAFolder
  | some (.folder entries) =>
    if part = "" ∨ part = "." then .ok place
    else if part = ".." then .ok place.tail
    else if nameLimit < part.utf8ByteSize then .error .nameTooLong
    else if (entries.lookup part).isSome then .ok (part :: place)
    else .error .notFound

/-- The parts of a path that starts in a folder, unless it has an empty name or
one that is not valid. -/
def partsOf (folder path : String) : Except SystemError (List String) :=
  if path.toList.contains '\x00' then .error .invalidName
  else if path.isEmpty then .error .notFound
  else .ok (Path.parts (Path.join folder path))

def locate (disk : Disk) (folder path : String) : Except SystemError Place := do
  (← partsOf folder path).foldlM disk.follow []

def find (disk : Disk) (folder path : String) : Except SystemError Disk := do
  match disk.at? (← disk.locate folder path) with
  | some found => return found
  | none => .error .notFound

/-- The place of a file that a path leads to or that can be created there. -/
def filePlace (disk : Disk) (folder path : String) :
    Except SystemError Place := do
  let parts := (← partsOf folder path).reverse
  let parents := (parts.dropWhile String.isEmpty).tail.reverse
  let parent ← parents.foldlM disk.follow []
  match parts.headD "" with
  | "" => .error .isAFolder
  | name =>
    match disk.follow parent name with
    | .error .notFound => return name :: parent
    | .error error => .error error
    | .ok place =>
      match disk.at? place with
      | some (.folder _) => .error .isAFolder
      | _ => return place

/-! What programs do with a disk. -/

def load (disk : Disk) (folder path : String) : Except SystemError Bytes := do
  match ← disk.find folder path with
  | .file content _ => return content
  | .folder _ => .error .isAFolder

/-- What a path leads to, as a program sees it. -/
def inspect (disk : Disk) (folder path : String) :
    Except SystemError PathStatus := do
  match ← disk.find folder path with
  | .file content modified => return .file ⟨content.length, some modified⟩
  | .folder _ => return .folder

def treeAt (disk : Disk) (folder path : String) : FolderTree :=
  match disk.find folder path with
  | .error error => .unreadable error
  | .ok (.file ..) => .unreadable .notAFolder
  | .ok found => found.tree

def save (disk : Disk) (folder path : String) (content : Bytes)
    (modified : Instant) : Except SystemError Disk := do
  return disk.put (← disk.filePlace folder path) (.file content modified)

def copy (disk : Disk) (folder source target : String) (modified : Instant) :
    Except SystemError Disk := do
  match ← disk.find folder source with
  | .file content _ => disk.save folder target content modified
  | .folder _ => .error .notAFile

/-- Follow a part of a path; a folder that is not there is created. -/
def followOrMake (before : Disk × Place) (part : String) :
    Except SystemError (Disk × Place) :=
  let (disk, place) := before
  match disk.follow place part with
  | .ok place => .ok (disk, place)
  | .error .notFound => .ok (disk.put (part :: place) empty, part :: place)
  | .error error => .error error

/-- Create the folders that lead to a path, as far as there is nothing in the
way.  Gives the disk with them, even if not all can be created. -/
def makeFrom (disk : Disk) (place : Place) :
    List String → Disk × Except SystemError Unit
  | [] =>
    match disk.at? place with
    | some (.file ..) => (disk, .error .alreadyExists)
    | _ => (disk, .ok ())
  | part :: rest =>
    match followOrMake (disk, place) part with
    | .ok (disk, place) => makeFrom disk place rest
    | .error error => (disk, .error error)

def makeFolders (disk : Disk) (folder path : String) :
    Disk × Except SystemError Unit :=
  if path.isEmpty then (disk, .ok ())
  else
    match partsOf folder path with
    | .error error => (disk, .error error)
    | .ok parts => makeFrom disk [] parts

end Disk

end Runbook.Rehearsal
