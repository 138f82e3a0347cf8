import Runbook.Host.Basic
import Runbook.Host.Path
import Runbook.Text.Case

/-!
# A store of files in a folder

The files of a store are the files below a folder, the root of the store.  The
id of a file is its path relative to the root.  What has a name that begins
with a dot is hidden from listings and searches; the folder `.history` holds
the contents of files before they were replaced.
-/

namespace Runbook

/-- Why the store refuses something. -/
inductive StoreError
  /-- A path has a part that leads up. -/
  | leavesRoot (path : String)
  | noEncryption
  /-- The machine refuses what the store needs, in a context that may be
  named. -/
  | system (context : Option String) (error : SystemError)
deriving DecidableEq, Inhabited

def StoreError.failure : StoreError → Failure
  | .leavesRoot path => .of s!"path '{path}' leaves the store root"
  | .noEncryption => .of "the directory store does not support encryption"
  | .system none error => .of error.message
  | .system (some context) error => (Failure.of error.message).within context

/-- A store of files in a folder. -/
structure DirectoryStore where
  root : String
deriving DecidableEq, Inhabited

namespace DirectoryStore

/-- A computation of a store. -/
abbrev Stored (α : Type) :=
  ExceptT StoreError (Program Host.Question Host.Reply) α

variable {α : Type}

def ask (question : Host.Question) : Stored (Host.Reply question) :=
  ExceptT.lift (Hosted.ask question)

/-- The value of an attempt; a refusal gets a context that may be named. -/
def orRefuse (context : Option String) : Except SystemError α → Stored α
  | .ok value => pure value
  | .error error => throw (.system context error)

def historyFolder : String := ".history"

def isHidden (name : String) : Bool :=
  Text.startsWith name "."

/-- A path relative to the root, without the parts that do not count. -/
def normalize (path : String) : Except StoreError String :=
  let parts := (Path.parts (Text.trim path)).filter fun part =>
    part ≠ "" ∧ part ≠ "."
  if parts.contains ".." then .error (.leavesRoot path)
  else .ok ("/".intercalate parts)

/-- The path of something in a folder; both are relative to the root. -/
def child (folder name : String) : String :=
  if folder.isEmpty then name else folder ++ "/" ++ name

def parent (path : String) : String :=
  (Text.beforeLast? '/' path).getD ""

/-- The file at a path that is relative to the root. -/
def fileInfo (path : String) (status : FileStatus) : FileInfo :=
  ⟨path, Text.afterLast '/' path, path, none, status.modified,
    some status.size⟩

/-- The full path of a path that is relative to the root. -/
def fullPath (store : DirectoryStore) (path : String) : String :=
  Path.join store.root path

def fileStatus (path : String) : Stored FileStatus := do
  match ← orRefuse none (← ask (.inspect path)) with
  | .file status => return status
  | .folder => return ⟨0, none⟩

def read (store : DirectoryStore) (id : String) : Stored FileContent := do
  let path ← normalize id
  let full := store.fullPath path
  let content ← orRefuse (some ("read " ++ full))
    (← ExceptT.lift (Hosted.loadText full))
  return ⟨fileInfo path (← fileStatus full), content, false⟩

def find (store : DirectoryStore) (path : String) :
    Stored (Option FileInfo) := do
  let path ← normalize path
  match ← ask (.inspect (store.fullPath path)) with
  | .ok (.file status) => return some (fileInfo path status)
  | .ok .folder => return none
  | .error .notFound => return none
  | .error error => throw (.system (some ("stat " ++ path)) error)

mutual

/-- The files below a folder that are not hidden, with their paths.  Folders
that are not there have none. -/
def visibleFiles (store : DirectoryStore) (path : String) :
    FolderTree → Except StoreError (List (String × FileStatus))
  | .file status => .ok [(path, status)]
  | .folder entries => store.visibleEntries path entries
  | .unreadable .notFound => .ok []
  | .unreadable error =>
    .error (.system (some ("list " ++ store.fullPath path)) error)

/-- The files in or below the entries of a folder that are not hidden. -/
def visibleEntries (store : DirectoryStore) (folder : String) :
    List (String × FolderTree) →
      Except StoreError (List (String × FileStatus))
  | [] => .ok []
  | (name, entry) :: rest => do
    let files ←
      if isHidden name then pure []
      else store.visibleFiles (child folder name) entry
    let others ← store.visibleEntries folder rest
    return files ++ others

end

/-- The files below a folder that are not hidden, in the order of their
paths. -/
def walk (store : DirectoryStore) (folder : String) :
    Stored (List (String × FileStatus)) := do
  let files ← store.visibleFiles folder
    (← ask (.tree (store.fullPath folder)))
  return files.mergeSort fun left right => decide (left.1 ≤ right.1)

def limited (limit : Option Nat) (values : List α) : List α :=
  match limit with
  | some limit => values.take limit
  | none => values

/-- Whether a piece occurs in a text, in small letters. -/
def matchesLower (piece text : String) : Bool :=
  Text.contains (Text.toLower text) piece

/-- Whether a search finds a file.  A file that is not text has no content. -/
def isHit (store : DirectoryStore) (query : FileQuery) (path : String) :
    Stored Bool := do
  let piece := Text.toLower query.query
  if matchesLower piece (Text.afterLast '/' path) then return true
  else if query.searchContent then
    match ← ExceptT.lift (Hosted.loadText (store.fullPath path)) with
    | .ok content => return matchesLower piece content
    | .error _ => return false
  else return false

def search (store : DirectoryStore) (query : FileQuery) :
    Stored (List FileInfo) := do
  let files ← store.walk ""
  let hits ← files.filterM fun file => store.isHit query file.1
  return limited query.limit (hits.map fun file => fileInfo file.1 file.2)

/-- Whether a file comes before another one in a listing, or beside it. -/
def precedes (sort : FileSort) (left right : FileInfo) : Bool :=
  match sort with
  | .name => decide (left.name ≤ right.name)
  | .modified =>
    match left.modifiedAt, right.modifiedAt with
    | some left, some right => left.compare right != .lt
    | none, some _ => false
    | _, none => true

def list (store : DirectoryStore) (listing : FileListing) :
    Stored (List FileInfo) := do
  let folder ← normalize listing.folder
  let files := (← store.walk folder).filter fun file =>
    parent file.1 == folder
  let infos := files.map fun file => fileInfo file.1 file.2
  return limited listing.limit (infos.mergeSort (precedes listing.sort))

/-- Whether an entry of a folder is a folder that is not hidden. -/
def isVisibleFolder (entry : String × FolderTree) : Bool :=
  !isHidden entry.1 &&
    match entry.2 with
    | .file _ => false
    | _ => true

def folders (store : DirectoryStore) (folder : String) :
    Stored (List String) := do
  let folder ← normalize folder
  let full := store.fullPath folder
  let refuse (error : SystemError) : Stored (List String) :=
    throw (.system (some ("list " ++ full)) error)
  match ← ask (.tree full) with
  | .folder entries =>
    let names := (entries.filter isVisibleFolder).map fun entry =>
      child folder entry.1
    return names.mergeSort
  | .unreadable error => refuse error
  | .file _ => refuse .notAFolder

def isThere (path : String) : Stored Bool := do
  match ← ask (.inspect path) with
  | .ok _ => return true
  | .error .notFound => return false
  | .error error => throw (.system none error)

def makeParent (path : String) : Stored Unit := do
  match Path.parent? path with
  | some folder => orRefuse none (← ask (.makeFolders folder))
  | none => return ()

/-- Keep the present content of a file under the name of the file and the
time. -/
def keepRevision (store : DirectoryStore) (path full : String) :
    Stored Unit := do
  let now ← ask .now
  let backup := Path.join (store.fullPath historyFolder)
    (path ++ "." ++ now.stamp)
  makeParent backup
  orRefuse none (← ask (.copy full backup))

/-- Write a file, and keep its content before if that is asked for. -/
def write (store : DirectoryStore) (id : String) (write : FileWrite) :
    Stored FileInfo := do
  if write.encrypt then throw .noEncryption
  let path ← normalize id
  let full := store.fullPath path
  makeParent full
  if write.recordHistory then
    if ← isThere full then store.keepRevision path full
  orRefuse (some ("write " ++ full))
    (← ask (.save full (Text.toBytes write.content)))
  let status ← fileStatus full
  return { fileInfo path status with mimeType := write.mimeType }

end DirectoryStore

end Runbook
