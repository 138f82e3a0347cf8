import Runbook.Step.Basic
import Runbook.Wire.Record

/-!
# Files

The nodes that read, write, list and search the files of a store.  Files are
named by paths; the store is asked for the file of a path before anything is
done with it.
-/

namespace Runbook

namespace Step

def declined : String := "cancelled by user"

def existingFile (path : String) : Step FileInfo := do
  match ← callWithin s!"failed to look up '{path}'" (.findFile path) with
  | some info => return info
  | none => fail s!"file not found: {path}"

def passwordPrompt (info : FileInfo) : PasswordPrompt :=
  ⟨s!"Password for {info.path}", info.path, info.id⟩

/-- Read a file.  There is no content if the file is encrypted. -/
def readPlain? (info : FileInfo) : Step (Option String) := do
  let file ← callWithin s!"failed to read '{info.path}'"
    (.getFile info.id none)
  return if file.encrypted then none else some file.content

/-- Read the file of a password prompt with the password given. -/
def readProtected (prompt : PasswordPrompt) (answer : Option String) :
    Step String := do
  match answer with
  | none => fail declined
  | some password =>
    let file ← callWithin s!"failed to read '{prompt.path}'"
      (.getFile prompt.fileId (some password))
    if file.encrypted then fail s!"incorrect password for '{prompt.path}'"
    return file.content

/-- The id and the path of a file, and its name. -/
def fileDescriptor (info : FileInfo) : Json :=
  Json.sortedObject [("id", .string info.id), ("path", .string info.path),
    ("name", .string info.name)]

/-- The type of a file by the ending of its path. -/
def mimeType? (path : String) : Option String :=
  if path.toList.contains '.' then
    match Text.toLowerAscii (Text.afterLast '.' path) with
    | "md" => some "text/markdown"
    | "txt" => some "text/plain"
    | "json" => some "application/json"
    | "yaml" | "yml" => some "application/yaml"
    | "html" => some "text/html"
    | "csv" => some "text/csv"
    | _ => none
  else none

/-- Write to a path: replace the content of the file if it exists, and create
it otherwise. -/
def writeFile (context path content : String) (mimeType : Option String) :
    Step FileInfo := do
  let settings := (← read).settings
  let write : FileWrite :=
    ⟨path, content, mimeType, settings.editHistory, settings.encryption⟩
  match ← callOrFail (.findFile path) with
  | some info => callWithin context (.updateFile info.id write)
  | none => callWithin context (.createFile write)

/-- How a file is written that may exist. -/
inductive WriteMode
  | overwrite
  | append
  /-- Only a file that does not exist is written. -/
  | create
deriving DecidableEq

def writeMode : Step WriteMode := do
  match (← trimmedProperty? "mode").map Text.toLowerAscii with
  | none | some "overwrite" => return .overwrite
  | some "append" => return .append
  | some "create" => return .create
  | some other => fail s!"unsupported write mode '{other}'"

/-- The content of a file that is to be changed; empty if there is none. -/
def currentContent (mode : WriteMode) (path : String) :
    Option FileInfo → Step String
  | none => return ""
  | some info => do
    if mode = .create then fail s!"file already exists: {info.path}"
    match ← readPlain? info with
    | some content => return content
    | none => fail s!"cannot modify encrypted file '{path}'"

def saveWritten (path content : String) : Step Directive := do
  let info ← writeFile s!"failed to write '{path}'" path content
    (mimeType? path)
  saveJson "saveTo" (Json.sortedObject
    [("id", .string info.id), ("path", .string info.path)])
  return .proceed

/-- Write a file, perhaps after a person has confirmed the change. -/
def writeOrAsk : Step Directive := do
  let path ← requiredTrimmed "path"
  let content ← propertyOrEmpty "content"
  let mode ← writeMode
  let existing ← callOrFail (.findFile path)
  let current ← currentContent mode path existing
  let proposed := if mode = .append then current ++ content else content
  if ← flag "confirm" then
    return .suspend (.diff ⟨path, current, proposed⟩)
  else saveWritten path proposed

def isConfirmed (answer : Option String) : Bool :=
  answer.any fun text => Text.toLowerAscii (Text.trim text) != "false"

def writeIfConfirmed (request : PromptRequest) (answer : Option String) :
    Step Directive := do
  match request.prompt with
  | .diff diff =>
    if isConfirmed answer then saveWritten diff.path diff.proposed
    else
      note s!"write to {diff.path} skipped"
      recordOutput "skipped"
      return .proceed
  | _ => fail "unexpected prompt kind for drive-file"

/-- Read a file, asking for a password if it is encrypted. -/
def readOrAsk : Step Directive := do
  let info ← existingFile (← requiredTrimmed "path")
  match ← readPlain? info with
  | some content =>
    save "saveTo" content
    return .proceed
  | none => return .suspend (.password (passwordPrompt info))

def readAnswered (request : PromptRequest) (answer : Option String) :
    Step Directive := do
  match request.prompt with
  | .password prompt =>
    save "saveTo" (← readProtected prompt answer)
    return .proceed
  | _ => fail "unexpected prompt kind for drive-read"

/-- File descriptors as a JSON array, with their members sorted. -/
def fileList (files : List FileInfo) : Json :=
  .array (files.map fun info => Json.sortedObject info.members)

def searchFiles : Step Directive := do
  let query ← required "query"
  let searchContent ← flag "searchContent"
  let limit ← natural? "limit"
  let files ← callWithin "file search failed"
    (.searchFiles ⟨query, searchContent, limit⟩)
  saveJson "saveTo" (fileList files)
  return .proceed

def fileSort : Step FileSort := do
  match ← trimmedProperty? "sortBy" with
  | none | some "name" => return .name
  | some "modified" => return .modified
  | some other => fail s!"unsupported sort order '{other}'"

def listFiles : Step Directive := do
  let sort ← fileSort
  let folder := Text.trim (← propertyOrEmpty "folder")
  let limit ← natural? "limit"
  let files ← callWithin "file listing failed"
    (.listFiles ⟨folder, limit, sort⟩)
  saveJson "saveTo" (fileList files)
  return .proceed

def listFolders : Step Directive := do
  let folder := Text.trim (← propertyOrEmpty "folder")
  let folders ← callWithin "folder listing failed" (.listFolders folder)
  saveJson "saveTo" (Wire.texts folders)
  return .proceed

/-- The content of a file, and its type, that a text stands for: those that an
object with the member `data` describes, or the text itself. -/
def fileData (text : String) : String × Option String :=
  match Json.read? text with
  | some value =>
    match value.get? "data" with
    | some data =>
      ((Json.string? data).getD "",
        (value.get? "mimeType").bind Json.string?)
    | none => (text, none)
  | none => (text, none)

def saveFile : Step Directive := do
  let source ← requiredTrimmed "source"
  let path ← requiredTrimmed "path"
  match ← valueOf? source with
  | none => fail s!"source variable '{source}' is not defined"
  | some text =>
    let (content, mimeType) := fileData text
    let info ← writeFile s!"failed to save '{path}'" path content
      (mimeType.or (mimeType? path))
    save "savePathTo" info.path
    return .proceed

def announce : Step Directive := do
  let info ← existingFile (← requiredTrimmed "path")
  note s!"preview {info.path}"
  saveJson "saveTo" (fileDescriptor info)
  return .proceed

end Step

namespace Handler

def driveFile : Handler := ⟨Step.writeOrAsk, Step.writeIfConfirmed⟩

def driveRead : Handler := ⟨Step.readOrAsk, Step.readAnswered⟩

def driveSearch : Handler := ⟨Step.searchFiles, refuse⟩

def driveList : Handler := ⟨Step.listFiles, refuse⟩

def driveFolderList : Handler := ⟨Step.listFolders, refuse⟩

def driveSave : Handler := ⟨Step.saveFile, refuse⟩

def preview : Handler := ⟨Step.announce, refuse⟩

end Handler

end Runbook
