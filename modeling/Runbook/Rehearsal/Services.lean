import Runbook.Service.Basic
import Runbook.Text.Search

/-!
# Scripted services

Services for a rehearsal: files that are held in memory, workflow sources by
reference, and replies of the model, the network, tools and the index that are
given in turn.  The last reply of a list is given again and again; an empty
list stands for a fixed reply.
-/

namespace Runbook

/-- The kinds of service calls. -/
inductive ServiceKind
  | getFile
  | findFile
  | searchFiles
  | listFiles
  | listFolders
  | createFile
  | updateFile
  | loadWorkflow
  | generate
  | httpRequest
  | callTool
  | syncIndex
deriving DecidableEq, Inhabited

def ServiceCall.kind : ServiceCall → ServiceKind
  | .getFile .. => .getFile
  | .findFile _ => .findFile
  | .searchFiles _ => .searchFiles
  | .listFiles _ => .listFiles
  | .listFolders _ => .listFolders
  | .createFile _ => .createFile
  | .updateFile .. => .updateFile
  | .loadWorkflow _ => .loadWorkflow
  | .generate _ => .generate
  | .httpRequest _ => .httpRequest
  | .callTool _ => .callTool
  | .syncIndex _ => .syncIndex

namespace Rehearsal

/-- What the services of a rehearsal do. -/
structure Script where
  folders : List String
  sources : OrderedMap String
  /-- The texts that the model answers with. -/
  modelReplies : List String
  httpReplies : List HttpResponse
  toolReplies : List Json
  indexReplies : List Json
  settings : ServiceSettings
  /-- The kinds of calls that fail, with their messages. -/
  failures : List (ServiceKind × String)
  /-- The kinds of calls that take time, in milliseconds. -/
  delays : List (ServiceKind × Nat)
  /-- Whether there is no model, no tool, no index and no setting. -/
  isBare : Bool
deriving Inhabited

/-- A file of a rehearsal. -/
structure ScriptedFile where
  info : FileInfo
  content : String
  /-- The password without which the content cannot be read. -/
  password : Option String
deriving DecidableEq, Inhabited

/-- What changes in the services of a rehearsal: the files, and how many
replies of each list have been given. -/
structure Shelf where
  files : List ScriptedFile
  modelCount : Nat
  httpCount : Nat
  toolCount : Nat
  indexCount : Nat
deriving Inhabited

namespace Shelf

def fileAt (position : Nat) (path content : String)
    (mimeType : Option String) : ScriptedFile :=
  ⟨⟨s!"id-{position + 1}", Text.afterLast '/' path, path, mimeType, none,
    none⟩, content, none⟩

def ofFiles (files : List ScriptedFile) : Shelf := ⟨files, 0, 0, 0, 0⟩

def fileById? (shelf : Shelf) (id : String) : Except Failure ScriptedFile :=
  match shelf.files.find? fun file => file.info.id == id with
  | some file => .ok file
  | none => .error (.of s!"no file with id {id}")

/-- A file as it can be read with a password. -/
def read (file : ScriptedFile) (password : Option String) : FileContent :=
  if file.password.isNone || file.password == password then
    ⟨file.info, file.content, false⟩
  else ⟨file.info, "encrypted", true⟩

def limited {α : Type} (limit : Option Nat) (values : List α) : List α :=
  match limit with
  | some limit => values.take limit
  | none => values

def isHit (query : FileQuery) (file : ScriptedFile) : Bool :=
  Text.contains file.info.name query.query ||
    (query.searchContent && Text.contains file.content query.query)

def search (shelf : Shelf) (query : FileQuery) : List FileInfo :=
  limited query.limit
    ((shelf.files.filter (isHit query)).map ScriptedFile.info)

def list (shelf : Shelf) (listing : FileListing) : List FileInfo :=
  limited listing.limit ((shelf.files.filter fun file =>
    Text.startsWith file.info.path listing.folder).map ScriptedFile.info)

def create (shelf : Shelf) (write : FileWrite) : FileInfo × Shelf :=
  let file := fileAt shelf.files.length write.path write.content write.mimeType
  (file.info, { shelf with files := shelf.files ++ [file] })

def update (shelf : Shelf) (id content : String) : Shelf :=
  { shelf with files := shelf.files.map fun file =>
      if file.info.id == id then { file with content } else file }

end Shelf

namespace Script

def inTurn {α : Type} (replies : List α) (count : Nat) (fallback : α) : α :=
  match replies[count]? with
  | some reply => reply
  | none => replies.getLast?.getD fallback

def defaultToolReply : Json :=
  .object [("content", .array
    [.object [("text", .string "tool says hi"), ("type", .string "text")]])]

/-- Whether the services have nothing to answer a call with. -/
def isAbsent (script : Script) (call : ServiceCall) : Bool :=
  script.isBare && [.generate, .callTool, .syncIndex].contains call.kind

def storeSettings (script : Script) : ServiceSettings :=
  if script.isBare then {} else script.settings

/-- What a call gives that does not fail on purpose. -/
def perform (script : Script) (shelf : Shelf) :
    (call : ServiceCall) → Except Failure call.Result × Shelf
  | .getFile id password =>
    ((shelf.fileById? id).map fun file => Shelf.read file password, shelf)
  | .findFile path =>
    (.ok ((shelf.files.find? fun file => file.info.path == path).map
      ScriptedFile.info), shelf)
  | .searchFiles query => (.ok (shelf.search query), shelf)
  | .listFiles listing => (.ok (shelf.list listing), shelf)
  | .listFolders _ => (.ok script.folders, shelf)
  | .createFile write =>
    let (info, shelf) := shelf.create write
    (.ok info, shelf)
  | .updateFile id write =>
    match shelf.fileById? id with
    | .ok file => (.ok file.info, shelf.update id write.content)
    | .error failure => (.error failure, shelf)
  | .loadWorkflow reference =>
    match script.sources.get? reference with
    | some source => (.ok source, shelf)
    | none => (.error (.of s!"workflow '{reference}' not found"), shelf)
  | .generate request =>
    (.ok ⟨inTurn script.modelReplies shelf.modelCount
      ("echo: " ++ request.prompt), request.model⟩,
      { shelf with modelCount := shelf.modelCount + 1 })
  | .httpRequest _ =>
    (.ok (inTurn script.httpReplies shelf.httpCount
      ⟨200, OrderedMap.empty, "\x7b\"ok\":true\x7d"⟩),
      { shelf with httpCount := shelf.httpCount + 1 })
  | .callTool _ =>
    (.ok (inTurn script.toolReplies shelf.toolCount defaultToolReply),
      { shelf with toolCount := shelf.toolCount + 1 })
  | .syncIndex request =>
    (.ok (inTurn script.indexReplies shelf.indexCount
      (.object [("synced", .string request.path)])),
      { shelf with indexCount := shelf.indexCount + 1 })

/-- What a call to services without a model, tools and an index fails with. -/
def absence : ServiceCall → String
  | .generate _ => "no AI model is configured"
  | .callTool _ => "MCP tool calls are not supported by this service context"
  | _ => "retrieval sync is not supported by this service context"

def respond (script : Script) (shelf : Shelf) (call : ServiceCall) :
    Except Failure call.Result × Shelf :=
  if script.isAbsent call then (.error (.of (absence call)), shelf)
  else
    match script.failures.lookup call.kind with
    | some message => (.error (.of message), shelf)
    | none => script.perform shelf call

end Script

end Rehearsal

end Runbook
