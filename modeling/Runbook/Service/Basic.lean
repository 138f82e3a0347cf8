import Runbook.Json.Value
import Runbook.OrderedMap
import Runbook.Time.Instant

/-!
# Services

What a run can ask of the world: files, workflow sources, a language model,
the network and an index.  A call that fails gives a failure, which is a chain
of messages from the outermost context to the cause.
-/

namespace Runbook

/-- Why something failed: messages, the outermost context first. -/
structure Failure where
  outermost : String
  causes : List String
deriving DecidableEq, Inhabited

namespace Failure

def of (message : String) : Failure := ⟨message, []⟩

def within (context : String) (failure : Failure) : Failure :=
  ⟨context, failure.outermost :: failure.causes⟩

def chain (failure : Failure) : List String :=
  failure.outermost :: failure.causes

def message (failure : Failure) : String :=
  ": ".intercalate failure.chain

end Failure

/-- A file of a store, without its content. -/
structure FileInfo where
  id : String
  name : String
  path : String
  mimeType : Option String
  modifiedAt : Option Instant
  size : Option Nat
deriving DecidableEq, Inhabited

/-- A file of a store.  The content of an encrypted file is not readable. -/
structure FileContent where
  info : FileInfo
  content : String
  encrypted : Bool
deriving DecidableEq, Inhabited

/-- What to write to a file. -/
structure FileWrite where
  path : String
  content : String
  mimeType : Option String
  /-- Whether the revision before is kept. -/
  recordHistory : Bool
  encrypt : Bool
deriving DecidableEq, Inhabited

/-- A search for files by name, and perhaps by content. -/
structure FileQuery where
  query : String
  searchContent : Bool
  limit : Option Nat
deriving DecidableEq, Inhabited

/-- The order of a folder listing. -/
inductive FileSort
  | name
  | modified
deriving DecidableEq, Inhabited

/-- A request for the files of a folder. -/
structure FileListing where
  folder : String
  limit : Option Nat
  sort : FileSort
deriving DecidableEq, Inhabited

/-- Data that accompanies a question to a model. -/
structure Attachment where
  name : String
  mimeType : String
  data : String
deriving DecidableEq, Inhabited

/-- A question to a language model. -/
structure ModelRequest where
  prompt : String
  model : Option String
  systemPrompt : Option String
  tools : List Json
  attachments : List Attachment
deriving Inhabited

/-- The answer of a language model. -/
structure ModelResponse where
  text : String
  model : Option String
deriving DecidableEq, Inhabited

/-- A request over HTTP. -/
structure HttpRequest where
  method : String
  url : String
  headers : OrderedMap String
  body : Option String
deriving DecidableEq, Inhabited

/-- A response over HTTP. -/
structure HttpResponse where
  status : Nat
  headers : OrderedMap String
  body : String
deriving DecidableEq, Inhabited

def HttpResponse.isError (response : HttpResponse) : Bool :=
  decide (400 ≤ response.status)

/-- A call of a tool on a server. -/
structure ToolCall where
  url : String
  tool : String
  arguments : Json
  headers : OrderedMap String
deriving Inhabited

/-- A request to bring an index up to date. -/
structure IndexRequest where
  path : String
  setting : Option String
deriving DecidableEq, Inhabited

/-- Settings of a store that matter when it is written to. -/
structure ServiceSettings where
  editHistory : Bool := false
  encryption : Bool := false
deriving DecidableEq, Inhabited

/-- A call of a service. -/
inductive ServiceCall
  | getFile (id : String) (password : Option String)
  | findFile (path : String)
  | searchFiles (query : FileQuery)
  | listFiles (listing : FileListing)
  | listFolders (folder : String)
  | createFile (write : FileWrite)
  | updateFile (id : String) (write : FileWrite)
  | loadWorkflow (reference : String)
  | generate (request : ModelRequest)
  | httpRequest (request : HttpRequest)
  | callTool (call : ToolCall)
  | syncIndex (request : IndexRequest)
deriving Inhabited

/-- What a successful call gives. -/
abbrev ServiceCall.Result : ServiceCall → Type
  | .getFile .. => FileContent
  | .findFile _ => Option FileInfo
  | .searchFiles _ => List FileInfo
  | .listFiles _ => List FileInfo
  | .listFolders _ => List String
  | .createFile _ => FileInfo
  | .updateFile .. => FileInfo
  | .loadWorkflow _ => String
  | .generate _ => ModelResponse
  | .httpRequest _ => HttpResponse
  | .callTool _ => Json
  | .syncIndex _ => Json

end Runbook
